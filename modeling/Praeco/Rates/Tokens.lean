import Praeco.Schedule.Runs

/-! Token buckets over an ordered field: the tokens at hand, what a request takes, and the bound on the requests that
are admitted in a window of time. The bound is an amortised one: every admission is paid by a potential that grows no
faster than the rate and never exceeds the capacity. -/

namespace Praeco.Rates.Tokens
open Praeco.Schedule.Runs

variable {K : Type} [Field K] [LinearOrder K]

structure Bucket (K : Type) [Field K] [LinearOrder K] where
  capacity : K
  rate : K
  capacity_nonneg : 0 ≤ capacity
  rate_nonneg : 0 ≤ rate

structure Level (K : Type) where
  tokens : K
  since : K

namespace Bucket

variable (bucket : Bucket K) (level : Level K)

def full (now : K) : Level K := ⟨bucket.capacity, now⟩

def available (now : K) : K := min (level.tokens + (now - level.since) * bucket.rate) bucket.capacity

def take (now : K) : Bool × Level K :=
  if 1 ≤ bucket.available level now then (true, ⟨bucket.available level now - 1, now⟩)
  else (false, ⟨bucket.available level now, now⟩)

/-- The levels that requests up to a time leave behind. -/
structure Holds (now : K) : Prop where
  nonneg : 0 ≤ level.tokens
  capped : level.tokens ≤ bucket.capacity
  past : level.since ≤ now

variable {bucket level} {now later : K}

theorem available_le_capacity : bucket.available level now ≤ bucket.capacity := min_le_right _ _

theorem available_now (capped : level.tokens ≤ bucket.capacity) (present : level.since = now) :
    bucket.available level now = level.tokens := by
  rw [available, present, sub_self, zero_mul, add_zero, min_eq_left capped]

theorem Holds.mono (holds : bucket.Holds level now) (order : now ≤ later) : bucket.Holds level later :=
  ⟨holds.nonneg, holds.capped, holds.past.trans order⟩

theorem tokens_take :
    (bucket.take level now).2.tokens + (if (bucket.take level now).1 then 1 else 0) = bucket.available level now := by
  by_cases enough : 1 ≤ bucket.available level now
  · rw [take, if_pos enough, if_pos rfl, sub_add_cancel]
  · rw [take, if_neg enough, if_neg Bool.false_ne_true, add_zero]

theorem since_take : (bucket.take level now).2.since = now := by
  unfold take
  split_ifs
  · rfl
  · rfl

variable [IsStrictOrderedRing K]

theorem Holds.available_nonneg (holds : bucket.Holds level now) : 0 ≤ bucket.available level now := by
  apply le_min _ bucket.capacity_nonneg
  exact add_nonneg holds.nonneg (mul_nonneg (sub_nonneg.mpr holds.past) bucket.rate_nonneg)

theorem available_later (order : now ≤ later) :
    bucket.available level later ≤ bucket.available level now + (later - now) * bucket.rate := by
  have gain : 0 ≤ (later - now) * bucket.rate := mul_nonneg (sub_nonneg.mpr order) bucket.rate_nonneg
  have split : level.tokens + (later - level.since) * bucket.rate =
      level.tokens + (now - level.since) * bucket.rate + (later - now) * bucket.rate := by ring
  unfold available
  rw [split, ← min_add_add_right]
  apply le_min (min_le_left _ _)
  apply (min_le_right _ _).trans
  linarith

theorem take_holds (holds : bucket.Holds level now) : bucket.Holds (bucket.take level now).2 now := by
  have lower := holds.available_nonneg
  have upper : bucket.available level now ≤ bucket.capacity := available_le_capacity
  unfold take
  split_ifs with enough
  · exact ⟨sub_nonneg.mpr enough, (sub_le_self _ zero_le_one).trans upper, le_refl now⟩
  · exact ⟨lower, upper, le_refl now⟩

theorem available_take :
    bucket.available (bucket.take level now).2 now + (if (bucket.take level now).1 then 1 else 0) =
      bucket.available level now := by
  have upper : bucket.available level now ≤ bucket.capacity := available_le_capacity
  by_cases enough : 1 ≤ bucket.available level now
  · rw [take, if_pos enough, available_now ((sub_le_self _ zero_le_one).trans upper) rfl, if_pos rfl, sub_add_cancel]
  · rw [take, if_neg enough, available_now upper rfl, if_neg Bool.false_ne_true, add_zero]

theorem Holds.available_idle (holds : bucket.Holds level now)
    (idle : bucket.capacity ≤ (now - level.since) * bucket.rate) : bucket.available level now = bucket.capacity :=
  min_eq_right (idle.trans (le_add_of_nonneg_left holds.nonneg))

end Bucket

section Window

variable {σ ε : Type} (step : σ → ε → σ) (clock : σ → K) (time : ε → K) (admits : σ → ε → Bool)

def admittedIn (first last : K) : σ → List ε → Nat
  | _, [] => 0
  | state, event :: events =>
    (if admits state event ∧ first ≤ time event ∧ time event ≤ last then 1 else 0) +
      admittedIn first last (step state event) events

omit [Field K] in
theorem admittedIn_append (first last : K) (start : σ) (before after : List ε) :
    admittedIn step time admits first last start (before ++ after) =
      admittedIn step time admits first last start before +
        admittedIn step time admits first last (run step start before) after := by
  induction before generalizing start with
  | nil => simp [admittedIn, run]
  | cons event before ih =>
    rw [List.cons_append, admittedIn, admittedIn, ih, Nat.add_assoc]
    rfl

omit [Field K] in
theorem admittedIn_eq_zero (never : ∀ state event, admits state event = false) (first last : K) (start : σ)
    (events : List ε) : admittedIn step time admits first last start events = 0 := by
  induction events generalizing start with
  | nil => rfl
  | cons event events ih => simp [admittedIn, never, ih]

/-- Admissions are paid by the potential, in all states of the invariant. -/
structure Pays (capacity rate : K) (invariant : σ → Prop) (potential : σ → K → K) : Prop where
  kept : ∀ state event, invariant state → clock state ≤ time event → invariant (step state event)
  clocked : ∀ state event, clock (step state event) = time event
  spends : ∀ state event, invariant state → clock state ≤ time event →
    potential (step state event) (time event) + (if admits state event then 1 else 0) ≤ potential state (time event)
  grows : ∀ state now later, now ≤ later → potential state later ≤ potential state now + (later - now) * rate
  nonneg : ∀ state now, invariant state → clock state ≤ now → 0 ≤ potential state now
  capped : ∀ state now, potential state now ≤ capacity

variable {step clock time admits} {capacity rate first last : K} {invariant : σ → Prop} {potential : σ → K → K}
  {start : σ} {events : List ε}

omit [Field K] in
theorem admittedIn_past (clocked : ∀ state event, clock (step state event) = time event)
    (along : Always step (fun state event => clock state ≤ time event) start events) (past : last < clock start) :
    admittedIn step time admits first last start events = 0 := by
  induction events generalizing start with
  | nil => rfl
  | cons event events ih =>
    have outside : last < time event := past.trans_le along.1
    rw [admittedIn, if_neg (fun inside => absurd inside.2.2 (not_le.mpr outside)), Nat.zero_add]
    exact ih along.2 (by rw [clocked]; exact outside)

variable [IsStrictOrderedRing K]

theorem Pays.within (pays : Pays step clock time admits capacity rate invariant potential) (rate_nonneg : 0 ≤ rate)
    (holds : invariant start) (along : Always step (fun state event => clock state ≤ time event) start events)
    {now : K} (reached : clock start ≤ now) (upcoming : ∀ event ∈ events.head?, now ≤ time event)
    (started : first ≤ now) (running : now ≤ last) :
    (admittedIn step time admits first last start events : K) ≤ potential start now + (last - now) * rate := by
  have bound : 0 ≤ potential start now + (last - now) * rate :=
    add_nonneg (pays.nonneg start now holds reached) (mul_nonneg (sub_nonneg.mpr running) rate_nonneg)
  induction events generalizing start now with
  | nil =>
    rw [admittedIn, Nat.cast_zero]
    exact bound
  | cons event events ih =>
    have order : now ≤ time event := upcoming event rfl
    have clocked := pays.clocked start event
    rw [admittedIn, Nat.cast_add]
    by_cases inside : time event ≤ last
    · have valid := pays.kept start event holds along.1
      have next : ∀ other ∈ events.head?, time event ≤ time other := by
        intro other head
        cases events with
        | nil => cases head
        | cons following events =>
          cases head
          exact clocked ▸ along.2.1
      have later := ih valid along.2 clocked.le next (started.trans order) inside
        (add_nonneg (pays.nonneg _ _ valid clocked.le) (mul_nonneg (sub_nonneg.mpr inside) rate_nonneg))
      have counted : ((if admits start event ∧ first ≤ time event ∧ time event ≤ last then 1 else 0 : Nat) : K) =
          if admits start event then 1 else 0 := by
        simp [started.trans order, inside]
      have split : (last - now) * rate = (time event - now) * rate + (last - time event) * rate := by ring
      have spent := pays.spends start event holds along.1
      have grown := pays.grows start now (time event) order
      rw [counted, split]
      linarith
    · rw [if_neg (fun counted => inside counted.2.2), admittedIn_past pays.clocked along.2
        (by rw [clocked]; exact not_le.mp inside), Nat.cast_zero, add_zero]
      exact bound

/-- In any window at most the capacity and what the rate adds over the window is admitted. -/
theorem Pays.admittedIn_le (pays : Pays step clock time admits capacity rate invariant potential)
    (rate_nonneg : 0 ≤ rate) (holds : invariant start)
    (along : Always step (fun state event => clock state ≤ time event) start events) (window : first ≤ last) :
    (admittedIn step time admits first last start events : K) ≤ capacity + (last - first) * rate := by
  have bound : 0 ≤ capacity + (last - first) * rate :=
    add_nonneg ((pays.nonneg start _ holds le_rfl).trans (pays.capped start _))
      (mul_nonneg (sub_nonneg.mpr window) rate_nonneg)
  induction events generalizing start with
  | nil =>
    rw [admittedIn, Nat.cast_zero]
    exact bound
  | cons event events ih =>
    by_cases before : time event < first
    · rw [admittedIn, if_neg (fun counted => absurd counted.2.1 (not_le.mpr before)), Nat.zero_add]
      exact ih (pays.kept start event holds along.1) along.2
    · -- The window opens at its first moment or at the state's, whichever is later.
      by_cases past : last < clock start
      · rw [admittedIn_past pays.clocked along past, Nat.cast_zero]
        exact bound
      · have paid := pays.within rate_nonneg holds along (le_max_right first (clock start))
          (fun other head => by cases head; exact max_le (not_lt.mp before) along.1) (le_max_left _ _)
          (max_le window (not_lt.mp past))
        have full := pays.capped start (max first (clock start))
        have shorter : (last - max first (clock start)) * rate ≤ (last - first) * rate :=
          mul_le_mul_of_nonneg_right (sub_le_sub_left (le_max_left _ _) last) rate_nonneg
        linarith

end Window

end Praeco.Rates.Tokens
