import Mathlib

/-! Counting in windows. A window begins with the first request after the one before it has run out, and at most a given
number of requests is admitted in each. Admitted requests are then at most twice as many in any span of the length of a
window, wherever it lies. -/

namespace Praeco.Rates.Windows

/-- An admitted request: the start of its window, and the time at which it has taken effect. -/
structure Mark where
  start : Nat
  time : Nat
  deriving DecidableEq, Repr

variable (window : Nat)

/-- Requests of one window, or of two windows of which the first had run out when the second began. -/
def Apart (first second : Mark) : Prop :=
  first.start = second.start ∨ first.time ≤ second.start ∧ first.start + window < second.start

def opened (marks : List Mark) (start : Nat) : Nat := marks.countP fun mark => mark.start = start

def within (marks : List Mark) (since : Nat) : List Mark :=
  marks.filter fun mark => since ≤ mark.time ∧ mark.time ≤ since + window

variable {window}

theorem opened_le_of_sublist {marks kept : List Mark} (sublist : kept.Sublist marks) (start : Nat) :
    opened kept start ≤ opened marks start := sublist.countP_le

theorem third_window_late {since : Nat} {first second third : Mark} (early : since ≤ first.time)
    (late : third.time ≤ since + window) (begun : third.start ≤ third.time) (next : first.start ≠ second.start)
    (apart : Apart window first second) (later : Apart window second third) : third.start = second.start := by
  rcases apart with same | ⟨ended, -⟩
  · exact absurd same next
  · rcases later with same | ⟨-, spaced⟩
    · exact same.symm
    · omega

/-- All requests of a span belong to two windows. -/
theorem two_windows {marks : List Mark} {since : Nat} (spaced : marks.Pairwise (Apart window))
    (begun : ∀ mark ∈ marks, mark.start ≤ mark.time)
    (inside : ∀ mark ∈ marks, since ≤ mark.time ∧ mark.time ≤ since + window) :
    ∃ one other, ∀ mark ∈ marks, mark.start = one ∨ mark.start = other := by
  cases marks with
  | nil => exact ⟨0, 0, nofun⟩
  | cons first marks =>
    obtain ⟨apart, spaced⟩ := List.pairwise_cons.mp spaced
    -- the first request that is not of the window of the first one gives the second window
    cases others : marks.filter (fun mark => mark.start ≠ first.start) with
    | nil =>
      refine ⟨first.start, first.start, List.forall_mem_cons.mpr ⟨Or.inl rfl, ?_⟩⟩
      intro mark member
      have same := List.filter_eq_nil_iff.mp others mark member
      exact Or.inl (by simpa using same)
    | cons second rest =>
      refine ⟨first.start, second.start, List.forall_mem_cons.mpr ⟨Or.inl rfl, ?_⟩⟩
      have ordered : (second :: rest).Pairwise (Apart window) := others ▸ spaced.sublist List.filter_sublist
      have listed : ∀ mark ∈ second :: rest, mark ∈ marks ∧ mark.start ≠ first.start := by
        intro mark member
        rw [← others] at member
        simpa using List.mem_filter.mp member
      obtain ⟨known, differs⟩ := listed second List.mem_cons_self
      intro mark member
      by_cases same : mark.start = first.start
      · exact Or.inl same
      · have kept : mark ∈ second :: rest := others ▸ List.mem_filter.mpr ⟨member, by simpa using same⟩
        rcases List.mem_cons.mp kept with rfl | later
        · exact Or.inr rfl
        · have started := List.mem_cons_of_mem first member
          exact Or.inr (third_window_late (inside first List.mem_cons_self).1 (inside mark started).2
            (begun mark started) differs.symm (apart second known) ((List.pairwise_cons.mp ordered).1 mark later))

theorem length_within_le {marks : List Mark} {limit : Nat} (spaced : marks.Pairwise (Apart window))
    (begun : ∀ mark ∈ marks, mark.start ≤ mark.time) (limited : ∀ start, opened marks start ≤ limit) (since : Nat) :
    (within window marks since).length ≤ 2 * limit := by
  have part : (within window marks since).Sublist marks := List.filter_sublist
  have few (start : Nat) : opened (within window marks since) start ≤ limit :=
    (opened_le_of_sublist part start).trans (limited start)
  obtain ⟨one, other, two⟩ := two_windows (spaced.sublist part) (fun mark member => begun mark (part.subset member))
    (fun mark member => of_decide_eq_true (List.mem_filter.mp member).2)
  have rest : (within window marks since).countP (fun mark => ¬mark.start = one) ≤
      opened (within window marks since) other := by
    apply List.countP_mono_left
    intro mark member differs
    exact decide_eq_true ((two mark member).resolve_left (of_decide_eq_true differs))
  calc (within window marks since).length
      = opened (within window marks since) one +
          (within window marks since).countP (fun mark => ¬mark.start = one) := by
        simpa [opened] using List.length_eq_countP_add_countP (fun mark : Mark => decide (mark.start = one))
    _ ≤ limit + limit := Nat.add_le_add (few one) (rest.trans (few other))
    _ = 2 * limit := (Nat.two_mul limit).symm

/-- The requests lie behind the start of a window: they belong to it, or it began after they had taken effect and their
own window had run out. -/
def Behind (window : Nat) (marks : List Mark) (start : Nat) : Prop :=
  ∀ mark ∈ marks, mark.start = start ∨ mark.time ≤ start ∧ mark.start + window < start

/-- A counter with the start of its window, if it is kept, against the requests that have been admitted so far. One more
request may have been admitted to a window without having taken effect. -/
structure Ledger (window limit : Nat) (marks : List Mark) (pending : Option Nat) (now : Nat)
    (counter : Option (Nat × Nat)) : Prop where
  spaced : marks.Pairwise (Apart window)
  past : ∀ mark ∈ marks, mark.start ≤ mark.time ∧ mark.time ≤ now
  limited : ∀ start, opened marks start ≤ limit
  admitted : ∀ start, pending = some start → start ≤ now ∧ opened marks start < limit ∧ Behind window marks start
  kept : ∀ count start, counter = some (count, start) → start ≤ now ∧ Behind window marks start ∧
    opened marks start + (if pending = none then 0 else 1) ≤ count ∧ (pending = none ∨ pending = some start)
  dropped : counter = none → (∀ mark ∈ marks, mark.start + window < now) ∧
    ∀ start, pending = some start → start + window < now

def counted (window now : Nat) (counter : Option (Nat × Nat)) : Nat × Nat :=
  let (count, start) := counter.getD (0, now)
  if window < now - start then (1, now) else (count + 1, start)

theorem opened_eq_zero {marks : List Mark} {start : Nat} (earlier : ∀ mark ∈ marks, mark.start < start) :
    opened marks start = 0 := by
  rw [opened, List.countP_eq_zero]
  intro mark member same
  exact absurd (of_decide_eq_true same) (earlier mark member).ne

theorem opened_append (marks : List Mark) (mark : Mark) (start : Nat) :
    opened (marks ++ [mark]) start = opened marks start + if mark.start = start then 1 else 0 := by
  rw [opened, List.countP_append, List.countP_singleton]
  simp [opened]

namespace Ledger

variable {limit now : Nat} {marks : List Mark} {pending : Option Nat} {counter : Option (Nat × Nat)}

theorem empty (window limit now : Nat) : Ledger window limit [] none now none :=
  ⟨.nil, nofun, fun _ => Nat.zero_le _, nofun, nofun, fun _ => ⟨nofun, nofun⟩⟩

theorem later {time : Nat} (ledger : Ledger window limit marks pending now counter) (order : now ≤ time) :
    Ledger window limit marks pending time counter where
  spaced := ledger.spaced
  past mark member := ⟨(ledger.past mark member).1, (ledger.past mark member).2.trans order⟩
  limited := ledger.limited
  admitted start known := ⟨(ledger.admitted start known).1.trans order, (ledger.admitted start known).2⟩
  kept count start known := ⟨(ledger.kept count start known).1.trans order, (ledger.kept count start known).2⟩
  dropped missing := ⟨fun mark member => ((ledger.dropped missing).1 mark member).trans_le order,
    fun start known => ((ledger.dropped missing).2 start known).trans_le order⟩

theorem abandoned (ledger : Ledger window limit marks pending now counter) :
    Ledger window limit marks none now counter where
  spaced := ledger.spaced
  past := ledger.past
  limited := ledger.limited
  admitted := nofun
  kept count start known := by
    obtain ⟨begun, behind, counted, -⟩ := ledger.kept count start known
    exact ⟨begun, behind, (Nat.le_add_right _ _).trans counted, Or.inl rfl⟩
  dropped missing := ⟨(ledger.dropped missing).1, nofun⟩

theorem drop {count start : Nat} (ledger : Ledger window limit marks pending now (some (count, start)))
    (ended : window < now - start) : Ledger window limit marks pending now none where
  spaced := ledger.spaced
  past := ledger.past
  limited := ledger.limited
  admitted := ledger.admitted
  kept := nofun
  dropped _ := by
    obtain ⟨-, behind, -, same⟩ := ledger.kept count start rfl
    refine ⟨?_, ?_⟩
    · intro mark member
      rcases behind mark member with same | ⟨-, spaced⟩
      · omega
      · omega
    · intro other known
      rcases same with none | same
      · cases none.symm.trans known
      · cases same.symm.trans known
        omega

theorem counted_spec (ledger : Ledger window limit marks none now counter) :
    (counted window now counter).2 ≤ now ∧ Behind window marks (counted window now counter).2 ∧
      opened marks (counted window now counter).2 + 1 ≤ (counted window now counter).1 := by
  -- a window that begins now, after all the others have run out
  have fresh (ended : ∀ mark ∈ marks, mark.start + window < now) :
      now ≤ now ∧ Behind window marks now ∧ opened marks now + 1 ≤ 1 := by
    refine ⟨Nat.le_refl now, fun mark member => Or.inr ⟨(ledger.past mark member).2, ended mark member⟩, ?_⟩
    rw [opened_eq_zero fun mark member => (Nat.le_add_right _ _).trans_lt (ended mark member)]
  unfold counted
  cases counter with
  | none =>
    rw [Option.getD_none]
    dsimp only
    rw [if_neg (by omega)]
    exact fresh (ledger.dropped rfl).1
  | some counter =>
    obtain ⟨count, start⟩ := counter
    obtain ⟨begun, behind, few, -⟩ := ledger.kept count start rfl
    rw [Option.getD_some]
    dsimp only
    split_ifs with ended
    · exact fresh ((ledger.drop ended).dropped rfl).1
    · exact ⟨begun, behind, Nat.add_le_add_right few 1⟩

theorem refuse (ledger : Ledger window limit marks none now counter) :
    Ledger window limit marks none now (some (counted window now counter)) := by
  obtain ⟨begun, behind, few⟩ := ledger.counted_spec
  generalize counted window now counter = next at begun behind few
  refine ⟨ledger.spaced, ledger.past, ledger.limited, nofun, ?_, nofun⟩
  intro count start known
  cases known
  exact ⟨begun, behind, Nat.le_of_succ_le few, Or.inl rfl⟩

theorem accept (ledger : Ledger window limit marks none now counter) (fits : (counted window now counter).1 ≤ limit) :
    Ledger window limit marks (some (counted window now counter).2) now (some (counted window now counter)) := by
  obtain ⟨begun, behind, few⟩ := ledger.counted_spec
  generalize counted window now counter = next at fits begun behind few
  refine ⟨ledger.spaced, ledger.past, ledger.limited, ?_, ?_, nofun⟩
  · intro start known
    cases known
    exact ⟨begun, few.trans fits, behind⟩
  · intro count start known
    cases known
    exact ⟨begun, behind, few, Or.inr rfl⟩

theorem record {start time : Nat} (ledger : Ledger window limit marks (some start) now counter) (begun : start ≤ time)
    (order : time ≤ now) : Ledger window limit (marks ++ [⟨start, time⟩]) none now counter := by
  obtain ⟨-, room, behind⟩ := ledger.admitted start rfl
  refine ⟨?_, ?_, ?_, nofun, ?_, ?_⟩
  · refine List.pairwise_append.mpr ⟨ledger.spaced, List.pairwise_singleton _ _, ?_⟩
    intro mark member added same
    obtain rfl := List.mem_singleton.mp same
    exact behind mark member
  · intro mark member
    rcases List.mem_append.mp member with old | new
    · exact ledger.past mark old
    · obtain rfl := List.mem_singleton.mp new
      exact ⟨begun, order⟩
  · intro other
    rw [opened_append]
    split_ifs with same
    · exact same ▸ room
    · exact ledger.limited other
  · intro count other known
    obtain ⟨opens, _, few, same⟩ := ledger.kept count other known
    obtain rfl : start = other := by
      rcases same with none | same
      · cases none
      · exact Option.some.inj same
    refine ⟨opens, ?_, ?_, Or.inl rfl⟩
    · intro mark member
      rcases List.mem_append.mp member with old | new
      · exact behind mark old
      · obtain rfl := List.mem_singleton.mp new
        exact Or.inl rfl
    · rw [opened_append, if_pos rfl]
      exact few
  · intro missing
    obtain ⟨ended, late⟩ := ledger.dropped missing
    refine ⟨?_, nofun⟩
    intro mark member
    rcases List.mem_append.mp member with old | new
    · exact ended mark old
    · obtain rfl := List.mem_singleton.mp new
      exact late start rfl

end Ledger

end Praeco.Rates.Windows
