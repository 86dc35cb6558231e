import Praeco.Collections.Map
import Praeco.Net.Address
import Praeco.Rates.Tokens
import Praeco.Strings.Utf8

/-! The keyed token buckets of the rate limiter. All buckets live in one bounded map, which is pruned by calls for any
key; times, tokens and rates are exact. -/

namespace Praeco.Limits.TokenBucket
open Praeco.Strings Utf8 Praeco.Net.Address Praeco.Collections.Map Praeco.Rates.Tokens Praeco.Schedule.Runs

inductive RateLimitKey where
  | user (id : Text)
  | clientCert (san : Text)
  | ip (addr : IpAddr)
  | global
  deriving DecidableEq, Repr

structure TokenBucketRateLimiterConfig where
  maxCapacity : Nat
  refill : Nat
  durationMicros : Nat
  maxEntries : Nat
  ttlSeconds : Nat
  deriving DecidableEq, Repr

/-- The parameters of the layer; durations are in seconds. -/
structure TokenBucketRateLimiterLayer where
  capacity : Nat
  refillTokens : Nat
  interval : ℚ
  maxEntries : Nat
  ttl : ℚ
  interval_pos : 0 < interval
  ttl_nonneg : 0 ≤ ttl
  deriving DecidableEq

def buildLayer (serverName : Text) (cfg : TokenBucketRateLimiterConfig) : Except Text TokenBucketRateLimiterLayer :=
  if zero : cfg.maxCapacity = 0 ∨ cfg.refill = 0 ∨ cfg.durationMicros = 0 then
    .error (serverName ++ (": Layer 'RateLimiter:TokenBucket': max_capacity, refill, and duration_micros must all " ++
      "be greater than 0").toList)
  else .ok
    { capacity := cfg.maxCapacity
      refillTokens := cfg.refill
      interval := cfg.durationMicros / 1000000
      maxEntries := cfg.maxEntries
      ttl := cfg.ttlSeconds
      interval_pos := by
        have micros : 0 < cfg.durationMicros := by omega
        positivity
      ttl_nonneg := Nat.cast_nonneg _ }

structure KeyedBucketEntry where
  tokens : ℚ
  lastRefill : ℚ
  lastSeen : ℚ
  deriving DecidableEq

structure KeyedTokenBucketStore where
  entries : AList (fun _ : RateLimitKey => KeyedBucketEntry)
  lastCleanup : ℚ

def durationSince (now earlier : ℚ) : ℚ := max (now - earlier) 0

theorem sub_le_durationSince (now earlier : ℚ) : now - earlier ≤ durationSince now earlier := le_max_left _ _

namespace KeyedTokenBucketStore

variable (layer : TokenBucketRateLimiterLayer) (store : KeyedTokenBucketStore) (now : ℚ)

def new : KeyedTokenBucketStore := ⟨∅, now⟩

def len : Nat := store.entries.entries.length

def cleanup : KeyedTokenBucketStore :=
  { store with entries := retain (fun _ entry => durationSince now entry.lastSeen < layer.ttl) store.entries }

def maybeCleanup : KeyedTokenBucketStore :=
  if 10 < durationSince now store.lastCleanup then cleanup layer { store with lastCleanup := now } now else store

def maybeCleanupWhenFull : KeyedTokenBucketStore :=
  if 1 ≤ durationSince now store.lastCleanup then cleanup layer { store with lastCleanup := now } now else store

def insert (key : RateLimitKey) (entry : KeyedBucketEntry) : KeyedTokenBucketStore :=
  { store with entries := store.entries.insert key entry }

end KeyedTokenBucketStore

def rate (layer : TokenBucketRateLimiterLayer) : ℚ := layer.refillTokens / layer.interval

/-- Whole seconds, at least one, until a token is there; the conversion to an integer saturates. -/
def retryAfter (layer : TokenBucketRateLimiterLayer) (tokens : ℚ) : Nat :=
  if rate layer = 0 then 2 ^ 64 - 1 else min (max ⌈(1 - tokens) / rate layer⌉₊ 1) (2 ^ 64 - 1)

open KeyedTokenBucketStore in
def tryConsume (layer : TokenBucketRateLimiterLayer) (store : KeyedTokenBucketStore) (key : RateLimitKey) (now : ℚ) :
    KeyedTokenBucketStore × Except Nat Unit :=
  let store := maybeCleanup layer store now
  match store.entries.lookup key with
  | some entry =>
    let added := durationSince now entry.lastRefill * rate layer
    let tokens := min (entry.tokens + added) layer.capacity
    if 1 ≤ tokens then (store.insert key ⟨tokens - 1, now, now⟩, .ok ())
    else (store.insert key ⟨tokens, now, now⟩, .error (retryAfter layer tokens))
  | none =>
    let store := if layer.maxEntries ≤ store.len then maybeCleanupWhenFull layer store now else store
    if layer.maxEntries ≤ store.len then (store, .error 1)
    else if 1 ≤ layer.capacity then (store.insert key ⟨layer.capacity - 1, now, now⟩, .ok ())
    else (store, .error 1)

section

variable (layer : TokenBucketRateLimiterLayer) (store : KeyedTokenBucketStore) (key : RateLimitKey) (now : ℚ)

open KeyedTokenBucketStore in
def swept : KeyedTokenBucketStore :=
  let store := maybeCleanup layer store now
  match store.entries.lookup key with
  | some _ => store
  | none => if layer.maxEntries ≤ store.len then maybeCleanupWhenFull layer store now else store

abbrev Fresh (entry : KeyedBucketEntry) : Prop := durationSince now entry.lastSeen < layer.ttl

end

section

variable {layer : TokenBucketRateLimiterLayer} {now : ℚ}

theorem thinned_cleanup (store : KeyedTokenBucketStore) (moment : ℚ) :
    Thinned (Fresh layer now) store.entries
      (KeyedTokenBucketStore.cleanup layer { store with lastCleanup := moment } now).entries :=
  thinned_retain _ (Fresh layer now) store.entries fun _ _ fresh => decide_eq_true fresh

theorem thinned_maybeCleanup (store : KeyedTokenBucketStore) :
    Thinned (Fresh layer now) store.entries (KeyedTokenBucketStore.maybeCleanup layer store now).entries := by
  unfold KeyedTokenBucketStore.maybeCleanup
  split_ifs
  · exact thinned_cleanup store now
  · exact .refl _

theorem thinned_maybeCleanupWhenFull (store : KeyedTokenBucketStore) :
    Thinned (Fresh layer now) store.entries (KeyedTokenBucketStore.maybeCleanupWhenFull layer store now).entries := by
  unfold KeyedTokenBucketStore.maybeCleanupWhenFull
  split_ifs
  · exact thinned_cleanup store now
  · exact .refl _

theorem thinned_whenFull (store : KeyedTokenBucketStore) :
    Thinned (Fresh layer now) store.entries
      (if layer.maxEntries ≤ store.len then KeyedTokenBucketStore.maybeCleanupWhenFull layer store now
        else store).entries := by
  split_ifs
  · exact thinned_maybeCleanupWhenFull store
  · exact .refl _

theorem thinned_swept (store : KeyedTokenBucketStore) (key : RateLimitKey) :
    Thinned (Fresh layer now) store.entries (swept layer store key now).entries := by
  unfold swept
  dsimp only
  split
  · exact thinned_maybeCleanup store
  · exact (thinned_maybeCleanup store).trans (thinned_whenFull _)

end

def bucket (layer : TokenBucketRateLimiterLayer) : Bucket ℚ :=
  ⟨layer.capacity, rate layer, Nat.cast_nonneg _, div_nonneg (Nat.cast_nonneg _) layer.interval_pos.le⟩

def KeyedBucketEntry.level (entry : KeyedBucketEntry) : Level ℚ := ⟨entry.tokens, entry.lastRefill⟩

def KeyedBucketEntry.ofLevel (level : Level ℚ) : KeyedBucketEntry := ⟨level.tokens, level.since, level.since⟩

def answerAt (layer : TokenBucketRateLimiterLayer) (level : Level ℚ) (now : ℚ) : Except Nat Unit :=
  if 1 ≤ (bucket layer).available level now then .ok ()
  else .error (retryAfter layer ((bucket layer).available level now))

theorem available_eq {layer : TokenBucketRateLimiterLayer} {entry : KeyedBucketEntry} {now : ℚ}
    (past : entry.lastRefill ≤ now) :
    min (entry.tokens + durationSince now entry.lastRefill * rate layer) layer.capacity =
      (bucket layer).available entry.level now := by
  rw [durationSince, max_eq_left (sub_nonneg.mpr past)]
  rfl

theorem answerAt_eq_ok {layer : TokenBucketRateLimiterLayer} {level : Level ℚ} {now : ℚ} :
    answerAt layer level now = .ok () ↔ ((bucket layer).take level now).1 = true := by
  unfold answerAt Bucket.take
  split_ifs <;> simp

/-- What a call does after its cleanups: it draws on the entry of its key, it makes one with a full bucket, or it is
refused without one. -/
inductive Consumed (layer : TokenBucketRateLimiterLayer) (store : KeyedTokenBucketStore) (key : RateLimitKey)
    (now : ℚ) : KeyedTokenBucketStore × Except Nat Unit → Prop where
  | present (entry : KeyedBucketEntry) (found : store.entries.lookup key = some entry) :
    Consumed layer store key now
      (store.insert key (.ofLevel ((bucket layer).take entry.level now).2), answerAt layer entry.level now)
  | refused (absent : store.entries.lookup key = none) (closed : layer.maxEntries ≤ store.len ∨ layer.capacity = 0) :
    Consumed layer store key now (store, .error 1)
  | inserted (absent : store.entries.lookup key = none) (room : store.len < layer.maxEntries)
    (able : 1 ≤ layer.capacity) :
    Consumed layer store key now
      (store.insert key (.ofLevel ((bucket layer).take ((bucket layer).full now) now).2),
        answerAt layer ((bucket layer).full now) now)

theorem available_full (layer : TokenBucketRateLimiterLayer) (now : ℚ) :
    (bucket layer).available ((bucket layer).full now) now = layer.capacity := Bucket.available_now le_rfl rfl

theorem drawn_eq (layer : TokenBucketRateLimiterLayer) (store : KeyedTokenBucketStore) (key : RateLimitKey)
    (level : Level ℚ) (now : ℚ) :
    (store.insert key (.ofLevel ((bucket layer).take level now).2), answerAt layer level now) =
      if 1 ≤ (bucket layer).available level now then
        (store.insert key ⟨(bucket layer).available level now - 1, now, now⟩, .ok ())
      else (store.insert key ⟨(bucket layer).available level now, now, now⟩,
        .error (retryAfter layer ((bucket layer).available level now))) := by
  unfold Bucket.take answerAt
  split_ifs
  · rfl
  · rfl

theorem tryConsume_cases (layer : TokenBucketRateLimiterLayer) (store : KeyedTokenBucketStore) (key : RateLimitKey)
    (now : ℚ) (past : ∀ entry, store.entries.lookup key = some entry → entry.lastRefill ≤ now) :
    Consumed layer (swept layer store key now) key now (tryConsume layer store key now) := by
  unfold swept tryConsume
  dsimp only
  split
  · rename_i entry found
    have before := past entry ((@thinned_maybeCleanup layer now store).only key entry found)
    rw [available_eq before, ← drawn_eq]
    exact .present entry found
  · rename_i absent
    have missing := (@thinned_whenFull layer now _).absent absent
    generalize ite (layer.maxEntries ≤ _) (KeyedTokenBucketStore.maybeCleanupWhenFull layer _ now) _ = final at missing ⊢
    by_cases crowded : layer.maxEntries ≤ final.len
    · rw [if_pos crowded]
      exact .refused missing (Or.inl crowded)
    · rw [if_neg crowded]
      by_cases able : 1 ≤ layer.capacity
      · have spec : Consumed layer final key now _ := .inserted missing (not_le.mp crowded) able
        have enough : 1 ≤ (layer.capacity : ℚ) := by exact_mod_cast able
        rw [drawn_eq, available_full, if_pos enough] at spec
        rw [if_pos able]
        exact spec
      · rw [if_neg able]
        exact .refused missing (Or.inr (by omega))

namespace Consumed

variable {layer : TokenBucketRateLimiterLayer} {store : KeyedTokenBucketStore} {key : RateLimitKey} {now : ℚ}
  {result : KeyedTokenBucketStore × Except Nat Unit}

theorem frame (spec : Consumed layer store key now result) (other : RateLimitKey) (apart : other ≠ key) :
    result.1.entries.lookup other = store.entries.lookup other := by
  cases spec with
  | present entry found => exact AList.lookup_insert_ne apart
  | refused absent closed => rfl
  | inserted absent room able => exact AList.lookup_insert_ne apart

theorem len_le (spec : Consumed layer store key now result) (sized : store.len ≤ layer.maxEntries) :
    result.1.len ≤ layer.maxEntries := by
  cases spec with
  | present entry found => exact (length_insert_present store.entries key _ entry found).le.trans sized
  | refused absent closed => exact sized
  | inserted absent room able => exact (length_insert_absent store.entries key _ absent).le.trans room

theorem drawn (spec : Consumed layer store key now result) (entry : KeyedBucketEntry)
    (found : store.entries.lookup key = some entry) :
    result.1.entries.lookup key = some (.ofLevel ((bucket layer).take entry.level now).2) ∧
      result.2 = answerAt layer entry.level now := by
  cases spec with
  | present earlier before =>
    cases found.symm.trans before
    exact ⟨AList.lookup_insert store.entries, rfl⟩
  | refused absent closed => cases found.symm.trans absent
  | inserted absent room able => cases found.symm.trans absent

theorem entry (spec : Consumed layer store key now result) (left : KeyedBucketEntry)
    (found : result.1.entries.lookup key = some left) :
    ∃ level, (store.entries.lookup key = none ∧ level = (bucket layer).full now ∨
        ∃ entry, store.entries.lookup key = some entry ∧ level = entry.level) ∧
      left = .ofLevel ((bucket layer).take level now).2 ∧ result.2 = answerAt layer level now := by
  cases spec with
  | present entry before =>
    refine ⟨entry.level, Or.inr ⟨entry, before, rfl⟩, ?_, rfl⟩
    exact (Option.some.inj ((AList.lookup_insert store.entries).symm.trans found)).symm
  | refused absent closed =>
    rw [absent] at found
    cases found
  | inserted absent room able =>
    refine ⟨(bucket layer).full now, Or.inl ⟨absent, rfl⟩, ?_, rfl⟩
    exact (Option.some.inj ((AList.lookup_insert store.entries).symm.trans found)).symm

theorem admitted_of_room (spec : Consumed layer store key now result) (absent : store.entries.lookup key = none)
    (room : store.len < layer.maxEntries) (able : 1 ≤ layer.capacity) : result.2 = .ok () := by
  cases spec with
  | present entry found => cases found.symm.trans absent
  | refused absent closed => omega
  | inserted absent room able =>
    have enough : 1 ≤ (layer.capacity : ℚ) := by exact_mod_cast able
    exact if_pos ((available_full layer now).symm ▸ enough)

end Consumed

structure Call where
  key : RateLimitKey
  time : ℚ
  deriving DecidableEq

structure Timed where
  store : KeyedTokenBucketStore
  now : ℚ

def start (opened : ℚ) : Timed := ⟨.new opened, opened⟩

def step (layer : TokenBucketRateLimiterLayer) (state : Timed) (call : Call) : Timed :=
  ⟨(tryConsume layer state.store call.key call.time).1, call.time⟩

abbrev InOrder (state : Timed) (call : Call) : Prop := state.now ≤ call.time

section

variable (layer : TokenBucketRateLimiterLayer)

structure Valid (state : Timed) : Prop where
  sized : state.store.len ≤ layer.maxEntries
  holds : ∀ key entry, state.store.entries.lookup key = some entry →
    (bucket layer).Holds entry.level state.now ∧ entry.lastSeen = entry.lastRefill

def answersFor (key : RateLimitKey) : Timed → List Call → List (Except Nat Unit)
  | _, [] => []
  | state, call :: calls =>
    if call.key = key then
      (tryConsume layer state.store call.key call.time).2 :: answersFor key (step layer state call) calls
    else answersFor key (step layer state call) calls

def timesFor (key : RateLimitKey) (calls : List Call) : List ℚ :=
  (calls.filter fun call => call.key = key).map Call.time

theorem timesFor_own (call : Call) (calls : List Call) :
    timesFor call.key (call :: calls) = call.time :: timesFor call.key calls := by
  simp [timesFor]

theorem timesFor_other (key : RateLimitKey) (call : Call) (calls : List Call) (other : call.key ≠ key) :
    timesFor key (call :: calls) = timesFor key calls := by
  simp [timesFor, other]

def idealAnswers : Level ℚ → List ℚ → List (Except Nat Unit)
  | _, [] => []
  | level, now :: times => answerAt layer level now :: idealAnswers ((bucket layer).take level now).2 times

def Inserts (state : Timed) (call : Call) : Prop :=
  (swept layer state.store call.key call.time).entries.lookup call.key = none ∧
    (step layer state call).store.entries.lookup call.key ≠ none

def Keeps (key : RateLimitKey) (state : Timed) (call : Call) : Prop :=
  (swept layer state.store call.key call.time).entries.lookup key ≠ none

variable {layer}

theorem valid_start (opened : ℚ) : Valid layer (start opened) :=
  ⟨Nat.zero_le _, fun _ _ found => by cases found⟩

theorem full_holds (now : ℚ) : (bucket layer).Holds ((bucket layer).full now) now :=
  ⟨(bucket layer).capacity_nonneg, le_rfl, le_rfl⟩

namespace Valid

variable {state : Timed} {call : Call}

theorem past (valid : Valid layer state) (inOrder : InOrder state call) (key : RateLimitKey) (entry : KeyedBucketEntry)
    (found : state.store.entries.lookup key = some entry) : (bucket layer).Holds entry.level call.time :=
  (valid.holds key entry found).1.mono inOrder

theorem consumed (valid : Valid layer state) (inOrder : InOrder state call) :
    Consumed layer (swept layer state.store call.key call.time) call.key call.time
      (tryConsume layer state.store call.key call.time) :=
  tryConsume_cases layer state.store call.key call.time fun entry found =>
    (valid.past inOrder call.key entry found).past

theorem step (valid : Valid layer state) (inOrder : InOrder state call) :
    Valid layer (TokenBucket.step layer state call) := by
  have thinned := @thinned_swept layer call.time state.store call.key
  have spec := valid.consumed inOrder
  refine ⟨spec.len_le (thinned.shorter.trans valid.sized), ?_⟩
  intro key entry found
  by_cases own : key = call.key
  · subst own
    obtain ⟨level, origin, rfl, _⟩ := spec.entry entry found
    have holds : (bucket layer).Holds level call.time := by
      rcases origin with ⟨_, rfl⟩ | ⟨earlier, before, rfl⟩
      · exact full_holds call.time
      · exact valid.past inOrder _ earlier (thinned.only _ _ before)
    exact ⟨Bucket.take_holds holds, rfl⟩
  · have before := thinned.only key entry ((spec.frame key own).symm.trans found)
    exact ⟨valid.past inOrder key entry before, (valid.holds key entry before).2⟩

theorem stays (valid : Valid layer state) (inOrder : InOrder state call) (key : RateLimitKey) (entry : KeyedBucketEntry)
    (found : state.store.entries.lookup key = some entry) (fresh : durationSince call.time entry.lastSeen < layer.ttl) :
    ∃ left, (TokenBucket.step layer state call).store.entries.lookup key = some left ∧
      (key ≠ call.key → left = entry) := by
  have thinned := @thinned_swept layer call.time state.store call.key
  have kept := thinned.kept key entry found fresh
  have spec := valid.consumed inOrder
  by_cases own : key = call.key
  · subst own
    exact ⟨_, (spec.drawn entry kept).1, fun other => absurd rfl other⟩
  · exact ⟨entry, (spec.frame key own).trans kept, fun _ => rfl⟩

end Valid

theorem valid_run {opened : ℚ} {calls : List Call} (inOrder : Always (step layer) InOrder (start opened) calls) :
    Valid layer (run (step layer) (start opened) calls) :=
  inOrder.invariant _ (Valid layer) (fun _ _ order valid => valid.step order) (valid_start opened)

theorem answersFor_kept {state : Timed} {key : RateLimitKey} {entry : KeyedBucketEntry} {calls : List Call}
    (valid : Valid layer state) (found : state.store.entries.lookup key = some entry)
    (inOrder : Always (step layer) InOrder state calls) (keeps : Always (step layer) (Keeps layer key) state calls) :
    answersFor layer key state calls = idealAnswers layer entry.level (timesFor key calls) := by
  induction calls generalizing state entry with
  | nil => rfl
  | cons call calls ih =>
    have thinned := @thinned_swept layer call.time state.store call.key
    have spec := valid.consumed inOrder.1
    have kept : (swept layer state.store call.key call.time).entries.lookup key = some entry := by
      obtain ⟨left, present⟩ := Option.ne_none_iff_exists'.mp keeps.1
      rw [present, ← thinned.only key left present, found]
    by_cases own : call.key = key
    · subst own
      obtain ⟨next, answer⟩ := spec.drawn entry kept
      have rest := ih (valid.step inOrder.1) next inOrder.2 keeps.2
      rw [answersFor, if_pos rfl, answer, rest, timesFor_own]
      rfl
    · have next := (spec.frame key (Ne.symm own)).trans kept
      have rest := ih (valid.step inOrder.1) next inOrder.2 keeps.2
      rw [answersFor, if_neg own, rest, timesFor_other key call calls own]

theorem answersFor_inserted {state : Timed} {call : Call} {calls : List Call} (valid : Valid layer state)
    (inserts : Inserts layer state call) (inOrder : Always (step layer) InOrder state (call :: calls))
    (keeps : Always (step layer) (Keeps layer call.key) (step layer state call) calls) :
    answersFor layer call.key state (call :: calls) =
      idealAnswers layer ((bucket layer).full call.time) (timesFor call.key (call :: calls)) := by
  obtain ⟨left, present⟩ := Option.ne_none_iff_exists'.mp inserts.2
  obtain ⟨level, origin, rfl, answer⟩ := (valid.consumed inOrder.1).entry left present
  have fresh : level = (bucket layer).full call.time := by
    rcases origin with ⟨_, full⟩ | ⟨entry, found, _⟩
    · exact full
    · rw [inserts.1] at found
      cases found
  have rest := answersFor_kept (valid.step inOrder.1) present inOrder.2 keeps
  rw [answersFor, if_pos rfl, answer, rest, timesFor_own, fresh]
  rfl

structure Isolated (layer : TokenBucketRateLimiterLayer) (opened : ℚ) (calls : List Call) : Prop where
  capped : (run (step layer) (start opened) calls).store.len ≤ layer.maxEntries
  bounded : ∀ key entry, (run (step layer) (start opened) calls).store.entries.lookup key = some entry →
    0 ≤ entry.tokens ∧ entry.tokens ≤ layer.capacity
  ideal : ∀ before call during after, calls = before ++ call :: during ++ after →
    let state := run (step layer) (start opened) before
    Inserts layer state call → Always (step layer) (Keeps layer call.key) (step layer state call) during →
    answersFor layer call.key state (call :: during) =
      idealAnswers layer ((bucket layer).full call.time) (timesFor call.key (call :: during))
  kept : ∀ before call after, calls = before ++ call :: after →
    let state := run (step layer) (start opened) before
    ∀ key entry, state.store.entries.lookup key = some entry → durationSince call.time entry.lastSeen < layer.ttl →
    ∃ left, (step layer state call).store.entries.lookup key = some left ∧ (key ≠ call.key → left = entry)

theorem key_isolation (layer : TokenBucketRateLimiterLayer) (opened : ℚ) (calls : List Call)
    (inOrder : Always (step layer) InOrder (start opened) calls) : Isolated layer opened calls where
  capped := (valid_run inOrder).sized
  bounded key entry found :=
    have holds := ((valid_run inOrder).holds key entry found).1
    ⟨holds.nonneg, holds.capped⟩
  ideal := by
    intro before call during after split state inserts keeps
    rw [split, always_append, always_append] at inOrder
    exact answersFor_inserted (valid_run inOrder.1.1) inserts inOrder.1.2 keeps
  kept := by
    intro before call after split state key entry found fresh
    rw [split, always_append] at inOrder
    exact (valid_run inOrder.1).stays inOrder.2.1 key entry found fresh

/-- A store for one key, which turns a second key away until the first has been idle for the time to live. -/
theorem key_isolation_single_entry :
    let layer : TokenBucketRateLimiterLayer := ⟨2, 1, 1, 1, 5, by decide +kernel, by decide +kernel⟩
    let other : RateLimitKey := .user ['a']
    Inserts layer (start 0) ⟨.global, 0⟩ ∧
      Always (step layer) (Keeps layer .global) (step layer (start 0) ⟨.global, 0⟩) [⟨other, 1⟩, ⟨.global, 2⟩] ∧
      ¬Keeps layer .global (run (step layer) (start 0) [⟨.global, 0⟩, ⟨other, 1⟩, ⟨.global, 2⟩]) ⟨other, 7⟩ ∧
      Isolated layer 0 [⟨.global, 0⟩, ⟨other, 1⟩, ⟨.global, 2⟩, ⟨other, 7⟩] := by
  unfold Inserts Keeps
  exact ⟨by decide +kernel, by decide +kernel, by decide +kernel, key_isolation _ _ _ (by decide +kernel)⟩

end

end Praeco.Limits.TokenBucket
