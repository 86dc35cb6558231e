import Praeco.Limits.TokenBucket
import Praeco.Numbers.Rounding

/-! The simple limiter, which spaces the requests of a key. Its entries live in a bounded map that is pruned like the
one of the token buckets; an entry that is pruned early lets its key in again too soon. -/

namespace Praeco.Limits.SimpleLimiter
open Praeco.Strings Utf8 Praeco.Collections.Map Praeco.Numbers.Rounding Praeco.Schedule.Runs
open TokenBucket (RateLimitKey Call durationSince sub_le_durationSince)

structure SimpleRateLimiterConfig where
  requestsPerSecond : UInt64
  maxEntries : Nat
  ttlSeconds : Nat
  deriving DecidableEq, Repr

structure SimpleRateLimiterLayer where
  limitDuration : ℚ
  maxEntries : Nat
  ttl : ℚ
  limit_nonneg : 0 ≤ limitDuration
  ttl_nonneg : 0 ≤ ttl

/-- A value in single precision. All values here are between `2⁻⁶⁴` and `2⁶⁴`, so the exponent is in range. -/
def f32 (x : ℚ) : ℚ := toBinary 23 x

def fromSecsF32 (seconds : ℚ) : ℚ := roundEven (seconds * 1000000000) / 1000000000

def limitDurationOf (requestsPerSecond : UInt64) : ℚ := fromSecsF32 (f32 (1 / f32 requestsPerSecond.toNat))

theorem fromSecsF32_nonneg {seconds : ℚ} (nonneg : 0 ≤ seconds) : 0 ≤ fromSecsF32 seconds := by
  have rounded : 0 ≤ roundEven (seconds * 1000000000) := by
    apply le_roundEven
    rw [Int.cast_zero]
    positivity
  exact div_nonneg (by exact_mod_cast rounded) (by norm_num)

theorem fromSecsF32_le_one {seconds : ℚ} (small : seconds ≤ 1) : fromSecsF32 seconds ≤ 1 := by
  have rounded : roundEven (seconds * 1000000000) ≤ 1000000000 := by
    apply roundEven_le
    push_cast
    linarith
  rw [fromSecsF32, div_le_one (by norm_num)]
  exact_mod_cast rounded

section

variable {requestsPerSecond : UInt64}

theorem one_le_f32 (positive : requestsPerSecond ≠ 0) : 1 ≤ f32 requestsPerSecond.toNat := by
  apply one_le_toBinary
  have count : requestsPerSecond.toNat ≠ 0 := fun zero => positive (UInt64.toNat_inj.mp zero)
  exact_mod_cast Nat.one_le_iff_ne_zero.mpr count

theorem limitDurationOf_nonneg (positive : requestsPerSecond ≠ 0) : 0 ≤ limitDurationOf requestsPerSecond := by
  have rate := one_le_f32 positive
  exact fromSecsF32_nonneg (toBinary_pos (one_div_pos.mpr (by linarith))).le

theorem limitDurationOf_le_one (positive : requestsPerSecond ≠ 0) : limitDurationOf requestsPerSecond ≤ 1 := by
  have rate := one_le_f32 positive
  apply fromSecsF32_le_one
  apply toBinary_le_one
  · exact one_div_pos.mpr (by linarith)
  · exact (div_le_one (by linarith)).mpr rate

end

def buildLayer (serverName : Text) (cfg : SimpleRateLimiterConfig) : Except Text SimpleRateLimiterLayer :=
  if zero : cfg.requestsPerSecond = 0 then
    .error (serverName ++ ": Layer 'RateLimiter:Simple': requests_per_second must be greater than 0".toList)
  else .ok
    { limitDuration := limitDurationOf cfg.requestsPerSecond
      maxEntries := cfg.maxEntries
      ttl := cfg.ttlSeconds
      limit_nonneg := limitDurationOf_nonneg zero
      ttl_nonneg := Nat.cast_nonneg _ }

theorem limit_le_one_of_accepted {serverName : Text} {cfg : SimpleRateLimiterConfig} {layer : SimpleRateLimiterLayer}
    (accepted : buildLayer serverName cfg = .ok layer) : layer.limitDuration ≤ 1 := by
  unfold buildLayer at accepted
  split_ifs at accepted with zero
  cases accepted
  exact limitDurationOf_le_one zero

structure KeyedSimpleEntry where
  nextAllowed : ℚ
  lastSeen : ℚ
  deriving DecidableEq

structure KeyedSimpleRateLimitStore where
  entries : AList (fun _ : RateLimitKey => KeyedSimpleEntry)
  lastCleanup : ℚ

namespace KeyedSimpleRateLimitStore

variable (layer : SimpleRateLimiterLayer) (store : KeyedSimpleRateLimitStore) (now : ℚ)

def new : KeyedSimpleRateLimitStore := ⟨∅, now⟩

def len : Nat := store.entries.entries.length

def cleanup : KeyedSimpleRateLimitStore :=
  { store with entries := retain (fun _ entry => durationSince now entry.lastSeen < layer.ttl) store.entries }

def maybeCleanup : KeyedSimpleRateLimitStore :=
  if 10 < durationSince now store.lastCleanup then cleanup layer { store with lastCleanup := now } now else store

def maybeCleanupWhenFull : KeyedSimpleRateLimitStore :=
  if 1 ≤ durationSince now store.lastCleanup then cleanup layer { store with lastCleanup := now } now else store

def insert (key : RateLimitKey) (entry : KeyedSimpleEntry) : KeyedSimpleRateLimitStore :=
  { store with entries := store.entries.insert key entry }

end KeyedSimpleRateLimitStore

def waitSecs (duration : ℚ) : Nat := min (max ⌈duration⌉₊ 1) (2 ^ 64 - 1)

open KeyedSimpleRateLimitStore in
def checkAndRecord (layer : SimpleRateLimiterLayer) (store : KeyedSimpleRateLimitStore) (key : RateLimitKey) (now : ℚ) :
    KeyedSimpleRateLimitStore × Except Nat Unit :=
  let store := maybeCleanup layer store now
  match store.entries.lookup key with
  | some entry =>
    if now < entry.nextAllowed then
      (store.insert key { entry with lastSeen := now }, .error (waitSecs (durationSince entry.nextAllowed now)))
    else (store.insert key ⟨now + layer.limitDuration, now⟩, .ok ())
  | none =>
    let store := if layer.maxEntries ≤ store.len then maybeCleanupWhenFull layer store now else store
    if layer.maxEntries ≤ store.len then (store, .error 1)
    else (store.insert key ⟨now + layer.limitDuration, now⟩, .ok ())

section

variable (layer : SimpleRateLimiterLayer) (store : KeyedSimpleRateLimitStore) (key : RateLimitKey) (now : ℚ)

open KeyedSimpleRateLimitStore in
def swept : KeyedSimpleRateLimitStore :=
  let store := maybeCleanup layer store now
  match store.entries.lookup key with
  | some _ => store
  | none => if layer.maxEntries ≤ store.len then maybeCleanupWhenFull layer store now else store

abbrev Fresh (entry : KeyedSimpleEntry) : Prop := durationSince now entry.lastSeen < layer.ttl

/-- What a call does after its cleanups: it comes too early for the entry of its key, it renews that entry, it makes
one, or it finds no room for one. -/
inductive Recorded : KeyedSimpleRateLimitStore × Except Nat Unit → Prop where
  | early (entry : KeyedSimpleEntry) (found : store.entries.lookup key = some entry) (early : now < entry.nextAllowed) :
    Recorded (store.insert key { entry with lastSeen := now }, .error (waitSecs (durationSince entry.nextAllowed now)))
  | due (entry : KeyedSimpleEntry) (found : store.entries.lookup key = some entry) (due : entry.nextAllowed ≤ now) :
    Recorded (store.insert key ⟨now + layer.limitDuration, now⟩, .ok ())
  | refused (absent : store.entries.lookup key = none) (crowded : layer.maxEntries ≤ store.len) :
    Recorded (store, .error 1)
  | inserted (absent : store.entries.lookup key = none) (room : store.len < layer.maxEntries) :
    Recorded (store.insert key ⟨now + layer.limitDuration, now⟩, .ok ())

end

section

variable {layer : SimpleRateLimiterLayer} {now : ℚ}

theorem thinned_cleanup (store : KeyedSimpleRateLimitStore) (moment : ℚ) :
    Thinned (Fresh layer now) store.entries
      (KeyedSimpleRateLimitStore.cleanup layer { store with lastCleanup := moment } now).entries :=
  thinned_retain _ (Fresh layer now) store.entries fun _ _ fresh => decide_eq_true fresh

theorem thinned_maybeCleanup (store : KeyedSimpleRateLimitStore) :
    Thinned (Fresh layer now) store.entries (KeyedSimpleRateLimitStore.maybeCleanup layer store now).entries := by
  unfold KeyedSimpleRateLimitStore.maybeCleanup
  split_ifs
  · exact thinned_cleanup store now
  · exact .refl _

theorem thinned_maybeCleanupWhenFull (store : KeyedSimpleRateLimitStore) :
    Thinned (Fresh layer now) store.entries
      (KeyedSimpleRateLimitStore.maybeCleanupWhenFull layer store now).entries := by
  unfold KeyedSimpleRateLimitStore.maybeCleanupWhenFull
  split_ifs
  · exact thinned_cleanup store now
  · exact .refl _

theorem thinned_whenFull (store : KeyedSimpleRateLimitStore) :
    Thinned (Fresh layer now) store.entries
      (if layer.maxEntries ≤ store.len then KeyedSimpleRateLimitStore.maybeCleanupWhenFull layer store now
        else store).entries := by
  split_ifs
  · exact thinned_maybeCleanupWhenFull store
  · exact .refl _

theorem thinned_swept (store : KeyedSimpleRateLimitStore) (key : RateLimitKey) :
    Thinned (Fresh layer now) store.entries (swept layer store key now).entries := by
  unfold swept
  dsimp only
  split
  · exact thinned_maybeCleanup store
  · exact (thinned_maybeCleanup store).trans (thinned_whenFull _)

theorem checkAndRecord_cases (layer : SimpleRateLimiterLayer) (store : KeyedSimpleRateLimitStore) (key : RateLimitKey)
    (now : ℚ) : Recorded layer (swept layer store key now) key now (checkAndRecord layer store key now) := by
  unfold swept checkAndRecord
  dsimp only
  split
  · rename_i entry found
    split_ifs with early
    · exact .early entry found early
    · exact .due entry found (not_lt.mp early)
  · rename_i absent
    have missing := (@thinned_whenFull layer now _).absent absent
    split_ifs at missing ⊢ with full crowded
    · exact .refused missing crowded
    · exact .inserted missing (not_le.mp crowded)
    · exact .inserted missing (not_le.mp full)

end

namespace Recorded

variable {layer : SimpleRateLimiterLayer} {store : KeyedSimpleRateLimitStore} {key : RateLimitKey} {now : ℚ}
  {result : KeyedSimpleRateLimitStore × Except Nat Unit}

theorem frame (spec : Recorded layer store key now result) (other : RateLimitKey) (apart : other ≠ key) :
    result.1.entries.lookup other = store.entries.lookup other := by
  cases spec with
  | early entry found early => exact AList.lookup_insert_ne apart
  | due entry found due => exact AList.lookup_insert_ne apart
  | refused absent crowded => rfl
  | inserted absent room => exact AList.lookup_insert_ne apart

theorem len_le (spec : Recorded layer store key now result) (sized : store.len ≤ layer.maxEntries) :
    result.1.len ≤ layer.maxEntries := by
  cases spec with
  | early entry found early => exact (length_insert_present store.entries key _ entry found).le.trans sized
  | due entry found due => exact (length_insert_present store.entries key _ entry found).le.trans sized
  | refused absent crowded => exact sized
  | inserted absent room => exact (length_insert_absent store.entries key _ absent).le.trans room

theorem entry (spec : Recorded layer store key now result) (left : KeyedSimpleEntry)
    (found : result.1.entries.lookup key = some left) :
    (∃ before, store.entries.lookup key = some before ∧ left = { before with lastSeen := now }) ∨
      left = ⟨now + layer.limitDuration, now⟩ := by
  cases spec with
  | early before present early =>
    have same := Option.some.inj ((AList.lookup_insert store.entries).symm.trans found)
    exact Or.inl ⟨before, present, same.symm⟩
  | due before present due =>
    have same := Option.some.inj ((AList.lookup_insert store.entries).symm.trans found)
    exact Or.inr same.symm
  | refused absent crowded =>
    rw [absent] at found
    cases found
  | inserted absent room =>
    have same := Option.some.inj ((AList.lookup_insert store.entries).symm.trans found)
    exact Or.inr same.symm

theorem renewed (spec : Recorded layer store key now result) (admitted : result.2 = .ok ()) :
    result.1.entries.lookup key = some ⟨now + layer.limitDuration, now⟩ := by
  cases spec with
  | early entry found early => cases admitted
  | due entry found due => exact AList.lookup_insert store.entries
  | refused absent crowded => cases admitted
  | inserted absent room => exact AList.lookup_insert store.entries

theorem due_of_admitted (spec : Recorded layer store key now result) {entry : KeyedSimpleEntry}
    (found : store.entries.lookup key = some entry) (admitted : result.2 = .ok ()) : entry.nextAllowed ≤ now := by
  cases spec with
  | early before present early => cases admitted
  | due before present due =>
    cases found.symm.trans present
    exact due
  | refused absent crowded => cases admitted
  | inserted absent room => cases found.symm.trans absent

theorem refused_of_empty (spec : Recorded layer store key now result) (closed : layer.maxEntries = 0)
    (empty : store.len = 0) : result.2 ≠ .ok () := by
  have missing (entry : KeyedSimpleEntry) : store.entries.lookup key ≠ some entry := by
    intro found
    exact absurd empty (List.length_pos_of_mem (AList.mem_lookup_iff.mp found)).ne'
  cases spec with
  | early entry found early => exact absurd found (missing entry)
  | due entry found due => exact absurd found (missing entry)
  | refused absent crowded => simp
  | inserted absent room => omega

theorem admitted_of_room (spec : Recorded layer store key now result) (absent : store.entries.lookup key = none)
    (room : store.len < layer.maxEntries) : result.2 = .ok () := by
  cases spec with
  | early entry found early => cases found.symm.trans absent
  | due entry found due => cases found.symm.trans absent
  | refused absent crowded => omega
  | inserted absent room => rfl

theorem stays (spec : Recorded layer store key now result) {other : RateLimitKey} {entry : KeyedSimpleEntry}
    (found : store.entries.lookup other = some entry) :
    (∃ left, result.1.entries.lookup other = some left ∧ left.nextAllowed = entry.nextAllowed) ∨
      entry.nextAllowed ≤ now := by
  by_cases own : other = key
  · subst own
    cases spec with
    | early before present early =>
      cases found.symm.trans present
      exact Or.inl ⟨_, AList.lookup_insert store.entries, rfl⟩
    | due before present due =>
      cases found.symm.trans present
      exact Or.inr due
    | refused absent crowded => cases found.symm.trans absent
    | inserted absent room => cases found.symm.trans absent
  · exact Or.inl ⟨entry, (spec.frame other own).trans found, rfl⟩

end Recorded

structure Timed where
  store : KeyedSimpleRateLimitStore
  now : ℚ

def start (opened : ℚ) : Timed := ⟨.new opened, opened⟩

def step (layer : SimpleRateLimiterLayer) (state : Timed) (call : Call) : Timed :=
  ⟨(checkAndRecord layer state.store call.key call.time).1, call.time⟩

abbrev InOrder (state : Timed) (call : Call) : Prop := state.now ≤ call.time

section

variable (layer : SimpleRateLimiterLayer)

/-- The map is within its bound, and no entry keeps its key out for longer than the limit. -/
structure Valid (state : Timed) : Prop where
  sized : state.store.len ≤ layer.maxEntries
  seen : ∀ key entry, state.store.entries.lookup key = some entry →
    entry.lastSeen ≤ state.now ∧ entry.nextAllowed ≤ entry.lastSeen + layer.limitDuration

def admittedFor (key : RateLimitKey) : Timed → List Call → List ℚ
  | _, [] => []
  | state, call :: calls =>
    if call.key = key ∧ (checkAndRecord layer state.store call.key call.time).2 = .ok () then
      call.time :: admittedFor key (step layer state call) calls
    else admittedFor key (step layer state call) calls

def Spaced : Prop :=
  ∀ opened calls, Always (step layer) InOrder (start opened) calls → ∀ key,
    (admittedFor layer key (start opened) calls).Pairwise fun earlier later => earlier + layer.limitDuration ≤ later

def Capped : Prop :=
  ∀ opened calls, Always (step layer) InOrder (start opened) calls →
    (run (step layer) (start opened) calls).store.len ≤ layer.maxEntries

def opensAt (key : RateLimitKey) (state : Timed) : ℚ :=
  match state.store.entries.lookup key with
  | some entry => max entry.nextAllowed state.now
  | none => state.now

variable {layer}

variable {key : RateLimitKey} {state : Timed} {calls : List Call}

theorem opensAt_present {entry : KeyedSimpleEntry} (found : state.store.entries.lookup key = some entry) :
    opensAt key state = max entry.nextAllowed state.now := by
  rw [opensAt, found]

theorem now_le_opensAt (key : RateLimitKey) (state : Timed) : state.now ≤ opensAt key state := by
  unfold opensAt
  split
  · exact le_max_right _ _
  · exact le_rfl

theorem valid_start (opened : ℚ) : Valid layer (start opened) :=
  ⟨Nat.zero_le _, fun _ _ found => by cases found⟩

namespace Valid

variable {state : Timed} {call : Call}

theorem step (valid : Valid layer state) (inOrder : InOrder state call) :
    Valid layer (SimpleLimiter.step layer state call) := by
  have thinned := @thinned_swept layer call.time state.store call.key
  have spec := checkAndRecord_cases layer state.store call.key call.time
  refine ⟨spec.len_le (thinned.shorter.trans valid.sized), ?_⟩
  intro key entry found
  by_cases own : key = call.key
  · subst own
    rcases spec.entry entry found with ⟨before, present, rfl⟩ | rfl
    · have earlier := valid.seen _ before (thinned.only _ before present)
      have order : state.now ≤ call.time := inOrder
      refine ⟨le_rfl, ?_⟩
      change before.nextAllowed ≤ call.time + layer.limitDuration
      linarith
    · exact ⟨le_rfl, le_rfl⟩
  · have before := thinned.only key entry ((spec.frame key own).symm.trans found)
    exact ⟨(valid.seen key entry before).1.trans inOrder, (valid.seen key entry before).2⟩

theorem kept_or_due (valid : Valid layer state) (inOrder : InOrder state call)
    (covered : layer.limitDuration ≤ layer.ttl) {key : RateLimitKey} {entry : KeyedSimpleEntry}
    (found : state.store.entries.lookup key = some entry) :
    (swept layer state.store call.key call.time).entries.lookup key = some entry ∨ entry.nextAllowed ≤ call.time := by
  by_cases fresh : Fresh layer call.time entry
  · exact Or.inl ((thinned_swept state.store call.key).kept key entry found fresh)
  · obtain ⟨past, near⟩ := valid.seen key entry found
    have since : durationSince call.time entry.lastSeen = call.time - entry.lastSeen :=
      max_eq_left (sub_nonneg.mpr (past.trans inOrder))
    have idle : layer.ttl ≤ call.time - entry.lastSeen := since ▸ not_lt.mp fresh
    exact Or.inr (by linarith)

theorem opensAt_le_of_admitted (valid : Valid layer state) (inOrder : InOrder state call)
    (covered : layer.limitDuration ≤ layer.ttl)
    (admitted : (checkAndRecord layer state.store call.key call.time).2 = .ok ()) :
    opensAt call.key state ≤ call.time := by
  have spec := checkAndRecord_cases layer state.store call.key call.time
  cases found : state.store.entries.lookup call.key with
  | none =>
    rw [opensAt, found]
    exact inOrder
  | some entry =>
    rw [opensAt_present found]
    refine max_le ?_ inOrder
    rcases valid.kept_or_due inOrder covered found with kept | due
    · exact spec.due_of_admitted kept admitted
    · exact due

theorem opensAt_step (valid : Valid layer state) (inOrder : InOrder state call)
    (covered : layer.limitDuration ≤ layer.ttl) (key : RateLimitKey) :
    opensAt key state ≤ opensAt key (SimpleLimiter.step layer state call) := by
  have spec := checkAndRecord_cases layer state.store call.key call.time
  have reached : call.time ≤ opensAt key (SimpleLimiter.step layer state call) := now_le_opensAt key _
  cases found : state.store.entries.lookup key with
  | none =>
    rw [opensAt, found]
    exact inOrder.trans reached
  | some entry =>
    rw [opensAt_present found]
    refine max_le ?_ (inOrder.trans reached)
    rcases valid.kept_or_due inOrder covered found with kept | due
    · rcases spec.stays kept with ⟨left, present, same⟩ | due
      · rw [opensAt_present present, same]
        exact le_max_left _ _
      · exact due.trans reached
    · exact due.trans reached

end Valid

theorem limit_le_opensAt {call : Call} (admitted : (checkAndRecord layer state.store call.key call.time).2 = .ok ()) :
    call.time + layer.limitDuration ≤ opensAt call.key (step layer state call) := by
  have spec := checkAndRecord_cases layer state.store call.key call.time
  rw [opensAt_present (spec.renewed admitted)]
  exact le_max_left _ _

theorem valid_run {opened : ℚ} (inOrder : Always (step layer) InOrder (start opened) calls) :
    Valid layer (run (step layer) (start opened) calls) :=
  inOrder.invariant _ (Valid layer) (fun _ _ order valid => valid.step order) (valid_start opened)

theorem opensAt_le_of_mem {time : ℚ} (covered : layer.limitDuration ≤ layer.ttl) (valid : Valid layer state)
    (inOrder : Always (step layer) InOrder state calls) (member : time ∈ admittedFor layer key state calls) :
    opensAt key state ≤ time := by
  induction calls generalizing state with
  | nil => cases member
  | cons call calls ih =>
    have later (rest : time ∈ admittedFor layer key (step layer state call) calls) : opensAt key state ≤ time :=
      (valid.opensAt_step inOrder.1 covered key).trans (ih (valid.step inOrder.1) inOrder.2 rest)
    rw [admittedFor] at member
    split_ifs at member with counted
    · rcases List.mem_cons.mp member with rfl | rest
      · obtain ⟨rfl, admitted⟩ := counted
        exact valid.opensAt_le_of_admitted inOrder.1 covered admitted
      · exact later rest
    · exact later member

theorem spaced_run (covered : layer.limitDuration ≤ layer.ttl) (valid : Valid layer state)
    (inOrder : Always (step layer) InOrder state calls) (key : RateLimitKey) :
    (admittedFor layer key state calls).Pairwise fun earlier later => earlier + layer.limitDuration ≤ later := by
  induction calls generalizing state with
  | nil => exact .nil
  | cons call calls ih =>
    have rest := ih (valid.step inOrder.1) inOrder.2
    rw [admittedFor]
    split_ifs with counted
    · obtain ⟨rfl, admitted⟩ := counted
      refine List.pairwise_cons.mpr ⟨?_, rest⟩
      intro time member
      exact (limit_le_opensAt admitted).trans (opensAt_le_of_mem covered (valid.step inOrder.1) inOrder.2 member)
    · exact rest

theorem capped (layer : SimpleRateLimiterLayer) : Capped layer := fun _ _ inOrder => (valid_run inOrder).sized

theorem admittedFor_no_room (closed : layer.maxEntries = 0) (valid : Valid layer state)
    (inOrder : Always (step layer) InOrder state calls) (key : RateLimitKey) :
    admittedFor layer key state calls = [] := by
  induction calls generalizing state with
  | nil => rfl
  | cons call calls ih =>
    have empty : (swept layer state.store call.key call.time).len = 0 :=
      Nat.le_zero.mp ((thinned_swept state.store call.key).shorter.trans (valid.sized.trans closed.le))
    have refused : (checkAndRecord layer state.store call.key call.time).2 ≠ .ok () :=
      (checkAndRecord_cases layer state.store call.key call.time).refused_of_empty closed empty
    rw [admittedFor, if_neg fun counted => refused counted.2]
    exact ih (valid.step inOrder.1) inOrder.2

theorem checkAndRecord_empty {store : KeyedSimpleRateLimitStore} {key : RateLimitKey} {now cleaned : ℚ}
    (emptied : KeyedSimpleRateLimitStore.maybeCleanup layer store now = ⟨∅, cleaned⟩) (room : 0 < layer.maxEntries) :
    checkAndRecord layer store key now = (⟨.singleton key ⟨now + layer.limitDuration, now⟩, cleaned⟩, .ok ()) := by
  have open' : ¬layer.maxEntries ≤ 0 := not_le.mpr room
  unfold checkAndRecord
  rw [emptied]
  simp [KeyedSimpleRateLimitStore.len, KeyedSimpleRateLimitStore.insert, AList.insert_empty, open']

theorem maybeCleanup_dropped {nextAllowed pause : ℚ} (positive : 0 < pause) (idle : layer.ttl ≤ pause) :
    KeyedSimpleRateLimitStore.maybeCleanup layer ⟨.singleton key ⟨nextAllowed, 10⟩, 0⟩ (10 + pause) =
      ⟨∅, 10 + pause⟩ := by
  have due : 10 < durationSince (10 + pause) 0 := by linarith [sub_le_durationSince (10 + pause) 0]
  have old : layer.ttl ≤ durationSince (10 + pause) 10 := by linarith [sub_le_durationSince (10 + pause) 10]
  have dropped : retain (fun _ (entry : KeyedSimpleEntry) => durationSince (10 + pause) entry.lastSeen < layer.ttl)
      (.singleton key ⟨nextAllowed, 10⟩) = ∅ := by
    apply retain_singleton
    simpa using old
  unfold KeyedSimpleRateLimitStore.maybeCleanup KeyedSimpleRateLimitStore.cleanup
  rw [if_pos due, dropped]

theorem not_spaced (room : 0 < layer.maxEntries) (short : layer.ttl < layer.limitDuration) : ¬Spaced layer := by
  have ttl_nonneg := layer.ttl_nonneg
  obtain ⟨pause, idle, early⟩ : ∃ pause, layer.ttl < pause ∧ pause < layer.limitDuration := exists_between short
  have unchanged : KeyedSimpleRateLimitStore.maybeCleanup layer (start 0).store 10 = ⟨∅, 0⟩ :=
    if_neg (by decide +kernel)
  have first := @checkAndRecord_empty layer (start 0).store .global 10 0 unchanged room
  have second := @checkAndRecord_empty layer ⟨.singleton .global ⟨10 + layer.limitDuration, 10⟩, 0⟩ .global (10 + pause)
    (10 + pause) (maybeCleanup_dropped (by linarith) idle.le) room
  have admitted : admittedFor layer .global (start 0) [⟨.global, 10⟩, ⟨.global, 10 + pause⟩] = [10, 10 + pause] := by
    simp [admittedFor, step, first, second]
  intro spaced
  have inOrder : Always (step layer) InOrder (start 0) [⟨.global, 10⟩, ⟨.global, 10 + pause⟩] :=
    ⟨by decide +kernel, by change 10 ≤ 10 + pause; linarith, trivial⟩
  have apart := spaced 0 _ inOrder .global
  rw [admitted, List.pairwise_pair] at apart
  linarith

theorem spaced_iff : Spaced layer ↔ layer.maxEntries = 0 ∨ layer.limitDuration ≤ layer.ttl := by
  constructor
  · intro spaced
    by_contra neither
    rw [not_or, not_le] at neither
    exact not_spaced (Nat.pos_of_ne_zero neither.1) neither.2 spaced
  · rintro (closed | covered) opened calls inOrder key
    · rw [admittedFor_no_room closed (valid_start opened) inOrder key]
      exact .nil
    · exact spaced_run covered (valid_start opened) inOrder key

end

/-- A configuration spaces the calls of every key if and only if its entries live for a second, or its limit is rounded
to nothing, or it has no room for entries at all. -/
theorem spacing_iff (serverName : Text) (cfg : SimpleRateLimiterConfig) (layer : SimpleRateLimiterLayer)
    (accepted : buildLayer serverName cfg = .ok layer) :
    Spaced layer ∧ Capped layer ↔
      cfg.maxEntries = 0 ∨ 1 ≤ cfg.ttlSeconds ∨ limitDurationOf cfg.requestsPerSecond = 0 := by
  have second := limit_le_one_of_accepted accepted
  have nonneg := layer.limit_nonneg
  unfold buildLayer at accepted
  split_ifs at accepted with zero
  cases accepted
  rw [and_iff_left (capped _), spaced_iff]
  change cfg.maxEntries = 0 ∨ limitDurationOf cfg.requestsPerSecond ≤ cfg.ttlSeconds ↔ _
  apply or_congr_right
  -- The time to live is a whole number of seconds, and the limit is at most one.
  cases cfg.ttlSeconds with
  | zero =>
    rw [Nat.cast_zero, or_iff_right (by decide)]
    exact ⟨fun none => le_antisymm none nonneg, fun none => none.le⟩
  | succ seconds =>
    have whole : 1 ≤ seconds + 1 := Nat.le_add_left 1 seconds
    have longer : (1 : ℚ) ≤ (seconds + 1 : Nat) := by exact_mod_cast whole
    exact iff_of_true (second.trans longer) (Or.inl whole)

/-- Three requests a second, kept for five minutes. -/
theorem spacing_iff_thirds : ∃ layer, buildLayer ['s'] ⟨3, 10000, 300⟩ = .ok layer ∧ Spaced layer ∧ Capped layer :=
  ⟨_, rfl, (spacing_iff ['s'] ⟨3, 10000, 300⟩ _ rfl).mpr (Or.inr (Or.inl (by decide)))⟩

/-- One request a second with entries that are not kept: two requests of a key in half a second. -/
theorem forgotten_key_readmitted :
    ∃ layer, buildLayer ['s'] ⟨1, 10000, 0⟩ = .ok layer ∧ layer.limitDuration = 1 ∧
      let calls : List Call := [⟨.global, 10⟩, ⟨.global, 21 / 2⟩]
      Always (step layer) InOrder (start 0) calls ∧ admittedFor layer .global (start 0) calls = [10, 21 / 2] :=
  ⟨_, rfl, by decide +kernel, by decide +kernel, by decide +kernel⟩

end Praeco.Limits.SimpleLimiter
