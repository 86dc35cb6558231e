import Praeco.Limits.SimpleLimiter

/-! The wait that a limiter tells a client it refuses. A limiter is described by the entries of its keys: what a call
answers from an entry, and what it leaves of it. The wait is then a matter of one entry, for either store. -/

namespace Praeco.Limits.RetryAfter
open Praeco.Strings Utf8 Praeco.Collections.Map Praeco.Rates.Tokens Praeco.Schedule.Runs
open TokenBucket (RateLimitKey Call durationSince)

structure Limiter (σ E : Type) where
  now : σ → ℚ
  step : σ → Call → σ
  answer : σ → Call → Except Nat Unit
  entry : σ → RateLimitKey → Option E
  /-- The entries that the cleanups of a call leave. -/
  remaining : σ → Call → RateLimitKey → Option E

section

variable {σ E : Type} (limiter : Limiter σ E)

abbrev InOrder (state : σ) (call : Call) : Prop := limiter.now state ≤ call.time

def Keeps (key : RateLimitKey) (state : σ) (call : Call) : Prop :=
  InOrder limiter state call ∧ limiter.remaining state call key ≠ none

def afterwards (state : σ) (call : Call) (others : List Call) : σ :=
  run limiter.step (limiter.step state call) others

/-- The wait after a refused call: it is enough, and no smaller number of whole seconds is. In between there are calls
for other keys only, and the entry is not pruned. -/
structure Exact (state : σ) (call : Call) (wait : Nat) : Prop where
  sufficient : ∀ others later,
    Always limiter.step (fun state other => Keeps limiter call.key state other ∧ other.key ≠ call.key)
      (limiter.step state call) others →
    Keeps limiter call.key (afterwards limiter state call others) ⟨call.key, later⟩ → call.time + wait ≤ later →
    limiter.answer (afterwards limiter state call others) ⟨call.key, later⟩ = .ok ()
  minimal : ∀ others (seconds : Nat),
    Always limiter.step (fun state other => Keeps limiter call.key state other ∧ other.key ≠ call.key)
      (limiter.step state call) others →
    Keeps limiter call.key (afterwards limiter state call others) ⟨call.key, call.time + seconds⟩ →
    1 ≤ seconds → seconds < wait →
    ∃ again, limiter.answer (afterwards limiter state call others) ⟨call.key, call.time + seconds⟩ = .error again

def TellsExactly (start : σ) : Prop :=
  ∀ calls, Always limiter.step (InOrder limiter) start calls →
    let state := run limiter.step start calls
    ∀ call wait, InOrder limiter state call → limiter.entry state call.key ≠ none →
      limiter.answer state call = .error wait → Exact limiter state call wait

structure Settled (decides : E → ℚ → Except Nat Unit) (left : E) (time : ℚ) (wait : Nat) : Prop where
  enough : ∀ later, time + wait ≤ later → decides left later = .ok ()
  least : ∀ seconds : Nat, 1 ≤ seconds → seconds < wait → ∃ again, decides left (time + seconds) = .error again

/-- A limiter whose answers depend on the entry of the key alone. -/
structure Lawful (invariant : σ → Prop) (decides : E → ℚ → Except Nat Unit) (leaves : E → ℚ → E) : Prop where
  kept : ∀ state call, invariant state → InOrder limiter state call → invariant (limiter.step state call)
  only : ∀ state call key entry, limiter.remaining state call key = some entry → limiter.entry state key = some entry
  frame : ∀ state call key, invariant state → InOrder limiter state call → call.key ≠ key →
    limiter.entry (limiter.step state call) key = limiter.remaining state call key
  found : ∀ state call entry, invariant state → InOrder limiter state call →
    limiter.remaining state call call.key = some entry →
    limiter.answer state call = decides entry call.time ∧
      limiter.entry (limiter.step state call) call.key = some (leaves entry call.time)
  readmits : ∀ state call, invariant state → InOrder limiter state call → limiter.entry state call.key ≠ none →
    limiter.remaining state call call.key = none → limiter.answer state call = .ok ()
  settled : ∀ state key entry time wait, invariant state → limiter.now state ≤ time →
    limiter.entry state key = some entry → decides entry time = .error wait →
    Settled decides (leaves entry time) time wait

namespace Lawful

variable {limiter} {invariant : σ → Prop} {decides : E → ℚ → Except Nat Unit} {leaves : E → ℚ → E} {state : σ}

theorem remaining_eq (lawful : Lawful limiter invariant decides leaves) {call : Call} {key : RateLimitKey} {entry : E}
    (present : limiter.entry state key = some entry) (keeps : Keeps limiter key state call) :
    limiter.remaining state call key = some entry := by
  obtain ⟨left, remains⟩ := Option.ne_none_iff_exists'.mp keeps.2
  rw [remains, ← lawful.only state call key left remains, present]

theorem entry_others (lawful : Lawful limiter invariant decides leaves) {key : RateLimitKey} {entry : E}
    {others : List Call} (valid : invariant state) (present : limiter.entry state key = some entry)
    (passing : Always limiter.step (fun state other => Keeps limiter key state other ∧ other.key ≠ key) state others) :
    invariant (run limiter.step state others) ∧ limiter.entry (run limiter.step state others) key = some entry := by
  refine passing.invariant limiter.step (fun state => invariant state ∧ limiter.entry state key = some entry) ?_
    ⟨valid, present⟩
  rintro state other ⟨keeps, apart⟩ ⟨valid, present⟩
  refine ⟨lawful.kept state other valid keeps.1, ?_⟩
  rw [lawful.frame state other key valid keeps.1 apart]
  exact lawful.remaining_eq present keeps

theorem answer_afterwards (lawful : Lawful limiter invariant decides leaves) {call : Call} {entry : E}
    {others : List Call} {later : ℚ} (valid : invariant state) (inOrder : InOrder limiter state call)
    (remains : limiter.remaining state call call.key = some entry)
    (passing : Always limiter.step (fun state other => Keeps limiter call.key state other ∧ other.key ≠ call.key)
      (limiter.step state call) others)
    (keeps : Keeps limiter call.key (afterwards limiter state call others) ⟨call.key, later⟩) :
    limiter.answer (afterwards limiter state call others) ⟨call.key, later⟩ =
      decides (leaves entry call.time) later := by
  have left := (lawful.found state call entry valid inOrder remains).2
  obtain ⟨validAfter, present⟩ := lawful.entry_others (lawful.kept state call valid inOrder) left passing
  have kept := lawful.remaining_eq present keeps
  exact (lawful.found (afterwards limiter state call others) ⟨call.key, later⟩ _ validAfter keeps.1 kept).1

theorem tellsExactly (lawful : Lawful limiter invariant decides leaves) {start : σ} (initial : invariant start) :
    TellsExactly limiter start := by
  intro calls inOrder state call wait next tracked refused
  have valid : invariant state :=
    inOrder.invariant limiter.step invariant (fun state call order valid => lawful.kept state call valid order) initial
  cases remains : limiter.remaining state call call.key with
  | none =>
    rw [lawful.readmits state call valid next tracked remains] at refused
    cases refused
  | some entry =>
    have answer := (lawful.found state call entry valid next remains).1
    have present := lawful.only state call call.key entry remains
    have settled := lawful.settled state call.key entry call.time wait valid next present (answer.symm.trans refused)
    constructor
    · intro others later passing keeps waited
      rw [lawful.answer_afterwards valid next remains passing keeps]
      exact settled.enough later waited
    · intro others seconds passing keeps positive short
      rw [lawful.answer_afterwards valid next remains passing keeps]
      exact settled.least seconds positive short

end Lawful

end

/-! A time rounded up to whole seconds, of which there is at least one. -/

theorem told_enough {need : ℚ} {wait : Nat} (told : wait = max ⌈need⌉₊ 1) : need ≤ wait := by
  have rounded : ⌈need⌉₊ ≤ wait := told ▸ le_max_left _ _
  exact Nat.ceil_le.mp rounded

theorem told_least {need : ℚ} {wait seconds : Nat} (told : wait = max ⌈need⌉₊ 1) (start : 1 ≤ seconds)
    (short : seconds < wait) : seconds < need := by
  apply Nat.lt_ceil.mp
  omega

/-! ### The token buckets -/

section Buckets
open TokenBucket

variable (layer : TokenBucketRateLimiterLayer)

def tokenBuckets : Limiter TokenBucket.Timed KeyedBucketEntry where
  now := TokenBucket.Timed.now
  step := TokenBucket.step layer
  answer state call := (tryConsume layer state.store call.key call.time).2
  entry state key := state.store.entries.lookup key
  remaining state call key := (TokenBucket.swept layer state.store call.key call.time).entries.lookup key

/-- What the configuration checks ensure: a bucket can hold a token, and gains one in a time that can be told. -/
structure Refills : Prop where
  able : 1 ≤ layer.capacity
  positive : 0 < rate layer
  bounded : 1 / rate layer ≤ (2 ^ 64 - 1 : Nat)

variable {layer}

theorem refills_of_accepted {serverName : Text} {cfg : TokenBucketRateLimiterConfig}
    (accepted : TokenBucket.buildLayer serverName cfg = .ok layer) (width : cfg.durationMicros < 2 ^ 64) :
    Refills layer := by
  unfold TokenBucket.buildLayer at accepted
  split_ifs at accepted with zero
  cases accepted
  have able : 1 ≤ cfg.maxCapacity := by omega
  have refill : (1 : ℚ) ≤ cfg.refill := by
    have whole : 1 ≤ cfg.refill := by omega
    exact_mod_cast whole
  have micros : (0 : ℚ) < cfg.durationMicros := by
    have whole : 0 < cfg.durationMicros := by omega
    exact_mod_cast whole
  have interval : (0 : ℚ) < cfg.durationMicros / 1000000 := by positivity
  have narrow : (cfg.durationMicros : ℚ) ≤ (2 ^ 64 - 1 : Nat) := by
    have whole : cfg.durationMicros ≤ 2 ^ 64 - 1 := by omega
    exact_mod_cast whole
  refine ⟨able, div_pos (by linarith) interval, ?_⟩
  change 1 / ((cfg.refill : ℚ) / (cfg.durationMicros / 1000000)) ≤ _
  calc 1 / ((cfg.refill : ℚ) / (cfg.durationMicros / 1000000))
      = cfg.durationMicros / 1000000 / cfg.refill := one_div_div _ _
    _ ≤ cfg.durationMicros / 1000000 := div_le_self interval.le refill
    _ ≤ cfg.durationMicros := div_le_self micros.le (by norm_num)
    _ ≤ _ := narrow

theorem retryAfter_eq (refills : Refills layer) {tokens : ℚ} (nonneg : 0 ≤ tokens) :
    retryAfter layer tokens = max ⌈(1 - tokens) / rate layer⌉₊ 1 := by
  have short : (1 - tokens) / rate layer ≤ (2 ^ 64 - 1 : Nat) := by
    refine le_trans ?_ refills.bounded
    exact div_le_div_of_nonneg_right (by linarith) refills.positive.le
  rw [retryAfter, if_neg refills.positive.ne', min_eq_left]
  exact max_le (Nat.ceil_le.mpr short) (by decide)

theorem settled_bucket (refills : Refills layer) {entry : KeyedBucketEntry} {time : ℚ} {wait : Nat}
    (holds : (bucket layer).Holds entry.level time) (refused : answerAt layer entry.level time = .error wait) :
    Settled (fun entry : KeyedBucketEntry => answerAt layer entry.level)
      (.ofLevel ((bucket layer).take entry.level time).2) time wait := by
  have nonneg := holds.available_nonneg
  have positive := refills.positive
  have able : (1 : ℚ) ≤ layer.capacity := by exact_mod_cast refills.able
  unfold answerAt at refused
  split_ifs at refused with enough
  have told : wait = max ⌈(1 - (bucket layer).available entry.level time) / rate layer⌉₊ 1 :=
    (Except.error.inj refused).symm.trans (retryAfter_eq refills nonneg)
  rw [Bucket.take, if_neg enough]
  generalize (bucket layer).available entry.level time = tokens at *
  have missing (elapsed : ℚ) : (1 - tokens) / rate layer ≤ elapsed ↔ 1 ≤ tokens + elapsed * rate layer := by
    rw [div_le_iff₀ positive, sub_le_iff_le_add']
  have later (elapsed : ℚ) : (bucket layer).available ⟨tokens, time⟩ (time + elapsed) =
      min (tokens + elapsed * rate layer) layer.capacity := by
    rw [Bucket.available, add_sub_cancel_left]
    rfl
  constructor
  · intro moment waited
    have elapsed : (1 - tokens) / rate layer ≤ moment - time := by
      have rounded := told_enough told
      linarith
    have refilled : 1 ≤ (bucket layer).available ⟨tokens, time⟩ (time + (moment - time)) := by
      rw [later]
      exact le_min ((missing _).mp elapsed) able
    rw [add_sub_cancel] at refilled
    exact if_pos refilled
  · intro seconds start short
    have lacking : ¬1 ≤ (bucket layer).available ⟨tokens, time⟩ (time + seconds) := by
      rw [later]
      intro full
      exact absurd ((missing _).mpr (full.trans (min_le_left _ _))) (not_le.mpr (told_least told start short))
    exact ⟨_, if_neg lacking⟩

theorem lawful_tokenBuckets (refills : Refills layer) :
    Lawful (tokenBuckets layer) (TokenBucket.Valid layer) (fun entry => answerAt layer entry.level)
      (fun entry now => .ofLevel ((bucket layer).take entry.level now).2) where
  kept _ _ valid inOrder := valid.step inOrder
  only state call key entry remains := (thinned_swept state.store call.key).only key entry remains
  frame _ _ key valid inOrder apart := (valid.consumed inOrder).frame key (Ne.symm apart)
  found _ _ entry valid inOrder remains :=
    have drawn := (valid.consumed inOrder).drawn entry remains
    ⟨drawn.2, drawn.1⟩
  readmits state call valid inOrder tracked dropped := by
    obtain ⟨entry, found⟩ := Option.ne_none_iff_exists'.mp tracked
    have thinned := @thinned_swept layer call.time state.store call.key
    have room : (TokenBucket.swept layer state.store call.key call.time).len < layer.maxEntries :=
      (thinned.length_lt found dropped).trans_le valid.sized
    exact (valid.consumed inOrder).admitted_of_room dropped room refills.able
  settled _ key entry _ _ valid order found refused :=
    settled_bucket refills ((valid.holds key entry found).1.mono order) refused

end Buckets

/-! ### The simple limiter -/

section Simple
open SimpleLimiter

variable (layer : SimpleRateLimiterLayer)

def simpleLimiter : Limiter SimpleLimiter.Timed KeyedSimpleEntry where
  now := SimpleLimiter.Timed.now
  step := SimpleLimiter.step layer
  answer state call := (checkAndRecord layer state.store call.key call.time).2
  entry state key := state.store.entries.lookup key
  remaining state call key := (SimpleLimiter.swept layer state.store call.key call.time).entries.lookup key

def decideSimple (entry : KeyedSimpleEntry) (now : ℚ) : Except Nat Unit :=
  if now < entry.nextAllowed then .error (waitSecs (durationSince entry.nextAllowed now)) else .ok ()

def leaveSimple (entry : KeyedSimpleEntry) (now : ℚ) : KeyedSimpleEntry :=
  if now < entry.nextAllowed then { entry with lastSeen := now } else ⟨now + layer.limitDuration, now⟩

variable {layer}

theorem answered_simple {store : KeyedSimpleRateLimitStore} {key : RateLimitKey} {now : ℚ} {entry : KeyedSimpleEntry}
    {result : KeyedSimpleRateLimitStore × Except Nat Unit} (spec : Recorded layer store key now result)
    (found : store.entries.lookup key = some entry) :
    result.2 = decideSimple entry now ∧ result.1.entries.lookup key = some (leaveSimple layer entry now) := by
  unfold decideSimple leaveSimple
  cases spec with
  | early before present early =>
    cases found.symm.trans present
    rw [if_pos early, if_pos early]
    exact ⟨rfl, AList.lookup_insert store.entries⟩
  | due before present due =>
    cases found.symm.trans present
    rw [if_neg (not_lt.mpr due), if_neg (not_lt.mpr due)]
    exact ⟨rfl, AList.lookup_insert store.entries⟩
  | refused absent crowded => cases found.symm.trans absent
  | inserted absent room => cases found.symm.trans absent

theorem settled_simple (short : layer.limitDuration ≤ 2 ^ 64 - 1) {entry : KeyedSimpleEntry} {time : ℚ} {wait : Nat}
    (near : entry.nextAllowed ≤ time + layer.limitDuration) (refused : decideSimple entry time = .error wait) :
    Settled decideSimple (leaveSimple layer entry time) time wait := by
  unfold decideSimple at refused
  split_ifs at refused with early
  have told : wait = max ⌈entry.nextAllowed - time⌉₊ 1 := by
    have since : durationSince entry.nextAllowed time = entry.nextAllowed - time :=
      max_eq_left (sub_nonneg.mpr early.le)
    have narrow : entry.nextAllowed - time ≤ (2 ^ 64 - 1 : Nat) := by
      push_cast
      linarith
    rw [← Except.error.inj refused, since, waitSecs, min_eq_left]
    exact max_le (Nat.ceil_le.mpr narrow) (by decide)
  rw [leaveSimple, if_pos early]
  constructor
  · intro later waited
    have due : entry.nextAllowed ≤ later := by
      have rounded := told_enough told
      linarith
    exact if_neg (not_lt.mpr due)
  · intro seconds start fewer
    have soon : time + seconds < entry.nextAllowed := by
      have remaining := told_least told start fewer
      linarith
    exact ⟨_, if_pos soon⟩

theorem lawful_simpleLimiter (short : layer.limitDuration ≤ 2 ^ 64 - 1) :
    Lawful (simpleLimiter layer) (SimpleLimiter.Valid layer) decideSimple (leaveSimple layer) where
  kept _ _ valid inOrder := valid.step inOrder
  only state call key entry remains := (thinned_swept state.store call.key).only key entry remains
  frame state call key _ _ apart :=
    (checkAndRecord_cases layer state.store call.key call.time).frame key (Ne.symm apart)
  found state call _ _ _ remains :=
    answered_simple (checkAndRecord_cases layer state.store call.key call.time) remains
  readmits state call valid _ tracked dropped := by
    obtain ⟨entry, found⟩ := Option.ne_none_iff_exists'.mp tracked
    have room : (SimpleLimiter.swept layer state.store call.key call.time).len < layer.maxEntries :=
      ((thinned_swept state.store call.key).length_lt found dropped).trans_le valid.sized
    exact (checkAndRecord_cases layer state.store call.key call.time).admitted_of_room dropped room
  settled _ key entry _ _ valid order found refused := by
    obtain ⟨past, near⟩ := valid.seen key entry found
    exact settled_simple short (near.trans (add_le_add_left (past.trans order) _)) refused

end Simple

/-- Both limiters tell every refused client of a tracked key the exact wait. -/
theorem retryAfter_exact :
    (∀ serverName cfg layer, TokenBucket.buildLayer serverName cfg = .ok layer → cfg.durationMicros < 2 ^ 64 →
      ∀ opened, TellsExactly (tokenBuckets layer) (TokenBucket.start opened)) ∧
    (∀ serverName cfg layer, SimpleLimiter.buildLayer serverName cfg = .ok layer →
      ∀ opened, TellsExactly (simpleLimiter layer) (SimpleLimiter.start opened)) := by
  constructor
  · intro serverName cfg layer accepted width opened
    exact (lawful_tokenBuckets (refills_of_accepted accepted width)).tellsExactly (TokenBucket.valid_start opened)
  · intro serverName cfg layer accepted opened
    have second := SimpleLimiter.limit_le_one_of_accepted accepted
    exact (lawful_simpleLimiter (second.trans (by norm_num))).tellsExactly (SimpleLimiter.valid_start opened)

/-- A bucket of one token that takes five seconds to fill tells a client four seconds, a second after its admission; a
client of the simple limiter is told a second. -/
theorem retryAfter_exact_four_seconds :
    (∃ layer, TokenBucket.buildLayer ['s'] ⟨1, 1, 5000000, 10, 300⟩ = .ok layer ∧
      Exact (tokenBuckets layer) (TokenBucket.step layer (TokenBucket.start 0) ⟨.global, 0⟩) ⟨.global, 1⟩ 4) ∧
    (∃ layer, SimpleLimiter.buildLayer ['s'] ⟨1, 10, 300⟩ = .ok layer ∧
      Exact (simpleLimiter layer) (SimpleLimiter.step layer (SimpleLimiter.start 0) ⟨.global, 0⟩) ⟨.global, 1 / 4⟩ 1) :=
  ⟨⟨_, rfl, retryAfter_exact.1 ['s'] ⟨1, 1, 5000000, 10, 300⟩ _ rfl (by decide) 0 [⟨.global, 0⟩] (by decide +kernel)
      ⟨.global, 1⟩ 4 (by decide +kernel) (by decide +kernel) (by decide +kernel)⟩,
    ⟨_, rfl, retryAfter_exact.2 ['s'] ⟨1, 10, 300⟩ _ rfl 0 [⟨.global, 0⟩] (by decide +kernel) ⟨.global, 1 / 4⟩ 1
      (by decide +kernel) (by decide +kernel) (by decide +kernel)⟩⟩

end Praeco.Limits.RetryAfter
