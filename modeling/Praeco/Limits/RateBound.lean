import Praeco.Limits.TokenBucket

/-! How many calls for one key the token buckets admit in a window of time. Pruning gives an idle key a full bucket, so
the bound of a single bucket holds if and only if a bucket is full again by the time its entry may be pruned. -/

namespace Praeco.Limits.RateBound
open Praeco.Strings Utf8 Praeco.Collections.Map Praeco.Rates.Tokens Praeco.Schedule.Runs TokenBucket

section

variable (layer : TokenBucketRateLimiterLayer) (key : RateLimitKey)

def admits (state : Timed) (call : Call) : Bool :=
  call.key = key && (tryConsume layer state.store call.key call.time).2.isOk

def admitted (first last : ℚ) : Timed → List Call → Nat :=
  admittedIn (step layer) Call.time (admits layer key) first last

def Bounded : Prop :=
  ∀ opened calls, Always (step layer) InOrder (start opened) calls → ∀ key first last, first ≤ last →
    (admitted layer key first last (start opened) calls : ℚ) ≤ layer.capacity + rate layer * (last - first)

def tokensFor (store : KeyedTokenBucketStore) (now : ℚ) : ℚ :=
  match store.entries.lookup key with
  | some entry => (bucket layer).available entry.level now
  | none => layer.capacity

end

section

variable {layer : TokenBucketRateLimiterLayer} {key : RateLimitKey} {store : KeyedTokenBucketStore} {state : Timed}
  {call : Call} {now later : ℚ}

theorem tokensFor_present {entry : KeyedBucketEntry} (found : store.entries.lookup key = some entry) :
    tokensFor layer key store now = (bucket layer).available entry.level now := by
  rw [tokensFor, found]

theorem tokensFor_absent (absent : store.entries.lookup key = none) :
    tokensFor layer key store now = layer.capacity := by
  rw [tokensFor, absent]

theorem answerAt_isOk (level : Level ℚ) : (answerAt layer level now).isOk = ((bucket layer).take level now).1 := by
  unfold answerAt Bucket.take
  split_ifs <;> rfl

theorem maxEntries_pos (valid : Valid layer state) {entry : KeyedBucketEntry}
    (found : state.store.entries.lookup key = some entry) : 0 < layer.maxEntries := by
  have stored : ⟨key, entry⟩ ∈ state.store.entries.entries := AList.mem_lookup_iff.mp found
  exact (List.length_pos_of_mem stored).trans_le valid.sized

/-- What may be pruned is full. -/
theorem tokensFor_swept (valid : Valid layer state) (inOrder : InOrder state call)
    (refilled : layer.maxEntries = 0 ∨ layer.capacity ≤ rate layer * layer.ttl) :
    tokensFor layer key (swept layer state.store call.key call.time) call.time =
      tokensFor layer key state.store call.time := by
  have thinned := @thinned_swept layer call.time state.store call.key
  cases after : (swept layer state.store call.key call.time).entries.lookup key with
  | some entry => rw [tokensFor_present after, tokensFor_present (thinned.only key entry after)]
  | none =>
    rw [tokensFor_absent after]
    cases before : state.store.entries.lookup key with
    | none => rw [tokensFor_absent before]
    | some entry =>
      have holds := valid.past inOrder key entry before
      have idle : layer.ttl ≤ call.time - entry.lastRefill := by
        by_contra short
        have seen : durationSince call.time entry.lastSeen = call.time - entry.lastRefill := by
          rw [durationSince, (valid.holds key entry before).2]
          exact max_eq_left (sub_nonneg.mpr holds.past)
        have since : durationSince call.time entry.lastSeen < layer.ttl := seen.trans_lt (not_le.mp short)
        rw [thinned.kept key entry before since] at after
        cases after
      rw [tokensFor_present before]
      refine (holds.available_idle ?_).symm
      calc (layer.capacity : ℚ) ≤ rate layer * layer.ttl := refilled.resolve_left (maxEntries_pos valid before).ne'
        _ ≤ rate layer * (call.time - entry.lastRefill) := mul_le_mul_of_nonneg_left idle (bucket layer).rate_nonneg
        _ = _ := mul_comm _ _

theorem tokensFor_consumed {result : KeyedTokenBucketStore × Except Nat Unit}
    (spec : Consumed layer store call.key call.time result) :
    tokensFor layer key result.1 call.time + (if call.key = key && result.2.isOk then 1 else 0) =
      tokensFor layer key store call.time := by
  by_cases own : call.key = key
  · subst own
    cases spec with
    | present entry found =>
      rw [tokensFor_present found, tokensFor_present (AList.lookup_insert _), answerAt_isOk, decide_eq_true rfl,
        Bool.true_and]
      exact Bucket.available_take
    | refused absent closed => simp [Except.isOk, Except.toBool]
    | inserted absent room able =>
      rw [tokensFor_absent absent, tokensFor_present (AList.lookup_insert _), answerAt_isOk, decide_eq_true rfl,
        Bool.true_and]
      exact Bucket.available_take.trans (available_full layer call.time)
  · rw [decide_eq_false own, Bool.false_and, if_neg Bool.false_ne_true, add_zero, tokensFor, tokensFor,
      spec.frame key (Ne.symm own)]

theorem tokensFor_pays (refilled : layer.maxEntries = 0 ∨ layer.capacity ≤ rate layer * layer.ttl) :
    Pays (step layer) Timed.now Call.time (admits layer key) (layer.capacity : ℚ) (rate layer) (Valid layer)
      (fun state now => tokensFor layer key state.store now) where
  kept _ _ valid inOrder := valid.step inOrder
  clocked _ _ := rfl
  spends state call valid inOrder :=
    ((tokensFor_consumed (valid.consumed inOrder)).trans (tokensFor_swept valid inOrder refilled)).le
  grows state now later order := by
    unfold tokensFor
    split
    · exact Bucket.available_later order
    · exact le_add_of_nonneg_right (mul_nonneg (sub_nonneg.mpr order) (bucket layer).rate_nonneg)
  nonneg state now valid reached := by
    unfold tokensFor
    split
    · rename_i entry found
      exact ((valid.holds key entry found).1.mono reached).available_nonneg
    · exact (bucket layer).capacity_nonneg
  capped state now := by
    unfold tokensFor
    split
    · exact Bucket.available_le_capacity
    · exact le_rfl

theorem bounded_of_refilled (refilled : layer.maxEntries = 0 ∨ layer.capacity ≤ rate layer * layer.ttl) :
    Bounded layer := by
  intro opened calls inOrder key first last window
  rw [mul_comm]
  exact (tokensFor_pays refilled).admittedIn_le (bucket layer).rate_nonneg (valid_start opened) inOrder window

/-! ### Two bursts across a cleanup -/

theorem tryConsume_empty {cleaned : ℚ} (emptied : KeyedTokenBucketStore.maybeCleanup layer store now = ⟨∅, cleaned⟩)
    (room : 0 < layer.maxEntries) (able : 1 ≤ layer.capacity) :
    tryConsume layer store key now = (⟨.singleton key ⟨layer.capacity - 1, now, now⟩, cleaned⟩, .ok ()) := by
  have open' : ¬layer.maxEntries ≤ 0 := not_le.mpr room
  unfold tryConsume
  rw [emptied]
  simp [KeyedTokenBucketStore.len, KeyedTokenBucketStore.insert, AList.insert_empty, open', able]

theorem tryConsume_again {cleaned tokens : ℚ} (calm : durationSince now cleaned ≤ 10) (enough : 1 ≤ tokens)
    (capped : tokens ≤ layer.capacity) :
    tryConsume layer ⟨.singleton key ⟨tokens, now, now⟩, cleaned⟩ key now =
      (⟨.singleton key ⟨tokens - 1, now, now⟩, cleaned⟩, .ok ()) := by
  have unchanged : KeyedTokenBucketStore.maybeCleanup layer ⟨.singleton key ⟨tokens, now, now⟩, cleaned⟩ now =
      ⟨.singleton key ⟨tokens, now, now⟩, cleaned⟩ := if_neg (not_lt.mpr calm)
  have idle : durationSince now now = 0 := by rw [durationSince, sub_self, max_self]
  unfold tryConsume
  rw [unchanged]
  simp [lookup_singleton, idle, capped, enough, KeyedTokenBucketStore.insert, AList.insert_singleton_eq]

def holding (key : RateLimitKey) (tokens now cleaned : ℚ) : Timed := ⟨⟨.singleton key ⟨tokens, now, now⟩, cleaned⟩, now⟩

theorem admitted_cons {calls : List Call} {first last : ℚ} {left : KeyedTokenBucketStore}
    (answer : tryConsume layer state.store key now = (left, .ok ())) (started : first ≤ now) (running : now ≤ last) :
    admitted layer key first last state (⟨key, now⟩ :: calls) =
      admitted layer key first last ⟨left, now⟩ calls + 1 := by
  have counted : admits layer key state ⟨key, now⟩ := by simp [admits, answer, Except.isOk, Except.toBool]
  rw [admitted, admittedIn, if_pos ⟨counted, started, running⟩, Nat.add_comm, step, answer]

theorem run_cons {calls : List Call} {left : KeyedTokenBucketStore} {answer : Except Nat Unit}
    (answered : tryConsume layer state.store key now = (left, answer)) :
    run (step layer) state (⟨key, now⟩ :: calls) = run (step layer) ⟨left, now⟩ calls := by
  rw [run, List.foldl_cons, step, answered]
  rfl

theorem burst_holding {first last cleaned : ℚ} (calm : durationSince now cleaned ≤ 10) (started : first ≤ now)
    (running : now ≤ last) (tokens : Nat) (capped : tokens ≤ layer.capacity) :
    admitted layer key first last (holding key tokens now cleaned) (.replicate tokens ⟨key, now⟩) = tokens ∧
      run (step layer) (holding key tokens now cleaned) (.replicate tokens ⟨key, now⟩) = holding key 0 now cleaned := by
  induction tokens with
  | zero => exact ⟨rfl, by rw [Nat.cast_zero]; rfl⟩
  | succ tokens ih =>
    have answer : tryConsume layer (holding key (tokens + 1 : Nat) now cleaned).store key now =
        ((holding key tokens now cleaned).store, .ok ()) := by
      have left : ((tokens + 1 : Nat) : ℚ) - 1 = tokens := by push_cast; ring
      have enough : 1 ≤ ((tokens + 1 : Nat) : ℚ) := by exact_mod_cast Nat.le_add_left 1 tokens
      rw [holding, holding, ← left]
      exact tryConsume_again calm enough (by exact_mod_cast capped)
    obtain ⟨count, final⟩ := ih (by omega)
    rw [List.replicate_succ, admitted_cons answer started running, run_cons answer]
    exact ⟨congrArg (· + 1) count, final⟩

theorem burst_empty {first last cleaned : ℚ}
    (emptied : KeyedTokenBucketStore.maybeCleanup layer state.store now = ⟨∅, cleaned⟩)
    (room : 0 < layer.maxEntries) (calm : durationSince now cleaned ≤ 10) (started : first ≤ now)
    (running : now ≤ last) (able : 1 ≤ layer.capacity) :
    admitted layer key first last state (.replicate layer.capacity ⟨key, now⟩) = layer.capacity ∧
      run (step layer) state (.replicate layer.capacity ⟨key, now⟩) = holding key 0 now cleaned := by
  obtain ⟨spare, whole⟩ := Nat.exists_eq_add_of_le' able
  have answer : tryConsume layer state.store key now = ((holding key spare now cleaned).store, .ok ()) := by
    have left : (layer.capacity : ℚ) - 1 = spare := by rw [whole]; push_cast; ring
    rw [holding, ← left]
    exact tryConsume_empty emptied room able
  have small : spare ≤ layer.capacity := by omega
  obtain ⟨count, final⟩ := @burst_holding layer key now first last cleaned calm started running spare small
  rw [whole, List.replicate_succ, admitted_cons answer started running, run_cons answer]
  exact ⟨congrArg (· + 1) count, final⟩

theorem inOrder_replicate (order : state.now ≤ now) (count : Nat) :
    Always (step layer) InOrder state (.replicate count ⟨key, now⟩) := by
  induction count generalizing state with
  | zero => trivial
  | succ count ih => exact ⟨order, ih le_rfl⟩

theorem exists_pause {rate ttl capacity : ℚ} (rate_nonneg : 0 ≤ rate) (ttl_nonneg : 0 ≤ ttl)
    (short : rate * ttl < capacity) : ∃ pause, 0 < pause ∧ ttl ≤ pause ∧ rate * pause < capacity := by
  have gap : 0 < (capacity - rate * ttl) / (rate + 1) := div_pos (sub_pos.mpr short) (by linarith)
  have spread : (capacity - rate * ttl) / (rate + 1) * (rate + 1) = capacity - rate * ttl :=
    div_mul_cancel₀ _ (by linarith)
  refine ⟨ttl + (capacity - rate * ttl) / (rate + 1), by linarith, by linarith, ?_⟩
  linarith

theorem maybeCleanup_new (within : now ≤ 10) :
    KeyedTokenBucketStore.maybeCleanup layer (start 0).store now = ⟨∅, 0⟩ := by
  have early : ¬10 < durationSince now 0 := by
    rw [durationSince, sub_zero]
    exact not_lt.mpr (max_le within (by norm_num))
  exact if_neg early

theorem maybeCleanup_holding {pause : ℚ} (positive : 0 < pause) (idle : layer.ttl ≤ pause) :
    KeyedTokenBucketStore.maybeCleanup layer (holding key 0 10 0).store (10 + pause) = ⟨∅, 10 + pause⟩ := by
  have due : 10 < durationSince (10 + pause) 0 := by linarith [sub_le_durationSince (10 + pause) 0]
  have old : layer.ttl ≤ durationSince (10 + pause) 10 := by linarith [sub_le_durationSince (10 + pause) 10]
  have dropped : retain (fun _ (entry : KeyedBucketEntry) => durationSince (10 + pause) entry.lastSeen < layer.ttl)
      (.singleton key ⟨0, 10, 10⟩) = ∅ := by
    apply retain_singleton
    simpa using old
  unfold KeyedTokenBucketStore.maybeCleanup KeyedTokenBucketStore.cleanup holding
  rw [if_pos due, dropped]

/-- An entry of a used bucket is pruned and a full bucket takes its place. -/
theorem not_bounded (room : 0 < layer.maxEntries) (short : rate layer * layer.ttl < layer.capacity) :
    ¬Bounded layer := by
  have rate_nonneg : 0 ≤ rate layer := (bucket layer).rate_nonneg
  have able : 1 ≤ layer.capacity := by
    have positive : (0 : ℚ) < layer.capacity := (mul_nonneg rate_nonneg layer.ttl_nonneg).trans_lt short
    exact_mod_cast positive
  obtain ⟨pause, positive, idle, early⟩ :
      ∃ pause, 0 < pause ∧ layer.ttl ≤ pause ∧ rate layer * pause < layer.capacity :=
    exists_pause rate_nonneg layer.ttl_nonneg short
  obtain ⟨firstCount, firstFinal⟩ :=
    @burst_empty layer .global (start 0) 10 10 (10 + pause) 0 (maybeCleanup_new le_rfl) room (by decide +kernel) le_rfl
      (by linarith) able
  obtain ⟨secondCount, secondFinal⟩ :=
    @burst_empty layer .global (holding .global 0 10 0) (10 + pause) 10 (10 + pause) (10 + pause)
      (maybeCleanup_holding positive idle) room (by simp [durationSince]) (by linarith) le_rfl able
  intro bounded
  have later : 10 ≤ 10 + pause := by linarith
  have inOrder : Always (step layer) InOrder (start 0)
      (.replicate layer.capacity ⟨.global, 10⟩ ++ .replicate layer.capacity ⟨.global, 10 + pause⟩) := by
    rw [always_append, firstFinal]
    exact ⟨inOrder_replicate (by decide +kernel) _, inOrder_replicate later _⟩
  have bound := bounded 0 _ inOrder .global 10 (10 + pause) later
  unfold admitted at bound firstCount secondCount
  rw [admittedIn_append, firstFinal, firstCount, secondCount, add_sub_cancel_left] at bound
  push_cast at bound
  linarith

theorem bounded_iff : Bounded layer ↔ layer.maxEntries = 0 ∨ layer.capacity ≤ rate layer * layer.ttl := by
  constructor
  · intro bounded
    by_contra neither
    rw [not_or, not_le] at neither
    exact not_bounded (Nat.pos_of_ne_zero neither.1) neither.2 bounded
  · exact bounded_of_refilled

end

/-- A configuration keeps the bound if and only if its buckets fill up within the time to live, or if it has no room
for entries at all. -/
theorem rate_bound_iff (serverName : Text) (cfg : TokenBucketRateLimiterConfig) (layer : TokenBucketRateLimiterLayer)
    (accepted : buildLayer serverName cfg = .ok layer) :
    Bounded layer ↔
      cfg.maxEntries = 0 ∨ cfg.maxCapacity * cfg.durationMicros ≤ cfg.refill * (cfg.ttlSeconds * 1000000) := by
  unfold buildLayer at accepted
  split_ifs at accepted with zero
  cases accepted
  rw [bounded_iff]
  have micros : (0 : ℚ) < cfg.durationMicros := by
    exact_mod_cast Nat.pos_of_ne_zero fun none => zero (Or.inr (Or.inr none))
  have refilled : (cfg.refill : ℚ) / (cfg.durationMicros / 1000000) * cfg.ttlSeconds =
      cfg.refill * (cfg.ttlSeconds * 1000000) / cfg.durationMicros := by
    field_simp
  apply or_congr_right
  change (cfg.maxCapacity : ℚ) ≤ (cfg.refill : ℚ) / (cfg.durationMicros / 1000000) * cfg.ttlSeconds ↔ _
  rw [refilled, le_div_iff₀ micros]
  exact_mod_cast Iff.rfl

/-- Ten requests a second with a burst of ten, kept for a minute. -/
theorem rate_bound_iff_minute : ∃ layer, buildLayer ['s'] ⟨10, 10, 1000000, 1000, 60⟩ = .ok layer ∧ Bounded layer :=
  ⟨_, rfl, (rate_bound_iff ['s'] ⟨10, 10, 1000000, 1000, 60⟩ _ rfl).mpr (Or.inr (by decide))⟩

/-- A burst of two that takes twenty seconds to fill up but is forgotten after one: four requests in two seconds. -/
theorem pruned_bucket_exceeds :
    ∃ layer, buildLayer ['s'] ⟨2, 1, 10000000, 1000, 1⟩ = .ok layer ∧
      let calls : List Call := [⟨.global, 10⟩, ⟨.global, 10⟩, ⟨.global, 12⟩, ⟨.global, 12⟩]
      Always (step layer) InOrder (start 0) calls ∧
        ¬(admitted layer .global 10 12 (start 0) calls : ℚ) ≤ layer.capacity + rate layer * (12 - 10) :=
  ⟨_, rfl, by decide +kernel, by decide +kernel⟩

end Praeco.Limits.RateBound
