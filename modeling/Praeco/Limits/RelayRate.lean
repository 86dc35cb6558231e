import Praeco.Connections.Relay
import Praeco.Limits.TokenBucket

/-! The connection-rate limiter of the relay. A task drops, every minute, the buckets that were not used for two; an
address that comes back finds a full one. The bound of a single bucket therefore holds if and only if two minutes fill
a bucket. -/

namespace Praeco.Limits.RelayRate
open Praeco.Collections.Map Praeco.Net.Address Praeco.Connections.Relay Praeco.Rates.Tokens Praeco.Schedule.Runs
open TokenBucket (durationSince)

structure RateLimit where
  rate : ℚ
  burst : ℚ
  rate_nonneg : 0 ≤ rate
  burst_nonneg : 0 ≤ burst

def RateLimit.ofConfig (connectionsPerSec burst : Option UInt32) : RateLimit :=
  ⟨(connectionsPerSec.getD 50).toNat, (burst.getD 100).toNat, Nat.cast_nonneg _, Nat.cast_nonneg _⟩

structure TokenBucket where
  tokens : ℚ
  lastUpdate : ℚ
  deriving DecidableEq

namespace TokenBucket

def new (burst now : ℚ) : TokenBucket := ⟨burst, now⟩

def consume (limit : RateLimit) (bucket : TokenBucket) (now : ℚ) : Bool × TokenBucket :=
  let elapsed := durationSince now bucket.lastUpdate
  let tokens := bucket.tokens + elapsed * limit.rate
  let tokens := if limit.burst < tokens then limit.burst else tokens
  if 1 ≤ tokens then (true, ⟨tokens - 1, now⟩) else (false, ⟨tokens, now⟩)

end TokenBucket

def maxRateLimitEntries : Nat := 100000

abbrev RateLimits := AList (fun _ : IpAddr => TokenBucket)

def rateCheck (limit : RateLimit) (rateLimits : RateLimits) (ip : IpAddr) (now : ℚ) : Bool × RateLimits :=
  let canonicalIp := canonicalizeIp ip
  if rateLimits.lookup canonicalIp = none ∧ maxRateLimitEntries ≤ rateLimits.entries.length then (false, rateLimits)
  else
    let bucket := (rateLimits.lookup canonicalIp).getD (.new limit.burst now)
    let consumed := bucket.consume limit now
    (consumed.1, rateLimits.insert canonicalIp consumed.2)

def cleanup (rateLimits : RateLimits) (now : ℚ) : RateLimits :=
  retain (fun _ bucket => durationSince now bucket.lastUpdate < 120) rateLimits

inductive Event where
  | attempt (ip : IpAddr) (time : ℚ)
  | cleanup (time : ℚ)
  deriving DecidableEq

def Event.time : Event → ℚ
  | .attempt _ time => time
  | .cleanup time => time

structure DataPlane where
  rateLimits : RateLimits
  now : ℚ
  ticks : Nat

def start : DataPlane := ⟨∅, 0, 0⟩

section

variable (limit : RateLimit)

def step (state : DataPlane) : Event → DataPlane
  | .attempt ip time => ⟨(rateCheck limit state.rateLimits ip time).2, time, state.ticks⟩
  | .cleanup time => ⟨cleanup state.rateLimits time, time, state.ticks + 1⟩

/-- Times do not decrease. The first cleanup is at once and the others follow every minute; an attempt at the time of a
cleanup may come before it or after it. -/
def OnTime (state : DataPlane) : Event → Prop
  | .attempt _ time => state.now ≤ time ∧ time ≤ 60 * state.ticks
  | .cleanup time => time = 60 * state.ticks ∧ state.now ≤ time

instance OnTime.decidable : (state : DataPlane) → (event : Event) → Decidable (OnTime state event)
  | state, .attempt _ time => inferInstanceAs (Decidable (state.now ≤ time ∧ time ≤ 60 * state.ticks))
  | state, .cleanup time => inferInstanceAs (Decidable (time = 60 * state.ticks ∧ state.now ≤ time))

def passes (address : IpAddr) (state : DataPlane) : Event → Bool
  | .attempt ip time => canonicalizeIp ip = address && (rateCheck limit state.rateLimits ip time).1
  | .cleanup _ => false

def passed (address : IpAddr) (first last : ℚ) : DataPlane → List Event → Nat :=
  admittedIn (step limit) Event.time (passes limit address) first last

def Bounded : Prop :=
  ∀ events, Always (step limit) OnTime start events → ∀ address first last, first ≤ last →
    (passed limit address first last start events : ℚ) ≤ limit.burst + limit.rate * (last - first)

def bucketOf : Bucket ℚ := ⟨limit.burst, limit.rate, limit.burst_nonneg, limit.rate_nonneg⟩

def TokenBucket.level (bucket : TokenBucket) : Level ℚ := ⟨bucket.tokens, bucket.lastUpdate⟩

def TokenBucket.ofLevel (level : Level ℚ) : TokenBucket := ⟨level.tokens, level.since⟩

def bucketFor (rateLimits : RateLimits) (address : IpAddr) (now : ℚ) : Level ℚ :=
  match rateLimits.lookup address with
  | some bucket => bucket.level
  | none => (bucketOf limit).full now

def tokensFor (rateLimits : RateLimits) (address : IpAddr) (now : ℚ) : ℚ :=
  (bucketOf limit).available (bucketFor limit rateLimits address now) now

def Valid (state : DataPlane) : Prop :=
  ∀ address bucket, state.rateLimits.lookup address = some bucket → (bucketOf limit).Holds bucket.level state.now

variable {limit}

variable {bucket : TokenBucket} {now : ℚ} {rateLimits : RateLimits} {address : IpAddr} {count : Nat}

theorem consume_eq (past : bucket.lastUpdate ≤ now) :
    bucket.consume limit now =
      (((bucketOf limit).take bucket.level now).1, .ofLevel ((bucketOf limit).take bucket.level now).2) := by
  have tokens : (if limit.burst < bucket.tokens + durationSince now bucket.lastUpdate * limit.rate then limit.burst
      else bucket.tokens + durationSince now bucket.lastUpdate * limit.rate) =
        (bucketOf limit).available bucket.level now := by
    rw [durationSince, max_eq_left (sub_nonneg.mpr past), Bucket.available, min_comm, min_def_lt]
    rfl
  unfold TokenBucket.consume
  dsimp only
  rw [tokens, Bucket.take]
  split_ifs
  · rfl
  · rfl

theorem bucketFor_present (found : rateLimits.lookup address = some bucket) :
    bucketFor limit rateLimits address now = bucket.level := by
  rw [bucketFor, found]

theorem bucketFor_absent (absent : rateLimits.lookup address = none) :
    bucketFor limit rateLimits address now = (bucketOf limit).full now := by
  rw [bucketFor, absent]

theorem bucketFor_insert : bucketFor limit (rateLimits.insert address bucket) address now = bucket.level :=
  bucketFor_present (AList.lookup_insert rateLimits)

theorem bucketFor_insert_ne {other : IpAddr} (apart : other ≠ address) :
    bucketFor limit (rateLimits.insert address bucket) other now = bucketFor limit rateLimits other now := by
  simp only [bucketFor, AList.lookup_insert_ne apart]

theorem full_holds (now : ℚ) : (bucketOf limit).Holds ((bucketOf limit).full now) now :=
  ⟨limit.burst_nonneg, le_rfl, le_rfl⟩

theorem tokensFor_absent (absent : rateLimits.lookup address = none) :
    tokensFor limit rateLimits address now = limit.burst := by
  rw [tokensFor, bucketFor_absent absent]
  exact Bucket.available_now le_rfl rfl

inductive Checked (limit : RateLimit) (rateLimits : RateLimits) (address : IpAddr) (now : ℚ) :
    Bool × RateLimits → Prop where
  | crowded (absent : rateLimits.lookup address = none) (full : maxRateLimitEntries ≤ rateLimits.entries.length) :
    Checked limit rateLimits address now (false, rateLimits)
  | drawn (room : rateLimits.lookup address = none → rateLimits.entries.length < maxRateLimitEntries) :
    Checked limit rateLimits address now
      (((bucketOf limit).take (bucketFor limit rateLimits address now) now).1,
        rateLimits.insert address (.ofLevel ((bucketOf limit).take (bucketFor limit rateLimits address now) now).2))

theorem rateCheck_cases {ip : IpAddr}
    (past : ∀ bucket, rateLimits.lookup (canonicalizeIp ip) = some bucket → bucket.lastUpdate ≤ now) :
    Checked limit rateLimits (canonicalizeIp ip) now (rateCheck limit rateLimits ip now) := by
  have consumed : ((rateLimits.lookup (canonicalizeIp ip)).getD (.new limit.burst now)).consume limit now =
      (((bucketOf limit).take (bucketFor limit rateLimits (canonicalizeIp ip) now) now).1,
        .ofLevel ((bucketOf limit).take (bucketFor limit rateLimits (canonicalizeIp ip) now) now).2) := by
    cases found : rateLimits.lookup (canonicalizeIp ip) with
    | none =>
      rw [bucketFor_absent found]
      exact consume_eq le_rfl
    | some bucket =>
      rw [bucketFor_present found]
      exact consume_eq (past bucket found)
  unfold rateCheck
  dsimp only
  split_ifs with full
  · exact .crowded full.1 full.2
  · rw [consumed]
    exact .drawn fun absent => not_le.mp fun crowded => full ⟨absent, crowded⟩

theorem thinned_cleanup (rateLimits : RateLimits) (now : ℚ) :
    Thinned (fun bucket => durationSince now bucket.lastUpdate < 120) rateLimits (cleanup rateLimits now) :=
  thinned_retain _ _ rateLimits fun _ _ fresh => decide_eq_true fresh

theorem valid_start : Valid limit start := fun _ _ found => by cases found

section

variable {state : DataPlane}

theorem Valid.holds_for (valid : Valid limit state) (address : IpAddr) {now : ℚ} (order : state.now ≤ now) :
    (bucketOf limit).Holds (bucketFor limit state.rateLimits address now) now := by
  cases found : state.rateLimits.lookup address with
  | none =>
    rw [bucketFor_absent found]
    exact full_holds now
  | some bucket =>
    rw [bucketFor_present found]
    exact (valid address bucket found).mono order

theorem Valid.checked (valid : Valid limit state) (ip : IpAddr) {now : ℚ} (order : state.now ≤ now) :
    Checked limit state.rateLimits (canonicalizeIp ip) now (rateCheck limit state.rateLimits ip now) :=
  rateCheck_cases fun bucket found => (valid _ bucket found).past.trans order

theorem Valid.step (valid : Valid limit state) (event : Event) (order : state.now ≤ event.time) :
    Valid limit (RelayRate.step limit state event) := by
  intro address bucket found
  cases event with
  | cleanup time =>
    have before := (thinned_cleanup state.rateLimits time).only address bucket found
    exact (valid address bucket before).mono order
  | attempt ip time =>
    have spec : Checked limit state.rateLimits (canonicalizeIp ip) time (rateCheck limit state.rateLimits ip time) :=
      valid.checked ip order
    change (rateCheck limit state.rateLimits ip time).2.lookup address = some bucket at found
    generalize rateCheck limit state.rateLimits ip time = result at spec found
    cases spec with
    | crowded absent full => exact (valid address bucket found).mono order
    | drawn room =>
      by_cases own : address = canonicalizeIp ip
      · subst own
        cases Option.some.inj ((AList.lookup_insert _).symm.trans found)
        exact Bucket.take_holds (valid.holds_for _ order)
      · rw [AList.lookup_insert_ne own] at found
        exact (valid address bucket found).mono order

theorem tokensFor_attempt (valid : Valid limit state) (ip address : IpAddr) {time : ℚ} (order : state.now ≤ time) :
    tokensFor limit (rateCheck limit state.rateLimits ip time).2 address time +
        (if canonicalizeIp ip = address && (rateCheck limit state.rateLimits ip time).1 then 1 else 0) =
      tokensFor limit state.rateLimits address time := by
  have spec := valid.checked ip order
  generalize rateCheck limit state.rateLimits ip time = result at spec
  cases spec with
  | crowded absent full => simp
  | drawn room =>
    by_cases own : canonicalizeIp ip = address
    · subst own
      rw [decide_eq_true rfl, Bool.true_and, tokensFor, bucketFor_insert]
      exact Bucket.available_take
    · rw [decide_eq_false own, Bool.false_and, if_neg Bool.false_ne_true, add_zero, tokensFor, tokensFor,
        bucketFor_insert_ne (Ne.symm own)]

theorem tokensFor_cleanup (filled : limit.burst ≤ 120 * limit.rate) (valid : Valid limit state) (address : IpAddr)
    {time : ℚ} (order : state.now ≤ time) :
    tokensFor limit (cleanup state.rateLimits time) address time = tokensFor limit state.rateLimits address time := by
  have thinned := thinned_cleanup state.rateLimits time
  cases found : state.rateLimits.lookup address with
  | none => rw [tokensFor_absent found, tokensFor_absent (thinned.absent found)]
  | some bucket =>
    by_cases fresh : durationSince time bucket.lastUpdate < 120
    · rw [tokensFor, tokensFor, bucketFor_present found, bucketFor_present (thinned.kept address bucket found fresh)]
    · -- An idle bucket gained at least the burst.
      have holds := (valid address bucket found).mono order
      have since : durationSince time bucket.lastUpdate = time - bucket.lastUpdate :=
        max_eq_left (sub_nonneg.mpr holds.past)
      have idle : 120 ≤ time - bucket.lastUpdate := since ▸ not_lt.mp fresh
      have gained : limit.burst ≤ (time - bucket.lastUpdate) * limit.rate :=
        filled.trans (mul_le_mul_of_nonneg_right idle limit.rate_nonneg)
      have refilled : tokensFor limit state.rateLimits address time = limit.burst := by
        rw [tokensFor, bucketFor_present found]
        exact holds.available_idle gained
      rw [refilled]
      cases left : (cleanup state.rateLimits time).lookup address with
      | none => exact tokensFor_absent left
      | some kept =>
        rw [tokensFor, bucketFor_present left]
        cases (thinned.only address kept left).symm.trans found
        exact holds.available_idle gained

theorem tokensFor_pays (filled : limit.burst ≤ 120 * limit.rate) (address : IpAddr) :
    Pays (step limit) DataPlane.now Event.time (passes limit address) limit.burst limit.rate (Valid limit)
      (fun state now => tokensFor limit state.rateLimits address now) where
  kept _ event valid order := valid.step event order
  clocked _ event := by cases event <;> rfl
  spends state event valid order := by
    cases event with
    | attempt ip time => exact (tokensFor_attempt valid ip address order).le
    | cleanup time =>
      change tokensFor limit (cleanup state.rateLimits time) address time + 0 ≤ _
      rw [add_zero]
      exact (tokensFor_cleanup filled valid address order).le
  grows state now later order := by
    cases found : state.rateLimits.lookup address with
    | none =>
      rw [tokensFor_absent found, tokensFor_absent found]
      exact le_add_of_nonneg_right (mul_nonneg (sub_nonneg.mpr order) limit.rate_nonneg)
    | some bucket =>
      rw [tokensFor, tokensFor, bucketFor_present found, bucketFor_present found]
      exact Bucket.available_later order
  nonneg state now valid reached := (valid.holds_for address reached).available_nonneg
  capped _ _ := Bucket.available_le_capacity

theorem ordered_of_onTime {event : Event} (onTime : OnTime state event) : state.now ≤ event.time := by
  cases event with
  | attempt ip time => exact onTime.1
  | cleanup time => exact onTime.2

theorem bounded_of_filled (filled : limit.burst ≤ 120 * limit.rate) : Bounded limit := by
  intro events onTime address first last window
  rw [mul_comm]
  exact (tokensFor_pays filled address).admittedIn_le limit.rate_nonneg valid_start
    (onTime.conclude _ fun _ _ _ meets => ordered_of_onTime meets) window

theorem consume_small (small : limit.burst < 1) (bucket : TokenBucket) (now : ℚ) :
    (bucket.consume limit now).1 = false := by
  have few (tokens : ℚ) : ¬1 ≤ (if limit.burst < tokens then limit.burst else tokens) := by
    split_ifs <;> linarith
  unfold TokenBucket.consume
  dsimp only
  rw [if_neg (few _)]

theorem not_passes (small : limit.burst < 1) (address : IpAddr) (state : DataPlane) (event : Event) :
    passes limit address state event = false := by
  cases event with
  | cleanup time => rfl
  | attempt ip time =>
    have refused : (rateCheck limit state.rateLimits ip time).1 = false := by
      unfold rateCheck
      dsimp only
      split_ifs
      · rfl
      · exact consume_small small _ time
    rw [passes, refused, Bool.and_false]

theorem bounded_of_small (small : limit.burst < 1) : Bounded limit := by
  intro events onTime address first last window
  have none : passed limit address first last start events = 0 :=
    admittedIn_eq_zero _ _ _ (not_passes small address) first last start events
  rw [none, Nat.cast_zero]
  exact add_nonneg limit.burst_nonneg (mul_nonneg limit.rate_nonneg (sub_nonneg.mpr window))

end

/-! ### Two rounds across a cleanup -/

def client : IpAddr := .v4 0xc0000201

def emptied (now : ℚ) (ticks : Nat) : DataPlane := ⟨∅, now, ticks⟩

def holding (tokens since now : ℚ) (ticks : Nat) : DataPlane := ⟨.singleton client ⟨tokens, since⟩, now, ticks⟩

def Leads (limit : RateLimit) (first last : ℚ) (before : DataPlane) (count : Nat) (after : DataPlane) : Prop :=
  ∃ events, Always (step limit) OnTime before events ∧ run (step limit) before events = after ∧
    passed limit client first last before events = count

section

variable {first last now time : ℚ} {ticks : Nat} {rateLimits left : RateLimits}

theorem Leads.refl (state : DataPlane) : Leads limit first last state 0 state := ⟨[], trivial, rfl, rfl⟩

theorem Leads.trans {before middle after : DataPlane} {one two : Nat}
    (former : Leads limit first last before one middle)
    (latter : Leads limit first last middle two after) : Leads limit first last before (one + two) after := by
  obtain ⟨events, onTime, reached, count⟩ := former
  obtain ⟨rest, onTimeRest, reachedRest, countRest⟩ := latter
  subst reached
  refine ⟨events ++ rest, ?_, ?_, ?_⟩
  · exact (always_append _ _ _ _ _).mpr ⟨onTime, onTimeRest⟩
  · exact (run_append _ _ _ _).trans reachedRest
  · unfold passed at count countRest ⊢
    rw [admittedIn_append, count, countRest]

theorem leads_attempt (answer : rateCheck limit rateLimits client time = (true, left)) (order : now ≤ time)
    (due : time ≤ 60 * ticks) (started : first ≤ time) (running : time ≤ last) :
    Leads limit first last ⟨rateLimits, now, ticks⟩ 1 ⟨left, time, ticks⟩ := by
  have counted : passes limit client ⟨rateLimits, now, ticks⟩ (.attempt client time) = true := by
    rw [passes, answer, Bool.and_true]
    exact decide_eq_true rfl
  refine ⟨[.attempt client time], ⟨⟨order, due⟩, trivial⟩, ?_, ?_⟩
  · rw [run, List.foldl_cons, List.foldl_nil, step, answer]
  · rw [passed, admittedIn, if_pos ⟨counted, started, running⟩]
    rfl

theorem leads_cleanup (swept : cleanup rateLimits (60 * ticks) = left) (order : now ≤ 60 * ticks) :
    Leads limit first last ⟨rateLimits, now, ticks⟩ 0 ⟨left, 60 * ticks, ticks + 1⟩ := by
  refine ⟨[.cleanup (60 * ticks)], ⟨⟨rfl, order⟩, trivial⟩, ?_, rfl⟩
  rw [run, List.foldl_cons, List.foldl_nil, step, swept]

theorem le_minutes (ticks : Nat) (time : ℚ) : time ≤ 60 * (max ticks ⌈time / 60⌉₊ : Nat) := by
  have rounded : time / 60 ≤ (max ticks ⌈time / 60⌉₊ : Nat) := Nat.ceil_le.mp (le_max_right _ _)
  linarith

theorem leads_wait (quiet : ∀ moment, moment < time → cleanup rateLimits moment = rateLimits)
    (reached : now ≤ 60 * ticks) (order : now ≤ time) : ∃ moment, moment ≤ time ∧
      Leads limit first last ⟨rateLimits, now, ticks⟩ 0 ⟨rateLimits, moment, max ticks ⌈time / 60⌉₊⟩ := by
  induction minutes : ⌈time / 60⌉₊ - ticks generalizing now ticks with
  | zero =>
    rw [max_eq_left (Nat.le_of_sub_eq_zero minutes)]
    exact ⟨now, order, .refl _⟩
  | succ minutes ih =>
    have ahead : ticks < ⌈time / 60⌉₊ := by omega
    have due : 60 * (ticks : ℚ) < time := by
      have soon := Nat.lt_ceil.mp ahead
      linarith
    have next : 60 * (ticks : ℚ) ≤ 60 * (ticks + 1 : Nat) := by
      push_cast
      linarith
    obtain ⟨moment, within, leads⟩ := ih next due.le (by omega)
    rw [max_eq_right ahead] at leads
    rw [max_eq_right ahead.le]
    exact ⟨moment, within, (leads_cleanup (quiet _ due) reached).trans leads⟩

theorem cleanup_empty (moment : ℚ) : cleanup ∅ moment = ∅ := rfl

variable {tokens since : ℚ}

theorem cleanup_quiet {moment : ℚ} (fresh : moment < since + 120) :
    cleanup (.singleton client ⟨tokens, since⟩) moment = .singleton client ⟨tokens, since⟩ := by
  have kept : durationSince moment since < 120 := max_lt (by linarith) (by norm_num)
  apply AList.ext
  simp [cleanup, retain, kept]

theorem cleanup_idle {moment : ℚ} (idle : since + 120 ≤ moment) :
    cleanup (.singleton client ⟨tokens, since⟩) moment = ∅ := by
  apply retain_singleton
  have old : 120 ≤ durationSince moment since := le_max_of_le_left (by linarith)
  simpa using old

theorem rateCheck_empty (able : 1 ≤ limit.burst) :
    rateCheck limit ∅ client now = (true, .singleton client ⟨limit.burst - 1, now⟩) := by
  have idle : durationSince now now = 0 := by rw [durationSince, sub_self, max_self]
  simp [rateCheck, canonicalizeIp, client, maxRateLimitEntries, TokenBucket.consume, TokenBucket.new, idle, able]

theorem rateCheck_holding (order : since ≤ now) (enough : 1 ≤ tokens + (now - since) * limit.rate)
    (capped : tokens + (now - since) * limit.rate ≤ limit.burst) :
    rateCheck limit (.singleton client ⟨tokens, since⟩) client now =
      (true, .singleton client ⟨tokens + (now - since) * limit.rate - 1, now⟩) := by
  have elapsed : durationSince now since = now - since := max_eq_left (sub_nonneg.mpr order)
  have found : (AList.singleton client ⟨tokens, since⟩ : RateLimits).lookup (canonicalizeIp client) =
      some ⟨tokens, since⟩ := lookup_singleton client _
  unfold rateCheck
  dsimp only
  rw [found, if_neg (by simp), Option.getD_some, TokenBucket.consume]
  dsimp only
  rw [elapsed, if_neg (not_lt.mpr capped), if_pos enough]
  exact congrArg (Prod.mk true) AList.insert_singleton_eq

theorem leads_burst (order : now ≤ time) (due : time ≤ 60 * ticks) (started : first ≤ time) (running : time ≤ last)
    {count : Nat} (some : 1 ≤ count) (within : count ≤ limit.burst) :
    Leads limit first last (emptied now ticks) count (holding (limit.burst - count) time time ticks) := by
  induction count, some using Nat.le_induction with
  | base =>
    rw [Nat.cast_one] at within ⊢
    exact leads_attempt (rateCheck_empty within) order due started running
  | succ count _ ih =>
    push_cast at within
    have enough : 1 ≤ limit.burst - count + (time - time) * limit.rate := by
      rw [sub_self, zero_mul]
      linarith
    have capped : limit.burst - count + (time - time) * limit.rate ≤ limit.burst := by
      rw [sub_self, zero_mul, add_zero]
      exact sub_le_self _ (Nat.cast_nonneg _)
    have leads := (ih (by linarith)).trans
      (leads_attempt (rateCheck_holding le_rfl enough capped) le_rfl due started running)
    have left : limit.burst - count + (time - time) * limit.rate - 1 = limit.burst - (count + 1 : Nat) := by
      push_cast
      ring
    rw [left] at leads
    exact leads

end

/-- From an empty map on, so many connections of the client pass in a span of that length, with one at its end. -/
def Round (limit : RateLimit) (count : Nat) (pause : ℚ) : Prop :=
  ∀ (first last now time : ℚ) (ticks : Nat), now ≤ time → time ≤ 60 * ticks → first ≤ time → time + pause ≤ last →
    ∃ tokens, Leads limit first last (emptied now ticks) count
      (holding tokens (time + pause) (time + pause) (max ticks ⌈(time + pause) / 60⌉₊))

theorem round_whole (some : 1 ≤ count) (within : count ≤ limit.burst) : Round limit count 0 := by
  intro first last now time ticks order due started running
  rw [add_zero] at running ⊢
  have early : ⌈time / 60⌉₊ ≤ ticks := by
    rw [Nat.ceil_le]
    linarith
  rw [max_eq_left early]
  exact ⟨_, leads_burst order due started running some within⟩

theorem round_extra {pause : ℚ} (some : 1 ≤ count) (within : count ≤ limit.burst) (nonneg : 0 ≤ pause)
    (short : pause ≤ 120) (refilled : limit.burst + pause * limit.rate = count + 1) :
    Round limit (count + 1) pause := by
  intro first last now time ticks order due started running
  have burst := leads_burst order due started (by linarith) some within
  obtain ⟨moment, reached, wait⟩ := @leads_wait limit first last time (time + pause) ticks
    (.singleton client ⟨limit.burst - count, time⟩) (fun moment before => cleanup_quiet (by linarith)) due (by linarith)
  have single : limit.burst - count + (time + pause - time) * limit.rate = 1 := by
    rw [add_sub_cancel_left]
    linarith
  have able : (1 : ℚ) ≤ limit.burst := le_trans (by exact_mod_cast some) within
  have final := @leads_attempt limit first last moment (time + pause) _ _ _
    (rateCheck_holding (by linarith) single.ge (single.le.trans able)) reached (le_minutes ticks _) (by linarith)
    running
  exact ⟨_, (burst.trans wait).trans final⟩

/-- A round that ends on a minute, and another two minutes later, when the bucket has just been dropped. -/
theorem not_bounded_of_round {pause : ℚ} (round : Round limit count pause) (nonneg : 0 ≤ pause) (short : pause ≤ 120)
    (exceeds : limit.burst + limit.rate * (120 + 2 * pause) < 2 * count) : ¬Bounded limit := by
  obtain ⟨opened, reached, wait⟩ := @leads_wait limit (120 - pause) (240 + pause) 0 (120 - pause) 0 ∅
    (fun moment _ => cleanup_empty moment) (by simp) (by linarith)
  obtain ⟨tokens, former⟩ := round (120 - pause) (240 + pause) opened (120 - pause) _ reached (le_minutes 0 _) le_rfl
    (by linarith)
  have minute : max (max 0 ⌈(120 - pause) / 60⌉₊) ⌈(120 - pause + pause) / 60⌉₊ = 2 := by
    have two : ⌈(120 - pause + pause) / 60⌉₊ = 2 := by
      rw [sub_add_cancel]
      norm_num
    have before : ⌈(120 - pause) / 60⌉₊ ≤ 2 := Nat.ceil_le.mpr (by push_cast; linarith)
    rw [two]
    omega
  rw [minute, sub_add_cancel] at former
  obtain ⟨idle, _, rest⟩ := @leads_wait limit (120 - pause) (240 + pause) 120 240 2 (.singleton client ⟨tokens, 120⟩)
    (fun moment before => cleanup_quiet (by linarith)) (by norm_num) (by norm_num)
  have four : max 2 ⌈(240 : ℚ) / 60⌉₊ = 4 := by norm_num
  rw [four] at rest
  have dropped := @leads_cleanup limit (120 - pause) (240 + pause) idle 4 (.singleton client ⟨tokens, 120⟩) ∅
    (cleanup_idle (by norm_num)) (by push_cast; linarith)
  obtain ⟨_, latter⟩ := round (120 - pause) (240 + pause) (60 * (4 : Nat)) 240 5 (by norm_num) (by norm_num)
    (by linarith) le_rfl
  obtain ⟨events, onTime, _, counted⟩ := (((wait.trans former).trans rest).trans dropped).trans latter
  intro bounded
  have bound := bounded events onTime client (120 - pause) (240 + pause) (by linarith)
  have total : passed limit client (120 - pause) (240 + pause) start events = 2 * count := counted.trans (by ring)
  have span : 240 + pause - (120 - pause) = 120 + 2 * pause := by ring
  rw [total, span] at bound
  push_cast at bound
  linarith

theorem exists_pause {rate missing : ℚ} (rate_nonneg : 0 ≤ rate) (positive : 0 < missing)
    (within : missing ≤ 120 * rate) : ∃ pause, 0 ≤ pause ∧ pause ≤ 120 ∧ pause * rate = missing := by
  have gains : 0 < rate := by
    rcases rate_nonneg.lt_or_eq with gains | none
    · exact gains
    · rw [← none, mul_zero] at within
      linarith
  refine ⟨missing / rate, (div_pos positive gains).le, ?_, div_mul_cancel₀ missing gains.ne'⟩
  rw [div_le_iff₀ gains]
  exact within

theorem not_bounded (able : 1 ≤ limit.burst) (short : 120 * limit.rate < limit.burst) : ¬Bounded limit := by
  have some : 1 ≤ ⌊limit.burst⌋₊ := Nat.le_floor (by exact_mod_cast able)
  have one : (1 : ℚ) ≤ ⌊limit.burst⌋₊ := by exact_mod_cast some
  have within : (⌊limit.burst⌋₊ : ℚ) ≤ limit.burst := Nat.floor_le limit.burst_nonneg
  have above : limit.burst < ⌊limit.burst⌋₊ + 1 := Nat.lt_floor_add_one limit.burst
  by_cases apart : limit.burst + 120 * limit.rate < 2 * ⌊limit.burst⌋₊
  · exact not_bounded_of_round (round_whole some within) le_rfl (by norm_num) (by linarith)
  · -- The fraction of a token left in the bucket is worth waiting for.
    obtain ⟨pause, nonneg, fits, refilled⟩ :
        ∃ pause, 0 ≤ pause ∧ pause ≤ 120 ∧ pause * limit.rate = ⌊limit.burst⌋₊ + 1 - limit.burst :=
      exists_pause limit.rate_nonneg (by linarith) (by linarith)
    apply not_bounded_of_round (round_extra some within nonneg fits (by linarith)) nonneg fits
    push_cast
    linarith

theorem relay_rate_iff (limit : RateLimit) : Bounded limit ↔ limit.burst < 1 ∨ limit.burst ≤ 120 * limit.rate := by
  constructor
  · intro bounded
    by_contra neither
    rw [not_or, not_lt, not_le] at neither
    exact not_bounded neither.1 neither.2 bounded
  · rintro (small | filled)
    · exact bounded_of_small small
    · exact bounded_of_filled filled

/-- One connection a second with a burst of 150: twice the burst in two minutes. -/
theorem dropped_bucket_exceeds :
    let limit := RateLimit.ofConfig (some 1) (some 150)
    let events : List Event := .cleanup 0 :: .cleanup 60 :: .replicate 150 (.attempt client 120) ++
      [.cleanup 120, .cleanup 180, .cleanup 240] ++ .replicate 150 (.attempt client 240)
    Always (step limit) OnTime start events ∧
      ¬(passed limit client 120 240 start events : ℚ) ≤ limit.burst + limit.rate * (240 - 120) := by
  decide +kernel

end

end Praeco.Limits.RelayRate
