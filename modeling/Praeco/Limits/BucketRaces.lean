import Praeco.Limits.TokenBucket
import Praeco.Schedule.Sequential

/-! The token buckets under concurrent calls. A call reads the clock first and then takes one access to the map or to
the cleanup lock at a time, so the time it works with may be old, and what it has checked may no longer hold when it
inserts. Where neither happens, the buckets keep to their rate and the map to its size. -/

namespace Praeco.Limits.BucketRaces
open Praeco.Collections.Map Praeco.Rates.Tokens Praeco.Schedule.Runs Praeco.Schedule.Interleaving
open Praeco.Schedule.Sequential (block Completes)
open TokenBucket hiding step start

def seconds (clock : Nat) : ℚ := clock / 1000000000

structure Shared where
  store : KeyedTokenBucketStore
  locked : Bool

/-- An access, with the time its call has read. The cleanup at the start of a call and the one for a full map differ
in when they are due, and in what follows them. -/
inductive Access where
  | clock (key : RateLimitKey)
  | tryLock (key : RateLimitKey) (now : ℚ) (full : Bool)
  | lastCleanup (key : RateLimitKey) (now : ℚ) (full : Bool)
  | retain (key : RateLimitKey) (now : ℚ) (full : Bool)
  | unlock (key : RateLimitKey) (now : ℚ) (full : Bool)
  | getMut (key : RateLimitKey) (now : ℚ)
  | len (key : RateLimitKey) (now : ℚ)
  | lenAgain (key : RateLimitKey) (now : ℚ)
  | insert (key : RateLimitKey) (now : ℚ)
  deriving DecidableEq

abbrev Answer := Except Nat Unit

def cleanupDue (full : Bool) (elapsed : ℚ) : Bool := if full then 1 ≤ elapsed else 10 < elapsed

def afterCleanup (key : RateLimitKey) (now : ℚ) (full : Bool) : Access :=
  if full then .lenAgain key now else .getMut key now

section

variable (layer : TokenBucketRateLimiterLayer)

def withRoom (key : RateLimitKey) (now : ℚ) : Progress Access Answer :=
  if 1 ≤ layer.capacity then .running (.insert key now) else .answered (.error 1)

def perform (clock : Nat) (shared : Shared) : Access → Shared × Progress Access Answer
  | .clock key => (shared, .running (.tryLock key (seconds clock) false))
  | .tryLock key now full =>
    if shared.locked then (shared, .running (afterCleanup key now full))
    else ({ shared with locked := true }, .running (.lastCleanup key now full))
  | .lastCleanup key now full =>
    if cleanupDue full (durationSince now shared.store.lastCleanup) then
      ({ shared with store := { shared.store with lastCleanup := now } }, .running (.retain key now full))
    else (shared, .running (.unlock key now full))
  | .retain key now full =>
    ({ shared with store := shared.store.cleanup layer now }, .running (.unlock key now full))
  | .unlock key now full => ({ shared with locked := false }, .running (afterCleanup key now full))
  | .getMut key now =>
    match shared.store.entries.lookup key with
    | some entry =>
      let added := durationSince now entry.lastRefill * rate layer
      let tokens := min (entry.tokens + added) layer.capacity
      if 1 ≤ tokens then ({ shared with store := shared.store.insert key ⟨tokens - 1, now, now⟩ }, .answered (.ok ()))
      else
        ({ shared with store := shared.store.insert key ⟨tokens, now, now⟩ },
          .answered (.error (retryAfter layer tokens)))
    | none => (shared, .running (.len key now))
  | .len key now =>
    if layer.maxEntries ≤ shared.store.len then (shared, .running (.tryLock key now true))
    else (shared, withRoom layer key now)
  | .lenAgain key now =>
    if layer.maxEntries ≤ shared.store.len then (shared, .answered (.error 1)) else (shared, withRoom layer key now)
  | .insert key now =>
    ({ shared with store := shared.store.insert key ⟨layer.capacity - 1, now, now⟩ }, .answered (.ok ()))

def buckets : Object Shared RateLimitKey Access Answer := ⟨.clock, perform layer⟩

end

/-! ### A call that nothing interrupts -/

section

variable {layer : TokenBucketRateLimiterLayer} {clock : Nat} {store : KeyedTokenBucketStore} {key : RateLimitKey}
  {now : ℚ} {after : Shared} {answer : Answer}

def Ends (layer : TokenBucketRateLimiterLayer) (clock : Nat) (before : Shared) (access : Access) (after : Shared)
    (answer : Answer) : Prop :=
  ∃ made, Completes (buckets layer) clock before access made after answer

theorem Ends.step {before middle : Shared} {access later : Access}
    (performed : perform layer clock before access = (middle, .running later))
    (ends : Ends layer clock middle later after answer) : Ends layer clock before access after answer := by
  obtain ⟨made, completes⟩ := ends
  exact ⟨access :: made, .running performed completes⟩

theorem ends_answered {before : Shared} {access : Access}
    (performed : perform layer clock before access = (after, .answered answer)) :
    Ends layer clock before access after answer := ⟨[access], .answered performed⟩

theorem ends_cleanup (full : Bool) {cleaned : KeyedTokenBucketStore}
    (swept : cleaned = if cleanupDue full (durationSince now store.lastCleanup) then
      KeyedTokenBucketStore.cleanup layer { store with lastCleanup := now } now else store)
    (ends : Ends layer clock ⟨cleaned, false⟩ (afterCleanup key now full) after answer) :
    Ends layer clock ⟨store, false⟩ (.tryLock key now full) after answer := by
  have unlocked : Ends layer clock ⟨cleaned, true⟩ (.unlock key now full) after answer := .step rfl ends
  refine .step rfl ?_
  by_cases due : cleanupDue full (durationSince now store.lastCleanup) = true
  · rw [if_pos due] at swept
    subst swept
    exact .step (if_pos due) (.step rfl unlocked)
  · rw [if_neg due] at swept
    subst swept
    exact .step (if_neg due) unlocked

theorem maybeCleanup_eq : KeyedTokenBucketStore.maybeCleanup layer store now =
    if cleanupDue false (durationSince now store.lastCleanup) then
      KeyedTokenBucketStore.cleanup layer { store with lastCleanup := now } now else store := by
  simp [KeyedTokenBucketStore.maybeCleanup, cleanupDue]

theorem maybeCleanupWhenFull_eq : KeyedTokenBucketStore.maybeCleanupWhenFull layer store now =
    if cleanupDue true (durationSince now store.lastCleanup) then
      KeyedTokenBucketStore.cleanup layer { store with lastCleanup := now } now else store := by
  simp [KeyedTokenBucketStore.maybeCleanupWhenFull, cleanupDue]

theorem ends_withRoom {access : Access}
    (performed : perform layer clock ⟨store, false⟩ access = (⟨store, false⟩, withRoom layer key now))
    {result : KeyedTokenBucketStore × Answer}
    (inserted : result = if 1 ≤ layer.capacity then (store.insert key ⟨layer.capacity - 1, now, now⟩, .ok ())
      else (store, .error 1)) : Ends layer clock ⟨store, false⟩ access ⟨result.1, false⟩ result.2 := by
  unfold withRoom at performed
  by_cases able : 1 ≤ layer.capacity
  · rw [if_pos able] at performed inserted
    subst inserted
    exact .step performed (ends_answered rfl)
  · rw [if_neg able] at performed inserted
    subst inserted
    exact ends_answered performed

/-- A call that nothing interrupts does what `tryConsume` does. -/
theorem ends_tryConsume (layer : TokenBucketRateLimiterLayer) (clock : Nat) (store : KeyedTokenBucketStore)
    (key : RateLimitKey) :
    Ends layer clock ⟨store, false⟩ (.clock key) ⟨(tryConsume layer store key (seconds clock)).1, false⟩
      (tryConsume layer store key (seconds clock)).2 := by
  refine .step rfl (ends_cleanup false maybeCleanup_eq ?_)
  change Ends layer clock _ (.getMut key (seconds clock)) _ _
  unfold tryConsume
  dsimp only
  generalize KeyedTokenBucketStore.maybeCleanup layer store (seconds clock) = store
  cases found : store.entries.lookup key with
  | some entry =>
    apply ends_answered
    dsimp only [perform]
    rw [found]
    dsimp only
    split_ifs
    · rfl
    · rfl
  | none =>
    have absent : perform layer clock ⟨store, false⟩ (.getMut key (seconds clock)) =
        (⟨store, false⟩, .running (.len key (seconds clock))) := by
      dsimp only [perform]
      rw [found]
    refine .step absent ?_
    dsimp only
    by_cases crowded : layer.maxEntries ≤ store.len
    · rw [if_pos crowded]
      refine .step (if_pos crowded) (ends_cleanup true maybeCleanupWhenFull_eq ?_)
      change Ends layer clock _ (.lenAgain key (seconds clock)) _ _
      generalize KeyedTokenBucketStore.maybeCleanupWhenFull layer store (seconds clock) = store
      by_cases still : layer.maxEntries ≤ store.len
      · rw [if_pos still]
        exact ends_answered (if_pos still)
      · have room : perform layer clock ⟨store, false⟩ (.lenAgain key (seconds clock)) =
            (⟨store, false⟩, withRoom layer key (seconds clock)) := if_neg still
        exact ends_withRoom room (if_neg still)
    · have room : perform layer clock ⟨store, false⟩ (.len key (seconds clock)) =
          (⟨store, false⟩, withRoom layer key (seconds clock)) := if_neg crowded
      rw [if_neg crowded]
      exact ends_withRoom room (if_neg crowded)

end

abbrev Limiter := System Shared RateLimitKey Access Answer

def initial (opened : Nat) : Limiter := ⟨opened, ⟨.new (seconds opened), false⟩, [], []⟩

def admitted (system : Limiter) (key : RateLimitKey) : Nat :=
  system.threads.countP fun thread => thread.call = key ∧ thread.progress = .answered (.ok ())

section

variable (layer : TokenBucketRateLimiterLayer)

def Bounded (system : Limiter) : Prop :=
  ∀ key first, IsLeast {since | ∃ index progress, system.At index key since progress} first →
    (admitted system key : ℚ) ≤ layer.capacity + rate layer * (seconds system.clock - seconds first)

def Capped (system : Limiter) : Prop := system.shared.store.len ≤ layer.maxEntries

def Unpruned (shared : Shared) : Access → Prop
  | .retain _ now _ => ∀ entry ∈ shared.store.entries.entries, durationSince now entry.2.lastSeen < layer.ttl
  | _ => True

/-- The time a call has read is not older than the last refill, and what it has checked holds when it inserts. This is
what the order of the accesses is to ensure. -/
def Current (shared : Shared) : Access → Prop
  | .getMut key now => ∀ entry ∈ shared.store.entries.lookup key, entry.lastRefill ≤ now
  | .insert key _ => shared.store.entries.lookup key = none ∧ shared.store.len < layer.maxEntries
  | _ => True

instance Unpruned.decidable (shared : Shared) : (access : Access) → Decidable (Unpruned layer shared access)
  | .retain _ now _ =>
    inferInstanceAs (Decidable (∀ entry ∈ shared.store.entries.entries, durationSince now entry.2.lastSeen < layer.ttl))
  | .clock _ => .isTrue trivial
  | .tryLock _ _ _ => .isTrue trivial
  | .lastCleanup _ _ _ => .isTrue trivial
  | .unlock _ _ _ => .isTrue trivial
  | .getMut _ _ => .isTrue trivial
  | .len _ _ => .isTrue trivial
  | .lenAgain _ _ => .isTrue trivial
  | .insert _ _ => .isTrue trivial

end

namespace Access

def key : Access → RateLimitKey
  | .clock key => key
  | .tryLock key _ _ => key
  | .lastCleanup key _ _ => key
  | .retain key _ _ => key
  | .unlock key _ _ => key
  | .getMut key _ => key
  | .len key _ => key
  | .lenAgain key _ => key
  | .insert key _ => key

def readAt : Access → Option ℚ
  | .clock _ => none
  | .tryLock _ now _ => some now
  | .lastCleanup _ now _ => some now
  | .retain _ now _ => some now
  | .unlock _ now _ => some now
  | .getMut _ now => some now
  | .len _ now => some now
  | .lenAgain _ now => some now
  | .insert _ now => some now

def missed : Access → Bool
  | .tryLock _ _ full => full
  | .lastCleanup _ _ full => full
  | .retain _ _ full => full
  | .unlock _ _ full => full
  | .len _ _ => true
  | .lenAgain _ _ => true
  | .insert _ _ => true
  | _ => false

def passed : Access → Bool
  | .insert _ _ => true
  | _ => false

end Access

/-- No call inserts while another one stands between its length check and its insertion, or, with the same key, between
its missed lookup and its insertion; and no call refills or makes a bucket with a later time than another one of the
same key has read. -/
def Orderly (shared : Shared) (access other : Access) : Prop :=
  match access with
  | .insert key now => other.passed = false ∧
    (other.key = key → other.missed = false ∧ ∀ read ∈ other.readAt, now ≤ read)
  | .getMut key now => key ∈ shared.store.entries → other.key = key → ∀ read ∈ other.readAt, now ≤ read
  | _ => True

instance Orderly.decidable (shared : Shared) (access other : Access) : Decidable (Orderly shared access other) :=
  match access with
  | .insert key now => inferInstanceAs (Decidable (other.passed = false ∧
    (other.key = key → other.missed = false ∧ ∀ read ∈ other.readAt, now ≤ read)))
  | .getMut key now => inferInstanceAs (Decidable
    (key ∈ shared.store.entries → other.key = key → ∀ read ∈ other.readAt, now ≤ read))
  | .clock _ | .tryLock _ _ _ | .lastCleanup _ _ _ | .retain _ _ _ | .unlock _ _ _ | .len _ _ | .lenAgain _ _ =>
    .isTrue trivial

structure Follows (layer : TokenBucketRateLimiterLayer) (clock : Nat) (shared : Shared) (access next : Access) :
    Prop where
  key : next.key = access.key
  read : next.readAt = access.readAt ∨ access.readAt = none ∧ next.readAt = some (seconds clock)
  missed : next.missed = true → access.missed = true ∨ shared.store.entries.lookup access.key = none
  room : next.passed = true → 1 ≤ layer.capacity ∧ shared.store.len < layer.maxEntries

structure Fits (layer : TokenBucketRateLimiterLayer) (clock since : Nat) (call : RateLimitKey) (access : Access) :
    Prop where
  own : access.key = call
  read : ∀ now, access.readAt = some now → seconds since ≤ now ∧ now ≤ seconds clock
  able : access.passed = true → 1 ≤ layer.capacity

section

variable {layer : TokenBucketRateLimiterLayer} {clock since : Nat} {call : RateLimitKey} {shared : Shared}
  {access next : Access}

theorem seconds_mono {earlier later : Nat} (order : earlier ≤ later) : seconds earlier ≤ seconds later := by
  unfold seconds
  have cast : (earlier : ℚ) ≤ later := by exact_mod_cast order
  linarith

theorem follows_afterCleanup {key : RateLimitKey} {now : ℚ} (full : Bool) (own : access.key = key)
    (read : access.readAt = some now) (missed : access.missed = full) :
    Follows layer clock shared access (afterCleanup key now full) := by
  cases full with
  | false => exact ⟨own.symm, .inl read.symm, nofun, nofun⟩
  | true => exact ⟨own.symm, .inl read.symm, fun _ => .inl missed, nofun⟩

theorem follows_withRoom {key : RateLimitKey} {now : ℚ} (own : access.key = key) (read : access.readAt = some now)
    (missed : access.missed = true) (room : ¬layer.maxEntries ≤ shared.store.len)
    (running : withRoom layer key now = .running next) : Follows layer clock shared access next := by
  unfold BucketRaces.withRoom at running
  split_ifs at running with able
  cases running
  exact ⟨own.symm, .inl read.symm, fun _ => .inl missed, fun _ => ⟨able, not_le.mp room⟩⟩

theorem perform_follows (running : (perform layer clock shared access).2 = .running next) :
    Follows layer clock shared access next := by
  cases access with
  | clock key =>
    cases running
    exact ⟨rfl, .inr ⟨rfl, rfl⟩, nofun, nofun⟩
  | tryLock key now full =>
    dsimp only [perform] at running
    split_ifs at running
    · cases running
      exact follows_afterCleanup full rfl rfl rfl
    · cases running
      exact ⟨rfl, .inl rfl, .inl, nofun⟩
  | lastCleanup key now full =>
    dsimp only [perform] at running
    split_ifs at running
    · cases running
      exact ⟨rfl, .inl rfl, .inl, nofun⟩
    · cases running
      exact ⟨rfl, .inl rfl, .inl, nofun⟩
  | retain key now full =>
    cases running
    exact ⟨rfl, .inl rfl, .inl, nofun⟩
  | unlock key now full =>
    cases running
    exact follows_afterCleanup full rfl rfl rfl
  | getMut key now =>
    dsimp only [perform] at running
    split at running
    · split_ifs at running
    · next absent =>
      cases running
      exact ⟨rfl, .inl rfl, fun _ => .inr absent, nofun⟩
  | len key now =>
    dsimp only [perform] at running
    split_ifs at running with full
    · cases running
      exact ⟨rfl, .inl rfl, .inl, nofun⟩
    · exact follows_withRoom rfl rfl rfl full running
  | lenAgain key now =>
    dsimp only [perform] at running
    split_ifs at running with full
    exact follows_withRoom rfl rfl rfl full running
  | insert key now => cases running

theorem fits_clock (call : RateLimitKey) : Fits layer clock since call (.clock call) := ⟨rfl, nofun, nofun⟩

theorem Fits.later (fits : Fits layer clock since call access) {later : Nat} (order : clock ≤ later) :
    Fits layer later since call access :=
  ⟨fits.own, fun now read => ⟨(fits.read now read).1, (fits.read now read).2.trans (seconds_mono order)⟩, fits.able⟩

theorem Fits.carried (fits : Fits layer clock since call access) (arrived : since ≤ clock)
    (follows : Follows layer clock shared access next) : Fits layer clock since call next := by
  refine ⟨follows.key.trans fits.own, fun now read => ?_, fun passed => (follows.room passed).1⟩
  rcases follows.read with same | ⟨-, clocked⟩
  · exact fits.read now (same.symm.trans read)
  · cases clocked.symm.trans read
    exact ⟨seconds_mono arrived, le_rfl⟩

/-- What an access does that prunes nothing: it draws on the bucket of its key, it makes one, or it leaves the entries
and admits nobody. -/
inductive Effect (layer : TokenBucketRateLimiterLayer) (store : KeyedTokenBucketStore) :
    Access → KeyedTokenBucketStore → Progress Access Answer → Prop where
  | drawn {key : RateLimitKey} {now : ℚ} {entry : KeyedBucketEntry} {left : KeyedTokenBucketStore}
    (found : store.entries.lookup key = some entry) (past : entry.lastRefill ≤ now)
    (inserted : left.entries = store.entries.insert key (.ofLevel ((bucket layer).take entry.level now).2)) :
    Effect layer store (.getMut key now) left (.answered (answerAt layer entry.level now))
  | inserted {key : RateLimitKey} {now : ℚ} {left : KeyedTokenBucketStore}
    (absent : store.entries.lookup key = none) (room : store.len < layer.maxEntries)
    (inserted : left.entries = store.entries.insert key ⟨layer.capacity - 1, now, now⟩) :
    Effect layer store (.insert key now) left (.answered (.ok ()))
  | silent {access : Access} {left : KeyedTokenBucketStore} {progress : Progress Access Answer}
    (same : left.entries = store.entries) (waiting : progress ≠ .answered (.ok ())) :
    Effect layer store access left progress

theorem withRoom_ne_ok (key : RateLimitKey) (now : ℚ) : withRoom layer key now ≠ .answered (.ok ()) := by
  unfold withRoom
  split_ifs <;> simp

theorem perform_getMut {key : RateLimitKey} {now : ℚ} {entry : KeyedBucketEntry}
    (found : shared.store.entries.lookup key = some entry) (past : entry.lastRefill ≤ now) :
    perform layer clock shared (.getMut key now) =
      ({ shared with store := shared.store.insert key (.ofLevel ((bucket layer).take entry.level now).2) },
        .answered (answerAt layer entry.level now)) := by
  dsimp only [perform]
  rw [found]
  dsimp only
  rw [available_eq past, answerAt, Bucket.take]
  split_ifs
  · rfl
  · rfl

theorem perform_effect (unpruned : Unpruned layer shared access) (current : Current layer shared access) :
    Effect layer shared.store access (perform layer clock shared access).1.store
      (perform layer clock shared access).2 := by
  cases access with
  | clock key => exact .silent rfl (by simp [perform])
  | tryLock key now full =>
    dsimp only [perform]
    split_ifs
    · exact .silent rfl (by simp)
    · exact .silent rfl (by simp)
  | lastCleanup key now full =>
    dsimp only [perform]
    split_ifs
    · exact .silent rfl (by simp)
    · exact .silent rfl (by simp)
  | retain key now full =>
    refine .silent ?_ (by simp [perform])
    apply AList.ext
    apply List.filter_eq_self.mpr
    intro entry member
    exact decide_eq_true (unpruned entry member)
  | unlock key now full => exact .silent rfl (by simp [perform])
  | getMut key now =>
    cases found : shared.store.entries.lookup key with
    | some entry =>
      have past : entry.lastRefill ≤ now := current entry found
      rw [perform_getMut found past]
      exact .drawn found past rfl
    | none =>
      dsimp only [perform]
      rw [found]
      exact .silent rfl (by simp)
  | len key now =>
    dsimp only [perform]
    split_ifs
    · exact .silent rfl (by simp)
    · exact .silent rfl (withRoom_ne_ok key now)
  | lenAgain key now =>
    dsimp only [perform]
    split_ifs
    · exact .silent rfl (by simp)
    · exact .silent rfl (withRoom_ne_ok key now)
  | insert key now => exact .inserted current.1 current.2 rfl

/-- The account of a key: what was admitted and what its bucket still holds was in the bucket at first, or came in by
the time of the last refill. -/
def Balanced (layer : TokenBucketRateLimiterLayer) (store : KeyedTokenBucketStore) (key : RateLimitKey)
    (now first : ℚ) (count : Nat) : Prop :=
  match store.entries.lookup key with
  | some entry => (bucket layer).Holds entry.level now ∧
    count + entry.tokens ≤ layer.capacity + rate layer * (entry.lastRefill - first)
  | none => count = 0

section

variable {store left : KeyedTokenBucketStore} {key : RateLimitKey} {now first : ℚ} {count : Nat}
  {progress : Progress Access Answer}

theorem balanced_present {entry : KeyedBucketEntry} (found : store.entries.lookup key = some entry) :
    Balanced layer store key now first count ↔ (bucket layer).Holds entry.level now ∧
      count + entry.tokens ≤ layer.capacity + rate layer * (entry.lastRefill - first) := by
  rw [Balanced, found]

theorem balanced_absent (absent : store.entries.lookup key = none) :
    Balanced layer store key now first count ↔ count = 0 := by
  rw [Balanced, absent]

theorem Balanced.later (balanced : Balanced layer store key now first count) {later : ℚ} (order : now ≤ later) :
    Balanced layer store key later first count := by
  cases found : store.entries.lookup key with
  | none => exact (balanced_absent found).mpr ((balanced_absent found).mp balanced)
  | some entry =>
    obtain ⟨holds, paid⟩ := (balanced_present found).mp balanced
    exact (balanced_present found).mpr ⟨holds.mono order, paid⟩

theorem Balanced.congr (balanced : Balanced layer store key now first count)
    (same : left.entries.lookup key = store.entries.lookup key) : Balanced layer left key now first count := by
  unfold Balanced at balanced ⊢
  rw [same]
  exact balanced

theorem Balanced.drawn (balanced : Balanced layer store key now first count) {entry : KeyedBucketEntry} {read : ℚ}
    (found : store.entries.lookup key = some entry) (past : entry.lastRefill ≤ read) (recent : read ≤ now)
    (inserted : left.entries.lookup key = some (.ofLevel ((bucket layer).take entry.level read).2)) :
    Balanced layer left key now first
      (count + if answerAt layer entry.level read = .ok () then 1 else 0) := by
  obtain ⟨holds, paid⟩ := (balanced_present found).mp balanced
  have holdsAtRead : (bucket layer).Holds entry.level read := ⟨holds.nonneg, holds.capped, past⟩
  have taken := @Bucket.tokens_take ℚ _ _ (bucket layer) entry.level read
  have gained : (bucket layer).available entry.level read ≤ entry.tokens + (read - entry.lastRefill) * rate layer :=
    min_le_left _ _
  refine (balanced_present inserted).mpr ⟨(Bucket.take_holds holdsAtRead).mono recent, ?_⟩
  change ((count + if answerAt layer entry.level read = .ok () then 1 else 0 : Nat) : ℚ) +
    ((bucket layer).take entry.level read).2.tokens ≤
      layer.capacity + rate layer * (((bucket layer).take entry.level read).2.since - first)
  have counted : ((if answerAt layer entry.level read = .ok () then 1 else 0 : Nat) : ℚ) =
      if ((bucket layer).take entry.level read).1 then 1 else 0 := by
    simp only [answerAt_eq_ok, Nat.cast_ite, Nat.cast_one, Nat.cast_zero]
  rw [Nat.cast_add, counted, Bucket.since_take]
  linarith

theorem balanced_inserted {read : ℚ} (able : 1 ≤ layer.capacity) (begun : first ≤ read) (recent : read ≤ now)
    (inserted : left.entries.lookup key = some ⟨layer.capacity - 1, read, read⟩) :
    Balanced layer left key now first 1 := by
  have enough : (1 : ℚ) ≤ layer.capacity := by exact_mod_cast able
  have earned : 0 ≤ rate layer * (read - first) := mul_nonneg (bucket layer).rate_nonneg (sub_nonneg.mpr begun)
  refine (balanced_present inserted).mpr ⟨⟨sub_nonneg.mpr enough, sub_le_self _ zero_le_one, recent⟩, ?_⟩
  push_cast
  linarith

theorem Effect.balanced (effect : Effect layer store access left progress) (fits : Fits layer clock since call access)
    (begun : call = key → first ≤ seconds since) (balanced : Balanced layer store key (seconds clock) first count) :
    Balanced layer left key (seconds clock) first
      (count + if call = key ∧ progress = .answered (.ok ()) then 1 else 0) := by
  cases effect with
  | silent same waiting =>
    rw [if_neg fun counted => waiting counted.2, Nat.add_zero]
    exact balanced.congr (by rw [same])
  | @drawn own read entry left found past inserted =>
    cases fits.own
    by_cases same : own = key
    · subst same
      have after : left.entries.lookup own = some (.ofLevel ((bucket layer).take entry.level read).2) := by
        rw [inserted, AList.lookup_insert]
      have counted := balanced.drawn found past (fits.read read rfl).2 after
      simpa [Access.key] using counted
    · rw [if_neg fun counted => same counted.1, Nat.add_zero]
      exact balanced.congr (by rw [inserted, AList.lookup_insert_ne (Ne.symm same)])
  | @inserted own read left absent room inserted =>
    cases fits.own
    by_cases same : own = key
    · subst same
      have none : count = 0 := (balanced_absent absent).mp balanced
      have after : left.entries.lookup own = some ⟨layer.capacity - 1, read, read⟩ := by
        rw [inserted, AList.lookup_insert]
      rw [none, Nat.zero_add, if_pos ⟨rfl, rfl⟩]
      have reading := fits.read read rfl
      exact balanced_inserted (fits.able rfl) ((begun rfl).trans reading.1) reading.2 after
    · rw [if_neg fun counted => same counted.1, Nat.add_zero]
      exact balanced.congr (by rw [inserted, AList.lookup_insert_ne (Ne.symm same)])

theorem Effect.len_le (effect : Effect layer store access left progress) (sized : store.len ≤ layer.maxEntries) :
    left.len ≤ layer.maxEntries := by
  unfold KeyedTokenBucketStore.len at sized ⊢
  cases effect with
  | silent same waiting =>
    rw [same]
    exact sized
  | drawn found past inserted =>
    rw [inserted, length_insert_present _ _ _ _ found]
    exact sized
  | inserted absent room inserted =>
    rw [inserted, length_insert_absent _ _ _ absent]
    exact room

end

end

/-- What a call in progress has found still holds: a missed entry is missing, there is room for one that is about to be
inserted, and the bucket has not been refilled after the time that the call has read. -/
structure Promised (layer : TokenBucketRateLimiterLayer) (store : KeyedTokenBucketStore) (access : Access) : Prop where
  missing : access.missed = true → store.entries.lookup access.key = none
  room : access.passed = true → store.len < layer.maxEntries
  fresh : ∀ read, access.readAt = some read → ∀ entry, store.entries.lookup access.key = some entry →
    entry.lastRefill ≤ read

structure Settled (layer : TokenBucketRateLimiterLayer) (system : Limiter) : Prop where
  promised : ∀ index call since access, system.At index call since (.running access) →
    Promised layer system.shared.store access
  past : ∀ key entry, system.shared.store.entries.lookup key = some entry → entry.lastRefill ≤ seconds system.clock

section

variable {layer : TokenBucketRateLimiterLayer} {system : Limiter} {store left : KeyedTokenBucketStore} {clock : Nat}
  {access : Access} {progress : Progress Access Answer}

theorem Promised.current {shared : Shared} (promised : Promised layer shared.store access) :
    Current layer shared access := by
  cases access with
  | getMut key now => exact promised.fresh now rfl
  | insert key now => exact ⟨promised.missing rfl, promised.room rfl⟩
  | _ => exact trivial

theorem Effect.silent_of_running {next : Access} (effect : Effect layer store access left (.running next)) :
    left.entries = store.entries := by
  cases effect with
  | silent same _ => exact same

theorem Effect.entry (effect : Effect layer store access left progress) {key : RateLimitKey} {entry : KeyedBucketEntry}
    (found : left.entries.lookup key = some entry) :
    store.entries.lookup key = some entry ∨ key = access.key ∧ access.readAt = some entry.lastRefill ∧
      (access = .getMut key entry.lastRefill ∧ key ∈ store.entries ∨ access = .insert key entry.lastRefill) := by
  cases effect with
  | silent same _ => exact .inl (same ▸ found)
  | @drawn own now before _ known past inserted =>
    rw [inserted] at found
    by_cases same : key = own
    · subst same
      rw [AList.lookup_insert] at found
      cases found
      have present : key ∈ store.entries := AList.lookup_isSome.mp (known ▸ rfl)
      have refilled : (KeyedBucketEntry.ofLevel ((bucket layer).take before.level now).2).lastRefill = now :=
        Bucket.since_take
      rw [refilled]
      exact .inr ⟨rfl, rfl, .inl ⟨rfl, present⟩⟩
    · exact .inl (by rwa [AList.lookup_insert_ne same] at found)
  | @inserted own now _ absent room inserted =>
    rw [inserted] at found
    by_cases same : key = own
    · subst same
      rw [AList.lookup_insert] at found
      cases found
      exact .inr ⟨rfl, rfl, .inr rfl⟩
    · exact .inl (by rwa [AList.lookup_insert_ne same] at found)

theorem Effect.absent (effect : Effect layer store access left progress) {key : RateLimitKey}
    (absent : store.entries.lookup key = none) (spared : access.passed = true → access.key ≠ key) :
    left.entries.lookup key = none := by
  cases lookup : left.entries.lookup key with
  | none => rfl
  | some entry =>
    rcases effect.entry lookup with old | ⟨same, -, ⟨-, present⟩ | inserted⟩
    · cases absent.symm.trans old
    · exact absurd (AList.lookup_eq_none.mp absent) (not_not_intro present)
    · exact absurd same.symm (spared (inserted ▸ rfl))

theorem Effect.len_eq (effect : Effect layer store access left progress) (spared : access.passed = false) :
    left.len = store.len := by
  unfold KeyedTokenBucketStore.len
  cases effect with
  | silent same _ => rw [same]
  | drawn found past inserted => rw [inserted, length_insert_present _ _ _ _ found]
  | inserted absent room inserted => cases spared

theorem Orderly.alone {shared : Shared} {other : Access} (orderly : Orderly shared access other)
    (inserting : access.passed = true) : other.passed = false ∧ (other.key = access.key → other.missed = false) := by
  cases access with
  | insert key now => exact ⟨orderly.1, fun same => (orderly.2 same).1⟩
  | _ => cases inserting

theorem Promised.kept {shared : Shared} {other : Access} (promised : Promised layer shared.store other)
    (effect : Effect layer shared.store access left progress) (orderly : Orderly shared access other) :
    Promised layer left other where
  missing missed := by
    refine effect.absent (promised.missing missed) fun inserting same => ?_
    cases missed.symm.trans ((orderly.alone inserting).2 same.symm)
  room passed := by
    have spared : access.passed = false := by
      by_contra inserting
      cases passed.symm.trans (orderly.alone (Bool.eq_true_of_not_eq_false inserting)).1
    rw [effect.len_eq spared]
    exact promised.room passed
  fresh read reading entry found := by
    rcases effect.entry found with before | ⟨-, -, ⟨rfl, known⟩ | rfl⟩
    · exact promised.fresh read reading entry before
    · exact orderly known rfl read reading
    · exact (orderly.2 rfl).2 read reading

theorem Promised.followed {shared : Shared} {next : Access} (promised : Promised layer shared.store access)
    (past : ∀ key entry, shared.store.entries.lookup key = some entry → entry.lastRefill ≤ seconds clock)
    (effect : Effect layer shared.store access left (.running next))
    (follows : Follows layer clock shared access next) :
    Promised layer left next where
  missing missed := by
    rw [effect.silent_of_running, follows.key]
    exact (follows.missed missed).elim promised.missing id
  room passed := by
    unfold KeyedTokenBucketStore.len
    rw [effect.silent_of_running]
    exact (follows.room passed).2
  fresh read reading entry found := by
    rw [effect.silent_of_running, follows.key] at found
    rcases follows.read with kept | ⟨-, clocked⟩
    · exact promised.fresh read (kept.symm.trans reading) entry found
    · cases clocked.symm.trans reading
      exact past access.key entry found

theorem Settled.moved (settled : Settled layer system) {index : Nat} {call : RateLimitKey} {since : Nat}
    (running : system.At index call since (.running access)) (fits : Fits layer system.clock since call access)
    (unpruned : Unpruned layer system.shared access) (orderly : Apart Orderly system (.move index)) :
    Settled layer (system.moved (buckets layer) index ⟨call, since, .running access⟩ access) := by
  have promised := settled.promised index call since access running
  have effect := @perform_effect layer system.clock system.shared access unpruned promised.current
  constructor
  · intro other caller arrival upcoming present
    rcases (at_moved running).mp present with ⟨elsewhere, old⟩ | ⟨-, -, -, same⟩
    · exact (settled.promised other caller arrival upcoming old).kept effect (orderly.of_at running elsewhere old)
    · have follows := perform_follows same.symm
      change _ = (perform layer system.clock system.shared access).2 at same
      rw [← same] at effect
      exact promised.followed settled.past effect follows
  · intro key entry found
    rcases effect.entry found with before | ⟨-, read, -⟩
    · exact settled.past key entry before
    · exact (fits.read _ read).2

theorem settled_initial (opened : Nat) : Settled layer (initial opened) where
  promised _ _ _ _ present := by cases present
  past _ _ found := by cases found

theorem Settled.ticked (settled : Settled layer system) (duration : Nat) : Settled layer (system.ticked duration) where
  promised := settled.promised
  past key entry found := (settled.past key entry found).trans (seconds_mono (Nat.le_add_right _ _))

theorem Settled.called (settled : Settled layer system) (added : RateLimitKey) :
    Settled layer (system.called (buckets layer) added) where
  promised index call since access present := by
    rcases (at_called added).mp present with old | ⟨-, -, -, same⟩
    · exact settled.promised index call since access old
    · cases same
      exact ⟨nofun, nofun, nofun⟩
  past := settled.past

end

def Since (system : Limiter) (key : RateLimitKey) (first : Nat) : Prop :=
  ∀ index since progress, system.At index key since progress → first ≤ since

/-- What holds of every reachable system: the map is within its bound, the calls work with times they have read, and
the account of every key is balanced. -/
structure Accounted (layer : TokenBucketRateLimiterLayer) (system : Limiter) : Prop where
  capped : Capped layer system
  fits : ∀ index call since access, system.At index call since (.running access) →
    Fits layer system.clock since call access
  balanced : ∀ key first, Since system key first →
    Balanced layer system.shared.store key (seconds system.clock) (seconds first) (admitted system key)

section

variable {layer : TokenBucketRateLimiterLayer} {system : Limiter}

theorem accounted_initial (opened : Nat) : Accounted layer (initial opened) where
  capped := Nat.zero_le _
  fits _ _ _ _ present := by cases present
  balanced _ _ _ := rfl

theorem Accounted.ticked (accounted : Accounted layer system) (duration : Nat) :
    Accounted layer (system.ticked duration) where
  capped := accounted.capped
  fits index call since access present :=
    (accounted.fits index call since access present).later (Nat.le_add_right _ _)
  balanced key first started := (accounted.balanced key first started).later (seconds_mono (Nat.le_add_right _ _))

theorem Accounted.called (accounted : Accounted layer system) (added : RateLimitKey) :
    Accounted layer (system.called (buckets layer) added) where
  capped := accounted.capped
  fits index call since access present := by
    rcases (at_called added).mp present with old | ⟨-, rfl, -, same⟩
    · exact accounted.fits index call since access old
    · cases same
      exact fits_clock call
  balanced key first started := by
    have unchanged : admitted (system.called (buckets layer) added) key = admitted system key := by
      rw [admitted, count_called]
      simp [admitted]
    rw [unchanged]
    exact accounted.balanced key first fun index since progress present =>
      started index since progress (at_called_of_at added present)

theorem Accounted.moved (accounted : Accounted layer system) {index : Nat} {call : RateLimitKey} {since : Nat}
    {access : Access} (running : system.At index call since (.running access)) (arrived : since ≤ system.clock)
    (unpruned : Unpruned layer system.shared access) (current : Current layer system.shared access) :
    Accounted layer (system.moved (buckets layer) index ⟨call, since, .running access⟩ access) := by
  have fits := accounted.fits index call since access running
  have effect := @perform_effect layer system.clock system.shared access unpruned current
  refine ⟨effect.len_le accounted.capped, ?_, ?_⟩
  · intro other caller arrival upcoming present
    rcases (at_moved running).mp present with ⟨-, old⟩ | ⟨-, rfl, rfl, same⟩
    · exact accounted.fits other caller arrival upcoming old
    · exact fits.carried arrived (perform_follows same.symm)
  · intro key first started
    have earlier : Since system key first := by
      intro other arrival progress present
      obtain ⟨later, moved⟩ := @exists_at_moved _ _ _ _ (buckets layer) _ _ _ _ _ _ _ _ _ running present
      exact started other arrival later moved
    have counted : admitted (system.moved (buckets layer) index ⟨call, since, .running access⟩ access) key =
        admitted system key +
          if call = key ∧ (perform layer system.clock system.shared access).2 = .answered (.ok ()) then 1 else 0 := by
      rw [admitted, count_moved _ running, if_neg (by simp), Nat.sub_zero]
      exact congrArg (admitted system key + ·) (if_congr decide_eq_true_iff rfl rfl)
    rw [counted]
    apply effect.balanced fits _ (accounted.balanced key first earlier)
    rintro rfl
    exact seconds_mono (earlier index since _ running)

theorem reachable_accounted {opened : Nat}
    (reachable : Reachable (step (buckets layer)) (fun system label =>
      Meets (Unpruned layer) system label ∧ Apart Orderly system label) (initial opened) system) :
    Accounted layer system ∧ Settled layer system := by
  apply reachable_induction _ (initial opened) (fun system => Accounted layer system ∧ Settled layer system)
    ⟨accounted_initial opened, settled_initial opened⟩ _ _ _ reachable
  · intro system duration _ before
    exact ⟨before.1.ticked duration, before.2.ticked duration⟩
  · intro system added _ _ before
    exact ⟨before.1.called added, before.2.called added⟩
  · rintro system index call since access reached meets running ⟨accounted, settled⟩
    have arrived : since ≤ system.clock := reachable_since_le _ (initial opened) rfl reached running
    have unpruned := meets.1 access (due_move running)
    have fits := accounted.fits index call since access running
    have current := (settled.promised index call since access running).current
    exact ⟨accounted.moved running arrived unpruned current, settled.moved running fits unpruned meets.2⟩

theorem Accounted.bounded (accounted : Accounted layer system)
    (arrived : ∀ index call since progress, system.At index call since progress → since ≤ system.clock) :
    Bounded layer system := by
  rintro key first ⟨⟨index, progress, present⟩, least⟩
  have started : Since system key first := fun other since progress present => least ⟨other, progress, present⟩
  have balanced := accounted.balanced key first started
  cases found : system.shared.store.entries.lookup key with
  | none =>
    have elapsed : seconds first ≤ seconds system.clock := seconds_mono (arrived index key first progress present)
    rw [(balanced_absent found).mp balanced, Nat.cast_zero]
    exact add_nonneg (Nat.cast_nonneg _) (mul_nonneg (bucket layer).rate_nonneg (sub_nonneg.mpr elapsed))
  | some entry =>
    obtain ⟨holds, paid⟩ := (balanced_present found).mp balanced
    have nonneg : 0 ≤ entry.tokens := holds.nonneg
    have past : entry.lastRefill ≤ seconds system.clock := holds.past
    have grown : rate layer * (entry.lastRefill - seconds first) ≤
        rate layer * (seconds system.clock - seconds first) :=
      mul_le_mul_of_nonneg_left (sub_le_sub_right past _) (bucket layer).rate_nonneg
    linarith

end

/-- Under every schedule that prunes nothing, the buckets keep to their rate and the map to its size if no call inserts
while another one stands between its checks and its insertion, or refills a bucket before a call for it that has read an
earlier time. -/
theorem races_bounded (layer : TokenBucketRateLimiterLayer) (opened : Nat) (schedule : List (Label RateLimitKey))
    (unpruned : Always (step (buckets layer)) (Meets (Unpruned layer)) (initial opened) schedule)
    (orderly : Always (step (buckets layer)) (Apart Orderly) (initial opened) schedule) :
    Bounded layer (run (step (buckets layer)) (initial opened) schedule) ∧
      Capped layer (run (step (buckets layer)) (initial opened) schedule) := by
  have reachable := (unpruned.and _ orderly).reachable
  have accounted := (reachable_accounted reachable).1
  exact ⟨accounted.bounded fun _ _ _ _ present => reachable_since_le _ (initial opened) rfl reachable present,
    accounted.capped⟩

/-- Two calls for a key, the second of which has read the clock when the first one makes the bucket. -/
theorem races_bounded_pair :
    ∃ layer, buildLayer ['s'] ⟨1, 1, 10000000, 10, 300⟩ = .ok layer ∧
      let schedule : List (Label RateLimitKey) :=
        [.call .global, .call .global, .move 0, .move 1] ++ .replicate 6 (.move 0) ++
          .tick 10000000000 :: .replicate 4 (.move 1)
      Bounded layer (run (step (buckets layer)) (initial 0) schedule) ∧
        Capped layer (run (step (buckets layer)) (initial 0) schedule) :=
  ⟨_, rfl, races_bounded _ _ _ (by decide +kernel) (by decide +kernel)⟩

/-- Two calls for a key pass the check for its entry and the length check before either inserts. -/
def doubled (first second : RateLimitKey) : List (Label RateLimitKey) :=
  List.flatten [block 0 first 6, block 1 second 6, [.move 0, .move 1]]

/-- A call reads the clock and gets to the entry only after a later one, which has refilled the bucket. -/
def overtaken : List (Label RateLimitKey) :=
  List.flatten [block 0 .global 7, block 1 .global 4, .tick 10000000000 :: block 2 .global 5, [.move 1],
    block 3 .global 5]

/-- With a bucket of one token and a token every ten seconds: two first calls are admitted at once, and three calls in
ten seconds when one of them sets the time of the last refill back. With room for a single key, two are stored. -/
theorem races_exceed :
    ∃ layer, buildLayer ['s'] ⟨1, 1, 10000000, 1, 300⟩ = .ok layer ∧
      (Always (step (buckets layer)) (Meets (Unpruned layer)) (initial 0) (doubled .global .global) ∧
      admitted (run (step (buckets layer)) (initial 0) (doubled .global .global)) .global = 2 ∧
      ¬Bounded layer (run (step (buckets layer)) (initial 0) (doubled .global .global))) ∧
      (Always (step (buckets layer)) (Meets (Unpruned layer)) (initial 0) overtaken ∧
      admitted (run (step (buckets layer)) (initial 0) overtaken) .global = 3 ∧
      ¬Bounded layer (run (step (buckets layer)) (initial 0) overtaken)) ∧
      Always (step (buckets layer)) (Meets (Unpruned layer)) (initial 0) (doubled .global (.user ['a'])) ∧
      ¬Capped layer (run (step (buckets layer)) (initial 0) (doubled .global (.user ['a']))) := by
  refine ⟨_, rfl, ⟨by decide +kernel, by decide +kernel, ?_⟩, ⟨by decide +kernel, by decide +kernel, ?_⟩,
    by decide +kernel, ?_⟩
  · intro bounded
    refine absurd (bounded .global 0 ⟨⟨0, .answered (.ok ()), ?_⟩, fun _ _ => Nat.zero_le _⟩) ?_
    · unfold System.At
      decide +kernel
    · decide +kernel
  · intro bounded
    refine absurd (bounded .global 0 ⟨⟨0, .answered (.ok ()), ?_⟩, fun _ _ => Nat.zero_le _⟩) ?_
    · unfold System.At
      decide +kernel
    · decide +kernel
  · unfold Capped
    decide +kernel

end Praeco.Limits.BucketRaces
