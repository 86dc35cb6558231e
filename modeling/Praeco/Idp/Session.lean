import Praeco.Collections.Map
import Praeco.Jwt.Token
import Praeco.Net.Address
import Praeco.Schedule.Interleaving

/-! The session store of the QR login, as an object whose calls take one map access at a time. -/

namespace Praeco.Idp.Session
open Praeco.Strings Utf8 Fields Praeco.Jwt.Token Praeco.Net.Address Praeco.Collections.Map
open Praeco.Schedule.Interleaving

/-- A second, in the nanoseconds that instants and durations count. -/
def second : Nat := 1000000000

def maxLoginRequestsPerMinute : UInt32 := 15

def rateLimitWindow : Nat := 60 * second

def defaultMaxActiveSessions : Nat := 5000

def cleanupThrottleInterval : Nat := 10 * second

def maxConfirmAttempts : Nat := 3

/-- The comparison without an early exit: differences are collected over the whole length. -/
def constantTimeEq (a b : Bytes) : Bool :=
  if a.length ≠ b.length then false
  else (a.zip b).foldl (fun res (x, y) => res ||| (x ^^^ y)) 0 == 0

private theorem foldl_differences (pairs : List (UInt8 × UInt8)) (acc : UInt8) :
    pairs.foldl (fun res (x, y) => res ||| (x ^^^ y)) acc = 0 ↔ acc = 0 ∧ ∀ pair ∈ pairs, pair.1 = pair.2 := by
  induction pairs generalizing acc with
  | nil => simp
  | cons pair pairs ih =>
    rw [List.foldl_cons, ih]
    simp [UInt8.or_eq_zero_iff, and_assoc]

theorem constantTimeEq_iff (a b : Bytes) : constantTimeEq a b = true ↔ a = b := by
  have pointwise : a = b ↔ a.length = b.length ∧ ∀ pair ∈ a.zip b, pair.1 = pair.2 := by
    rw [← List.forall₂_eq_eq_eq, List.forall₂_iff_zip]
    simp
  rw [pointwise]
  unfold constantTimeEq
  by_cases lengths : a.length = b.length
  · simp [lengths, foldl_differences]
  · simp [lengths]

theorem constantTimeEq_utf8 (left right : Text) : constantTimeEq (utf8 left) (utf8 right) = true ↔ left = right := by
  rw [constantTimeEq_iff, utf8_injective.eq_iff]

structure SessionInfo where
  sessionId : Text
  pollSecret : Text
  userCode : Text
  deriving DecidableEq, Repr

inductive SessionStatus where
  | pending
  | confirmed (claims : Claims)
  deriving DecidableEq, Repr

structure SessionEntry where
  createdAt : Nat
  pollSecret : Text
  userCode : Text
  failedAttempts : Nat
  aud : Option Text
  clientIp : Option IpAddr
  status : SessionStatus
  deriving DecidableEq, Repr

inductive CreateSessionError where
  | rateLimited
  | capacityExceeded
  deriving DecidableEq, Repr

inductive PollError where
  | notFound
  | unauthorized
  deriving DecidableEq, Repr

inductive ConfirmError where
  | notFound
  | expired
  | invalidUserCode
  | alreadyConfirmed
  deriving DecidableEq, Repr

structure SessionStore where
  sessions : AList (fun _ : Text => SessionEntry)
  ipRateLimits : AList (fun _ : IpAddr => UInt32 × Nat)
  ttl : Nat
  maxActiveSessions : Nat
  lastCleanup : Nat
  cleanupLocked : Bool

def SessionStore.new (ttlSeconds now : Nat) : SessionStore :=
  ⟨∅, ∅, ttlSeconds * second, defaultMaxActiveSessions, now, false⟩

def cleanCode (code : Text) : Text := (code.filter (· ≠ '-')).map Char.toUpper

def codeMatches (expected : Text) : Option Text → Bool
  | some code => trim code ≠ [] && constantTimeEq (utf8 (cleanCode code)) (utf8 (cleanCode expected))
  | none => false

theorem codeMatches_some (expected : Text) (code : Option Text) (matched : codeMatches expected code = true) :
    ∃ text, code = some text ∧ cleanCode text = cleanCode expected := by
  cases code with
  | none => cases matched
  | some text =>
    simp only [codeMatches, Bool.and_eq_true, constantTimeEq_utf8] at matched
    exact ⟨text, rfl, matched.2⟩

def withAudience (aud : Option Text) (claims : Claims) : Claims :=
  match aud with
  | some aud => { claims with aud := some aud }
  | none => claims

structure CreateRequest where
  clientIp : Option IpAddr
  aud : Option Text
  info : SessionInfo
  deriving DecidableEq, Repr

def newEntry (request : CreateRequest) (createdAt : Nat) : SessionEntry :=
  ⟨createdAt, request.info.pollSecret, request.info.userCode, 0, request.aud, request.clientIp, .pending⟩

inductive Call where
  | createSession (request : CreateRequest)
  | verifySessionCode (sessionId : Text) (userCode : Option Text)
  | confirmSession (sessionId : Text) (userCode : Option Text) (claims : Claims)
  | getAndConsume (sessionId pollSecret : Text)
  | getSessionUserCode (sessionId : Text)
  | cleanupExpiredForce
  deriving DecidableEq, Repr

inductive Answer where
  | created (result : Except CreateSessionError SessionInfo)
  | checked (result : Except ConfirmError Unit)
  | polled (result : Except PollError SessionStatus)
  | userCode (code : Option Text)
  | cleaned
  deriving DecidableEq, Repr

/-- The accesses of `create_session`. The checks that are repeated after a forced cleanup carry a mark. -/
inductive CreatePhase where
  | lockCleanup
  | unlockCleanup (due : Bool)
  | retainSessions (next : CreatePhase)
  | retainRates (next : CreatePhase)
  | rateKnown (again : Bool)
  | rateLen (again : Bool)
  | rateEntry
  | sessionsLen (again : Bool)
  | readClock
  | insert (createdAt : Nat)
  deriving DecidableEq, Repr

/-- An access, with what its call remembers. A code check belongs to a confirmation if it carries claims. -/
inductive Access where
  | create (request : CreateRequest) (phase : CreatePhase)
  | checkCode (sessionId : Text) (userCode : Option Text) (claims : Option Claims)
  | removeExpired (sessionId : Text)
  | removeLocked (sessionId : Text)
  | confirm (sessionId : Text) (claims : Claims)
  | poll (sessionId pollSecret : Text)
  | pollRemove (sessionId : Text)
  | consume (sessionId pollSecret : Text)
  | readUserCode (sessionId : Text)
  | retainSessions
  | retainRates
  deriving DecidableEq, Repr

def start : Call → Access
  | .createSession request =>
    .create { request with clientIp := request.clientIp.map canonicalClientIp } .lockCleanup
  | .verifySessionCode sessionId userCode => .checkCode sessionId userCode none
  | .confirmSession sessionId userCode claims => .checkCode sessionId userCode (some claims)
  | .getAndConsume sessionId pollSecret => .poll sessionId pollSecret
  | .getSessionUserCode sessionId => .readUserCode sessionId
  | .cleanupExpiredForce => .retainSessions

namespace SessionStore

variable (store : SessionStore) (now : Nat)

def insert (sessionId : Text) (entry : SessionEntry) : SessionStore :=
  { store with sessions := store.sessions.insert sessionId entry }

def remove (sessionId : Text) : SessionStore := { store with sessions := store.sessions.erase sessionId }

def retainSessions : SessionStore :=
  { store with sessions := retain (fun _ entry => now - entry.createdAt ≤ store.ttl) store.sessions }

def retainRates : SessionStore :=
  { store with ipRateLimits := retain (fun _ (_, start) => now - start ≤ rateLimitWindow) store.ipRateLimits }

end SessionStore

def ratePhase (request : CreateRequest) : CreatePhase :=
  if request.clientIp.isSome then .rateKnown false else .sessionsLen false

def countRequest (now : Nat) (known : Option (UInt32 × Nat)) : UInt32 × Nat :=
  let (count, start) := known.getD (0, now)
  if rateLimitWindow < now - start then (1, now) else (count + 1, start)

def performCreate (now : Nat) (store : SessionStore) (request : CreateRequest) (phase : CreatePhase) :
    SessionStore × Progress Access Answer :=
  match phase with
  | .lockCleanup =>
    if store.cleanupLocked then (store, .running (.create request (ratePhase request)))
    else if cleanupThrottleInterval ≤ now - store.lastCleanup then
      ({ store with cleanupLocked := true, lastCleanup := now }, .running (.create request (.unlockCleanup true)))
    else ({ store with cleanupLocked := true }, .running (.create request (.unlockCleanup false)))
  | .unlockCleanup due =>
    ({ store with cleanupLocked := false },
      .running (.create request (if due then .retainSessions (ratePhase request) else ratePhase request)))
  | .retainSessions next => (store.retainSessions now, .running (.create request (.retainRates next)))
  | .retainRates next => (store.retainRates now, .running (.create request next))
  | .rateKnown again =>
    if (request.clientIp.bind store.ipRateLimits.lookup).isSome then (store, .running (.create request .rateEntry))
    else (store, .running (.create request (.rateLen again)))
  | .rateLen again =>
    if store.maxActiveSessions * 2 ≤ store.ipRateLimits.entries.length then
      if again then (store, .answered (.created (.error .capacityExceeded)))
      else (store, .running (.create request (.retainSessions (.rateKnown true))))
    else (store, .running (.create request .rateEntry))
  | .rateEntry =>
    match request.clientIp with
    | none => (store, .running (.create request (.sessionsLen false)))
    | some ip =>
      let (count, start) := countRequest now (store.ipRateLimits.lookup ip)
      let store := { store with ipRateLimits := store.ipRateLimits.insert ip (count, start) }
      if maxLoginRequestsPerMinute < count then (store, .answered (.created (.error .rateLimited)))
      else (store, .running (.create request (.sessionsLen false)))
  | .sessionsLen again =>
    if store.maxActiveSessions ≤ store.sessions.entries.length then
      if again then (store, .answered (.created (.error .capacityExceeded)))
      else (store, .running (.create request (.retainSessions (.sessionsLen true))))
    else (store, .running (.create request .readClock))
  | .readClock => (store, .running (.create request (.insert now)))
  | .insert createdAt =>
    (store.insert request.info.sessionId (newEntry request createdAt), .answered (.created (.ok request.info)))

def checkCode (now : Nat) (store : SessionStore) (sessionId : Text) (userCode : Option Text) (claims : Option Claims) :
    SessionStore × Progress Access Answer :=
  match store.sessions.lookup sessionId with
  | none => (store, .answered (.checked (.error .notFound)))
  | some entry =>
    if store.ttl < now - entry.createdAt then (store, .running (.removeExpired sessionId))
    else if entry.status ≠ .pending then (store, .answered (.checked (.error .alreadyConfirmed)))
    else if codeMatches entry.userCode userCode then
      match claims with
      | none => (store, .answered (.checked (.ok ())))
      | some claims => (store, .running (.confirm sessionId claims))
    else
      let attempts := min (entry.failedAttempts + 1) 255
      let store := store.insert sessionId { entry with failedAttempts := attempts }
      if maxConfirmAttempts ≤ attempts then (store, .running (.removeLocked sessionId))
      else (store, .answered (.checked (.error .invalidUserCode)))

/-- The second access of `confirm_session`: neither the age nor the counter is looked at again. -/
def confirm (store : SessionStore) (sessionId : Text) (claims : Claims) : SessionStore × Progress Access Answer :=
  match store.sessions.lookup sessionId with
  | none => (store, .answered (.checked (.error .notFound)))
  | some entry =>
    if entry.status ≠ .pending then (store, .answered (.checked (.error .alreadyConfirmed)))
    else
      (store.insert sessionId { entry with status := .confirmed (withAudience entry.aud claims) },
        .answered (.checked (.ok ())))

def poll (now : Nat) (store : SessionStore) (sessionId pollSecret : Text) : SessionStore × Progress Access Answer :=
  match store.sessions.lookup sessionId with
  | none => (store, .answered (.polled (.error .notFound)))
  | some entry =>
    if ¬constantTimeEq (utf8 entry.pollSecret) (utf8 pollSecret) then
      (store, .answered (.polled (.error .unauthorized)))
    else if store.ttl < now - entry.createdAt then (store, .running (.pollRemove sessionId))
    else if entry.status = .pending then (store, .answered (.polled (.ok .pending)))
    else (store, .running (.consume sessionId pollSecret))

/-- `remove_if`: the secret and the status are looked at again. -/
def consume (store : SessionStore) (sessionId pollSecret : Text) : SessionStore × Progress Access Answer :=
  match store.sessions.lookup sessionId with
  | none => (store, .answered (.polled (.error .notFound)))
  | some entry =>
    if constantTimeEq (utf8 entry.pollSecret) (utf8 pollSecret) ∧ entry.status ≠ .pending then
      (store.remove sessionId, .answered (.polled (.ok entry.status)))
    else (store, .answered (.polled (.error .notFound)))

def readUserCode (now : Nat) (store : SessionStore) (sessionId : Text) : Option Text :=
  (store.sessions.lookup sessionId).bind fun entry =>
    if now - entry.createdAt ≤ store.ttl then some entry.userCode else none

def perform (now : Nat) (store : SessionStore) : Access → SessionStore × Progress Access Answer
  | .create request phase => performCreate now store request phase
  | .checkCode sessionId userCode claims => checkCode now store sessionId userCode claims
  | .removeExpired sessionId => (store.remove sessionId, .answered (.checked (.error .expired)))
  | .removeLocked sessionId => (store.remove sessionId, .answered (.checked (.error .invalidUserCode)))
  | .confirm sessionId claims => confirm store sessionId claims
  | .poll sessionId pollSecret => poll now store sessionId pollSecret
  | .pollRemove sessionId => (store.remove sessionId, .answered (.polled (.error .notFound)))
  | .consume sessionId pollSecret => consume store sessionId pollSecret
  | .readUserCode sessionId => (store, .answered (.userCode (readUserCode now store sessionId)))
  | .retainSessions => (store.retainSessions now, .running .retainRates)
  | .retainRates => (store.retainRates now, .answered .cleaned)

def sessionStore : Object SessionStore Call Access Answer := ⟨start, perform⟩

end Praeco.Idp.Session
