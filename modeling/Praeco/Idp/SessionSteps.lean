import Praeco.Idp.Session

/-! What each access of the session store can do: its cases, with the entry they have found. -/

namespace Praeco.Idp.SessionSteps
open Praeco.Strings Utf8 Praeco.Jwt.Token Praeco.Collections.Map Praeco.Schedule.Interleaving Praeco.Idp.Session

section

variable (now : Nat) (store : SessionStore) (sessionId : Text)

def countFailure (entry : SessionEntry) : SessionEntry :=
  { entry with failedAttempts := min (entry.failedAttempts + 1) 255 }

inductive CodeChecked (userCode : Option Text) (claims : Option Claims) :
    SessionStore × Progress Access Answer → Prop where
  | missing (absent : store.sessions.lookup sessionId = none) :
    CodeChecked userCode claims (store, .answered (.checked (.error .notFound)))
  | expired (entry : SessionEntry) (known : store.sessions.lookup sessionId = some entry) :
    CodeChecked userCode claims (store, .running (.removeExpired sessionId))
  | settled (entry : SessionEntry) (known : store.sessions.lookup sessionId = some entry) :
    CodeChecked userCode claims (store, .answered (.checked (.error .alreadyConfirmed)))
  | verified (entry : SessionEntry) (known : store.sessions.lookup sessionId = some entry)
    (correct : codeMatches entry.userCode userCode = true) (noClaims : claims = none) :
    CodeChecked userCode claims (store, .answered (.checked (.ok ())))
  | cleared (entry : SessionEntry) (attached : Claims) (known : store.sessions.lookup sessionId = some entry)
    (correct : codeMatches entry.userCode userCode = true) (some : claims = some attached) :
    CodeChecked userCode claims (store, .running (.confirm sessionId attached))
  | counted (entry : SessionEntry) (known : store.sessions.lookup sessionId = some entry)
    (wrong : codeMatches entry.userCode userCode = false) (below : entry.failedAttempts + 1 < maxConfirmAttempts) :
    CodeChecked userCode claims
      (store.insert sessionId (countFailure entry), .answered (.checked (.error .invalidUserCode)))
  | locked (entry : SessionEntry) (known : store.sessions.lookup sessionId = some entry)
    (wrong : codeMatches entry.userCode userCode = false) (reached : maxConfirmAttempts ≤ entry.failedAttempts + 1) :
    CodeChecked userCode claims (store.insert sessionId (countFailure entry), .running (.removeLocked sessionId))

theorem checkCode_cases (userCode : Option Text) (claims : Option Claims) :
    CodeChecked store sessionId userCode claims (checkCode now store sessionId userCode claims) := by
  unfold checkCode
  cases known : store.sessions.lookup sessionId with
  | none => exact .missing known
  | some entry =>
    simp only
    split_ifs with old settled correct reached
    · exact .expired entry known
    · exact .settled entry known
    · cases claims with
      | none => exact .verified entry known correct rfl
      | some attached => exact .cleared entry attached known correct rfl
    · exact .locked entry known (Bool.eq_false_iff.mpr correct) (reached.trans (min_le_left _ _))
    · refine .counted entry known (Bool.eq_false_iff.mpr correct) ?_
      rw [le_min_iff, not_and_or] at reached
      exact Nat.lt_of_not_le (reached.resolve_right (by decide))

def attach (claims : Claims) (entry : SessionEntry) : SessionEntry :=
  { entry with status := .confirmed (withAudience entry.aud claims) }

inductive Confirmed (claims : Claims) : SessionStore × Progress Access Answer → Prop where
  | missing (absent : store.sessions.lookup sessionId = none) :
    Confirmed claims (store, .answered (.checked (.error .notFound)))
  | settled (entry : SessionEntry) (known : store.sessions.lookup sessionId = some entry)
    (settled : entry.status ≠ .pending) : Confirmed claims (store, .answered (.checked (.error .alreadyConfirmed)))
  | attached (entry : SessionEntry) (known : store.sessions.lookup sessionId = some entry)
    (pending : entry.status = .pending) :
    Confirmed claims (store.insert sessionId (attach claims entry), .answered (.checked (.ok ())))

theorem confirm_cases (claims : Claims) : Confirmed store sessionId claims (confirm store sessionId claims) := by
  unfold confirm
  cases known : store.sessions.lookup sessionId with
  | none => exact .missing known
  | some entry =>
    simp only
    split_ifs with settled
    · exact .settled entry known settled
    · exact .attached entry known (not_not.mp settled)

inductive Polled (pollSecret : Text) : SessionStore × Progress Access Answer → Prop where
  | missing (absent : store.sessions.lookup sessionId = none) :
    Polled pollSecret (store, .answered (.polled (.error .notFound)))
  | refused (entry : SessionEntry) (known : store.sessions.lookup sessionId = some entry) :
    Polled pollSecret (store, .answered (.polled (.error .unauthorized)))
  | expired (entry : SessionEntry) (known : store.sessions.lookup sessionId = some entry) :
    Polled pollSecret (store, .running (.pollRemove sessionId))
  | pending (entry : SessionEntry) (known : store.sessions.lookup sessionId = some entry) :
    Polled pollSecret (store, .answered (.polled (.ok .pending)))
  | cleared (entry : SessionEntry) (known : store.sessions.lookup sessionId = some entry)
    (secret : entry.pollSecret = pollSecret) (young : now - entry.createdAt ≤ store.ttl) :
    Polled pollSecret (store, .running (.consume sessionId pollSecret))

theorem poll_cases (pollSecret : Text) :
    Polled now store sessionId pollSecret (poll now store sessionId pollSecret) := by
  unfold poll
  cases known : store.sessions.lookup sessionId with
  | none => exact .missing known
  | some entry =>
    simp only [constantTimeEq_utf8]
    split_ifs with secret old pending
    · exact .expired entry known
    · exact .pending entry known
    · exact .cleared entry known secret (Nat.le_of_not_lt old)
    · exact .refused entry known

inductive Consumed (pollSecret : Text) : SessionStore × Progress Access Answer → Prop where
  | missing : Consumed pollSecret (store, .answered (.polled (.error .notFound)))
  | taken (entry : SessionEntry) (claims : Claims) (known : store.sessions.lookup sessionId = some entry)
    (secret : entry.pollSecret = pollSecret) (status : entry.status = .confirmed claims) :
    Consumed pollSecret (store.remove sessionId, .answered (.polled (.ok (.confirmed claims))))

theorem consume_cases (pollSecret : Text) :
    Consumed store sessionId pollSecret (consume store sessionId pollSecret) := by
  unfold consume
  cases known : store.sessions.lookup sessionId with
  | none => exact .missing
  | some entry =>
    simp only [constantTimeEq_utf8]
    split_ifs with present
    · cases status : entry.status with
      | pending => exact absurd status present.2
      | confirmed claims => exact .taken entry claims known present.1 status
    · exact .missing

inductive Creating (request : CreateRequest) : CreatePhase → SessionStore × Progress Access Answer → Prop where
  | quiet (phase next : CreatePhase) (after : SessionStore) (same : after.sessions = store.sessions)
    (ttl : after.ttl = store.ttl) (earlier : ∀ createdAt, phase ≠ .insert createdAt) :
    Creating request phase (after, .running (.create request next))
  | swept (next : CreatePhase) :
    Creating request (.retainSessions next) (store.retainSessions now, .running (.create request (.retainRates next)))
  | failed (phase : CreatePhase) (error : CreateSessionError) (after : SessionStore)
    (same : after.sessions = store.sessions) (ttl : after.ttl = store.ttl)
    (earlier : ∀ createdAt, phase ≠ .insert createdAt) :
    Creating request phase (after, .answered (.created (.error error)))
  | inserted (createdAt : Nat) :
    Creating request (.insert createdAt)
      (store.insert request.info.sessionId (newEntry request createdAt), .answered (.created (.ok request.info)))

theorem performCreate_cases (request : CreateRequest) (phase : CreatePhase) :
    Creating now store request phase (performCreate now store request phase) := by
  cases phase with
  | lockCleanup =>
    simp only [performCreate]
    split_ifs <;> exact .quiet _ _ _ rfl rfl (by simp)
  | unlockCleanup due => exact .quiet _ _ _ rfl rfl (by simp)
  | retainSessions next => exact .swept next
  | retainRates next => exact .quiet _ _ _ rfl rfl (by simp)
  | rateKnown again =>
    simp only [performCreate]
    split_ifs <;> exact .quiet _ _ _ rfl rfl (by simp)
  | rateLen again =>
    simp only [performCreate]
    split_ifs
    · exact .failed _ _ _ rfl rfl (by simp)
    · exact .quiet _ _ _ rfl rfl (by simp)
    · exact .quiet _ _ _ rfl rfl (by simp)
  | rateEntry =>
    simp only [performCreate]
    cases request.clientIp with
    | none => exact .quiet _ _ _ rfl rfl (by simp)
    | some ip =>
      simp only
      split_ifs
      · exact .failed _ _ _ rfl rfl (by simp)
      · exact .quiet _ _ _ rfl rfl (by simp)
  | sessionsLen again =>
    simp only [performCreate]
    split_ifs
    · exact .failed _ _ _ rfl rfl (by simp)
    · exact .quiet _ _ _ rfl rfl (by simp)
    · exact .quiet _ _ _ rfl rfl (by simp)
  | readClock => exact .quiet _ _ _ rfl rfl (by simp)
  | insert createdAt => exact .inserted createdAt

inductive Performed : Access → SessionStore × Progress Access Answer → Prop where
  | create {request : CreateRequest} {phase : CreatePhase} {result : SessionStore × Progress Access Answer}
    (spec : Creating now store request phase result) : Performed (.create request phase) result
  | checkCode {sessionId : Text} {userCode : Option Text} {claims : Option Claims}
    {result : SessionStore × Progress Access Answer} (spec : CodeChecked store sessionId userCode claims result) :
    Performed (.checkCode sessionId userCode claims) result
  | removeExpired {sessionId : Text} :
    Performed (.removeExpired sessionId) (store.remove sessionId, .answered (.checked (.error .expired)))
  | removeLocked {sessionId : Text} :
    Performed (.removeLocked sessionId) (store.remove sessionId, .answered (.checked (.error .invalidUserCode)))
  | confirm {sessionId : Text} {claims : Claims} {result : SessionStore × Progress Access Answer}
    (spec : Confirmed store sessionId claims result) : Performed (.confirm sessionId claims) result
  | poll {sessionId pollSecret : Text} {result : SessionStore × Progress Access Answer}
    (spec : Polled now store sessionId pollSecret result) : Performed (.poll sessionId pollSecret) result
  | pollRemove {sessionId : Text} :
    Performed (.pollRemove sessionId) (store.remove sessionId, .answered (.polled (.error .notFound)))
  | consume {sessionId pollSecret : Text} {result : SessionStore × Progress Access Answer}
    (spec : Consumed store sessionId pollSecret result) : Performed (.consume sessionId pollSecret) result
  | readUserCode {sessionId : Text} (code : Option Text) :
    Performed (.readUserCode sessionId) (store, .answered (.userCode code))
  | retainSessions : Performed .retainSessions (store.retainSessions now, .running .retainRates)
  | retainRates : Performed .retainRates (store.retainRates now, .answered .cleaned)

theorem perform_cases (access : Access) : Performed now store access (perform now store access) := by
  cases access with
  | create request phase => exact .create (performCreate_cases now store request phase)
  | checkCode sessionId userCode claims => exact .checkCode (checkCode_cases now store sessionId userCode claims)
  | removeExpired sessionId => exact .removeExpired
  | removeLocked sessionId => exact .removeLocked
  | confirm sessionId claims => exact .confirm (confirm_cases store sessionId claims)
  | poll sessionId pollSecret => exact .poll (poll_cases now store sessionId pollSecret)
  | pollRemove sessionId => exact .pollRemove
  | consume sessionId pollSecret => exact .consume (consume_cases store sessionId pollSecret)
  | readUserCode sessionId => exact .readUserCode _
  | retainSessions => exact .retainSessions
  | retainRates => exact .retainRates

end

section

variable {now : Nat} {store : SessionStore} {sessionId : Text} {entry : SessionEntry}

variable {key : Text} {result : SessionStore × Progress Access Answer} {access : Access}

theorem lookup_insert_some {added : SessionEntry}
    (found : (store.insert key added).sessions.lookup sessionId = some entry) :
    sessionId = key ∧ entry = added ∨ sessionId ≠ key ∧ store.sessions.lookup sessionId = some entry := by
  by_cases same : sessionId = key
  · subst same
    rw [SessionStore.insert, AList.lookup_insert] at found
    exact Or.inl ⟨rfl, (Option.some.inj found).symm⟩
  · rw [SessionStore.insert, AList.lookup_insert_ne same] at found
    exact Or.inr ⟨same, found⟩

theorem lookup_remove_some (found : (store.remove key).sessions.lookup sessionId = some entry) :
    sessionId ≠ key ∧ store.sessions.lookup sessionId = some entry := by
  by_cases same : sessionId = key
  · subst same
    simp [SessionStore.remove] at found
  · rw [SessionStore.remove, AList.lookup_erase_ne same] at found
    exact ⟨same, found⟩

theorem lookup_retainSessions_some
    (found : (store.retainSessions now).sessions.lookup sessionId = some entry) :
    store.sessions.lookup sessionId = some entry := by
  rw [SessionStore.retainSessions, lookup_retain, Option.filter_eq_some_iff] at found
  exact found.1

inductive EntryAfter (store : SessionStore) (sessionId : Text) : Access → SessionEntry → Prop where
  | kept (access : Access) (entry : SessionEntry) (known : store.sessions.lookup sessionId = some entry)
    (settled : ∀ claims, access = .confirm sessionId claims → entry.status ≠ .pending) :
    EntryAfter store sessionId access entry
  | counted (userCode : Option Text) (claims : Option Claims) (entry : SessionEntry)
    (known : store.sessions.lookup sessionId = some entry) :
    EntryAfter store sessionId (.checkCode sessionId userCode claims) (countFailure entry)
  | attached (claims : Claims) (entry : SessionEntry) (known : store.sessions.lookup sessionId = some entry)
    (pending : entry.status = .pending) :
    EntryAfter store sessionId (.confirm sessionId claims) (attach claims entry)
  | inserted (request : CreateRequest) (createdAt : Nat) (same : request.info.sessionId = sessionId) :
    EntryAfter store sessionId (.create request (.insert createdAt)) (newEntry request createdAt)

theorem Creating.entryAfter {request : CreateRequest} {phase : CreatePhase}
    (spec : Creating now store request phase result) (found : result.1.sessions.lookup sessionId = some entry) :
    EntryAfter store sessionId (.create request phase) entry := by
  cases spec with
  | quiet _ next after same ttl earlier =>
    rw [same] at found
    exact .kept _ entry found (by simp)
  | swept next => exact .kept _ entry (lookup_retainSessions_some found) (by simp)
  | failed _ error after same ttl earlier =>
    rw [same] at found
    exact .kept _ entry found (by simp)
  | inserted createdAt =>
    rcases lookup_insert_some found with ⟨same, rfl⟩ | ⟨-, old⟩
    · exact .inserted request createdAt same.symm
    · exact .kept _ entry old (by simp)

theorem CodeChecked.entryAfter {userCode : Option Text} {claims : Option Claims}
    (spec : CodeChecked store key userCode claims result) (found : result.1.sessions.lookup sessionId = some entry) :
    EntryAfter store sessionId (.checkCode key userCode claims) entry := by
  have changed (known : SessionEntry) (present : store.sessions.lookup key = some known)
      (found : (store.insert key (countFailure known)).sessions.lookup sessionId = some entry) :
      EntryAfter store sessionId (.checkCode key userCode claims) entry := by
    rcases lookup_insert_some found with ⟨rfl, rfl⟩ | ⟨-, old⟩
    · exact .counted userCode claims known present
    · exact .kept _ entry old (by simp)
  cases spec with
  | counted known present wrong below => exact changed known present found
  | locked known present wrong reached => exact changed known present found
  | _ => exact .kept _ entry found (by simp)

theorem Confirmed.entryAfter {claims : Claims} (spec : Confirmed store key claims result)
    (found : result.1.sessions.lookup sessionId = some entry) :
    EntryAfter store sessionId (.confirm key claims) entry := by
  cases spec with
  | missing absent =>
    refine .kept _ entry found ?_
    intro _ same
    cases same
    rw [absent] at found
    cases found
  | settled known present settled =>
    refine .kept _ entry found ?_
    intro _ same
    cases same
    obtain rfl := Option.some.inj (present.symm.trans found)
    exact settled
  | attached known present pending =>
    rcases lookup_insert_some found with ⟨rfl, rfl⟩ | ⟨other, old⟩
    · exact .attached claims known present pending
    · refine .kept _ entry old ?_
      intro _ same
      cases same
      exact absurd rfl other

theorem Performed.entryAfter (spec : Performed now store access result)
    (found : result.1.sessions.lookup sessionId = some entry) : EntryAfter store sessionId access entry := by
  cases spec with
  | create spec => exact spec.entryAfter found
  | checkCode spec => exact spec.entryAfter found
  | confirm spec => exact spec.entryAfter found
  | removeExpired => exact .kept _ entry (lookup_remove_some found).2 (by simp)
  | removeLocked => exact .kept _ entry (lookup_remove_some found).2 (by simp)
  | pollRemove => exact .kept _ entry (lookup_remove_some found).2 (by simp)
  | poll spec => cases spec <;> exact .kept _ entry found (by simp)
  | consume spec =>
    cases spec with
    | missing => exact .kept _ entry found (by simp)
    | taken known claims present secret status => exact .kept _ entry (lookup_remove_some found).2 (by simp)
  | readUserCode code => exact .kept _ entry found (by simp)
  | retainSessions => exact .kept _ entry (lookup_retainSessions_some found) (by simp)
  | retainRates => exact .kept _ entry found (by simp)

theorem perform_entry (found : (perform now store access).1.sessions.lookup sessionId = some entry) :
    EntryAfter store sessionId access entry := (perform_cases now store access).entryAfter found

/-- The access that can follow an access, with what has been found on the way. -/
inductive NextAccess (now : Nat) (store : SessionStore) : Access → Access → Prop where
  | create (request : CreateRequest) (phase next : CreatePhase) :
    NextAccess now store (.create request phase) (.create request next)
  | removeExpired (sessionId : Text) (userCode : Option Text) (claims : Option Claims) :
    NextAccess now store (.checkCode sessionId userCode claims) (.removeExpired sessionId)
  | removeLocked (sessionId : Text) (userCode : Option Text) (claims : Option Claims) :
    NextAccess now store (.checkCode sessionId userCode claims) (.removeLocked sessionId)
  | confirm (sessionId : Text) (userCode : Option Text) (claims : Claims) (entry : SessionEntry)
    (known : store.sessions.lookup sessionId = some entry) (correct : codeMatches entry.userCode userCode = true) :
    NextAccess now store (.checkCode sessionId userCode (some claims)) (.confirm sessionId claims)
  | pollRemove (sessionId pollSecret : Text) :
    NextAccess now store (.poll sessionId pollSecret) (.pollRemove sessionId)
  | consume (sessionId pollSecret : Text) (entry : SessionEntry)
    (known : store.sessions.lookup sessionId = some entry) (secret : entry.pollSecret = pollSecret)
    (young : now - entry.createdAt ≤ store.ttl) :
    NextAccess now store (.poll sessionId pollSecret) (.consume sessionId pollSecret)
  | retainRates : NextAccess now store .retainSessions .retainRates

theorem Performed.running {next : Access} (spec : Performed now store access result)
    (continues : result.2 = .running next) : NextAccess now store access next := by
  cases spec with
  | create spec =>
    cases spec with
    | inserted createdAt => cases continues
    | failed _ error after same ttl earlier => cases continues
    | _ =>
      cases continues
      exact .create _ _ _
  | checkCode spec =>
    cases spec with
    | expired known present =>
      cases continues
      exact .removeExpired _ _ _
    | locked known present wrong reached =>
      cases continues
      exact .removeLocked _ _ _
    | cleared known attached present correct carried =>
      cases continues
      subst carried
      exact .confirm _ _ attached known present correct
    | _ => cases continues
  | confirm spec => cases spec <;> cases continues
  | poll spec =>
    cases spec with
    | expired known present =>
      cases continues
      exact .pollRemove _ _
    | cleared known present secret young =>
      cases continues
      exact .consume _ _ known present secret young
    | _ => cases continues
  | consume spec => cases spec <;> cases continues
  | retainSessions =>
    cases continues
    exact .retainRates
  | _ => cases continues

theorem perform_running {next : Access} (continues : (perform now store access).2 = .running next) :
    NextAccess now store access next := (perform_cases now store access).running continues

theorem Performed.delivers {claims : Claims} (spec : Performed now store access result)
    (delivered : result.2 = .answered (.polled (.ok (.confirmed claims)))) :
    ∃ sessionId pollSecret entry, access = .consume sessionId pollSecret ∧
      store.sessions.lookup sessionId = some entry ∧ entry.pollSecret = pollSecret ∧
      entry.status = .confirmed claims ∧ result.1.sessions.lookup sessionId = none := by
  cases spec with
  | create spec => cases spec <;> cases delivered
  | checkCode spec => cases spec <;> cases delivered
  | confirm spec => cases spec <;> cases delivered
  | poll spec => cases spec <;> cases delivered
  | consume spec =>
    cases spec with
    | missing => cases delivered
    | taken entry found present secret status =>
      cases delivered
      exact ⟨_, _, entry, rfl, present, secret, status, AList.lookup_erase _ _⟩
  | _ => cases delivered

theorem perform_ttl (now : Nat) (store : SessionStore) (access : Access) :
    (perform now store access).1.ttl = store.ttl := by
  have spec := perform_cases now store access
  generalize perform now store access = result at spec ⊢
  cases spec with
  | create spec =>
    cases spec with
    | quiet _ next after same ttl earlier => exact ttl
    | failed _ error after same ttl earlier => exact ttl
    | _ => rfl
  | checkCode spec => cases spec <;> rfl
  | confirm spec => cases spec <;> rfl
  | poll spec => cases spec <;> rfl
  | consume spec => cases spec <;> rfl
  | _ => rfl

end

end Praeco.Idp.SessionSteps
