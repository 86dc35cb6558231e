import Praeco.Idp.SessionSteps

/-! Safety of the QR login over every interleaving of calls: confirmed claims go to one poll, which holds the
session's secret, and they are those of the confirmation that came first. -/

namespace Praeco.Idp.SessionSafety
open Praeco.Strings Utf8 Praeco.Jwt.Token Praeco.Schedule.Runs Praeco.Schedule.Interleaving
open Praeco.Idp.Session Praeco.Idp.SessionSteps

abbrev SessionSystem := System SessionStore Call Access Answer

def initial (ttlSeconds now : Nat) : SessionSystem := ⟨now, SessionStore.new ttlSeconds now, [], []⟩

def Fresh (system : SessionSystem) : Label Call → Prop
  | .call (.createSession request) => ∀ index other since progress,
    system.At index (.createSession other) since progress → other.info.sessionId ≠ request.info.sessionId
  | _ => True

abbrev Run (ttlSeconds now : Nat) (system : SessionSystem) : Prop :=
  Reachable (step sessionStore) Fresh (initial ttlSeconds now) system

def Fits : Call → Access → Prop
  | .createSession request, access => ∃ phase,
    access = .create { request with clientIp := request.clientIp.map Net.Address.canonicalClientIp } phase
  | .verifySessionCode sessionId userCode, access =>
    access = .checkCode sessionId userCode none ∨ access = .removeExpired sessionId ∨ access = .removeLocked sessionId
  | .confirmSession sessionId userCode claims, access =>
    access = .checkCode sessionId userCode (some claims) ∨ access = .removeExpired sessionId ∨
      access = .removeLocked sessionId ∨ access = .confirm sessionId claims
  | .getAndConsume sessionId pollSecret, access =>
    access = .poll sessionId pollSecret ∨ access = .pollRemove sessionId ∨ access = .consume sessionId pollSecret
  | .getSessionUserCode sessionId, access => access = .readUserCode sessionId
  | .cleanupExpiredForce, access => access = .retainSessions ∨ access = .retainRates

theorem fits_start (call : Call) : Fits call (sessionStore.start call) := by
  cases call with
  | createSession request => exact ⟨_, rfl⟩
  | getSessionUserCode sessionId => rfl
  | _ => exact Or.inl rfl

theorem fits_next (now : Nat) (store : SessionStore) (call : Call) (access next : Access) (fit : Fits call access)
    (continues : (sessionStore.perform now store access).2 = .running next) : Fits call next := by
  have following := perform_running continues
  cases call <;> cases following <;> simp_all [Fits]

variable {call : Call}

theorem fits_create {request : CreateRequest} {phase : CreatePhase} (fit : Fits call (.create request phase)) :
    ∃ original, call = .createSession original ∧ original.info = request.info := by
  cases call <;> simp_all [Fits]

theorem fits_checkCode {sessionId : Text} {userCode : Option Text} {claims : Claims}
    (fit : Fits call (.checkCode sessionId userCode (some claims))) :
    call = .confirmSession sessionId userCode claims := by
  cases call <;> simp_all [Fits]

theorem fits_consume {sessionId pollSecret : Text} (fit : Fits call (.consume sessionId pollSecret)) :
    call = .getAndConsume sessionId pollSecret := by
  cases call <;> simp_all [Fits]

section

variable {ttlSeconds now : Nat} {system : SessionSystem}

def Created (history : List (Nat × Access)) (sessionId : Text) (session : SessionEntry) : Prop :=
  ∃ index request createdAt, (index, Access.create request (.insert createdAt)) ∈ history ∧
    request.info.sessionId = sessionId ∧ newEntry request createdAt = session

variable {moving index : Nat} {thread : Thread Call Access Answer} {access : Access} {sessionId : Text}
  {claims : Claims}

theorem created_moved {session : SessionEntry} (created : Created system.history sessionId session) :
    Created (system.moved sessionStore moving thread access).history sessionId session := by
  obtain ⟨index, request, createdAt, made, same, entry⟩ := created
  exact ⟨index, request, createdAt, mem_history_moved.mpr (Or.inl made), same, entry⟩

theorem created_of_moved {session : SessionEntry}
    (created : Created (system.moved sessionStore moving thread access).history sessionId session) :
    Created system.history sessionId session ∨
      ∃ request createdAt, access = .create request (.insert createdAt) ∧ request.info.sessionId = sessionId ∧
        newEntry request createdAt = session := by
  obtain ⟨index, request, createdAt, made, same, entry⟩ := created
  rcases mem_history_moved.mp made with old | ⟨-, now⟩
  · exact Or.inl ⟨index, request, createdAt, old, same, entry⟩
  · exact Or.inr ⟨request, createdAt, now.symm, same, entry⟩

/-- An entry belongs to a session: it differs from it in the counter and the status only. -/
structure Belongs (session entry : SessionEntry) : Prop where
  createdAt : entry.createdAt = session.createdAt
  pollSecret : entry.pollSecret = session.pollSecret
  userCode : entry.userCode = session.userCode
  aud : entry.aud = session.aud

def ConfirmsWithCode (system : SessionSystem) (index : Nat) (sessionId : Text) (claims : Claims) : Prop :=
  ∃ userCode since progress session, system.At index (.confirmSession sessionId userCode claims) since progress ∧
    Created system.history sessionId session ∧ codeMatches session.userCode userCode = true

theorem ConfirmsWithCode.moved {mover : Call} {arrival : Nat}
    (running : system.At moving mover arrival (.running access))
    (confirms : ConfirmsWithCode system index sessionId claims) :
    ConfirmsWithCode (system.moved sessionStore moving ⟨mover, arrival, .running access⟩ access) index sessionId
      claims := by
  obtain ⟨userCode, since, progress, session, present, created, correct⟩ := confirms
  obtain ⟨later, moved⟩ := exists_at_moved running present
  exact ⟨userCode, since, later, session, moved, created_moved created, correct⟩

def confirmOn (sessionId : Text) : Nat × Access → Option (Nat × Claims)
  | (index, .confirm confirmed claims) => if confirmed = sessionId then some (index, claims) else none
  | _ => none

def firstConfirm (history : List (Nat × Access)) (sessionId : Text) : Option (Nat × Claims) :=
  history.findSome? (confirmOn sessionId)

theorem confirmOn_some {made : Nat × Access} (found : confirmOn sessionId made = some (index, claims)) :
    made = (index, .confirm sessionId claims) := by
  obtain ⟨at_, access⟩ := made
  cases access with
  | confirm confirmed attached =>
    simp only [confirmOn] at found
    split_ifs at found with same
    cases found
    rw [same]
  | _ => cases found

theorem firstConfirm_mem {history : List (Nat × Access)}
    (found : firstConfirm history sessionId = some (index, claims)) :
    (index, Access.confirm sessionId claims) ∈ history := by
  obtain ⟨made, member, same⟩ := List.exists_of_findSome?_eq_some found
  exact confirmOn_some same ▸ member

theorem firstConfirm_moved (sessionId : Text) :
    firstConfirm (system.moved sessionStore moving thread access).history sessionId =
      (firstConfirm system.history sessionId).or (confirmOn sessionId (moving, access)) := by
  simp [firstConfirm, System.moved, List.findSome?_append]

theorem firstConfirm_moved_some {found : Nat × Claims} (first : firstConfirm system.history sessionId = some found) :
    firstConfirm (system.moved sessionStore moving thread access).history sessionId = some found := by
  rw [firstConfirm_moved, first, Option.some_or]

theorem firstConfirm_moved_none (none : firstConfirm system.history sessionId = none)
    (other : ∀ claims, access ≠ .confirm sessionId claims) :
    firstConfirm (system.moved sessionStore moving thread access).history sessionId = Option.none := by
  rw [firstConfirm_moved, none, Option.none_or, Option.eq_none_iff_forall_ne_some]
  intro found now
  exact other found.2 (congrArg Prod.snd (confirmOn_some now))

/-- The confirmation of a session: its first confirming access, whose call has been answered. -/
def ConfirmedBy (system : SessionSystem) (sessionId : Text) (index : Nat) (claims : Claims) : Prop :=
  firstConfirm system.history sessionId = some (index, claims) ∧
    ∃ call since, system.At index call since (.answered (.checked (.ok ())))

theorem ConfirmedBy.moved {mover : Call} {arrival : Nat} (running : system.At moving mover arrival (.running access))
    (confirmed : ConfirmedBy system sessionId index claims) :
    ConfirmedBy (system.moved sessionStore moving ⟨mover, arrival, .running access⟩ access) sessionId index
      claims := by
  obtain ⟨first, call, since, answered⟩ := confirmed
  exact ⟨firstConfirm_moved_some first, call, since, answered_at_moved running answered⟩

theorem ConfirmedBy.called (added : Call) (confirmed : ConfirmedBy system sessionId index claims) :
    ConfirmedBy (system.called sessionStore added) sessionId index claims := by
  obtain ⟨first, call, since, answered⟩ := confirmed
  exact ⟨first, call, since, at_called_of_at added answered⟩

structure Delivery (ttlSeconds : Nat) (system : SessionSystem) (sessionId pollSecret : Text) (since : Nat)
    (claims : Claims) : Prop where
  origin : ∃ session index confirmed, Created system.history sessionId session ∧ session.pollSecret = pollSecret ∧
    since - session.createdAt ≤ ttlSeconds * second ∧ ConfirmedBy system sessionId index confirmed ∧
    claims = withAudience session.aud confirmed
  gone : system.shared.sessions.lookup sessionId = none

variable (reachable : Run ttlSeconds now system)

include reachable

theorem run_typed : Typed Fits system :=
  reachable_typed Fresh (initial ttlSeconds now) Fits rfl rfl fits_start fits_next reachable

theorem run_ttl : system.shared.ttl = ttlSeconds * second := by
  apply reachable_shared Fresh (initial ttlSeconds now) (fun store _ => store.ttl = ttlSeconds * second) rfl _ reachable
  intro system moving mover arrival access _ _ kept
  exact (perform_ttl system.clock system.shared access).trans kept

theorem run_distinct {first second : Nat} {left right : CreateRequest} {since since' : Nat}
    {progress progress' : Progress Access Answer} (one : system.At first (.createSession left) since progress)
    (two : system.At second (.createSession right) since' progress')
    (same : left.info.sessionId = right.info.sessionId) : first = second := by
  revert first second left right since since' progress progress'
  apply reachable_induction Fresh (initial ttlSeconds now) _ _ _ _ _ reachable
  · intro first second left right since since' progress progress' one
    simp [System.At, initial] at one
  · intro system duration _ kept
    exact kept
  · intro system added _ fresh kept first second left right since since' progress progress' one two same
    rcases (at_called added).mp one with old | ⟨place, rfl, -, -⟩
    · rcases (at_called added).mp two with old' | ⟨-, rfl, -, -⟩
      · exact kept old old' same
      · exact absurd same (fresh first left since progress old)
    · rcases (at_called (Call.createSession left)).mp two with old' | ⟨place', -, -, -⟩
      · exact absurd same.symm (fresh second right since' progress' old')
      · exact place.trans place'.symm
  · intro system moving mover arrival access _ _ running kept first second left right since since' progress progress'
      one two same
    obtain ⟨_, old⟩ := exists_at_of_moved running one
    obtain ⟨_, old'⟩ := exists_at_of_moved running two
    exact kept old old' same

theorem run_inserted {index : Nat} {request : CreateRequest} {createdAt : Nat}
    (made : (index, Access.create request (.insert createdAt)) ∈ system.history) :
    ∃ call since, system.At index call since (.answered (.created (.ok request.info))) := by
  revert index request createdAt
  apply reachable_induction Fresh (initial ttlSeconds now) _ _ _ _ _ reachable
  · intro index request createdAt made
    cases made
  · intro system duration _ kept
    exact kept
  · intro system added _ _ kept index request createdAt made
    obtain ⟨call, since, answered⟩ := kept made
    exact ⟨call, since, at_called_of_at added answered⟩
  · intro system moving mover arrival access _ _ running kept index request createdAt made
    rcases mem_history_moved.mp made with old | ⟨rfl, rfl⟩
    · obtain ⟨call, since, answered⟩ := kept old
      exact ⟨call, since, answered_at_moved running answered⟩
    · exact ⟨mover, arrival, (at_moved running).mpr (Or.inr ⟨rfl, rfl, rfl, rfl⟩)⟩

/-- While a creation has an access to make, no session is in the store, or has been, under its id. -/
theorem not_created_of_running {call : Call} {since : Nat} {request : CreateRequest} {phase : CreatePhase}
    (running : system.At index call since (.running (.create request phase))) (session : SessionEntry) :
    ¬Created system.history request.info.sessionId session := by
  rintro ⟨other, earlier, createdAt, made, same, -⟩
  have typed := run_typed reachable
  obtain ⟨call', since', progress', present, fit⟩ := typed.made made
  obtain ⟨original, rfl, info⟩ := fits_create (typed.running running)
  obtain ⟨original', rfl, info'⟩ := fits_create fit
  have sameId : original'.info.sessionId = original.info.sessionId := by rw [info, info', same]
  obtain rfl := run_distinct reachable present running sameId
  obtain ⟨_, _, answered⟩ := run_inserted reachable made
  exact nomatch (at_unique running answered).2.2

theorem run_created_unique {left right : SessionEntry} (one : Created system.history sessionId left)
    (two : Created system.history sessionId right) : left = right := by
  refine reachable_shared Fresh (initial ttlSeconds now) (fun _ history => ∀ sessionId left right,
    Created history sessionId left → Created history sessionId right → left = right) ?_ ?_ reachable sessionId left right
    one two
  · rintro sessionId left right ⟨index, request, createdAt, made, -⟩
    cases made
  · intro system moving mover arrival access before running kept sessionId left right one two
    rcases created_of_moved one with old | ⟨request, createdAt, rfl, rfl, rfl⟩
    · rcases created_of_moved two with old' | ⟨request, createdAt, rfl, rfl, -⟩
      · exact kept sessionId left right old old'
      · exact absurd old (not_created_of_running before running left)
    · rcases created_of_moved two with old' | ⟨request', createdAt', same, -, rfl⟩
      · exact absurd old' (not_created_of_running before running right)
      · cases same
        rfl

theorem run_belongs {entry : SessionEntry} (known : system.shared.sessions.lookup sessionId = some entry) :
    ∃ session, Created system.history sessionId session ∧ Belongs session entry := by
  refine reachable_shared Fresh (initial ttlSeconds now) (fun store history => ∀ sessionId entry,
    store.sessions.lookup sessionId = some entry →
      ∃ session, Created history sessionId session ∧ Belongs session entry) ?_ ?_ reachable sessionId entry known
  · intro sessionId entry known
    cases known
  · intro system moving mover arrival access _ running kept sessionId entry known
    cases perform_entry known with
    | kept _ _ old _ =>
      obtain ⟨session, created, belongs⟩ := kept sessionId _ old
      exact ⟨session, created_moved created, belongs⟩
    | counted userCode claims earlier old =>
      obtain ⟨session, created, belongs⟩ := kept sessionId _ old
      exact ⟨session, created_moved created, belongs.createdAt, belongs.pollSecret, belongs.userCode, belongs.aud⟩
    | attached claims earlier old pending =>
      obtain ⟨session, created, belongs⟩ := kept sessionId _ old
      exact ⟨session, created_moved created, belongs.createdAt, belongs.pollSecret, belongs.userCode, belongs.aud⟩
    | inserted request createdAt same =>
      refine ⟨newEntry request createdAt, ⟨moving, request, createdAt, ?_, same, rfl⟩, rfl, rfl, rfl, rfl⟩
      exact mem_history_moved.mpr (Or.inr ⟨rfl, rfl⟩)

theorem run_confirms {index : Nat} {sessionId : Text} {claims : Claims} :
    (∀ call since, system.At index call since (.running (.confirm sessionId claims)) →
      ConfirmsWithCode system index sessionId claims) ∧
    ((index, Access.confirm sessionId claims) ∈ system.history →
      ConfirmsWithCode system index sessionId claims) := by
  revert index sessionId claims
  apply reachable_induction Fresh (initial ttlSeconds now) _ _ _ _ _ reachable
  · intro index sessionId claims
    constructor
    · intro call since present
      simp [System.At, initial] at present
    · intro made
      cases made
  · intro system duration _ kept
    exact kept
  · intro system added _ _ kept index sessionId claims
    have grown (confirms : ConfirmsWithCode system index sessionId claims) :
        ConfirmsWithCode (system.called sessionStore added) index sessionId claims := by
      obtain ⟨userCode, since, progress, session, present, created, correct⟩ := confirms
      exact ⟨userCode, since, progress, session, at_called_of_at added present, created, correct⟩
    constructor
    · intro call since present
      rcases (at_called added).mp present with old | ⟨-, rfl, -, same⟩
      · exact grown (kept.1 call since old)
      · cases call <;> cases same
    · intro made
      exact grown (kept.2 made)
  · intro system moving mover arrival access before _ running kept index sessionId claims
    constructor
    · intro call since present
      rcases (at_moved running).mp present with ⟨-, old⟩ | ⟨rfl, rfl, rfl, same⟩
      · exact (kept.1 call since old).moved running
      · cases perform_running same.symm with
        | confirm _ userCode _ entry known correct =>
          obtain ⟨session, created, belongs⟩ := run_belongs before known
          have fit := (run_typed before).running running
          obtain rfl := fits_checkCode fit
          obtain ⟨later, moved⟩ := exists_at_moved running running
          refine ⟨userCode, since, later, session, moved, created_moved created, ?_⟩
          rw [← belongs.userCode]
          exact correct
    · intro made
      rcases mem_history_moved.mp made with old | ⟨rfl, rfl⟩
      · exact (kept.2 old).moved running
      · exact (kept.1 mover arrival running).moved running

/-- A session in the store is pending as long as no call has come to confirm it, and from then on it
carries the claims of the first one. -/
theorem run_status {sessionId : Text} {entry : SessionEntry}
    (known : system.shared.sessions.lookup sessionId = some entry) :
    firstConfirm system.history sessionId = none ∧ entry.status = .pending ∨
    ∃ index claims, ConfirmedBy system sessionId index claims ∧
      entry.status = .confirmed (withAudience entry.aud claims) := by
  revert sessionId entry
  apply reachable_induction Fresh (initial ttlSeconds now) _ _ _ _ _ reachable
  · intro sessionId entry known
    cases known
  · intro system duration _ kept
    exact kept
  · intro system added _ _ kept sessionId entry known
    rcases kept known with pending | ⟨index, claims, confirmed, status⟩
    · exact Or.inl pending
    · exact Or.inr ⟨index, claims, confirmed.called added, status⟩
  · intro system moving mover arrival access before _ running kept sessionId entry known
    cases perform_entry known with
    | kept _ _ old settled =>
      rcases kept old with ⟨none, pending⟩ | ⟨index, claims, confirmed, status⟩
      · refine Or.inl ⟨firstConfirm_moved_none none ?_, pending⟩
        intro claims same
        exact settled claims same pending
      · exact Or.inr ⟨index, claims, confirmed.moved running, status⟩
    | counted userCode claims earlier old =>
      rcases kept old with ⟨none, pending⟩ | ⟨index, claims, confirmed, status⟩
      · exact Or.inl ⟨firstConfirm_moved_none none (by simp), pending⟩
      · exact Or.inr ⟨index, claims, confirmed.moved running, status⟩
    | attached claims earlier old pending =>
      rcases kept old with ⟨none, -⟩ | ⟨index, claims', -, status⟩
      · refine Or.inr ⟨moving, claims, ⟨?_, mover, arrival, ?_⟩, rfl⟩
        · rw [firstConfirm_moved, none]
          simp [confirmOn]
        · refine (at_moved running).mpr (Or.inr ⟨rfl, rfl, rfl, ?_⟩)
          simp [sessionStore, perform, confirm, old, pending]
      · rw [pending] at status
        cases status
    | inserted request createdAt same =>
      subst same
      refine Or.inl ⟨firstConfirm_moved_none ?_ (by simp), rfl⟩
      rw [Option.eq_none_iff_forall_ne_some]
      intro found first
      obtain ⟨-, -, -, session, -, created, -⟩ := (run_confirms before).2 (firstConfirm_mem first)
      exact not_created_of_running before running session created

theorem run_consume {index : Nat} {call : Call} {since : Nat} {sessionId pollSecret : Text}
    (running : system.At index call since (.running (.consume sessionId pollSecret))) :
    ∃ session, Created system.history sessionId session ∧ session.pollSecret = pollSecret ∧
      since - session.createdAt ≤ ttlSeconds * second := by
  revert index call since sessionId pollSecret
  apply reachable_induction Fresh (initial ttlSeconds now) _ _ _ _ _ reachable
  · intro index call since sessionId pollSecret present
    simp [System.At, initial] at present
  · intro system duration _ kept
    exact kept
  · intro system added _ _ kept index call since sessionId pollSecret present
    rcases (at_called added).mp present with old | ⟨-, rfl, -, same⟩
    · exact kept old
    · cases call <;> cases same
  · intro system moving mover arrival access before _ running kept index call since sessionId pollSecret present
    rcases (at_moved running).mp present with ⟨-, old⟩ | ⟨rfl, rfl, rfl, same⟩
    · obtain ⟨session, created, rest⟩ := kept old
      exact ⟨session, created_moved created, rest⟩
    · cases perform_running same.symm with
      | consume _ _ entry known secret young =>
        obtain ⟨session, created, belongs⟩ := run_belongs before known
        have order : since ≤ system.clock := reachable_since_le Fresh (initial ttlSeconds now) rfl before running
        rw [run_ttl before, belongs.createdAt] at young
        exact ⟨session, created_moved created, belongs.pollSecret.symm.trans secret, by omega⟩

theorem run_delivery {index : Nat} {sessionId pollSecret : Text} {since : Nat} {claims : Claims}
    (answered :
      system.At index (.getAndConsume sessionId pollSecret) since (.answered (.polled (.ok (.confirmed claims))))) :
    Delivery ttlSeconds system sessionId pollSecret since claims := by
  revert index sessionId pollSecret since claims
  apply reachable_induction Fresh (initial ttlSeconds now) _ _ _ _ _ reachable
  · intro index sessionId pollSecret since claims present
    simp [System.At, initial] at present
  · intro system duration _ kept index sessionId pollSecret since claims present
    obtain ⟨origin, gone⟩ := kept present
    exact ⟨origin, gone⟩
  · intro system added _ _ kept index sessionId pollSecret since claims present
    rcases (at_called added).mp present with old | ⟨-, -, -, same⟩
    · obtain ⟨⟨session, confirmer, attached, created, secret, young, confirmed, same⟩, gone⟩ := kept old
      exact ⟨⟨session, confirmer, attached, created, secret, young, confirmed.called added, same⟩, gone⟩
    · cases same
  · intro system moving mover arrival access before _ running kept index sessionId pollSecret since claims present
    rcases (at_moved running).mp present with ⟨-, old⟩ | ⟨rfl, rfl, rfl, same⟩
    · obtain ⟨⟨session, confirmer, attached, created, secret, young, confirmed, same⟩, gone⟩ := kept old
      refine ⟨⟨session, confirmer, attached, created_moved created, secret, young, confirmed.moved running, same⟩, ?_⟩
      -- the session cannot come back, since its id is not drawn again
      rw [Option.eq_none_iff_forall_ne_some]
      intro entry known
      cases perform_entry known with
      | kept _ _ known' _ => cases gone.symm.trans known'
      | counted _ _ _ known' => cases gone.symm.trans known'
      | attached _ _ known' _ => cases gone.symm.trans known'
      | inserted request createdAt same =>
        subst same
        exact not_created_of_running before running session created
    · obtain ⟨consumed, shown, entry, rfl, known, secret, status, gone⟩ := (perform_cases _ _ access).delivers same.symm
      cases fits_consume ((run_typed before).running running)
      obtain ⟨session, created, secret', young⟩ := run_consume before running
      obtain ⟨session', created', belongs⟩ := run_belongs before known
      obtain rfl := run_created_unique before created created'
      rcases run_status before known with ⟨-, pending⟩ | ⟨confirmer, attached, confirmed, carried⟩
      · rw [pending] at status
        cases status
      · refine ⟨⟨session, confirmer, attached, created_moved created, secret', young, confirmed.moved running, ?_⟩, gone⟩
        rw [carried, belongs.aud] at status
        exact (SessionStatus.confirmed.inj status).symm

theorem run_delivered_once {first second : Nat} {sessionId : Text} {left right : Text} {since since' : Nat}
    {claims claims' : Claims}
    (one : system.At first (.getAndConsume sessionId left) since (.answered (.polled (.ok (.confirmed claims)))))
    (two : system.At second (.getAndConsume sessionId right) since' (.answered (.polled (.ok (.confirmed claims'))))) :
    first = second := by
  revert first second sessionId left right since since' claims claims'
  apply reachable_induction Fresh (initial ttlSeconds now) _ _ _ _ _ reachable
  · intro first second sessionId left right since since' claims claims' one
    simp [System.At, initial] at one
  · intro system duration _ kept
    exact kept
  · intro system added _ _ kept first second sessionId left right since since' claims claims' one two
    rcases (at_called added).mp one with old | ⟨-, -, -, same⟩
    · rcases (at_called added).mp two with old' | ⟨-, -, -, same⟩
      · exact kept old old'
      · cases same
    · cases same
  · intro system moving mover arrival access before _ running kept first second sessionId left right since since'
      claims claims' one two
    -- a second delivery would find the session that the first one has taken
    have taken {index index' : Nat} {shown shown' : Text} {arrived arrived' : Nat} {given given' : Claims}
        (old : system.At index (.getAndConsume sessionId shown) arrived (.answered (.polled (.ok (.confirmed given)))))
        (running : system.At index' (.getAndConsume sessionId shown') arrived' (.running access))
        (same : (perform system.clock system.shared access).2 = .answered (.polled (.ok (.confirmed given')))) :
        False := by
      obtain ⟨consumed, shown', entry, rfl, known, -⟩ := (perform_cases _ _ access).delivers same
      cases fits_consume ((run_typed before).running running)
      cases (run_delivery before old).gone.symm.trans known
    rcases (at_moved running).mp one with ⟨-, old⟩ | ⟨rfl, rfl, rfl, same⟩
    · rcases (at_moved running).mp two with ⟨-, old'⟩ | ⟨rfl, rfl, rfl, same'⟩
      · exact kept old old'
      · exact (taken old running same'.symm).elim
    · rcases (at_moved running).mp two with ⟨-, old'⟩ | ⟨rfl, -, -, -⟩
      · exact (taken old' running same.symm).elim
      · rfl

end

/-- The safety of a delivery. Claims go to one poll of the one session under the id, which shows its secret
and has come within its time; they are those of the first call that came to confirm it with its code, under the
session's audience, and that call has been answered. -/
structure SafeDelivery (ttlSeconds : Nat) (system : SessionSystem) (poller : Nat) (sessionId pollSecret : Text)
    (since : Nat) (claims : Claims) : Prop where
  once : ∀ other shown arrived given, system.At other (.getAndConsume sessionId shown) arrived
    (.answered (.polled (.ok (.confirmed given)))) → other = poller
  confirmed : ∃ session confirmer code attached arrived, Created system.history sessionId session ∧
    (∀ other, Created system.history sessionId other → other = session) ∧
    pollSecret = session.pollSecret ∧ since ≤ session.createdAt + ttlSeconds * second ∧
    firstConfirm system.history sessionId = some (confirmer, attached) ∧
    system.At confirmer (.confirmSession sessionId (some code) attached) arrived (.answered (.checked (.ok ()))) ∧
    cleanCode code = cleanCode session.userCode ∧ claims = withAudience session.aud attached

/-- In every interleaving, and at every point of it, claims that have been handed out were so safely. -/
theorem delivery_safe (ttlSeconds now : Nat) (labels : List (Label Call))
    (fresh : Always (step sessionStore) Fresh (initial ttlSeconds now) labels) (poller : Nat)
    (sessionId pollSecret : Text) (since : Nat) (claims : Claims)
    (answered : (run (step sessionStore) (initial ttlSeconds now) labels).At poller
      (.getAndConsume sessionId pollSecret) since (.answered (.polled (.ok (.confirmed claims))))) :
    SafeDelivery ttlSeconds (run (step sessionStore) (initial ttlSeconds now) labels) poller sessionId pollSecret since
      claims := by
  have reachable : Run ttlSeconds now (run (step sessionStore) (initial ttlSeconds now) labels) :=
    fresh.reachable (step sessionStore)
  constructor
  · intro other shown arrived given answered'
    exact run_delivered_once reachable answered' answered
  · obtain ⟨session, confirmer, attached, created, secret, young, ⟨first, call, arrived, confirmed⟩, same⟩ :=
      (run_delivery reachable answered).origin
    obtain ⟨userCode, arrived', progress, session', present, created', correct⟩ :=
      (run_confirms reachable).2 (firstConfirm_mem first)
    obtain rfl := run_created_unique reachable created created'
    obtain ⟨rfl, rfl, rfl⟩ := at_unique confirmed present
    obtain ⟨code, rfl, codes⟩ := codeMatches_some session.userCode userCode correct
    refine ⟨session, confirmer, code, attached, arrived, created, ?_, secret.symm, ?_, first, confirmed, codes, same⟩
    · intro other created''
      exact run_created_unique reachable created'' created
    · omega

def login : List (Label Call) :=
  [.call (.createSession ⟨none, some ['a'], ⟨['s'], ['p'], ['A', '-', 'B']⟩⟩), .move 0, .move 0, .move 0, .move 0,
    .move 0, .tick 7, .call (.confirmSession ['s'] (some ['a', 'b']) ⟨['u'], ['i'], none, 1000, [], none⟩),
    .call (.getAndConsume ['s'] ['p']), .move 1, .move 1, .move 2, .move 2]

theorem delivery_safe_login :
    SafeDelivery 60 (run (step sessionStore) (initial 60 0) login) 2 ['s'] ['p'] 7
      ⟨['u'], ['i'], some ['a'], 1000, [], none⟩ :=
  delivery_safe 60 0 login
    ⟨fun _ _ _ _ present => (nomatch present), trivial, trivial, trivial, trivial, trivial, trivial, trivial, trivial,
      trivial, trivial, trivial, trivial, trivial⟩
    2 ['s'] ['p'] 7 ⟨['u'], ['i'], some ['a'], 1000, [], none⟩ rfl

end Praeco.Idp.SessionSafety
