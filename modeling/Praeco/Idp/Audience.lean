import Praeco.Idp.Service
import Praeco.Idp.SessionSteps

/-! The audiences of signed tokens. A session carries an audience from the caller that opens it to the token of
the caller that polls it, so what may be signed is decided when a session is opened. -/

namespace Praeco.Idp.Audience
open Praeco.Strings Utf8 Praeco.Http.Message Praeco.Jwt.Token Praeco.Jwt.Revocation
open Praeco.Schedule.Runs Praeco.Schedule.Interleaving Praeco.Idp.Params Praeco.Idp.Service
open Praeco.Idp.Session (SessionStore SessionEntry withAudience)
open Praeco.Idp.SessionSteps

/-- An allowed audience, or none where nothing is allowed. -/
def Confined (allowed : List Text) (aud : Option Text) : Prop :=
  (∃ name ∈ allowed, aud = some name) ∨ aud = none ∧ allowed = []

theorem confined_head (allowed : List Text) : Confined allowed allowed.head? := by
  cases allowed with
  | nil => exact Or.inr ⟨rfl, rfl⟩
  | cons name rest => exact Or.inl ⟨name, List.mem_cons_self, rfl⟩

theorem confined_some {allowed : List Text} {name : Text} (member : name ∈ allowed) : Confined allowed (some name) :=
  Or.inl ⟨name, member, rfl⟩

section

variable (allowed : List Text)

theorem withAudience_confined (aud : Option Text) (claims : Claims) (session : Confined allowed aud)
    (given : Confined allowed claims.aud) : Confined allowed (withAudience aud claims).aud := by
  cases aud with
  | none => exact given
  | some name => exact session

def GoodStore (store : SessionStore) : Prop :=
  ∀ sessionId entry, store.sessions.lookup sessionId = some entry →
    Confined allowed entry.aud ∧ ∀ claims, entry.status = .confirmed claims → Confined allowed claims.aud

def FineAccess : Session.Access → Prop
  | .create request _ => Confined allowed request.aud
  | .checkCode _ _ (some claims) => Confined allowed claims.aud
  | .confirm _ claims => Confined allowed claims.aud
  | _ => True

variable {allowed}

variable {now : Nat} {store : SessionStore} {access : Session.Access}

theorem perform_good (good : GoodStore allowed store) (fine : FineAccess allowed access) :
    GoodStore allowed (Session.perform now store access).1 := by
  intro sessionId entry found
  cases perform_entry found with
  | kept _ _ known _ => exact good sessionId entry known
  | counted userCode claims earlier known => exact good sessionId earlier known
  | attached claims earlier known pending =>
    have session := (good sessionId earlier known).1
    refine ⟨session, ?_⟩
    intro attached same
    cases same
    exact withAudience_confined allowed earlier.aud claims session fine
  | inserted request createdAt same =>
    refine ⟨fine, ?_⟩
    intro claims confirmed
    cases confirmed

theorem perform_fine {next : Session.Access} (fine : FineAccess allowed access)
    (continues : (Session.perform now store access).2 = .running next) : FineAccess allowed next := by
  cases perform_running continues with
  | create request phase next => exact fine
  | confirm sessionId userCode claims entry known correct => exact fine
  | _ => trivial

theorem delivered_confined {claims : Claims} (good : GoodStore allowed store)
    (delivered : (Session.perform now store access).2 = .answered (.polled (.ok (.confirmed claims)))) :
    Confined allowed claims.aud := by
  obtain ⟨sessionId, pollSecret, entry, -, known, -, status, -⟩ := (perform_cases now store access).delivers delivered
  exact (good sessionId entry known).2 claims status

end

section

variable {Key : Type} (service : IdpService Key)

structure Good (state : IdpState) : Prop where
  sessions : GoodStore service.params.allowedAudiences state.sessions
  signed : ∀ claims ∈ state.signed, Confined service.params.allowedAudiences claims.aud

/-- A login that names an audience finds a list of allowed ones. -/
def LoginConfined (request : IdpRequest) : Prop :=
  request.parts.method = .post → request.parts.uri.path = loginPath → request.requestedAud ≠ none →
    service.params.allowedAudiences ≠ []

def FinePurpose : Purpose → Prop
  | .precheck _ _ claims => Confined service.params.allowedAudiences claims.aud
  | _ => True

def Fine : IdpAccess → Prop
  | .received request => LoginConfined service request
  | .session _ purpose access => FinePurpose service purpose ∧ FineAccess service.params.allowedAudiences access
  | .webhook _ claims _ _ => Confined service.params.allowedAudiences claims.aud

structure Keeps (result : IdpState × Progress IdpAccess Response) : Prop where
  good : Good service result.1
  fine : ∀ next, result.2 = .running next → Fine service next

variable {service}

variable {state : IdpState} {claims : Claims} {request : IdpRequest} {now : Nat}

theorem keeps_answered (response : Response) (good : Good service state) :
    Keeps service (state, .answered response) := ⟨good, fun _ same => nomatch same⟩

theorem keeps_running {next : IdpAccess} (good : Good service state) (fine : Fine service next) :
    Keeps service (state, .running next) := by
  refine ⟨good, ?_⟩
  intro other same
  cases same
  exact fine

theorem resolveOids_aud {resolved : Claims} {dynamicOids : Option (Except Text (List Text))}
    (ok : resolveOids service claims dynamicOids = .ok resolved) : resolved.aud = claims.aud := by
  unfold resolveOids at ok
  split at ok
  · cases ok
    rfl
  · cases ok
    rfl
  · split_ifs at ok
    cases ok
    rfl

theorem certAudience_confined (request : IdpRequest) :
    Confined service.params.allowedAudiences (certAudience service request) := by
  unfold certAudience
  cases requested : request.requestedAud.filter (· ∈ service.params.allowedAudiences) with
  | none => exact confined_head _
  | some name =>
    rw [Option.filter_eq_some_iff] at requested
    exact confined_some (of_decide_eq_true requested.2)

theorem mtlsClaims_confined (present : mtlsClaims service request = some claims) :
    Confined service.params.allowedAudiences claims.aud := by
  obtain ⟨cert, -, rfl⟩ := Option.map_eq_some_iff.mp present
  exact certAudience_confined request

section

variable (good : Good service state) (confined : Confined service.params.allowedAudiences claims.aud)

include good confined

theorem sign_good : Good service (sign service state claims).2 := by
  unfold sign
  cases service.signJwt claims with
  | error e => exact good
  | ok token =>
    refine ⟨good.sessions, ?_⟩
    intro signed member
    rcases List.mem_append.mp member with old | new
    · exact good.signed signed old
    · rw [List.mem_singleton.mp new]
      exact confined

theorem generateJwtCookieResponse_good :
    Good service (generateJwtCookieResponse service now state request claims).2 := by
  have signed : Good service (sign service state (finalClaims service now request claims)).2 := sign_good good confined
  unfold generateJwtCookieResponse
  generalize sign service state (finalClaims service now request claims) = result at signed ⊢
  obtain ⟨_ | token, after⟩ := result
  · exact signed
  · exact signed

theorem handleAuthToken_keeps (dynamicOids : Option (Except Text (List Text))) :
    Keeps service (handleAuthToken service now state request claims dynamicOids) := by
  unfold handleAuthToken
  cases resolved : resolveOids service claims dynamicOids with
  | error response => exact keeps_answered response good
  | ok claims' =>
    have signed : Good service (sign service state (finalClaims service now request claims')).2 :=
      sign_good good ((resolveOids_aud resolved).symm ▸ confined)
    simp only
    generalize sign service state (finalClaims service now request claims') = result at signed ⊢
    obtain ⟨_ | token, after⟩ := result
    · exact keeps_answered _ signed
    · exact keeps_answered _ signed

theorem handleAuthConfirm_keeps {sid : Text} {userCode : Option Text} (dynamicOids : Option (Except Text (List Text))) :
    Keeps service (handleAuthConfirm service state request sid userCode claims dynamicOids) := by
  unfold handleAuthConfirm
  cases resolved : resolveOids service claims dynamicOids with
  | error response => exact keeps_answered response good
  | ok claims' =>
    refine keeps_running good ⟨trivial, ?_⟩
    change Confined _ claims'.aud
    rw [resolveOids_aud resolved]
    exact confined

theorem finishClaims_keeps (confirmation : Option (Text × Option Text))
    (dynamicOids : Option (Except Text (List Text))) :
    Keeps service (finishClaims service now state request claims confirmation dynamicOids) := by
  cases confirmation with
  | none => exact handleAuthToken_keeps good confined dynamicOids
  | some confirmed => exact handleAuthConfirm_keeps good confined dynamicOids

theorem resolveClaims_keeps (confirmation : Option (Text × Option Text)) :
    Keeps service (resolveClaims service now state request claims confirmation) := by
  unfold resolveClaims
  split_ifs with hooked
  · cases request.webhook with
    | notSent e => exact finishClaims_keeps good confined confirmation _
    | finished result => exact keeps_running good confined
  · exact finishClaims_keeps good confined confirmation none

end

theorem authLogin_keeps (good : Good service state)
    (login : request.requestedAud ≠ none → service.params.allowedAudiences ≠ []) :
    Keeps service (authLogin service state request) := by
  unfold authLogin
  dsimp only
  split_ifs with refused
  · exact keeps_answered _ good
  · refine keeps_running good ⟨trivial, ?_⟩
    change Confined _ (request.requestedAud.or service.params.allowedAudiences.head?)
    cases requested : request.requestedAud with
    | none => exact confined_head _
    | some name =>
      rw [requested] at refused login
      have listed : service.params.allowedAudiences ≠ [] := login (Option.some_ne_none name)
      refine confined_some ?_
      simpa [listed] using refused

theorem dispatch_keeps (good : Good service state) (fine : LoginConfined service request) :
    Keeps service (dispatch service now state request) := by
  unfold dispatch
  cases method : request.parts.method with
  | get =>
    simp only
    split_ifs
    · exact keeps_answered _ good
    · exact keeps_answered _ good
    · unfold authStatus
      split
      · exact keeps_answered _ good
      · exact keeps_answered _ good
      · exact keeps_running good ⟨trivial, trivial⟩
    · unfold authSessionInfo
      split
      · exact keeps_answered _ good
      · exact keeps_running good ⟨trivial, trivial⟩
    · exact keeps_answered _ good
  | post =>
    simp only
    split_ifs with login
    · exact authLogin_keeps good (fine method login)
    · unfold authConfirm
      split
      · exact keeps_answered _ good
      · exact keeps_answered _ good
      · next claims _ present => exact keeps_running good ⟨mtlsClaims_confined present, trivial⟩
    · unfold authToken
      split
      · exact keeps_answered _ good
      · next claims present => exact resolveClaims_keeps good (mtlsClaims_confined present) none
    · exact keeps_answered _ ⟨good.sessions, good.signed⟩
    · exact keeps_answered _ good
  | _ => exact keeps_answered _ good

theorem resume_keeps {purpose : Purpose} {answer : Session.Answer} (good : Good service state)
    (fine : FinePurpose service purpose)
    (delivered : ∀ claims, answer = .polled (.ok (.confirmed claims)) →
      Confined service.params.allowedAudiences claims.aud) :
    Keeps service (resume service now state request purpose answer) := by
  unfold resume
  split
  case h_3 claims =>
    exact keeps_answered _ (generateJwtCookieResponse_good good (delivered claims rfl))
  case h_8 sid userCode claims => exact resolveClaims_keeps good fine _
  all_goals exact keeps_answered _ good

theorem perform_keeps (now : Nat) {access : IdpAccess} (good : Good service state) (fine : Fine service access) :
    Keeps service (perform service now state access) := by
  cases access with
  | received request => exact dispatch_keeps good fine
  | session request purpose access =>
    have better : GoodStore service.params.allowedAudiences (Session.perform now state.sessions access).1 :=
      perform_good good.sessions fine.2
    unfold perform
    cases result : Session.perform now state.sessions access with
    | mk sessions progress =>
      rw [result] at better
      simp only [result]
      cases progress with
      | running next =>
        exact keeps_running ⟨better, good.signed⟩ ⟨fine.1, perform_fine fine.2 (congrArg Prod.snd result)⟩
      | answered answer =>
        refine resume_keeps ⟨better, good.signed⟩ fine.1 ?_
        intro claims same
        subst same
        exact delivered_confined good.sessions (congrArg Prod.snd result)
  | webhook request claims confirmation result => exact finishClaims_keeps good fine confirmation _

abbrev IdpSystem := System IdpState IdpRequest IdpAccess Response

/-- The service when it has come up; the denylist is shared with the rest of the gateway. -/
def initial (service : IdpService Key) (now : Nat) (revocations : JwtRevocationStore) : IdpSystem :=
  ⟨now, ⟨SessionStore.new service.params.sessionTtlSeconds now, revocations, []⟩, [], []⟩

def LoginsConfined (service : IdpService Key) (_ : IdpSystem) : Label IdpRequest → Prop
  | .call request => LoginConfined service request
  | _ => True

/-- In every interleaving of requests in which a login names an audience only if some are allowed, all signed
tokens are for allowed audiences, or for none where none are allowed. -/
theorem signed_audience_confined (service : IdpService Key) (now : Nat) (revocations : JwtRevocationStore)
    (labels : List (Label IdpRequest))
    (logins : Always (step (idpService service)) (LoginsConfined service) (initial service now revocations) labels) :
    ∀ claims ∈ (run (step (idpService service)) (initial service now revocations) labels).shared.signed,
      Confined service.params.allowedAudiences claims.aud := by
  have assertion := reachable_assertion (LoginsConfined service) (initial service now revocations) rfl (Good service)
    (Fine service) ?_ ?_ ?_ (logins.reachable (step (idpService service)))
  · exact assertion.1.signed
  · constructor
    · intro sessionId entry found
      cases found
    · intro claims member
      cases member
  · intro system request confined
    exact confined
  · intro clock state access good fine
    have keeps := perform_keeps clock good fine
    exact ⟨keeps.good, keeps.fine⟩

end

def plainService (allowedAudiences : List Text) : IdpService Unit where
  params := ⟨3600, 60, ['c'], none, ['/'], allowedAudiences, ['i'], []⟩
  lib := Jwt.Auth.listedTokens []
  decodingKeys := []
  signJwt _ := .ok ['t']
  jwksPayload := none
  loginHtml := []
  hasWebhook := false

def requestOf (method : Method) (path query : Text) (cert : Option ClientCert) : IdpRequest where
  parts := ⟨method, ⟨none, none, path, some query⟩, [], ⟨none, none, none⟩⟩
  clientIp := none
  cert
  info := ⟨['s'], ['p'], ['A']⟩
  uuid := ['j']
  webhook := .notSent []

def login (aud : Text) : List (Label IdpRequest) :=
  [.call (requestOf .post loginPath (['a', 'u', 'd', '='] ++ aud) none), .move 0, .move 0, .move 0, .move 0, .move 0,
    .move 0,
    .call (requestOf .post confirmPath ['s', 'e', 's', 's', 'i', 'o', 'n', '=', 's', '&', 'c', 'o', 'd', 'e', '=', 'A']
      (some ⟨some ['u'], none, none⟩)), .move 1, .move 1, .move 1, .move 1,
    .call (requestOf .get statusPath ['s', 'e', 's', 's', 'i', 'o', 'n', '=', 's', '&', 'p', 'o', 'l', 'l', '_', 's', 'e',
      'c', 'r', 'e', 't', '=', 'p'] none), .move 2, .move 2, .move 2]

def loginClaims (aud : Text) : Claims := ⟨['u'], ['i'], some aud, 3600, [], some ['j']⟩

theorem signed_audience_confined_web : Confined [['w']] (loginClaims ['w']).aud :=
  signed_audience_confined (plainService [['w']]) 0 JwtRevocationStore.new (login ['w'])
    ⟨fun _ _ _ => List.cons_ne_nil _ _, trivial, trivial, trivial, trivial, trivial, trivial,
      fun _ _ _ => List.cons_ne_nil _ _, trivial, trivial, trivial, trivial,
      fun _ _ _ => List.cons_ne_nil _ _, trivial, trivial, trivial, trivial⟩
    (loginClaims ['w']) List.mem_cons_self

/-- Where no audience is allowed, a token is signed for the one that an unauthenticated login names. -/
theorem unlisted_audience_signed :
    loginClaims ['x'] ∈ (run (step (idpService (plainService []))) (initial (plainService []) 0 JwtRevocationStore.new)
      (login ['x'])).shared.signed ∧ ¬Confined (plainService []).params.allowedAudiences (loginClaims ['x']).aud := by
  refine ⟨List.mem_cons_self, ?_⟩
  intro confined
  rcases confined with ⟨name, member, -⟩ | ⟨absent, -⟩
  · cases member
  · cases absent

end Praeco.Idp.Audience
