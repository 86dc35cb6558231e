import Praeco.Http.Message
import Praeco.Jwt.Revocation
import Praeco.Jwt.Token

/-! The authentication layer. A call extracts a token and starts its verification; polling the future
then checks the denylist, maps the roles, revokes on logout paths and forwards. -/

namespace Praeco.Jwt.Auth
open Praeco.Strings Utf8 Fields Praeco.Http.Message Praeco.Jwt.Token Praeco.Jwt.Revocation

structure JwtAuthService (Key : Type) where
  decodingKeys : List Key
  oidMapping : List (Text × UserRole)
  cookieFallback : Option Text
  redirectOnFailure : Option Text
  expectedIssuer : Text
  expectedAudience : Text
  revokeOnPaths : List Text

def authorizationName : Text := "authorization".toList

def cookieName : Text := "cookie".toList

def bearer : Text := ['B', 'e', 'a', 'r', 'e', 'r', ' ']

def bearerToken (headers : HeaderMap) : Option Text := do
  let value ← headers.get authorizationName
  let text ← headerToStr value
  let token ← stripPrefix bearer text
  some (trim token)

def cookieIn (name : Text) (value : Bytes) : Option Text := do
  let text ← headerToStr value
  (text.splitOn ';').findSome? (fun cookie => stripPrefix (name ++ ['=']) (trim cookie))

def extractToken (cookieFallback : Option Text) (headers : HeaderMap) : Option Text :=
  match bearerToken headers with
  | some token => some token
  | none => do
    let name ← cookieFallback
    let value ← (headers.getAll cookieName).findSome? (cookieIn name)
    some (trim value)

def guest : UserRole := ⟨['G', 'u', 'e', 's', 't']⟩

/-- The roles of the token's identifiers; without any it is a guest. -/
def mapRoles (oidMapping : List (Text × UserRole)) (oids : List Text) : List UserRole :=
  let roles := (oids.map (fun suffix => (oidMapping.lookup suffix).getD guest)).filter (· ≠ guest)
  if roles = [] then [guest] else roles

def unauthorizedResponse (redirect : Option Text) : Response :=
  match redirect.bind headerFromStr with
  | some location => ⟨302, [("location".toList, location)], []⟩
  | none => ⟨401, [], "Unauthorized".toList⟩

inductive VerifyTask where
  | running (token : Text)
  | finished (result : Except Text Claims)

structure Forwarded where
  parts : Parts
  claims : Claims
  deriving DecidableEq, Repr

inductive JwtAuthFuture where
  | unauthorized (response : Option Response)
  | verifying (verifyTask : VerifyTask) (req : Parts)
  | inner (request : Forwarded)

inductive Poll where
  | pending
  | ready (response : Response)
  | forwarded (request : Forwarded)
  | panicked

section

variable {Key : Type} (lib : JwtLibrary Key) (service : JwtAuthService Key)

def JwtAuthService.call (req : Parts) : JwtAuthFuture :=
  match extractToken service.cookieFallback req.headers with
  | some token => .verifying (.running token) req
  | none => .unauthorized (some (unauthorizedResponse service.redirectOnFailure))

def JwtAuthFuture.finishTask (now : Nat) : JwtAuthFuture → JwtAuthFuture
  | .verifying (.running token) req =>
    .verifying (.finished (verifyJwt lib now token service.decodingKeys service.expectedIssuer
      service.expectedAudience)) req
  | future => future

def autoRevoke (now : Nat) (claims : Claims) (path : Text) (store : JwtRevocationStore) : JwtRevocationStore :=
  if path ∈ service.revokeOnPaths then
    match claims.jti with
    | some jti => store.revoke now jti (if 0 < claims.exp then claims.exp else now + 3600)
    | none => store
  else store

def checkRevoked (now : Nat) (claims : Claims) (store : JwtRevocationStore) : Bool × JwtRevocationStore :=
  match claims.jti with
  | some jti => store.isRevoked now jti
  | none => (false, store)

def settle (now : Nat) (store : JwtRevocationStore) (result : Except Text Claims) (req : Parts) :
    JwtAuthFuture × JwtRevocationStore :=
  match result with
  | .error _ => (.unauthorized (some (unauthorizedResponse service.redirectOnFailure)), store)
  | .ok claims =>
    let (revoked, store) := checkRevoked now claims store
    if revoked then (.unauthorized (some (unauthorizedResponse service.redirectOnFailure)), store)
    else
      let roles := mapRoles service.oidMapping claims.oids
      let store := autoRevoke service now claims req.uri.path store
      let extensions := { req.extensions with sharedRoles := some roles }
      (.inner ⟨{ req with extensions }, claims⟩, store)

def JwtAuthFuture.finish : JwtAuthFuture → Poll × JwtAuthFuture
  | .unauthorized (some response) => (.ready response, .unauthorized none)
  | .unauthorized none => (.panicked, .unauthorized none)
  | .inner request => (.forwarded request, .inner request)
  | .verifying verifyTask req => (.pending, .verifying verifyTask req)

def JwtAuthFuture.poll (now : Nat) (store : JwtRevocationStore) :
    JwtAuthFuture → Poll × JwtAuthFuture × JwtRevocationStore
  | .verifying (.finished result) req =>
    let (future, store) := settle service now store result req
    let (answer, future) := future.finish
    (answer, future, store)
  | future =>
    let (answer, future) := future.finish
    (answer, future, store)

def JwtAuthFuture.pollMany (polls : List (Nat × JwtRevocationStore)) (future : JwtAuthFuture) : JwtAuthFuture :=
  polls.foldl (fun future (now, store) => (future.poll service now store).2.1) future

theorem pollMany_running (polls : List (Nat × JwtRevocationStore)) (token : Text) (req : Parts) :
    JwtAuthFuture.pollMany service polls (.verifying (.running token) req) = .verifying (.running token) req := by
  induction polls with
  | nil => rfl
  | cons poll polls ih => exact ih

theorem pollMany_unauthorized (polls : List (Nat × JwtRevocationStore)) (response : Option Response) :
    ∃ left, JwtAuthFuture.pollMany service polls (.unauthorized response) = .unauthorized left := by
  induction polls generalizing response with
  | nil => exact ⟨response, rfl⟩
  | cons poll polls ih =>
    cases response with
    | none => exact ih none
    | some response => exact ih none

theorem checkRevoked_iff (now : Nat) (claims : Claims) (store : JwtRevocationStore) :
    (checkRevoked now claims store).1 = true ↔ ∃ jti, claims.jti = some jti ∧ RevokedAt store now jti := by
  unfold checkRevoked
  cases claims.jti with
  | none => simp
  | some jti => simp [isRevoked_iff]

theorem settle_forwarded (now : Nat) (store : JwtRevocationStore) (result : Except Text Claims) (req : Parts)
    (request : Forwarded) (forwarded : ((settle service now store result req).1.finish).1 = .forwarded request) :
    result = .ok request.claims ∧ ∀ jti, request.claims.jti = some jti → ¬RevokedAt store now jti := by
  unfold settle at forwarded
  cases result with
  | error e => cases forwarded
  | ok claims =>
    by_cases revoked : (checkRevoked now claims store).1 = true
    · simp only [revoked, if_true] at forwarded
      cases forwarded
    · simp only [revoked] at forwarded
      obtain rfl := Poll.forwarded.inj forwarded
      refine ⟨rfl, ?_⟩
      intro jti carried present
      exact revoked ((checkRevoked_iff now claims store).mpr ⟨jti, carried, present⟩)

theorem settle_uri (now : Nat) (store : JwtRevocationStore) (result : Except Text Claims) (req : Parts)
    (request : Forwarded) (forwarded : ((settle service now store result req).1.finish).1 = .forwarded request) :
    request.parts.uri = req.uri := by
  unfold settle at forwarded
  cases result with
  | error e => cases forwarded
  | ok claims =>
    dsimp only at forwarded
    split_ifs at forwarded
    · cases forwarded
    · cases forwarded
      rfl

section

variable (req : Parts) (early : List (Nat × JwtRevocationStore)) (verifiedAt polledAt : Nat)
  (store : JwtRevocationStore) (request : Forwarded)
  (forwarded : ((((service.call req).pollMany service early).finishTask lib service verifiedAt).poll service polledAt
    store).1 = .forwarded request)

include forwarded

theorem forwarded_settled :
    ∃ token, extractToken service.cookieFallback req.headers = some token ∧
      ((settle service polledAt store (verifyJwt lib verifiedAt token service.decodingKeys service.expectedIssuer
        service.expectedAudience) req).1.finish).1 = .forwarded request := by
  unfold JwtAuthService.call at forwarded
  cases presented : extractToken service.cookieFallback req.headers with
  | none =>
    rw [presented] at forwarded
    obtain ⟨left, same⟩ := pollMany_unauthorized service early
      (some (unauthorizedResponse service.redirectOnFailure))
    simp only [same] at forwarded
    cases left <;> cases forwarded
  | some token =>
    rw [presented] at forwarded
    simp only [pollMany_running] at forwarded
    exact ⟨token, rfl, forwarded⟩

theorem forwarded_inv :
    ∃ token, extractToken service.cookieFallback req.headers = some token ∧
      verifyJwt lib verifiedAt token service.decodingKeys service.expectedIssuer service.expectedAudience =
        .ok request.claims ∧
      ∀ jti, request.claims.jti = some jti → ¬RevokedAt store polledAt jti := by
  obtain ⟨token, presented, settled⟩ := forwarded_settled lib service req early verifiedAt polledAt store request
    forwarded
  exact ⟨token, presented, settle_forwarded service polledAt store _ req request settled⟩

theorem forwarded_uri : request.parts.uri = req.uri := by
  obtain ⟨token, -, settled⟩ := forwarded_settled lib service req early verifiedAt polledAt store request forwarded
  exact settle_uri service polledAt store _ req request settled

end

/-- The acceptance rule: a configured key verifies the token, its issuer and its audience are expected ones
wherever there are any, and its id is not revoked. -/
structure Accepted (req : Parts) (store : JwtRevocationStore) (now : Nat) (claims : Claims) : Prop where
  verified : ∃ token key, extractToken service.cookieFallback req.headers = some token ∧
    key ∈ service.decodingKeys ∧ lib.verifies token key = true ∧ lib.payload token = some claims
  issuer : commaList service.expectedIssuer ≠ [] → claims.iss ∈ commaList service.expectedIssuer
  audience : commaList service.expectedAudience ≠ [] →
    ∃ aud, claims.aud = some aud ∧ aud ∈ commaList service.expectedAudience
  notRevoked : ∀ jti, claims.jti = some jti → ¬RevokedAt store now jti

/-- A forwarded request meets the acceptance rule exactly if no audience is expected or its token carries
one: the verification compares an audience but does not ask for it. -/
theorem forwarded_accepted_iff (req : Parts) (early : List (Nat × JwtRevocationStore)) (verifiedAt polledAt : Nat)
    (store : JwtRevocationStore) (request : Forwarded)
    (forwarded : ((((service.call req).pollMany service early).finishTask lib service verifiedAt).poll service
      polledAt store).1 = .forwarded request) :
    Accepted lib service req store polledAt request.claims ↔
      commaList service.expectedAudience = [] ∨ request.claims.aud ≠ none := by
  obtain ⟨token, presented, verified, notRevoked⟩ := forwarded_inv lib service req early verifiedAt polledAt store
    request forwarded
  obtain ⟨key, member, signed, payload, accepted⟩ := verifyJwt_ok lib verifiedAt token _ _ _ _ verified
  obtain ⟨-, issuer, audience⟩ := (expectation_accepts _ _ _ _).mp accepted
  constructor
  · intro rule
    by_cases expected : commaList service.expectedAudience = []
    · exact Or.inl expected
    · obtain ⟨aud, carried, -⟩ := rule.audience expected
      exact Or.inr (by rw [carried]; exact Option.some_ne_none aud)
  · intro condition
    refine ⟨⟨token, key, presented, member, signed, payload⟩, issuer, ?_, notRevoked⟩
    intro expected
    obtain ⟨aud, carried⟩ := Option.ne_none_iff_exists'.mp (condition.resolve_left expected)
    exact ⟨aud, carried, audience expected aud carried⟩

end

def listedTokens (tokens : List (Text × Claims)) : JwtLibrary Unit where
  payload token := tokens.lookup token
  verifies _ _ := true
  decode now token _ validation := (tokens.lookup token).filter (validation.accepts now)
  decode_eq _ _ _ _ := rfl

def webService : JwtAuthService Unit where
  decodingKeys := [()]
  oidMapping := []
  cookieFallback := none
  redirectOnFailure := none
  expectedIssuer := []
  expectedAudience := ['w', 'e', 'b']
  revokeOnPaths := [['/', 'o', 'u', 't']]

def bearerRequest (path token : Text) : Parts where
  method := .get
  uri := ⟨none, none, path, none⟩
  headers := [(authorizationName, utf8 (bearer ++ token))]
  extensions := ⟨none, none, none⟩

def claimsOf (aud : Option Text) : Claims := ⟨['u'], ['i'], aud, 1000, [], some ['j']⟩

def forwardedOf (path token : Text) (aud : Option Text) : Forwarded :=
  ⟨{ bearerRequest path token with extensions := ⟨some [guest], none, none⟩ }, claimsOf aud⟩

theorem forwarded_accepted_iff_web :
    Accepted (listedTokens [(['t'], claimsOf (some ['w', 'e', 'b']))]) webService (bearerRequest ['/'] ['t'])
      JwtRevocationStore.new 900 (claimsOf (some ['w', 'e', 'b'])) ↔
      commaList ['w', 'e', 'b'] = [] ∨ some ['w', 'e', 'b'] ≠ none :=
  forwarded_accepted_iff (listedTokens [(['t'], claimsOf (some ['w', 'e', 'b']))]) webService
    (bearerRequest ['/'] ['t']) [] 900 900 JwtRevocationStore.new (forwardedOf ['/'] ['t'] (some ['w', 'e', 'b'])) rfl

/-- A token without an audience is forwarded by a service that expects one. -/
theorem missing_audience_forwarded :
    ((((webService.call (bearerRequest ['/'] ['t'])).pollMany webService []).finishTask
      (listedTokens [(['t'], claimsOf none)]) webService 900).poll webService 900 JwtRevocationStore.new).1 =
        .forwarded (forwardedOf ['/'] ['t'] none) ∧
    ¬Accepted (listedTokens [(['t'], claimsOf none)]) webService (bearerRequest ['/'] ['t'])
      JwtRevocationStore.new 900 (claimsOf none) := by
  refine ⟨rfl, ?_⟩
  intro accepted
  obtain ⟨aud, carried, -⟩ := accepted.audience (by decide)
  cases carried

end Praeco.Jwt.Auth
