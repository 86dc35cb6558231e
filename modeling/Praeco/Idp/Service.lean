import Praeco.Idp.Revoke
import Praeco.Idp.SessionSteps

/-! The identity provider: its endpoints as calls over the session store and the denylist. A request runs up to
its first access to the session store at once, and goes on with every answer of the store and of the webhook. -/

namespace Praeco.Idp.Service
open Praeco.Strings Utf8 Praeco.Http.Message Praeco.Jwt.Token Praeco.Jwt.Revocation Praeco.Net.Address
open Praeco.Schedule.Runs Praeco.Schedule.Interleaving Praeco.Idp.Params Praeco.Idp.Revoke Praeco.Idp.SessionSteps
open Praeco.Idp.Session (SessionStore SessionInfo SessionStatus CreateSessionError PollError ConfirmError)

structure ClientCert where
  san : Option Text
  commonName : Option Text
  oids : Option (List Text)
  deriving DecidableEq, Repr

inductive WebhookOutcome where
  | notSent (error : Text)
  | finished (result : Except Text (List Text))

/-- A request, with the random values it draws and what becomes of the webhook it may ask. -/
structure IdpRequest where
  parts : Parts
  clientIp : Option IpAddr
  cert : Option ClientCert
  info : SessionInfo
  uuid : Text
  webhook : WebhookOutcome

structure IdpService (Key : Type) where
  params : IdpParams
  lib : JwtLibrary Key
  decodingKeys : List Key
  signJwt : Claims → Except Text Text
  jwksPayload : Option Text
  loginHtml : Text
  hasWebhook : Bool

/-- The stores, and all claims that have been signed. -/
structure IdpState where
  sessions : SessionStore
  revocations : JwtRevocationStore
  signed : List Claims

inductive Purpose where
  | login
  | status
  | sessionInfo
  | precheck (sid : Text) (userCode : Option Text) (claims : Claims)
  | confirm
  deriving DecidableEq, Repr

inductive IdpAccess where
  | received (request : IdpRequest)
  | session (request : IdpRequest) (purpose : Purpose) (access : Session.Access)
  /-- The webhook is asked for a token, or for the confirmation of a session. -/
  | webhook (request : IdpRequest) (claims : Claims) (confirmation : Option (Text × Option Text))
    (result : Except Text (List Text))

def jwksPath : Text :=
  ['/', '.', 'w', 'e', 'l', 'l', '-', 'k', 'n', 'o', 'w', 'n', '/', 'j', 'w', 'k', 's', '.', 'j', 's', 'o', 'n']

def authPath (name : Text) : Text := ['/', 'a', 'u', 't', 'h', '/'] ++ name

def loginPagePath : Text := authPath ['l', 'o', 'g', 'i', 'n', '_', 'p', 'a', 'g', 'e']

def loginPath : Text := authPath ['l', 'o', 'g', 'i', 'n']

def statusPath : Text := authPath ['s', 't', 'a', 't', 'u', 's']

def sessionInfoPath : Text := authPath ['s', 'e', 's', 's', 'i', 'o', 'n', '_', 'i', 'n', 'f', 'o']

def confirmPath : Text := authPath ['c', 'o', 'n', 'f', 'i', 'r', 'm']

def tokenPath : Text := authPath ['t', 'o', 'k', 'e', 'n']

def revokePath : Text := authPath ['r', 'e', 'v', 'o', 'k', 'e']

namespace IdpRequest

variable (request : IdpRequest)

def query : Text := request.parts.uri.query.getD []

def sessionId : Option Text := queryParam request.query ['s', 'e', 's', 's', 'i', 'o', 'n']

def paramOrHeader (name header : Text) : Option Text :=
  (queryParam request.query name).or ((request.parts.headers.get header).bind headerToStr)

def pollSecret : Option Text :=
  request.paramOrHeader ['p', 'o', 'l', 'l', '_', 's', 'e', 'c', 'r', 'e', 't']
    ['x', '-', 'p', 'o', 'l', 'l', '-', 's', 'e', 'c', 'r', 'e', 't']

def userCode : Option Text :=
  request.paramOrHeader ['c', 'o', 'd', 'e'] ['x', '-', 'u', 's', 'e', 'r', '-', 'c', 'o', 'd', 'e']

def requestedAud : Option Text := queryParam request.query ['a', 'u', 'd']

end IdpRequest

section

variable {Key : Type} (service : IdpService Key)

/-- The audience of claims from a certificate: the requested one if it is allowed, else the first allowed one. -/
def certAudience (request : IdpRequest) : Option Text :=
  (request.requestedAud.filter (· ∈ service.params.allowedAudiences)).or service.params.allowedAudiences.head?

def mtlsClaims (request : IdpRequest) : Option Claims :=
  request.cert.map fun cert =>
    { sub := cert.san.getD (cert.commonName.getD "device".toList)
      iss := service.params.issuer
      aud := certAudience service request
      exp := 0
      oids := cert.oids.getD []
      jti := none }

def asSecs (now : Nat) : Nat := now / Session.second

/-- The claims that are signed: with the expiry set, and an id assigned if there is none. -/
def finalClaims (now : Nat) (request : IdpRequest) (claims : Claims) : Claims :=
  { claims with
    exp := asSecs now + service.params.tokenExpirySeconds
    jti := some (claims.jti.getD request.uuid) }

def sign (state : IdpState) (claims : Claims) : Except Text Text × IdpState :=
  match service.signJwt claims with
  | .ok token => (.ok token, { state with signed := state.signed ++ [claims] })
  | .error e => (.error e, state)

def jwtError : Response := responseErr 500 "JWT Error".toList

def generateJwtCookieResponse (now : Nat) (state : IdpState) (request : IdpRequest) (claims : Claims) :
    Response × IdpState :=
  match sign service state (finalClaims service now request claims) with
  | (.error _, state) => (jwtError, state)
  | (.ok token, state) =>
    let cookie := service.params.cookieName ++ ['='] ++ token ++
      "; HttpOnly; Secure; SameSite=Lax; Path=/; Max-Age=".toList ++
      (Nat.repr service.params.tokenExpirySeconds).toList ++ domainAttribute service.params
    let body := "\x7b\"status\":\"confirmed\",\"redirect\":\"".toList ++ service.params.redirectAfterLogin ++
      "\"\x7d".toList
    (⟨200, [("set-cookie".toList, utf8 cookie), (contentType, utf8 "application/json".toList)], body⟩, state)

/-- The claims after the webhook, if it was asked; a failure is fatal unless the certificate may stand in. -/
def resolveOids (claims : Claims) (dynamicOids : Option (Except Text (List Text))) : Except Response Claims :=
  match dynamicOids with
  | none => .ok claims
  | some (.ok oids) => .ok { claims with oids }
  | some (.error _) =>
    if service.params.onWebhookFailure ≠ "fallback_to_cert".toList then
      .error (responseErr 503 "Claims resolution failed".toList)
    else .ok claims

def handleAuthToken (now : Nat) (state : IdpState) (request : IdpRequest) (claims : Claims)
    (dynamicOids : Option (Except Text (List Text))) : IdpState × Progress IdpAccess Response :=
  match resolveOids service claims dynamicOids with
  | .error response => (state, .answered response)
  | .ok claims =>
    match sign service state (finalClaims service now request claims) with
    | (.error _, state) => (state, .answered jwtError)
    | (.ok token, state) =>
      (state, .answered (responseOk ("\x7b\"token\":\"".toList ++ token ++ "\"\x7d".toList)))

def handleAuthConfirm (state : IdpState) (request : IdpRequest) (sid : Text) (userCode : Option Text)
    (claims : Claims) (dynamicOids : Option (Except Text (List Text))) : IdpState × Progress IdpAccess Response :=
  match resolveOids service claims dynamicOids with
  | .error response => (state, .answered response)
  | .ok claims =>
    (state, .running (.session request .confirm (Session.start (.confirmSession sid userCode claims))))

def finishClaims (now : Nat) (state : IdpState) (request : IdpRequest) (claims : Claims)
    (confirmation : Option (Text × Option Text)) (dynamicOids : Option (Except Text (List Text))) :
    IdpState × Progress IdpAccess Response :=
  match confirmation with
  | none => handleAuthToken service now state request claims dynamicOids
  | some (sid, userCode) => handleAuthConfirm service state request sid userCode claims dynamicOids

def resolveClaims (now : Nat) (state : IdpState) (request : IdpRequest) (claims : Claims)
    (confirmation : Option (Text × Option Text)) : IdpState × Progress IdpAccess Response :=
  if service.hasWebhook then
    match request.webhook with
    | .notSent e => finishClaims service now state request claims confirmation (some (.error e))
    | .finished result => (state, .running (.webhook request claims confirmation result))
  else finishClaims service now state request claims confirmation none

def missingSession : Response := responseErr 400 "Missing session parameter".toList

def sessionGone : Response := responseErr 404 "Session not found or expired".toList

def authLogin (state : IdpState) (request : IdpRequest) : IdpState × Progress IdpAccess Response :=
  let allowed := service.params.allowedAudiences
  if request.requestedAud.any (fun aud => allowed ≠ [] ∧ aud ∉ allowed) then
    (state, .answered (responseErr 400 "Requested audience is not in allowed_audiences".toList))
  else
    let targetAud := request.requestedAud.or allowed.head?
    (state, .running (.session request .login (Session.start (.createSession ⟨request.clientIp, targetAud, request.info⟩))))

def authStatus (state : IdpState) (request : IdpRequest) : IdpState × Progress IdpAccess Response :=
  match request.sessionId, request.pollSecret with
  | none, _ => (state, .answered missingSession)
  | some _, none =>
    (state, .answered (responseErr 401 "Missing poll_secret parameter or X-Poll-Secret header".toList))
  | some sid, some secret => (state, .running (.session request .status (Session.start (.getAndConsume sid secret))))

def authSessionInfo (state : IdpState) (request : IdpRequest) : IdpState × Progress IdpAccess Response :=
  match request.sessionId with
  | none => (state, .answered missingSession)
  | some sid => (state, .running (.session request .sessionInfo (Session.start (.getSessionUserCode sid))))

def authConfirm (state : IdpState) (request : IdpRequest) : IdpState × Progress IdpAccess Response :=
  match request.sessionId, mtlsClaims service request with
  | none, _ => (state, .answered missingSession)
  | some _, none => (state, .answered (responseErr 401 "mTLS required to confirm session".toList))
  | some sid, some claims =>
    (state, .running (.session request (.precheck sid request.userCode claims)
      (Session.start (.verifySessionCode sid request.userCode))))

def authToken (now : Nat) (state : IdpState) (request : IdpRequest) : IdpState × Progress IdpAccess Response :=
  match mtlsClaims service request with
  | none => (state, .answered (responseErr 401 "mTLS required".toList))
  | some claims => resolveClaims service now state request claims none

def jwks : Response :=
  match service.jwksPayload with
  | some payload => ⟨200, [(contentType, utf8 "application/jwk-set+json".toList)], payload⟩
  | none => responseErr 404 "JWKS not configured".toList

def loginPage : Response :=
  ⟨200, [(contentType, utf8 "text/html; charset=utf-8".toList),
    ("cache-control".toList, utf8 "no-store, no-cache, must-revalidate".toList)], service.loginHtml⟩

def dispatch (now : Nat) (state : IdpState) (request : IdpRequest) : IdpState × Progress IdpAccess Response :=
  let path := request.parts.uri.path
  match request.parts.method with
  | .get =>
    if path = jwksPath then (state, .answered (jwks service))
    else if path = loginPagePath then (state, .answered (loginPage service))
    else if path = statusPath then authStatus state request
    else if path = sessionInfoPath then authSessionInfo state request
    else (state, .answered (responseErr 404 "Not Found".toList))
  | .post =>
    if path = loginPath then authLogin service state request
    else if path = confirmPath then authConfirm service state request
    else if path = tokenPath then authToken service now state request
    else if path = revokePath then
      let (response, revocations) := authRevoke service.lib service.params service.decodingKeys (asSecs now)
        request.parts.headers request.query (mtlsClaims service request).isSome state.revocations
      ({ state with revocations }, .answered response)
    else (state, .answered (responseErr 404 "Not Found".toList))
  | _ => (state, .answered (responseErr 404 "Not Found".toList))

def createdResponse : Except CreateSessionError SessionInfo → Response
  | .ok info => responseOk ("\x7b\"session\":\"".toList ++ info.sessionId ++ "\",\"poll_secret\":\"".toList ++
      info.pollSecret ++ "\",\"user_code\":\"".toList ++ info.userCode ++ "\"\x7d".toList)
  | .error .rateLimited =>
    responseErr 429 "Rate limit exceeded. Please wait before creating a new login session.".toList
  | .error .capacityExceeded => responseErr 503 "Server busy: maximum active sessions reached.".toList

def confirmErrorResponse : ConfirmError → Response
  | .invalidUserCode => responseErr 400 "Invalid confirmation user code".toList
  | .alreadyConfirmed => responseErr 409 "Session already confirmed".toList
  | .notFound => sessionGone
  | .expired => sessionGone

def userCodeResponse : Option Text → Response
  | some code => responseOk ("\x7b\"user_code\":\"".toList ++ code ++ "\"\x7d".toList)
  | none => sessionGone

/-- A request goes on with the answer of the session store. Each purpose meets answers of one kind only, so the
last case does not occur. -/
def resume (now : Nat) (state : IdpState) (request : IdpRequest) (purpose : Purpose) (answer : Session.Answer) :
    IdpState × Progress IdpAccess Response :=
  match purpose, answer with
  | .login, .created result => (state, .answered (createdResponse result))
  | .status, .polled (.ok .pending) => (state, .answered (responseOk "\x7b\"status\":\"pending\"\x7d".toList))
  | .status, .polled (.ok (.confirmed claims)) =>
    let (response, state) := generateJwtCookieResponse service now state request claims
    (state, .answered response)
  | .status, .polled (.error .unauthorized) => (state, .answered (responseErr 401 "Invalid poll secret".toList))
  | .status, .polled (.error .notFound) => (state, .answered sessionGone)
  | .sessionInfo, .userCode code => (state, .answered (userCodeResponse code))
  | .precheck _ _ _, .checked (.error e) => (state, .answered (confirmErrorResponse e))
  | .precheck sid userCode claims, .checked (.ok ()) =>
    resolveClaims service now state request claims (some (sid, userCode))
  | .confirm, .checked (.error e) => (state, .answered (confirmErrorResponse e))
  | .confirm, .checked (.ok ()) => (state, .answered (responseOk "\x7b\"status\":\"confirmed\"\x7d".toList))
  | _, _ => (state, .answered (responseErr 500 []))

def perform (now : Nat) (state : IdpState) : IdpAccess → IdpState × Progress IdpAccess Response
  | .received request => dispatch service now state request
  | .session request purpose access =>
    match Session.perform now state.sessions access with
    | (sessions, .running next) => ({ state with sessions }, .running (.session request purpose next))
    | (sessions, .answered answer) => resume service now { state with sessions } request purpose answer
  | .webhook request claims confirmation result =>
    finishClaims service now state request claims confirmation (some result)

def idpService : Object IdpState IdpRequest IdpAccess Response := ⟨.received, perform service⟩

end

end Praeco.Idp.Service
