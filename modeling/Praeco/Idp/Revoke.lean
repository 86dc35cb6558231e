import Praeco.Idp.Params
import Praeco.Jwt.Auth

/-! The revocation endpoint. It revokes the presented token under its own expiry, and an explicitly
named id for a caller with a client certificate. -/

namespace Praeco.Idp.Revoke
open Praeco.Strings Utf8 Fields Praeco.Http.Message Praeco.Jwt.Token Praeco.Jwt.Revocation Praeco.Jwt.Auth
open Praeco.Idp.Params

/-- The token of the request: the bearer header, else the cookie, whose value is taken as it stands. -/
def presentedToken (params : IdpParams) (headers : HeaderMap) : Option Text :=
  match bearerToken headers with
  | some token => some token
  | none => (headers.getAll cookieName).findSome? (cookieIn params.cookieName)

def revokeValidation : Validation := { Validation.new with validateExp := false, validateAud := false }

section

variable {Key : Type} (lib : JwtLibrary Key) (params : IdpParams) (decodingKeys : List Key)

/-- The id and the expiry to revoke for a token: those of the first key that yields an id. -/
def tokenRevocation (now : Nat) (token : Text) : Option (Text × Nat) :=
  decodingKeys.findSome? (fun key => do
    let claims ← lib.decode now token key revokeValidation
    let jti ← claims.jti
    some (jti, if 0 < claims.exp then claims.exp else now + params.tokenExpirySeconds))

def jtiKey : Text := ['j', 't', 'i']

def requestedRevocations (now : Nat) (headers : HeaderMap) (query : Text) (mtls : Bool) : List (Text × Nat) × Bool :=
  let fromToken := ((presentedToken params headers).bind (tokenRevocation lib params decodingKeys now)).toList
  match queryParam query jtiKey with
  | none => (fromToken, false)
  | some explicitJti =>
    if ¬mtls then (fromToken, true)
    else if explicitJti ≠ [] ∧ (utf8 explicitJti).length ≤ 256 then
      (fromToken ++ [(explicitJti, now + params.tokenExpirySeconds)], false)
    else (fromToken, false)

def applyRevocations (now : Nat) (store : JwtRevocationStore) (revocations : List (Text × Nat)) : JwtRevocationStore :=
  revocations.foldl (fun store (jti, expiresAt) => store.revoke now jti expiresAt) store

def clearedCookie : Text :=
  params.cookieName ++
    "=; Path=/; Expires=Thu, 01 Jan 1970 00:00:00 GMT; Max-Age=0; HttpOnly; SameSite=Lax".toList ++
    domainAttribute params

def authRevoke (now : Nat) (headers : HeaderMap) (query : Text) (mtls : Bool) (store : JwtRevocationStore) :
    Response × JwtRevocationStore :=
  let (revocations, refused) := requestedRevocations lib params decodingKeys now headers query mtls
  let store := applyRevocations now store revocations
  if refused then (responseErr 401 "Unauthorized: mTLS required to revoke explicit JTI".toList, store)
  else
    let body := if revocations = [] then "\x7b\"status\":\"cleared\"\x7d".toList
      else "\x7b\"status\":\"revoked\"\x7d".toList
    (⟨200, [("set-cookie".toList, utf8 (clearedCookie params)), (contentType, utf8 "application/json".toList)], body⟩,
      store)

end

end Praeco.Idp.Revoke
