import Praeco.Http.Message
import Praeco.Strings.Fields

/-! Parameters of the identity provider, its query strings and its plain responses. -/

namespace Praeco.Idp.Params
open Praeco.Strings Utf8 Praeco.Http.Message

structure IdpParams where
  tokenExpirySeconds : Nat
  sessionTtlSeconds : Nat
  cookieName : Text
  cookieDomain : Option Text
  redirectAfterLogin : Text
  allowedAudiences : List Text
  issuer : Text
  onWebhookFailure : Text
  deriving DecidableEq, Repr

def fieldValue (name field : Text) : Option Text :=
  if field.takeWhile (· ≠ '=') = name then
    match field.dropWhile (· ≠ '=') with
    | [] => none
    | _ :: value => some value
  else none

def queryParam (query name : Text) : Option Text := (query.splitOn '&').findSome? (fieldValue name)

def contentType : Text := "content-type".toList

def responseOk (body : Text) : Response := ⟨200, [(contentType, utf8 "application/json".toList)], body⟩

def responseErr (status : Nat) (msg : Text) : Response := ⟨status, [(contentType, utf8 "text/plain".toList)], msg⟩

/-- The `Domain` attribute of a cookie; a name with the `__Host-` marker never gets one. -/
def domainAttribute (params : IdpParams) : Text :=
  match params.cookieDomain with
  | some domain => if "__Host-".toList <+: params.cookieName then [] else "; Domain=".toList ++ domain
  | none => []

end Praeco.Idp.Params
