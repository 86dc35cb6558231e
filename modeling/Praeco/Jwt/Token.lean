import Praeco.Strings.Fields

/-! Token verification. Signatures and payloads are the business of the token library; what is stated
about its `decode` is the documented treatment of `exp`, `iss` and `aud`. -/

namespace Praeco.Jwt.Token
open Praeco.Strings Utf8 Fields

structure Claims where
  sub : Text
  iss : Text
  aud : Option Text
  exp : Nat
  oids : List Text
  jti : Option Text
  deriving DecidableEq, Repr

inductive SpecClaim where
  | exp
  | iss
  | aud
  deriving DecidableEq, Repr

/-- The settings of the library that the gateway touches; the algorithm is always EdDSA. -/
structure Validation where
  requiredSpecClaims : List SpecClaim
  leeway : Nat
  validateExp : Bool
  validateAud : Bool
  iss : Option (List Text)
  aud : Option (List Text)
  deriving DecidableEq, Repr

def Validation.new : Validation := ⟨[.exp], 60, true, true, none, none⟩

def Claims.carries (claims : Claims) : SpecClaim → Bool
  | .exp => true
  | .iss => true
  | .aud => claims.aud.isSome

/-- The checks on a payload. The issuer and the audience are compared only if they are present, and a
missing one is refused only if it is required; a present audience without a configured set is refused. -/
def Validation.accepts (validation : Validation) (now : Nat) (claims : Claims) : Bool :=
  validation.requiredSpecClaims.all claims.carries &&
  (!validation.validateExp || now ≤ claims.exp + validation.leeway) &&
  (match validation.iss with
    | some issuers => claims.iss ∈ issuers
    | none => true) &&
  (!validation.validateAud ||
    match claims.aud, validation.aud with
    | some aud, some audiences => aud ∈ audiences
    | some _, none => false
    | none, _ => true)

/-- The token library. The payload is read from the token itself; a key only decides on the signature. -/
structure JwtLibrary (Key : Type) where
  payload : Text → Option Claims
  verifies : Text → Key → Bool
  decode : Nat → Text → Key → Validation → Option Claims
  decode_eq : ∀ now token key validation, decode now token key validation =
    if verifies token key then (payload token).filter (validation.accepts now) else none

section

variable {Key : Type} (lib : JwtLibrary Key)

def expectation (expectedIssuer expectedAudience : Text) : Validation :=
  let issList := commaList expectedIssuer
  let audList := commaList expectedAudience
  let validation := if issList ≠ [] then { Validation.new with iss := some issList } else Validation.new
  if audList ≠ [] then { validation with aud := some audList } else { validation with validateAud := false }

def verifyJwt (now : Nat) (token : Text) (decodingKeys : List Key) (expectedIssuer expectedAudience : Text) :
    Except Text Claims :=
  match decodingKeys.findSome?
      (fun key => lib.decode now token key (expectation expectedIssuer expectedAudience)) with
  | some claims => .ok claims
  | none => .error "JWT verification failed with all keys".toList

theorem decode_some (now : Nat) (token : Text) (key : Key) (validation : Validation) (claims : Claims) :
    lib.decode now token key validation = some claims ↔
      lib.verifies token key = true ∧ lib.payload token = some claims ∧ validation.accepts now claims = true := by
  rw [lib.decode_eq]
  by_cases verified : lib.verifies token key = true
  · simp [verified, Option.filter_eq_some_iff]
  · simp [verified]

theorem expectation_accepts (expectedIssuer expectedAudience : Text) (now : Nat) (claims : Claims) :
    (expectation expectedIssuer expectedAudience).accepts now claims = true ↔
      now ≤ claims.exp + 60 ∧ (commaList expectedIssuer ≠ [] → claims.iss ∈ commaList expectedIssuer) ∧
      (commaList expectedAudience ≠ [] → ∀ aud, claims.aud = some aud → aud ∈ commaList expectedAudience) := by
  unfold expectation Validation.accepts
  by_cases issuers : commaList expectedIssuer = []
  · by_cases audiences : commaList expectedAudience = []
    · simp [issuers, audiences, Validation.new, Claims.carries]
    · cases present : claims.aud <;> simp [issuers, audiences, Validation.new, Claims.carries]
  · by_cases audiences : commaList expectedAudience = []
    · simp [issuers, audiences, Validation.new, Claims.carries]
    · cases present : claims.aud <;> simp [issuers, audiences, Validation.new, Claims.carries, and_assoc]

theorem verifyJwt_ok (now : Nat) (token : Text) (decodingKeys : List Key) (expectedIssuer expectedAudience : Text)
    (claims : Claims) (verified : verifyJwt lib now token decodingKeys expectedIssuer expectedAudience = .ok claims) :
    ∃ key ∈ decodingKeys, lib.verifies token key = true ∧ lib.payload token = some claims ∧
      (expectation expectedIssuer expectedAudience).accepts now claims = true := by
  unfold verifyJwt at verified
  cases found : decodingKeys.findSome?
      (fun key => lib.decode now token key (expectation expectedIssuer expectedAudience)) with
  | none =>
    rw [found] at verified
    cases verified
  | some first =>
    rw [found] at verified
    cases verified
    obtain ⟨key, member, decoded⟩ := List.exists_of_findSome?_eq_some found
    exact ⟨key, member, (decode_some lib now token key _ claims).mp decoded⟩

end

end Praeco.Jwt.Token
