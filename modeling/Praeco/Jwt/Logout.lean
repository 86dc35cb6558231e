import Praeco.Idp.Revoke
import Praeco.Schedule.Runs

/-! Runs of a gateway over its denylist: requests to any of its authentication layers, revocation calls,
cleanups and the passing of time. A revoked token is refused until its expiry, and again once the
verification's leeway is over. -/

namespace Praeco.Jwt.Logout
open Praeco.Strings Utf8 Praeco.Http.Message Praeco.Jwt.Token Praeco.Jwt.Revocation Praeco.Jwt.Auth
open Praeco.Idp.Params Praeco.Idp.Revoke Praeco.Schedule.Runs Praeco.Collections.Map

structure State where
  clock : Nat
  store : JwtRevocationStore

inductive Event (Key : Type) where
  | request (service : JwtAuthService Key) (req : Parts)
  | revokeCall (params : IdpParams) (decodingKeys : List Key) (headers : HeaderMap) (query : Text) (mtls : Bool)
  | cleanup
  | tick (seconds : Nat)

section

variable {Key : Type} (lib : JwtLibrary Key)

/-- A request that is called, verified and polled at one time. -/
def handle (state : State) (service : JwtAuthService Key) (req : Parts) : Poll × JwtAuthFuture × JwtRevocationStore :=
  ((service.call req).finishTask lib service state.clock).poll service state.clock state.store

def step (state : State) : Event Key → State
  | .request service req => { state with store := (handle lib state service req).2.2 }
  | .revokeCall params decodingKeys headers query mtls =>
    { state with store := (authRevoke lib params decodingKeys state.clock headers query mtls state.store).2 }
  | .cleanup => { state with store := state.store.cleanupExpired state.clock }
  | .tick seconds => { state with clock := state.clock + seconds }

inductive StoreOp where
  | lookup (jti : Text)
  | revoke (jti : Text) (expiresAt : Nat)
  | cleanup
  deriving DecidableEq, Repr

def applyOp (now : Nat) (store : JwtRevocationStore) : StoreOp → JwtRevocationStore
  | .lookup jti => (store.isRevoked now jti).2
  | .revoke jti expiresAt => store.revoke now jti expiresAt
  | .cleanup => store.cleanupExpired now

def verifiedOps (service : JwtAuthService Key) (now : Nat) (store : JwtRevocationStore) (claims : Claims)
    (path : Text) : List StoreOp :=
  match claims.jti with
  | none => []
  | some jti =>
    if (store.isRevoked now jti).1 then [.lookup jti]
    else if path ∈ service.revokeOnPaths then
      [.lookup jti, .revoke jti (if 0 < claims.exp then claims.exp else now + 3600)]
    else [.lookup jti]

def storeOps (state : State) : Event Key → List StoreOp
  | .request service req =>
    match extractToken service.cookieFallback req.headers with
    | none => []
    | some token =>
      match verifyJwt lib state.clock token service.decodingKeys service.expectedIssuer service.expectedAudience with
      | .error _ => []
      | .ok claims => verifiedOps service state.clock state.store claims req.uri.path
  | .revokeCall params decodingKeys headers query mtls =>
    (requestedRevocations lib params decodingKeys state.clock headers query mtls).1.map
      (fun (jti, expiresAt) => .revoke jti expiresAt)
  | .cleanup => [.cleanup]
  | .tick _ => []

theorem settle_store (service : JwtAuthService Key) (now : Nat) (store : JwtRevocationStore) (claims : Claims)
    (req : Parts) :
    (settle service now store (.ok claims) req).2 =
      run (applyOp now) store (verifiedOps service now store claims req.uri.path) := by
  unfold settle verifiedOps checkRevoked autoRevoke
  cases carried : claims.jti with
  | none => simp [carried, run]
  | some jti =>
    by_cases revoked : (store.isRevoked now jti).1 = true
    · simp [carried, revoked, run, applyOp]
    · by_cases logout : req.uri.path ∈ service.revokeOnPaths
      · simp [carried, revoked, logout, run, applyOp]
      · simp [carried, revoked, logout, run, applyOp]

theorem authRevoke_store (params : IdpParams) (decodingKeys : List Key) (now : Nat) (headers : HeaderMap)
    (query : Text) (mtls : Bool) (store : JwtRevocationStore) :
    (authRevoke lib params decodingKeys now headers query mtls store).2 =
      applyRevocations now store (requestedRevocations lib params decodingKeys now headers query mtls).1 := by
  unfold authRevoke
  by_cases refused : (requestedRevocations lib params decodingKeys now headers query mtls).2 = true
  · simp only [refused, if_true]
  · simp only [refused, Bool.false_eq_true, if_false]

theorem step_store (state : State) (event : Event Key) :
    (step lib state event).store = run (applyOp state.clock) state.store (storeOps lib state event) := by
  cases event with
  | request service req =>
    unfold step storeOps handle JwtAuthService.call
    cases presented : extractToken service.cookieFallback req.headers with
    | none => simp [presented, JwtAuthFuture.finishTask, JwtAuthFuture.poll, run]
    | some token =>
      simp only [presented, JwtAuthFuture.finishTask, JwtAuthFuture.poll]
      cases verifyJwt lib state.clock token service.decodingKeys service.expectedIssuer service.expectedAudience with
      | error e => rfl
      | ok claims => exact settle_store service state.clock state.store claims req
  | revokeCall params decodingKeys headers query mtls =>
    simp only [step, storeOps, authRevoke_store, applyRevocations, run, List.foldl_map]
    rfl
  | cleanup => rfl
  | tick seconds => rfl

theorem clock_le (state : State) (event : Event Key) : state.clock ≤ (step lib state event).clock := by
  cases event with
  | tick seconds => exact Nat.le_add_right _ _
  | _ => exact le_rfl

/-- Every access of the step meets a store below its cap. -/
def Room (state : State) (event : Event Key) : Prop :=
  Always (applyOp state.clock) (fun store _ => store.len < maxRevokedEntries) state.store (storeOps lib state event)

/-- The step does not replace the id's entry by one that expires earlier. -/
def KeepsExpiry (jti : Text) (exp : Nat) (state : State) (event : Event Key) : Prop :=
  ∀ expiresAt, StoreOp.revoke jti expiresAt ∈ storeOps lib state event → exp ≤ expiresAt

theorem applyOp_held (now : Nat) (jti : Text) (exp : Nat) (store : JwtRevocationStore) (op : StoreOp)
    (room : store.len < maxRevokedEntries) (sized : jti ≠ [] ∧ (utf8 jti).length ≤ maxJtiLen)
    (kept : ∀ expiresAt, op = .revoke jti expiresAt → exp ≤ expiresAt)
    (held : Held store now jti exp) : Held (applyOp now store op) now jti exp := by
  cases op with
  | lookup looked => exact isRevoked_held store now looked jti exp held
  | revoke revoked expiresAt =>
    by_cases same : revoked = jti
    · subst same
      exact revoke_held store now revoked exp expiresAt room sized (kept expiresAt rfl)
    · exact revoke_held_other store now revoked expiresAt jti exp same held
  | cleanup => exact cleanupExpired_held store now jti exp held

theorem run_applyOp_held (now : Nat) (jti : Text) (exp : Nat) (store : JwtRevocationStore) (ops : List StoreOp)
    (room : Always (applyOp now) (fun store _ => store.len < maxRevokedEntries) store ops)
    (sized : jti ≠ [] ∧ (utf8 jti).length ≤ maxJtiLen)
    (kept : ∀ expiresAt, StoreOp.revoke jti expiresAt ∈ ops → exp ≤ expiresAt)
    (held : Held store now jti exp) : Held (run (applyOp now) store ops) now jti exp := by
  have listed := always_mem (applyOp now) (· ∈ ops) store ops (fun _ member => member)
  apply (room.and (applyOp now) listed).invariant (applyOp now) (fun store => Held store now jti exp)
  · intro store op meets held
    apply applyOp_held now jti exp store op meets.1 sized _ held
    intro expiresAt same
    exact kept expiresAt (same ▸ meets.2)
  · exact held

theorem step_held (jti : Text) (exp : Nat) (state : State) (event : Event Key) (room : Room lib state event)
    (sized : jti ≠ [] ∧ (utf8 jti).length ≤ maxJtiLen) (kept : KeepsExpiry lib jti exp state event)
    (held : Held state.store state.clock jti exp) :
    Held (step lib state event).store (step lib state event).clock jti exp := by
  rw [step_store]
  apply Held.later _ (clock_le lib state event)
  exact run_applyOp_held state.clock jti exp state.store _ room sized kept held

theorem revocation_held (jti : Text) (exp : Nat) (state : State) (event : Event Key) (room : Room lib state event)
    (sized : jti ≠ [] ∧ (utf8 jti).length ≤ maxJtiLen) (kept : KeepsExpiry lib jti exp state event)
    (revoked : StoreOp.revoke jti exp ∈ storeOps lib state event) :
    Held (step lib state event).store (step lib state event).clock jti exp := by
  obtain ⟨earlier, later, split⟩ := List.append_of_mem revoked
  unfold Room at room
  unfold KeepsExpiry at kept
  rw [split] at room kept
  obtain ⟨-, here, rest⟩ := (always_append _ _ _ _ _).mp room
  rw [step_store, split, run_append]
  apply Held.later _ (clock_le lib state event)
  apply run_applyOp_held state.clock jti exp _ later rest sized
  · intro expiresAt member
    exact kept expiresAt (List.mem_append_right _ (List.mem_cons_of_mem _ member))
  · exact revoke_held _ state.clock jti exp exp here sized le_rfl

/-- Along every run from a revocation of a token under its own expiry, as long as the store has room and no
step shortens the entry, the token is refused at every time outside the verification's leeway. -/
theorem revoked_token_not_forwarded (state : State) (revocation : Event Key) (after : List (Event Key))
    (service : JwtAuthService Key) (req : Parts) (token : Text) (claims : Claims) (jti : Text)
    (payload : lib.payload token = some claims) (carried : claims.jti = some jti)
    (sized : jti ≠ [] ∧ (utf8 jti).length ≤ maxJtiLen)
    (revoked : StoreOp.revoke jti claims.exp ∈ storeOps lib state revocation)
    (room : Always (step lib) (Room lib) state (revocation :: after))
    (kept : Always (step lib) (KeepsExpiry lib jti claims.exp) state (revocation :: after))
    (presented : extractToken service.cookieFallback req.headers = some token)
    (timely : (run (step lib) state (revocation :: after)).clock < claims.exp ∨
      claims.exp + 60 < (run (step lib) state (revocation :: after)).clock) (request : Forwarded) :
    (handle lib (run (step lib) state (revocation :: after)) service req).1 ≠ .forwarded request := by
  have held : Held (run (step lib) state (revocation :: after)).store
      (run (step lib) state (revocation :: after)).clock jti claims.exp := by
    apply (room.2.and (step lib) kept.2).invariant (step lib) (fun state => Held state.store state.clock jti claims.exp)
    · intro state event meets held
      exact step_held lib jti claims.exp state event meets.1 sized meets.2 held
    · exact revocation_held lib jti claims.exp state revocation room.1 sized kept.1 revoked
  intro forwarded
  obtain ⟨shown, presented', verified, notRevoked⟩ := forwarded_inv lib service req [] _ _ _ request forwarded
  obtain rfl := Option.some.inj (presented.symm.trans presented')
  obtain ⟨-, -, -, payload', accepted⟩ := verifyJwt_ok lib _ token _ _ _ _ verified
  obtain rfl := Option.some.inj (payload.symm.trans payload')
  obtain ⟨unexpired, -⟩ := (expectation_accepts _ _ _ _).mp accepted
  rcases timely with early | late
  · exact notRevoked jti carried (held.revokedAt early)
  · omega

end

def webClaims : Claims := claimsOf (some ['w', 'e', 'b'])

def webLibrary : JwtLibrary Unit := listedTokens [(['t'], webClaims)]

def logout : Event Unit := .request webService (bearerRequest ['/', 'o', 'u', 't'] ['t'])

theorem logout_ops :
    storeOps webLibrary ⟨900, JwtRevocationStore.new⟩ logout = [.lookup ['j'], .revoke ['j'] webClaims.exp] := rfl

theorem logout_keepsExpiry : KeepsExpiry webLibrary ['j'] webClaims.exp ⟨900, JwtRevocationStore.new⟩ logout := by
  intro expiresAt member
  rw [logout_ops] at member
  simp only [List.mem_cons, reduceCtorEq, List.not_mem_nil, or_false, false_or, StoreOp.revoke.injEq, true_and] at member
  exact member.ge

theorem revoked_token_not_forwarded_later :
    (handle webLibrary (run (step webLibrary) ⟨900, JwtRevocationStore.new⟩ [logout, .cleanup, .tick 50]) webService
      (bearerRequest ['/'] ['t'])).1 ≠ .forwarded (forwardedOf ['/'] ['t'] (some ['w', 'e', 'b'])) :=
  revoked_token_not_forwarded webLibrary ⟨900, JwtRevocationStore.new⟩ logout [.cleanup, .tick 50] webService
    (bearerRequest ['/'] ['t']) ['t'] webClaims ['j'] rfl rfl (by decide)
    (List.mem_cons_of_mem _ List.mem_cons_self)
    ⟨⟨by decide, by decide, trivial⟩, ⟨by decide, trivial⟩, trivial, trivial⟩
    ⟨logout_keepsExpiry, by simp [KeepsExpiry, storeOps], by simp [KeepsExpiry, storeOps], trivial⟩ rfl
    (Or.inl (by decide))
    (forwardedOf ['/'] ['t'] (some ['w', 'e', 'b']))

/-- A token that is revoked on logout is forwarded again in the minute after its expiry: its entry is
dropped at the expiry and the verification still accepts it. -/
theorem revoked_token_forwarded_in_leeway :
    webLibrary.payload ['t'] = some webClaims ∧ webClaims.jti = some ['j'] ∧ (utf8 ['j']).length ≤ maxJtiLen ∧
    StoreOp.revoke ['j'] webClaims.exp ∈ storeOps webLibrary ⟨900, JwtRevocationStore.new⟩ logout ∧
    Always (step webLibrary) (Room webLibrary) ⟨900, JwtRevocationStore.new⟩ [logout, .tick 130] ∧
    extractToken webService.cookieFallback (bearerRequest ['/'] ['t']).headers = some ['t'] ∧
    (handle webLibrary (run (step webLibrary) ⟨900, JwtRevocationStore.new⟩ [logout, .tick 130]) webService
      (bearerRequest ['/'] ['t'])).1 = .forwarded (forwardedOf ['/'] ['t'] (some ['w', 'e', 'b'])) := by
  refine ⟨rfl, rfl, by decide, ?_, ?_, rfl, rfl⟩
  · exact List.mem_cons_of_mem _ List.mem_cons_self
  · exact ⟨⟨by decide, by decide, trivial⟩, trivial, trivial⟩

end Praeco.Jwt.Logout
