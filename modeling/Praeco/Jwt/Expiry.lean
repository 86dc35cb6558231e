import Praeco.Jwt.Logout

/-! The denylist against the history of its calls: what a lookup finds is the revocation that was stored last, until its
expiry. -/

namespace Praeco.Jwt.Expiry
open Praeco.Strings Utf8 Praeco.Jwt.Revocation Praeco.Jwt.Logout Praeco.Schedule.Runs Praeco.Collections.Map

variable {store : JwtRevocationStore} {now : Nat} {jti : Text}

/-- A revocation of the id is stored: the id has the right length, and there is room for it after the cleanup. -/
def Accepted (store : JwtRevocationStore) (now : Nat) (jti : Text) : Prop :=
  ¬(jti = [] ∨ maxJtiLen < (utf8 jti).length) ∧
    ((store.cleanupIfDue now).len < maxRevokedEntries ∨ jti ∈ (store.cleanupIfDue now).revoked)

instance (store : JwtRevocationStore) (now : Nat) (jti : Text) : Decidable (Accepted store now jti) :=
  inferInstanceAs (Decidable (_ ∧ _))

def stores (store : JwtRevocationStore) (now : Nat) : StoreOp → Option (Text × Nat)
  | .revoke jti expiresAt => if Accepted store now jti then some (jti, expiresAt) else none
  | _ => none

/-- The store after a call at the time of the clock, and the revocations that have been stored, the last one first. -/
structure Logged where
  clock : Nat
  store : JwtRevocationStore
  stored : List (Text × Nat)

def Logged.new : Logged := ⟨0, JwtRevocationStore.new, []⟩

def step (logged : Logged) (call : Nat × StoreOp) : Logged :=
  ⟨call.1, applyOp call.1 logged.store call.2, (stores logged.store call.1 call.2).toList ++ logged.stored⟩

def Timely (logged : Logged) (call : Nat × StoreOp) : Prop := logged.clock ≤ call.1

instance (logged : Logged) (call : Nat × StoreOp) : Decidable (Timely logged call) :=
  inferInstanceAs (Decidable (_ ≤ _))

theorem revoke_accepted (expiresAt : Nat) (accepted : Accepted store now jti) :
    store.revoke now jti expiresAt =
      { store.cleanupIfDue now with revoked := (store.cleanupIfDue now).revoked.insert jti expiresAt } := by
  rw [JwtRevocationStore.revoke, if_neg accepted.1]
  exact if_pos accepted.2

theorem revoke_refused (expiresAt : Nat) (refused : ¬Accepted store now jti) :
    store.revoke now jti expiresAt = store ∨ store.revoke now jti expiresAt = store.cleanupIfDue now := by
  unfold JwtRevocationStore.revoke
  by_cases sized : jti = [] ∨ maxJtiLen < (utf8 jti).length
  · exact Or.inl (if_pos sized)
  · rw [if_neg sized]
    exact Or.inr (if_neg fun room => refused ⟨sized, room⟩)

theorem applyOp_len (op : StoreOp) (bounded : store.len ≤ maxRevokedEntries) :
    (applyOp now store op).len ≤ maxRevokedEntries := by
  cases op with
  | cleanup => exact (length_retain_le _ _).trans bounded
  | lookup looked =>
    change (store.isRevoked now looked).2.len ≤ _
    unfold JwtRevocationStore.isRevoked
    split
    · split_ifs
      · exact bounded
      · exact (length_erase_le _ _).trans bounded
    · exact bounded
  | revoke revoked expiresAt =>
    have cleaned := (cleanupIfDue_len store now).trans bounded
    change (store.revoke now revoked expiresAt).len ≤ _
    by_cases accepted : Accepted store now revoked
    · rw [revoke_accepted expiresAt accepted]
      rcases accepted.2 with room | present
      · exact (length_insert_le _ _ _).trans room
      · obtain ⟨found, known⟩ := Option.isSome_iff_exists.mp (AList.lookup_isSome.mpr present)
        exact (length_insert_present _ _ _ found known).trans_le cleaned
    · rcases revoke_refused expiresAt accepted with same | same
      · rw [same]
        exact bounded
      · rw [same]
        exact cleaned

def ahead (now : Nat) (found : Option Nat) : Option Nat := found.filter (now < ·)

theorem ahead_ahead {later : Nat} (order : now ≤ later) (found : Option Nat) :
    ahead later (ahead now found) = ahead later found := by
  rw [ahead, ahead, ahead, Option.filter_filter]
  congr 1
  funext exp
  rw [Bool.eq_iff_iff, Bool.and_eq_true, decide_eq_true_eq, decide_eq_true_eq]
  omega

theorem lookup_cleanupIfDue (looked : Text) :
    ahead now ((store.cleanupIfDue now).revoked.lookup looked) = ahead now (store.revoked.lookup looked) := by
  unfold JwtRevocationStore.cleanupIfDue
  split_ifs
  · change ahead now ((retain _ store.revoked).lookup looked) = _
    rw [lookup_retain]
    exact ahead_ahead le_rfl _
  · rfl

theorem lookup_isRevoked (looked other : Text) :
    ahead now ((store.isRevoked now looked).2.revoked.lookup other) = ahead now (store.revoked.lookup other) := by
  unfold JwtRevocationStore.isRevoked
  cases known : store.revoked.lookup looked with
  | none => rfl
  | some exp =>
    dsimp only
    split_ifs with live
    · rfl
    · by_cases same : other = looked
      · subst same
        rw [AList.lookup_erase, known, ahead, ahead, Option.filter_none, Option.filter_some_neg (by simpa using live)]
      · rw [AList.lookup_erase_ne same]

theorem lookup_applyOp (op : StoreOp) (looked : Text) :
    ahead now ((applyOp now store op).revoked.lookup looked) =
      ahead now (((stores store now op).toList.lookup looked).or (store.revoked.lookup looked)) := by
  cases op with
  | cleanup =>
    change ahead now ((retain _ store.revoked).lookup looked) = _
    rw [lookup_retain]
    exact ahead_ahead le_rfl _
  | lookup other => exact lookup_isRevoked other looked
  | revoke revoked expiresAt =>
    change ahead now ((store.revoke now revoked expiresAt).revoked.lookup looked) = _
    by_cases accepted : Accepted store now revoked
    · rw [revoke_accepted expiresAt accepted, stores, if_pos accepted, Option.toList_some]
      by_cases same : looked = revoked
      · subst same
        rw [AList.lookup_insert, List.lookup_cons_self, Option.some_or]
      · rw [AList.lookup_insert_ne same, List.lookup_cons, beq_false_of_ne same]
        exact lookup_cleanupIfDue looked
    · rw [stores, if_neg accepted]
      rcases revoke_refused expiresAt accepted with kept | kept
      · rw [kept]
        rfl
      · rw [kept]
        exact lookup_cleanupIfDue looked

/-- The store holds no more than it may, and of the expiries that lie ahead those that were stored last. -/
structure Mirrors (logged : Logged) : Prop where
  bounded : logged.store.len ≤ maxRevokedEntries
  last : ∀ jti, ahead logged.clock (logged.store.revoked.lookup jti) = ahead logged.clock (logged.stored.lookup jti)

theorem step_mirrors {logged : Logged} {call : Nat × StoreOp} (timely : Timely logged call)
    (mirrors : Mirrors logged) : Mirrors (step logged call) := by
  refine ⟨applyOp_len call.2 mirrors.bounded, ?_⟩
  intro jti
  change ahead call.1 ((applyOp call.1 logged.store call.2).revoked.lookup jti) = ahead call.1
    (((stores logged.store call.1 call.2).toList ++ logged.stored).lookup jti)
  rw [lookup_applyOp, List.lookup_append]
  cases (stores logged.store call.1 call.2).toList.lookup jti with
  | some expiresAt => rfl
  | none => rw [Option.none_or, Option.none_or, ← ahead_ahead timely, mirrors.last, ahead_ahead timely]

theorem run_mirrors {calls : List (Nat × StoreOp)} (timely : Always step Timely Logged.new calls) :
    Mirrors (run step Logged.new calls) :=
  timely.invariant step Mirrors (fun _ _ meets mirrors => step_mirrors meets mirrors) ⟨Nat.zero_le _, fun _ => rfl⟩

theorem ahead_isSome_iff (found : Option Nat) : (ahead now found).isSome ↔ ∃ exp, found = some exp ∧ now < exp := by
  cases found with
  | none => simp [ahead]
  | some exp => simp [ahead, Option.isSome_filter]

theorem isRevoked_iff_last {logged : Logged} (mirrors : Mirrors logged) {later : Nat} (order : logged.clock ≤ later)
    (jti : Text) : (logged.store.isRevoked later jti).1 = true ↔
      ∃ last, logged.stored.lookup jti = some last ∧ later < last := by
  rw [isRevoked_iff, RevokedAt, ← ahead_isSome_iff, ← ahead_isSome_iff, ← ahead_ahead order, mirrors.last,
    ahead_ahead order]

/-- After every run of calls the store is within its bound, and a stored revocation is found until its expiry exactly if
none that lies ahead was stored with a larger expiry than the last one of its id. -/
theorem revocations_found_iff (calls : List (Nat × StoreOp)) (timely : Always step Timely Logged.new calls) :
    (run step Logged.new calls).store.len ≤ maxRevokedEntries ∧
    ∀ jti, (∀ later expiresAt, (run step Logged.new calls).clock ≤ later →
        (jti, expiresAt) ∈ (run step Logged.new calls).stored → later < expiresAt →
        ((run step Logged.new calls).store.isRevoked later jti).1 = true) ↔
      ∀ expiresAt, (jti, expiresAt) ∈ (run step Logged.new calls).stored →
        (run step Logged.new calls).clock < expiresAt →
        ∃ last, (run step Logged.new calls).stored.lookup jti = some last ∧ expiresAt ≤ last := by
  have mirrors := run_mirrors timely
  generalize run step Logged.new calls = logged at mirrors
  refine ⟨mirrors.bounded, ?_⟩
  intro jti
  constructor
  · intro found expiresAt stored live
    -- at the last second of the entry it is still found, which is before the expiry stored last
    obtain ⟨last, known, within⟩ := (isRevoked_iff_last mirrors (by omega) jti).mp
      (found (expiresAt - 1) expiresAt (by omega) stored (by omega))
    exact ⟨last, known, by omega⟩
  · intro largest later expiresAt order stored live
    obtain ⟨last, known, within⟩ := largest expiresAt stored (order.trans_lt live)
    exact (isRevoked_iff_last mirrors order jti).mpr ⟨last, known, live.trans_le within⟩

def revokedOnce : List (Nat × StoreOp) := [(10, .revoke ['j'] 100), (20, .lookup ['j'])]

def revokedAgain : List (Nat × StoreOp) := revokedOnce ++ [(30, .revoke ['j'] 50)]

theorem revocations_found_iff_once : ((run step Logged.new revokedOnce).store.isRevoked 60 ['j']).1 = true := by
  apply ((revocations_found_iff revokedOnce (by decide)).2 ['j']).mpr _ 60 100 (by decide) (by decide) (by decide)
  intro expiresAt stored _
  exact ⟨100, rfl, (Prod.mk.inj (List.mem_singleton.mp stored)).2.le⟩

/-- The second revocation ends the first one early. -/
theorem shortened_revocation_lost : Always step Timely Logged.new revokedAgain ∧
    (['j'], 100) ∈ (run step Logged.new revokedAgain).stored ∧
    ((run step Logged.new revokedAgain).store.isRevoked 60 ['j']).1 = false :=
  ⟨by decide, by decide, by decide⟩

end Praeco.Jwt.Expiry
