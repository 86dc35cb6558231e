import Praeco.Collections.Map
import Praeco.Strings.Utf8

/-! The denylist of revoked token ids. An entry holds until its expiry; it is dropped by the first
lookup or cleanup after that. -/

namespace Praeco.Jwt.Revocation
open Praeco.Strings Utf8 Praeco.Collections.Map

def maxRevokedEntries : Nat := 50000

def revocationCleanupIntervalSecs : Nat := 30

def maxJtiLen : Nat := 256

structure JwtRevocationStore where
  revoked : AList (fun _ : Text => Nat)
  lastCleanup : Nat

namespace JwtRevocationStore

def new : JwtRevocationStore := ⟨∅, 0⟩

def len (store : JwtRevocationStore) : Nat := store.revoked.entries.length

def cleanupExpired (store : JwtRevocationStore) (now : Nat) : JwtRevocationStore :=
  { store with revoked := retain (fun _ exp => now < exp) store.revoked }

def cleanupIfDue (store : JwtRevocationStore) (now : Nat) : JwtRevocationStore :=
  if maxRevokedEntries ≤ store.len ∨ revocationCleanupIntervalSecs ≤ now - store.lastCleanup then
    cleanupExpired { store with lastCleanup := now } now
  else store

def revoke (store : JwtRevocationStore) (now : Nat) (jti : Text) (expiresAt : Nat) : JwtRevocationStore :=
  if jti = [] ∨ maxJtiLen < (utf8 jti).length then store
  else
    let cleaned := store.cleanupIfDue now
    if cleaned.len < maxRevokedEntries ∨ jti ∈ cleaned.revoked then
      { cleaned with revoked := cleaned.revoked.insert jti expiresAt }
    else cleaned

def isRevoked (store : JwtRevocationStore) (now : Nat) (jti : Text) : Bool × JwtRevocationStore :=
  match store.revoked.lookup jti with
  | some exp => if now < exp then (true, store) else (false, { store with revoked := store.revoked.erase jti })
  | none => (false, store)

end JwtRevocationStore

def RevokedAt (store : JwtRevocationStore) (now : Nat) (jti : Text) : Prop :=
  ∃ exp, store.revoked.lookup jti = some exp ∧ now < exp

theorem isRevoked_iff (store : JwtRevocationStore) (now : Nat) (jti : Text) :
    (store.isRevoked now jti).1 = true ↔ RevokedAt store now jti := by
  unfold JwtRevocationStore.isRevoked RevokedAt
  cases known : store.revoked.lookup jti with
  | none => simp
  | some exp =>
    by_cases ahead : now < exp
    · simp [ahead]
    · simp [ahead]

/-- Until the given time the id is on the list, with an expiry no earlier than that. -/
def Held (store : JwtRevocationStore) (now : Nat) (jti : Text) (exp : Nat) : Prop :=
  now < exp → ∃ expiresAt, store.revoked.lookup jti = some expiresAt ∧ exp ≤ expiresAt

theorem Held.later {store : JwtRevocationStore} {now later : Nat} {jti : Text} {exp : Nat}
    (held : Held store now jti exp) (order : now ≤ later) : Held store later jti exp := by
  intro ahead
  exact held (order.trans_lt ahead)

theorem Held.revokedAt {store : JwtRevocationStore} {now : Nat} {jti : Text} {exp : Nat}
    (held : Held store now jti exp) (ahead : now < exp) : RevokedAt store now jti := by
  obtain ⟨expiresAt, known, order⟩ := held ahead
  exact ⟨expiresAt, known, ahead.trans_le order⟩

section

variable (store : JwtRevocationStore) (now : Nat)

theorem cleanupExpired_held (jti : Text) (exp : Nat) (held : Held store now jti exp) :
    Held (store.cleanupExpired now) now jti exp := by
  intro ahead
  obtain ⟨expiresAt, known, order⟩ := held ahead
  refine ⟨expiresAt, ?_, order⟩
  have live : now < expiresAt := ahead.trans_le order
  simp [JwtRevocationStore.cleanupExpired, lookup_retain, known, live]

theorem cleanupIfDue_held (jti : Text) (exp : Nat) (held : Held store now jti exp) :
    Held (store.cleanupIfDue now) now jti exp := by
  unfold JwtRevocationStore.cleanupIfDue
  split_ifs with due
  · exact cleanupExpired_held { store with lastCleanup := now } now jti exp held
  · exact held

theorem cleanupIfDue_len : (store.cleanupIfDue now).len ≤ store.len := by
  unfold JwtRevocationStore.cleanupIfDue
  split_ifs with due
  · exact List.length_filter_le _ _
  · exact le_rfl

theorem isRevoked_held (looked jti : Text) (exp : Nat) (held : Held store now jti exp) :
    Held (store.isRevoked now looked).2 now jti exp := by
  unfold JwtRevocationStore.isRevoked
  cases known : store.revoked.lookup looked with
  | none => exact held
  | some found =>
    by_cases live : now < found
    · simpa [live] using held
    · simp only [live, if_false]
      intro ahead
      obtain ⟨expiresAt, listed, order⟩ := held ahead
      -- the pruned entry has expired, so it is not the one that is held
      have other : jti ≠ looked := by
        intro same
        rw [same, known] at listed
        have : found = expiresAt := Option.some.inj listed
        omega
      exact ⟨expiresAt, by rw [AList.lookup_erase_ne other]; exact listed, order⟩

theorem revoke_held (jti : Text) (exp expiresAt : Nat) (room : store.len < maxRevokedEntries)
    (sized : jti ≠ [] ∧ (utf8 jti).length ≤ maxJtiLen) (order : exp ≤ expiresAt) :
    Held (store.revoke now jti expiresAt) now jti exp := by
  intro _
  refine ⟨expiresAt, ?_, order⟩
  have accepted : ¬(jti = [] ∨ maxJtiLen < (utf8 jti).length) := not_or.mpr ⟨sized.1, Nat.not_lt.mpr sized.2⟩
  have free : (store.cleanupIfDue now).len < maxRevokedEntries := (cleanupIfDue_len store now).trans_lt room
  simp [JwtRevocationStore.revoke, accepted, free]

theorem revoke_held_other (revoked : Text) (expiresAt : Nat) (jti : Text) (exp : Nat) (other : revoked ≠ jti)
    (held : Held store now jti exp) : Held (store.revoke now revoked expiresAt) now jti exp := by
  have cleaned := cleanupIfDue_held store now jti exp held
  simp only [JwtRevocationStore.revoke]
  split_ifs with refused free
  · exact held
  · intro ahead
    rw [AList.lookup_insert_ne other.symm]
    exact cleaned ahead
  · exact cleaned

end

end Praeco.Jwt.Revocation
