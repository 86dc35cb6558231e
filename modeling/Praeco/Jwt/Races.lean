import Praeco.Jwt.Expiry
import Praeco.Schedule.Sequential

/-! The denylist under concurrent calls, each of which takes one access to the map at a time. The map is kept in shards
with a lock each, so what goes through the whole map goes from shard to shard. -/

namespace Praeco.Jwt.Races
open Praeco.Strings Utf8 Praeco.Collections.Map Praeco.Jwt.Revocation
open Praeco.Jwt.Expiry (ahead)
open Praeco.Schedule.Runs Praeco.Schedule.Interleaving
open Praeco.Schedule.Sequential (block)

structure Sharding where
  count : Nat
  shard : Text → Fin count

inductive Call where
  | revoke (jti : Text) (expiresAt : Nat)
  | isRevoked (jti : Text)
  | cleanupExpired
  deriving DecidableEq, Repr

inductive Answer where
  | done
  | revoked (result : Bool)
  deriving DecidableEq, Repr

/-- An access, with what its call remembers. A cleanup belongs to a revocation or stands alone. -/
inductive Access where
  | revokeClock (jti : Text) (expiresAt : Nat)
  | loadCleanup (jti : Text) (expiresAt now : Nat)
  | dueLen (jti : Text) (expiresAt now last shard sum : Nat)
  | exchange (jti : Text) (expiresAt now last : Nat)
  | cleanupClock (revocation : Option (Text × Nat))
  | retain (revocation : Option (Text × Nat)) (now shard : Nat)
  | roomLen (jti : Text) (expiresAt shard sum : Nat)
  | containsKey (jti : Text) (expiresAt : Nat)
  | insert (jti : Text) (expiresAt : Nat)
  | lookupClock (jti : Text)
  | get (jti : Text) (now : Nat)
  | remove (jti : Text)
  deriving DecidableEq, Repr

def start : Call → Access
  | .revoke jti expiresAt => .revokeClock jti expiresAt
  | .isRevoked jti => .lookupClock jti
  | .cleanupExpired => .cleanupClock none

section

variable (sharding : Sharding)

def shardLen (store : JwtRevocationStore) (shard : Nat) : Nat :=
  (store.revoked.entries.filter (fun entry => (sharding.shard entry.1).val = shard)).length

def retainShard (store : JwtRevocationStore) (now shard : Nat) : JwtRevocationStore :=
  { store with revoked := retain (fun jti exp => (sharding.shard jti).val ≠ shard || now < exp) store.revoked }

def afterCleanup : Option (Text × Nat) → Progress Access Answer
  | some (jti, expiresAt) => .running (.roomLen jti expiresAt 0 0)
  | none => .answered .done

def perform (now : Nat) (store : JwtRevocationStore) : Access → JwtRevocationStore × Progress Access Answer
  | .revokeClock jti expiresAt =>
    if jti = [] ∨ maxJtiLen < (utf8 jti).length then (store, .answered .done)
    else (store, .running (.loadCleanup jti expiresAt now))
  | .loadCleanup jti expiresAt read => (store, .running (.dueLen jti expiresAt read store.lastCleanup 0 0))
  | .dueLen jti expiresAt read last shard sum =>
    let sum := sum + shardLen sharding store shard
    if shard + 1 < sharding.count then (store, .running (.dueLen jti expiresAt read last (shard + 1) sum))
    else if maxRevokedEntries ≤ sum ∨ revocationCleanupIntervalSecs ≤ read - last then
      (store, .running (.exchange jti expiresAt read last))
    else (store, .running (.roomLen jti expiresAt 0 0))
  | .exchange jti expiresAt read last =>
    if store.lastCleanup = last then
      ({ store with lastCleanup := read }, .running (.cleanupClock (some (jti, expiresAt))))
    else (store, .running (.roomLen jti expiresAt 0 0))
  | .cleanupClock revocation => (store, .running (.retain revocation now 0))
  | .retain revocation read shard =>
    (retainShard sharding store read shard,
      if shard + 1 < sharding.count then .running (.retain revocation read (shard + 1)) else afterCleanup revocation)
  | .roomLen jti expiresAt shard sum =>
    let sum := sum + shardLen sharding store shard
    if shard + 1 < sharding.count then (store, .running (.roomLen jti expiresAt (shard + 1) sum))
    else if sum < maxRevokedEntries then (store, .running (.insert jti expiresAt))
    else (store, .running (.containsKey jti expiresAt))
  | .containsKey jti expiresAt =>
    if jti ∈ store.revoked then (store, .running (.insert jti expiresAt)) else (store, .answered .done)
  | .insert jti expiresAt => ({ store with revoked := store.revoked.insert jti expiresAt }, .answered .done)
  | .lookupClock jti => (store, .running (.get jti now))
  | .get jti read =>
    match store.revoked.lookup jti with
    | some exp => if read < exp then (store, .answered (.revoked true)) else (store, .running (.remove jti))
    | none => (store, .answered (.revoked false))
  -- The entry is removed by its id, whatever it has become.
  | .remove jti => ({ store with revoked := store.revoked.erase jti }, .answered (.revoked false))

def revocationStore : Object JwtRevocationStore Call Access Answer := ⟨start, perform sharding⟩

end

abbrev Store := System JwtRevocationStore Call Access Answer

def initial (clock : Nat) : Store := ⟨clock, JwtRevocationStore.new, [], []⟩

def Access.readAt : Access → Nat
  | .loadCleanup _ _ now => now
  | .dueLen _ _ now _ _ _ => now
  | .exchange _ _ now _ => now
  | .retain _ now _ => now
  | .get _ now => now
  | _ => 0

def stored : Access → Option (Text × Nat)
  | .insert jti expiresAt => some (jti, expiresAt)
  | _ => none

def lastStored (history : List (Nat × Access)) (jti : Text) : Option Nat :=
  (history.reverse.filterMap fun made => stored made.2).lookup jti

theorem lastStored_append (first second : List (Nat × Access)) (jti : Text) :
    lastStored (first ++ second) jti = (lastStored second jti).or (lastStored first jti) := by
  unfold lastStored
  rw [List.reverse_append, List.filterMap_append, List.lookup_append]

theorem lastStored_singleton (index : Nat) (access : Access) (jti : Text) :
    lastStored [(index, access)] jti = (stored access).toList.lookup jti := by
  unfold lastStored
  cases found : stored access with
  | none => simp [found]
  | some revocation => simp [found]

section

variable {sharding : Sharding} {now : Nat} {store : JwtRevocationStore}

def Past (now : Nat) : Progress Access Answer → Prop
  | .running access => access.readAt ≤ now
  | .answered _ => True

theorem perform_past (access : Access) (read : access.readAt ≤ now) :
    Past now (perform sharding now store access).2 := by
  cases access with
  | revokeClock jti expiresAt =>
    dsimp only [perform]
    split_ifs
    · exact trivial
    · exact Nat.le_refl now
  | loadCleanup jti expiresAt now => exact read
  | dueLen jti expiresAt now last shard sum =>
    dsimp only [perform]
    split_ifs
    · exact read
    · exact read
    · exact Nat.zero_le _
  | exchange jti expiresAt now last =>
    dsimp only [perform]
    split_ifs
    · exact Nat.zero_le _
    · exact Nat.zero_le _
  | cleanupClock revocation => exact Nat.le_refl now
  | retain revocation now shard =>
    dsimp only [perform]
    split_ifs
    · exact read
    · cases revocation with
      | none => exact trivial
      | some revocation => exact Nat.zero_le _
  | roomLen jti expiresAt shard sum =>
    dsimp only [perform]
    split_ifs
    · exact Nat.zero_le _
    · exact Nat.zero_le _
    · exact Nat.zero_le _
  | containsKey jti expiresAt =>
    dsimp only [perform]
    split_ifs
    · exact Nat.zero_le _
    · exact trivial
  | insert jti expiresAt => exact trivial
  | lookupClock jti => exact Nat.le_refl now
  | get jti now =>
    dsimp only [perform]
    split
    · split_ifs
      · exact trivial
      · exact Nat.zero_le _
    · exact trivial
  | remove jti => exact trivial

theorem reachable_past {condition : Store → Label Call → Prop} {clock : Nat} {system : Store}
    (reachable : Reachable (step (revocationStore sharding)) condition (initial clock) system) :
    ∀ index call since progress, system.At index call since progress → Past system.clock progress := by
  apply reachable_induction condition (initial clock) _ _ _ _ _ reachable
  · intro index call since progress present
    cases present
  · intro system duration _ past index call since progress present
    have before := past index call since progress present
    cases progress with
    | answered answer => exact trivial
    | running access => exact Nat.le_add_right_of_le before
  · intro system added _ _ past index call since progress present
    rcases (at_called added).mp present with old | ⟨-, -, -, rfl⟩
    · exact past index call since progress old
    · cases added
      all_goals exact Nat.zero_le _
  · intro system moving mover arrival access _ _ running past index call since progress present
    rcases (at_moved running).mp present with ⟨-, old⟩ | ⟨-, -, -, rfl⟩
    · exact past index call since progress old
    · exact perform_past access (past moving mover arrival (.running access) running)

theorem lookup_retainShard {read : Nat} (past : read ≤ now) (shard : Nat) (jti : Text) :
    ahead now ((retainShard sharding store read shard).revoked.lookup jti) = ahead now (store.revoked.lookup jti) := by
  change ahead now ((retain _ store.revoked).lookup jti) = _
  rw [lookup_retain, ahead, ahead, Option.filter_filter]
  congr 1
  funext exp
  rw [Bool.eq_iff_iff, Bool.and_eq_true, Bool.or_eq_true, decide_eq_true_eq, decide_eq_true_eq, decide_eq_true_eq]
  omega

theorem lookup_perform (sharding : Sharding) (store : JwtRevocationStore) (access : Access) (read : access.readAt ≤ now)
    (keeps : ∀ removed, access ≠ .remove removed) (jti : Text) :
    ahead now ((perform sharding now store access).1.revoked.lookup jti) =
      ahead now (((stored access).toList.lookup jti).or (store.revoked.lookup jti)) := by
  cases access with
  | remove removed => exact absurd rfl (keeps removed)
  | insert revoked expiresAt =>
    change ahead now ((store.revoked.insert revoked expiresAt).lookup jti) =
      ahead now ((List.lookup jti [(revoked, expiresAt)]).or _)
    by_cases same : jti = revoked
    · subst same
      rw [AList.lookup_insert, List.lookup_cons_self, Option.some_or]
    · rw [AList.lookup_insert_ne same, List.lookup_cons, beq_false_of_ne same]
      rfl
  | retain revocation read' shard => exact lookup_retainShard read shard jti
  | exchange revoked expiresAt read' last =>
    dsimp only [perform]
    split_ifs
    · rfl
    · rfl
  | revokeClock revoked expiresAt =>
    dsimp only [perform]
    split_ifs
    · rfl
    · rfl
  | dueLen revoked expiresAt read' last shard sum =>
    dsimp only [perform]
    split_ifs
    · rfl
    · rfl
    · rfl
  | roomLen revoked expiresAt shard sum =>
    dsimp only [perform]
    split_ifs
    · rfl
    · rfl
    · rfl
  | containsKey revoked expiresAt =>
    dsimp only [perform]
    split_ifs
    · rfl
    · rfl
  | get looked read' =>
    dsimp only [perform]
    split
    · split_ifs
      · rfl
      · rfl
    · rfl
  | loadCleanup revoked expiresAt read' => rfl
  | cleanupClock revocation => rfl
  | lookupClock looked => rfl

end

def Kept (system : Store) : Prop :=
  ∀ jti expiresAt, lastStored system.history jti = some expiresAt → system.clock < expiresAt →
    ∃ exp, system.shared.revoked.lookup jti = some exp ∧ expiresAt ≤ exp

/-- Between the access with which a lookup has found an expired entry and its removal, no other call has stored a
revocation of the id that still lies ahead. -/
def Undisturbed (system : Store) : Label Call → Prop
  | .move index => ∀ call since jti, system.At index call since (.running (.remove jti)) →
    ∀ expiresAt, lastStored (system.sinceLast index) jti = some expiresAt → expiresAt ≤ system.clock
  | _ => True

/-- Of an id that a lookup is about to remove, the last revocation has expired, unless it was stored since. -/
def Pruning (system : Store) : Prop :=
  ∀ index call since jti, system.At index call since (.running (.remove jti)) →
    ∀ expiresAt, lastStored system.history jti = some expiresAt →
      expiresAt ≤ system.clock ∨ lastStored (system.sinceLast index) jti = some expiresAt

section

variable {sharding : Sharding} {clock : Nat} {system : Store} {index : Nat} {call : Call} {since : Nat}

theorem ahead_eq_some_iff {now exp : Nat} {found : Option Nat} :
    ahead now found = some exp ↔ found = some exp ∧ now < exp := by
  rw [ahead, Option.filter_eq_some_iff, decide_eq_true_eq]

theorem kept_moved {access : Access} (read : access.readAt ≤ system.clock) (keeps : ∀ removed, access ≠ .remove removed)
    (kept : Kept system) (thread : Thread Call Access Answer) :
    Kept (system.moved (revocationStore sharding) index thread access) := by
  intro jti expiresAt last live
  change lastStored (system.history ++ [(index, access)]) jti = some expiresAt at last
  change system.clock < expiresAt at live
  change ∃ exp, (perform sharding system.clock system.shared access).1.revoked.lookup jti = some exp ∧ expiresAt ≤ exp
  have found := lookup_perform sharding system.shared access read keeps jti
  rw [lastStored_append, lastStored_singleton] at last
  cases new : (stored access).toList.lookup jti with
  | some revoked =>
    rw [new, Option.some_or] at last found
    cases last
    exact ⟨expiresAt, (ahead_eq_some_iff.mp (found.trans (ahead_eq_some_iff.mpr ⟨rfl, live⟩))).1, le_rfl⟩
  | none =>
    rw [new, Option.none_or] at last found
    obtain ⟨exp, held, order⟩ := kept jti expiresAt last live
    exact ⟨exp, (ahead_eq_some_iff.mp (found.trans (ahead_eq_some_iff.mpr ⟨held, live.trans_le order⟩))).1, order⟩

theorem kept_removed_iff (kept : Kept system) (thread : Thread Call Access Answer) (removed : Text) :
    Kept (system.moved (revocationStore sharding) index thread (.remove removed)) ↔
      ∀ expiresAt, lastStored system.history removed = some expiresAt → expiresAt ≤ system.clock := by
  have last (jti : Text) : lastStored (system.history ++ [(index, .remove removed)]) jti =
      lastStored system.history jti := lastStored_append _ _ jti
  constructor
  · intro after expiresAt stored
    by_contra live
    obtain ⟨exp, held, -⟩ := after removed expiresAt ((last removed).trans stored) (Nat.lt_of_not_le live)
    change (system.shared.revoked.erase removed).lookup removed = some exp at held
    rw [AList.lookup_erase] at held
    cases held
  · intro expired jti expiresAt stored live
    have before := (last jti).symm.trans stored
    obtain ⟨exp, held, order⟩ := kept jti expiresAt before live
    have other : jti ≠ removed := by
      rintro rfl
      exact absurd live (Nat.not_lt.mpr (expired expiresAt before))
    exact ⟨exp, (AList.lookup_erase_ne other).trans held, order⟩

theorem lastStored_sinceLast {jti : Text} {expiresAt : Nat}
    (last : lastStored (system.sinceLast index) jti = some expiresAt) :
    lastStored system.history jti = some expiresAt := by
  obtain ⟨before, whole⟩ := List.rtakeWhile_suffix (fun made : Nat × Access => decide (made.1 ≠ index)) system.history
  rw [← whole, lastStored_append, Option.or_eq_some_iff]
  exact .inl last

theorem perform_remove {now : Nat} {store : JwtRevocationStore} {access : Access} {jti : Text}
    (follows : (perform sharding now store access).2 = .running (.remove jti)) :
    ∃ read exp, access = .get jti read ∧ store.revoked.lookup jti = some exp ∧ exp ≤ read := by
  cases access with
  | get looked read =>
    simp only [perform] at follows
    split at follows
    · next exp found =>
      split_ifs at follows with live
      cases follows
      exact ⟨read, exp, rfl, found, Nat.le_of_not_lt live⟩
    · cases follows
  | retain revocation read shard =>
    simp only [perform] at follows
    split_ifs at follows
    · cases follows
    · cases revocation <;> cases follows
  | revokeClock _ _ | dueLen _ _ _ _ _ _ | exchange _ _ _ _ | roomLen _ _ _ _ | containsKey _ _ =>
    simp only [perform] at follows
    split_ifs at follows
    all_goals cases follows
  | _ => cases follows

theorem Pruning.moved {access : Access} (pruning : Pruning system) (kept : Kept system)
    (running : system.At index call since (.running access)) (read : access.readAt ≤ system.clock) :
    Pruning (system.moved (revocationStore sharding) index ⟨call, since, .running access⟩ access) := by
  intro other _ _ jti present expiresAt last
  change lastStored (system.history ++ [(index, access)]) jti = some expiresAt at last
  change expiresAt ≤ system.clock ∨ _
  rw [lastStored_append, lastStored_singleton] at last
  rw [sinceLast_moved]
  rcases (at_moved running).mp present with ⟨elsewhere, old⟩ | ⟨rfl, -, -, follows⟩
  · rw [if_neg elsewhere, lastStored_append, lastStored_singleton]
    cases new : (stored access).toList.lookup jti with
    | some revoked =>
      rw [new] at last
      exact .inr last
    | none =>
      rw [new] at last
      exact pruning other _ _ jti old expiresAt last
  · -- The get found an expired entry, so the last revocation has not been ahead of it.
    obtain ⟨looked, exp, rfl, found, expired⟩ := perform_remove follows.symm
    left
    by_contra live
    obtain ⟨held, same, order⟩ := kept jti expiresAt last (Nat.lt_of_not_le live)
    cases found.symm.trans same
    exact live (order.trans (expired.trans read))

theorem pruning_step (reachable : Reachable (step (revocationStore sharding)) (fun _ _ => True) (initial clock) system)
    (kept : Kept system) (pruning : Pruning system) (label : Label Call) :
    Pruning (step (revocationStore sharding) system label) := by
  cases label with
  | tick duration =>
    intro index call since jti present expiresAt last
    exact (pruning index call since jti present expiresAt last).imp_left fun old => old.trans (Nat.le_add_right _ _)
  | call added =>
    intro index call since jti present expiresAt last
    rcases (at_called added).mp present with old | ⟨-, -, -, same⟩
    · exact pruning index call since jti old expiresAt last
    · cases added <;> cases same
  | move index =>
    rw [step]
    cases found : system.threads[index]? with
    | none => exact pruning
    | some thread =>
      obtain ⟨call, since, progress⟩ := thread
      cases progress with
      | answered answer => exact pruning
      | running access => exact pruning.moved kept found (reachable_past reachable index call since _ found)

theorem kept_step_iff
    (reachable : Reachable (step (revocationStore sharding)) (fun _ _ => True) (initial clock) system)
    (kept : Kept system) (pruning : Pruning system) (label : Label Call) :
    Kept (step (revocationStore sharding) system label) ↔ Undisturbed system label := by
  cases label with
  | tick duration =>
    refine iff_of_true ?_ trivial
    intro jti expiresAt last live
    exact kept jti expiresAt last (Nat.lt_of_le_of_lt (Nat.le_add_right _ _) live)
  | call added => exact iff_of_true kept trivial
  | move index =>
    rw [step, Undisturbed]
    cases found : system.threads[index]? with
    | none =>
      refine iff_of_true kept ?_
      intro _ _ _ present
      cases found.symm.trans present
    | some thread =>
      obtain ⟨call, since, progress⟩ := thread
      cases progress with
      | answered answer =>
        refine iff_of_true kept ?_
        intro _ _ _ present
        cases found.symm.trans present
      | running access =>
        by_cases removal : ∃ removed, access = .remove removed
        · obtain ⟨removed, rfl⟩ := removal
          refine (kept_removed_iff kept _ removed).trans ⟨?_, ?_⟩
          · intro expired _ _ _ present expiresAt last
            cases found.symm.trans present
            exact expired expiresAt (lastStored_sinceLast last)
          · intro undisturbed expiresAt last
            rcases pruning index call since removed found expiresAt last with expired | later
            · exact expired
            · exact undisturbed call since removed found expiresAt later
        · have keeps : ∀ removed, access ≠ .remove removed := fun removed same => removal ⟨removed, same⟩
          have read := reachable_past reachable index call since (.running access) found
          refine iff_of_true (kept_moved read keeps kept _) ?_
          intro _ _ jti present
          cases found.symm.trans present
          exact absurd rfl (keeps jti)

end

/-- Under every schedule the revocations are held until they expire exactly if no lookup is overtaken, between the
access that found an expired entry and its removal, by a revocation that lies ahead. -/
theorem revocations_kept_iff (sharding : Sharding) (clock : Nat) (schedule : List (Label Call)) :
    (∀ first, first <+: schedule → Kept (run (step (revocationStore sharding)) (initial clock) first)) ↔
      Always (step (revocationStore sharding)) Undisturbed (initial clock) schedule := by
  refine always_iff_prefixes _ Kept
    (fun system => Reachable (step (revocationStore sharding)) (fun _ _ => True) (initial clock) system ∧ Pruning system)
    ?_ ⟨.start, nofun⟩ ?_ ?_ schedule
  · intro _ _ last
    cases last
  · intro system label kept before
    exact ⟨.step before.1 trivial, pruning_step before.1 kept before.2 label⟩
  · intro system label kept before
    exact kept_step_iff before.1 kept before.2 label

/-- A lookup finds the entry of an id expired, the id is revoked anew, and the lookup goes on. -/
def overtaken : List (Label Call) :=
  List.flatten [block 0 (.revoke ['j'] 150) 8, .tick 60 :: block 1 (.isRevoked ['j']) 2,
    block 2 (.revoke ['j'] 300) 8, [.move 1]]

/-- The new revocation is lost. -/
theorem overtaken_revocation_lost :
    lastStored (run (step (revocationStore ⟨1, fun _ => 0⟩)) (initial 100) overtaken).history ['j'] = some 300 ∧
    (run (step (revocationStore ⟨1, fun _ => 0⟩)) (initial 100) overtaken).clock = 160 ∧
    (run (step (revocationStore ⟨1, fun _ => 0⟩)) (initial 100) overtaken).shared.revoked.lookup ['j'] = none := by
  decide +kernel

end Praeco.Jwt.Races
