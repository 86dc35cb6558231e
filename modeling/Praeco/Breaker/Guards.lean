import Praeco.Breaker.Node
import Praeco.Schedule.Processes

/-! Histories of one node under overlapping requests and health checks, one whole operation after the other. A
report that comes while a probe is outstanding frees the probe slot, and an aborted probe opens the circuit even
of a node that was found alive meanwhile. -/

namespace Praeco.Breaker.Guards
open Praeco.Schedule Praeco.Schedule.Runs Praeco.Breaker.Node

/-- A node and the probe guards made for it, in order; a dropped guard is gone. -/
structure ProbedNode where
  node : UpstreamNode
  guards : List (Option ProbeGuard)
  deriving DecidableEq, Repr

inductive Operation where
  | markDead (now : Nat)
  | markAlive
  | recordSuccess
  | recordFailure (failureThreshold now : Nat)
  | newGuard (cooldownSeconds now : Nat)
  | complete (index : Nat)
  | drop (index : Nat)
  deriving DecidableEq, Repr

def initial : ProbedNode := ⟨.new, []⟩

namespace ProbedNode

variable (probed : ProbedNode)

def guardAt (index : Nat) : Option ProbeGuard := probed.guards[index]?.join

def holdsSlot (index : Nat) : Bool := (probed.guardAt index).any ProbeGuard.isOutstanding

def outstanding : Nat := probed.guards.countP fun guard => guard.any ProbeGuard.isOutstanding

end ProbedNode

def step (probed : ProbedNode) : Operation → ProbedNode
  | .markDead now => { probed with node := probed.node.markDead now }
  | .markAlive => { probed with node := probed.node.markAlive }
  | .recordSuccess => { probed with node := probed.node.recordSuccess }
  | .recordFailure failureThreshold now => { probed with node := (probed.node.recordFailure failureThreshold now).2 }
  | .newGuard cooldownSeconds now =>
    let (guard, node) := ProbeGuard.new probed.node cooldownSeconds now
    ⟨node, probed.guards ++ [some guard]⟩
  | .complete index =>
    match probed.guardAt index with
    | some guard => { probed with guards := probed.guards.set index (some guard.complete) }
    | none => probed
  | .drop index =>
    match probed.guardAt index with
    | some guard => ⟨guard.drop probed.node, probed.guards.set index none⟩
    | none => probed

/-- What the three atomics of the node should say together. -/
def Consistent (node : UpstreamNode) : Prop :=
  (node.isAlive = true ↔ node.circuitState = .closed) ∧
    (node.halfOpenProbeInFlight = true ↔ node.circuitState = .halfOpen)

instance (node : UpstreamNode) : Decidable (Consistent node) := inferInstanceAs (Decidable (_ ∧ _))

section

variable {node : UpstreamNode}

theorem consistent_markDead (node : UpstreamNode) (now : Nat) : Consistent (node.markDead now) := by
  simp [Consistent, UpstreamNode.markDead]

theorem consistent_markAlive (node : UpstreamNode) : Consistent node.markAlive := by
  simp [Consistent, UpstreamNode.markAlive]

theorem consistent_recordSuccess (consistent : Consistent node) : Consistent node.recordSuccess := by
  unfold UpstreamNode.recordSuccess
  split_ifs with changed
  · exact consistent_markAlive node
  · exact consistent

theorem consistent_recordFailure (consistent : Consistent node) (failureThreshold now : Nat) :
    Consistent (node.recordFailure failureThreshold now).2 := by
  unfold UpstreamNode.recordFailure
  dsimp only
  split_ifs with tripped
  · exact consistent_markDead _ now
  · -- Without a trip no probe was in flight, so that clearing the flag changes nothing.
    have free : node.halfOpenProbeInFlight = false := by
      simp only [Bool.or_eq_true, not_or, Bool.not_eq_true] at tripped
      exact tripped.1.1
    refine ⟨consistent.1, ?_⟩
    rw [← consistent.2, free]

theorem consistent_newGuard (consistent : Consistent node) (cooldownSeconds now : Nat) :
    Consistent (ProbeGuard.new node cooldownSeconds now).2 := by
  change Consistent (node.tryEnterHalfOpenProbe cooldownSeconds now).2
  cases won : (node.tryEnterHalfOpenProbe cooldownSeconds now).1 with
  | true =>
    obtain ⟨dead, -, entered⟩ := tryEnterHalfOpenProbe_won won
    rw [entered]
    simp [Consistent, dead]
  | false =>
    rw [tryEnterHalfOpenProbe_lost won]
    exact consistent

theorem consistent_drop (consistent : Consistent node) (guard : ProbeGuard) :
    Consistent (guard.drop node) ↔ (guard.isOutstanding = true → node.isAlive = false) := by
  unfold ProbeGuard.drop ProbeGuard.isOutstanding
  split_ifs with aborted
  · simp [Consistent, aborted]
  · simp [aborted, consistent]

end

def AbortsDead (probed : ProbedNode) : Operation → Prop
  | .drop index => probed.holdsSlot index = true → probed.node.isAlive = false
  | _ => True

theorem consistent_step {probed : ProbedNode} (consistent : Consistent probed.node) (operation : Operation) :
    Consistent (step probed operation).node ↔ AbortsDead probed operation := by
  cases operation with
  | markDead now => exact iff_of_true (consistent_markDead _ now) trivial
  | markAlive => exact iff_of_true (consistent_markAlive _) trivial
  | recordSuccess => exact iff_of_true (consistent_recordSuccess consistent) trivial
  | recordFailure failureThreshold now =>
    exact iff_of_true (consistent_recordFailure consistent failureThreshold now) trivial
  | newGuard cooldownSeconds now => exact iff_of_true (consistent_newGuard consistent cooldownSeconds now) trivial
  | complete index =>
    refine iff_of_true ?_ trivial
    cases found : probed.guardAt index with
    | none => simpa only [step, found] using consistent
    | some guard => simpa only [step, found] using consistent
  | drop index =>
    unfold AbortsDead ProbedNode.holdsSlot
    cases found : probed.guardAt index with
    | none => simpa [step, found] using consistent
    | some guard => simpa [step, found] using consistent_drop consistent guard

theorem always_consistent_iff {probed : ProbedNode} (consistent : Consistent probed.node)
    (operations : List Operation) :
    Always step (fun before operation => Consistent (step before operation).node) probed operations ↔
      Always step AbortsDead probed operations := by
  induction operations generalizing probed with
  | nil => rfl
  | cons operation operations ih =>
    unfold Always
    rw [consistent_step consistent operation]
    apply and_congr_right
    intro harmless
    exact ih ((consistent_step consistent operation).mpr harmless)

/-- The atomics are consistent after every operation exactly if no aborted probe finds the node alive. -/
theorem breaker_consistent_iff (operations : List Operation) :
    Always step (fun probed operation => Consistent (step probed operation).node) initial operations ↔
      Always step AbortsDead initial operations :=
  always_consistent_iff (by decide) operations

/-- A health check finds the node alive while the probe is out; then the probe is aborted. -/
theorem aborted_probe_opens_alive :
    let probed := run step initial [.markDead 100, .newGuard 10 200, .markAlive, .drop 0]
    probed.node.isAlive = true ∧ probed.node.circuitState = .opened ∧ ¬Consistent probed.node := by
  decide

/-- No report on the node frees the slot while a guard that has won it is outstanding. -/
def KeepsSlot (probed : ProbedNode) : Operation → Prop
  | .markDead _ => probed.outstanding = 0
  | .markAlive => probed.outstanding = 0
  | .recordSuccess => probed.outstanding = 0 ∨ probed.node.recordSuccess = probed.node
  | .recordFailure _ _ => probed.outstanding = 0
  | _ => True

instance (probed : ProbedNode) (operation : Operation) : Decidable (KeepsSlot probed operation) :=
  match operation with
  | .markDead _ => inferInstanceAs (Decidable (_ = _))
  | .markAlive => inferInstanceAs (Decidable (_ = _))
  | .recordSuccess => inferInstanceAs (Decidable (_ ∨ _))
  | .recordFailure _ _ => inferInstanceAs (Decidable (_ = _))
  | .newGuard _ _ => .isTrue trivial
  | .complete _ => .isTrue trivial
  | .drop _ => .isTrue trivial

def SlotOwned (probed : ProbedNode) : Prop :=
  probed.outstanding ≤ 1 ∧ (probed.outstanding ≠ 0 → probed.node.halfOpenProbeInFlight = true)

theorem slotOwned_idle {probed : ProbedNode} (idle : probed.outstanding = 0) : SlotOwned probed :=
  ⟨by omega, fun held => absurd idle held⟩

section

variable {probed : ProbedNode} {index : Nat} {guard : ProbeGuard}

theorem getElem?_guardAt (found : probed.guardAt index = some guard) : probed.guards[index]? = some (some guard) := by
  unfold ProbedNode.guardAt at found
  cases entry : probed.guards[index]? with
  | none => simp [entry] at found
  | some held =>
    rw [entry] at found
    exact congrArg some found

theorem outstanding_set (found : probed.guardAt index = some guard) (node : UpstreamNode) (after : Option ProbeGuard)
    (settled : after.any ProbeGuard.isOutstanding = false) :
    (ProbedNode.mk node (probed.guards.set index after)).outstanding + guard.isOutstanding.toNat = probed.outstanding := by
  have replaced := Processes.countP_set_add (fun guard => guard.any ProbeGuard.isOutstanding) probed.guards after
    (getElem?_guardAt found)
  rw [settled] at replaced
  exact replaced

theorem outstanding_newGuard (cooldownSeconds now : Nat) :
    (step probed (.newGuard cooldownSeconds now)).outstanding =
      probed.outstanding + (probed.node.tryEnterHalfOpenProbe cooldownSeconds now).1.toNat := by
  change (probed.guards ++ [some (ProbeGuard.mk (probed.node.tryEnterHalfOpenProbe cooldownSeconds now).1 false)]).countP
    _ = _
  unfold ProbedNode.outstanding
  generalize (probed.node.tryEnterHalfOpenProbe cooldownSeconds now).1 = won
  rw [List.countP_append, List.countP_singleton]
  cases won with
  | false => rfl
  | true => rfl

theorem slotOwned_newGuard (owned : SlotOwned probed) (cooldownSeconds now : Nat) :
    SlotOwned (step probed (.newGuard cooldownSeconds now)) := by
  obtain ⟨single, taken⟩ := owned
  unfold SlotOwned
  rw [outstanding_newGuard]
  change _ ∧ (_ → (probed.node.tryEnterHalfOpenProbe cooldownSeconds now).2.halfOpenProbeInFlight = true)
  cases won : (probed.node.tryEnterHalfOpenProbe cooldownSeconds now).1 with
  | false =>
    rw [tryEnterHalfOpenProbe_lost won]
    exact ⟨single, taken⟩
  | true =>
    obtain ⟨-, free, entered⟩ := tryEnterHalfOpenProbe_won won
    -- The slot was free, so that no guard was outstanding.
    have idle : probed.outstanding = 0 := by
      by_contra held
      rw [taken held] at free
      cases free
    rw [entered, idle]
    exact ⟨le_rfl, fun _ => rfl⟩

theorem slotOwned_complete (owned : SlotOwned probed) (index : Nat) : SlotOwned (step probed (.complete index)) := by
  cases found : probed.guardAt index with
  | none => simpa only [step, found] using owned
  | some guard =>
    have counted := outstanding_set found probed.node (some guard.complete)
      (by simp [ProbeGuard.isOutstanding, ProbeGuard.complete])
    obtain ⟨single, taken⟩ := owned
    simp only [step, found]
    refine ⟨by omega, ?_⟩
    intro held
    exact taken (by omega)

theorem slotOwned_drop (owned : SlotOwned probed) (index : Nat) : SlotOwned (step probed (.drop index)) := by
  cases found : probed.guardAt index with
  | none => simpa only [step, found] using owned
  | some guard =>
    have counted := outstanding_set found (guard.drop probed.node) none rfl
    obtain ⟨single, taken⟩ := owned
    simp only [step, found]
    cases aborted : guard.isOutstanding with
    | true =>
      rw [aborted, Bool.toNat_true] at counted
      exact slotOwned_idle (by omega)
    | false =>
      rw [aborted, Bool.toNat_false, Nat.add_zero] at counted
      have same : guard.drop probed.node = probed.node := if_neg (Bool.eq_false_iff.mp aborted)
      unfold SlotOwned
      rw [counted, same]
      exact ⟨single, taken⟩

theorem slotOwned_step {operation : Operation} (keeps : KeepsSlot probed operation) (owned : SlotOwned probed) :
    SlotOwned (step probed operation) := by
  cases operation with
  | markDead now => exact slotOwned_idle keeps
  | markAlive => exact slotOwned_idle keeps
  | recordSuccess =>
    rcases keeps with idle | unchanged
    · exact slotOwned_idle idle
    · simpa only [step, unchanged] using owned
  | recordFailure failureThreshold now => exact slotOwned_idle keeps
  | newGuard cooldownSeconds now => exact slotOwned_newGuard owned cooldownSeconds now
  | complete index => exact slotOwned_complete owned index
  | drop index => exact slotOwned_drop owned index

end

/-- In every history in which no report frees the slot of an outstanding probe, there is at most one of them. -/
theorem single_probe (operations : List Operation) (keeps : Always step KeepsSlot initial operations) :
    (run step initial operations).outstanding ≤ 1 :=
  (keeps.invariant step SlotOwned (fun _ _ kept owned => slotOwned_step kept owned) (slotOwned_idle rfl)).1

theorem single_probe_recovery : let operations : List Operation :=
      [.recordFailure 1 100, .newGuard 10 200, .newGuard 10 201, .complete 0, .recordSuccess, .drop 0, .drop 1]
    Always step KeepsSlot initial operations ∧ (run step initial operations).outstanding ≤ 1 := by
  intro operations
  have keeps : Always step KeepsSlot initial operations := by decide
  exact ⟨keeps, single_probe operations keeps⟩

/-- An older request reports a failure while the probe is out; after another cooldown the slot is won again. -/
theorem report_frees_taken_slot :
    (run step initial [.markDead 100, .newGuard 10 200, .markDead 201, .newGuard 10 300]).outstanding = 2 := by
  decide

end Praeco.Breaker.Guards
