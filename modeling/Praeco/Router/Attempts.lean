import Praeco.Router.Failover

/-! The single steps of an attempt, as all handlers and schedules take them. Successes, latencies and probes go to the
selected node itself; connection guards and failures look for its address again and take the first node that has it. -/

namespace Praeco.Router.Attempts
open Praeco.Http.Target Praeco.Breaker.Node Praeco.Router.Config Praeco.Router.Balancing Praeco.Router.Failover

structure Selection (target : RouteTarget) where
  node : Nat
  uri : Uri
  here : target.upstreams[node]? = some uri
  deriving DecidableEq, Repr

variable {target : RouteTarget}

def selectionOf (index : Nat) : Option (Selection target) :=
  match here : target.upstreams[index]? with
  | some uri => some ⟨index, uri, here⟩
  | none => none

namespace Selection

variable (selection : Selection target) (nodes : Nodes)

def atNode (change : UpstreamNode → UpstreamNode) : Nodes :=
  Function.update nodes selection.node (change (nodes selection.node))

def atUri (change : UpstreamNode → UpstreamNode) : Nodes := updateNode target nodes selection.uri change

def openConnection : Nodes :=
  selection.atUri nodes fun node =>
    { node with activeConnections := add64 node.activeConnections 1, totalRequests := add64 node.totalRequests 1 }

def closeConnection : Nodes :=
  selection.atUri nodes fun node => { node with activeConnections := add64 node.activeConnections (2 ^ 64 - 1) }

/-- The claim of the probe slot, which only targets with several nodes make. -/
def claim (now : Nat) : Option ProbeGuard × Nodes :=
  if isMultiNode target then
    let (guard, node) := ProbeGuard.new (nodes selection.node) target.cooldownSeconds now
    (some guard, Function.update nodes selection.node node)
  else (none, nodes)

def recordLatency (latencyMs : Nat) : Nodes := selection.atNode nodes fun node => node.recordLatencyMs latencyMs

def countRetry : Nodes :=
  selection.atNode nodes fun node => { node with failoverRetries := add64 node.failoverRetries 1 }

def tell (now : Nat) : Report → Nodes
  | .success => selection.atNode nodes UpstreamNode.recordSuccess
  | .outlier => targetRecordFailure target nodes selection.uri now
  | .dead => targetMarkDead target nodes selection.uri now
  | .silent => nodes

def dropGuard (guard : Option ProbeGuard) : Nodes :=
  selection.atNode nodes fun node => (guard.map (·.drop node)).getD node

def release (guard : Option ProbeGuard) : Nodes := selection.dropGuard (selection.closeConnection nodes) guard

/-- The node that is found under the address of the selected one. -/
def reportIndex : Nat := (nodeOf target selection.uri).getD selection.node

theorem atUri_eq_update (change : UpstreamNode → UpstreamNode) :
    selection.atUri nodes change =
      Function.update nodes selection.reportIndex (change (nodes selection.reportIndex)) := by
  obtain ⟨inside, there⟩ := List.getElem?_eq_some_iff.mp selection.here
  have found : nodeOf target selection.uri ≠ none := by
    rw [nodeOf, Ne, List.findIdx?_eq_none_iff]
    intro absent
    exact absurd (absent selection.uri (there ▸ List.getElem_mem inside)) (by simp)
  obtain ⟨index, known⟩ := Option.ne_none_iff_exists'.mp found
  rw [atUri, updateNode, reportIndex, known]
  rfl

theorem atNode_apply (change : UpstreamNode → UpstreamNode) (node : Nat) :
    selection.atNode nodes change node = if node = selection.node then change (nodes node) else nodes node := by
  rw [atNode, Function.update_apply]
  split_ifs with same
  · rw [same]
  · rfl

theorem atNode_atNode (first second : UpstreamNode → UpstreamNode) :
    selection.atNode (selection.atNode nodes first) second =
      selection.atNode nodes fun node => second (first node) := by
  rw [atNode, atNode, atNode, Function.update_idem, Function.update_self]

theorem atNode_id : selection.atNode nodes id = nodes := Function.update_eq_self _ _

theorem atUri_eq (distinct : target.upstreams.Nodup) (change : UpstreamNode → UpstreamNode) :
    selection.atUri nodes change = selection.atNode nodes change := by
  have found : nodeOf target selection.uri = some selection.node := by
    obtain ⟨inside, there⟩ := List.getElem?_eq_some_iff.mp selection.here
    refine List.findIdx?_eq_some_iff_getElem.mpr ⟨inside, decide_eq_true there, ?_⟩
    intro earlier before
    rw [decide_eq_true_eq]
    intro same
    have place := distinct.getElem_inj_iff.mp (same.trans there.symm)
    omega
  rw [atUri, updateNode, found]
  rfl

end Selection

/-- A request, with how far its current attempt has come. It may be tried again if its body is not a stream and, for
the HTTP proxy, its method is idempotent. -/
structure Request (Stage : Type) where
  retryable : Bool
  clientHash : Option Nat
  failedUris : List Uri
  attempts : Nat
  stage : Stage
  deriving DecidableEq, Repr

namespace Request

variable {Stage : Type} (request : Request Stage)

def choose (target : RouteTarget) (nodes : Nodes) (rrCounter : Nat) (around : Circumstances) :
    Option (Selection target) × Nat :=
  let (index, rrCounter) := nextUpstream target nodes request.clientHash rrCounter around request.failedUris
  (index.bind selectionOf, rrCounter)

def again (target : RouteTarget) (report : Report) : Bool :=
  report.isFailure && request.retryable && request.attempts ≤ maxRetries target

def failedAfter (selection : Selection target) (report : Report) : List Uri :=
  if report = .dead ∨ report = .outlier ∧ isMultiNode target then request.failedUris ++ [selection.uri]
  else request.failedUris

theorem choose_selected {request : Request Stage} {nodes : Nodes} {rrCounter : Nat} {around : Circumstances}
    {selection : Selection target} (chosen : (request.choose target nodes rrCounter around).1 = some selection) :
    (nextUpstream target nodes request.clientHash rrCounter around request.failedUris).1 = some selection.node := by
  change (nextUpstream target nodes request.clientHash rrCounter around request.failedUris).1.bind selectionOf = _ at chosen
  obtain ⟨index, next, found⟩ := Option.bind_eq_some_iff.mp chosen
  have same : selection.node = index := by
    unfold selectionOf at found
    split at found
    · cases found
      rfl
    · cases found
  rw [next, same]

end Request

end Praeco.Router.Attempts
