import Praeco.Router.Attempts
import Praeco.Schedule.Processes

/-! Which node the steps of overlapping requests change. Successes, latencies and probes go to the selected node
itself; connection guards and failures look for its address again and take the first node that has it. -/

namespace Praeco.Router.Attribution
open Praeco.Strings Utf8 Praeco.Http.Target Praeco.Schedule.Runs Praeco.Schedule.Processes Praeco.Breaker.Node
  Praeco.Router.Config Praeco.Router.Balancing Praeco.Router.Failover Praeco.Router.Attempts

structure Fleet where
  nodes : Nodes
  rrCounter : Nat

/-- Where a request is. A guard of its connection is alive from `connected` until it is released. -/
inductive Stage (target : RouteTarget) where
  | choosing
  | selected (selection : Selection target)
  | claimed (selection : Selection target) (guard : Option ProbeGuard)
  | connected (selection : Selection target) (guard : Option ProbeGuard)
  | closing (selection : Selection target) (guard : Option ProbeGuard) (again : Bool)
  | done

structure Arrival where
  retryable : Bool
  clientHash : Option Nat

inductive Signal where
  | select (around : Circumstances)
  | claim (now : Nat)
  | connect
  | report (report : Report) (latencyMs now : Nat)
  | release
  | abort

section

variable {target : RouteTarget}

def record (selection : Selection target) (nodes : Nodes) (latencyMs now : Nat) : Report → Nodes
  | .success => selection.tell (selection.recordLatency nodes latencyMs) now .success
  | .outlier => selection.tell (selection.recordLatency nodes latencyMs) now .outlier
  | report => selection.tell nodes now report

def act (fleet : Fleet) (request : Request (Stage target)) (signal : Signal) : Fleet × Request (Stage target) :=
  match request.stage, signal with
  | .choosing, .select around =>
    let (choice, rrCounter) := request.choose target fleet.nodes fleet.rrCounter around
    ({ fleet with rrCounter },
      match choice with
      | some selection => { request with attempts := request.attempts + 1, stage := .selected selection }
      | none => { request with stage := .done })
  | .selected selection, .claim now =>
    let (guard, nodes) := selection.claim fleet.nodes now
    ({ fleet with nodes }, { request with stage := .claimed selection guard })
  | .claimed selection guard, .connect =>
    ({ fleet with nodes := selection.openConnection fleet.nodes }, { request with stage := .connected selection guard })
  | .connected selection guard, .report report latencyMs now =>
    let recorded := record selection fleet.nodes latencyMs now report
    let again := request.again target report
    ({ fleet with nodes := if again then selection.countRetry recorded else recorded },
      { request with
        failedUris := request.failedAfter selection report
        stage := .closing selection (if report = .silent then guard else guard.map ProbeGuard.complete) again })
  | .connected selection guard, .abort =>
    ({ fleet with nodes := selection.release fleet.nodes guard }, { request with stage := .done })
  | .closing selection guard again, .release =>
    ({ fleet with nodes := selection.release fleet.nodes guard },
      { request with stage := if again then .choosing else .done })
  | _, _ => (fleet, request)

def program (target : RouteTarget) : Program Fleet Arrival (Request (Stage target)) Signal where
  spawn arrival := ⟨arrival.retryable, arrival.clientHash, [], 0, .choosing⟩
  act := act

def initial (target : RouteTarget) : System Fleet (Request (Stage target)) := ⟨⟨fun _ => .new, 0⟩, []⟩

def nodeGiven (request : Request (Stage target)) : Option Nat :=
  match request.stage with
  | .selected selection => some selection.node
  | .claimed selection _ => some selection.node
  | .connected selection _ => some selection.node
  | .closing selection _ _ => some selection.node
  | _ => none

def guarded (request : Request (Stage target)) : Option Nat :=
  match request.stage with
  | .connected selection _ => some selection.node
  | .closing selection _ _ => some selection.node
  | _ => none

/-- What a step does where addresses tell the nodes apart: it changes one node at most, the one selected, and its
connections only when a guard is made or dropped. -/
inductive Acted (fleet : Fleet) (request : Request (Stage target)) (result : Fleet × Request (Stage target)) : Prop where
  | still (nodes : result.1.nodes = fleet.nodes) (guarded : guarded result.2 = guarded request)
  | changed (selection : Selection target) (change : UpstreamNode → UpstreamNode)
    (own : nodeGiven request = some selection.node) (nodes : result.1.nodes = selection.atNode fleet.nodes change)
    (kept : ∀ node, (change node).activeConnections = node.activeConnections)
    (guarded : guarded result.2 = guarded request)
  | opened (selection : Selection target) (change : UpstreamNode → UpstreamNode)
    (own : nodeGiven request = some selection.node) (nodes : result.1.nodes = selection.atNode fleet.nodes change)
    (counted : ∀ node, (change node).activeConnections = add64 node.activeConnections 1)
    (before : guarded request = none) (after : guarded result.2 = some selection.node)
  | closed (selection : Selection target) (change : UpstreamNode → UpstreamNode)
    (own : nodeGiven request = some selection.node) (nodes : result.1.nodes = selection.atNode fleet.nodes change)
    (counted : ∀ node, (change node).activeConnections = add64 node.activeConnections (2 ^ 64 - 1))
    (before : guarded request = some selection.node) (after : guarded result.2 = none)

theorem activeConnections_newGuard (node : UpstreamNode) (cooldownSeconds now : Nat) :
    (ProbeGuard.new node cooldownSeconds now).2.activeConnections = node.activeConnections := by
  unfold ProbeGuard.new UpstreamNode.tryEnterHalfOpenProbe
  split_ifs <;> rfl

theorem activeConnections_recordSuccess (node : UpstreamNode) :
    node.recordSuccess.activeConnections = node.activeConnections := by
  unfold UpstreamNode.recordSuccess
  split_ifs <;> rfl

theorem activeConnections_recordFailure (node : UpstreamNode) (failureThreshold now : Nat) :
    (node.recordFailure failureThreshold now).2.activeConnections = node.activeConnections := by
  unfold UpstreamNode.recordFailure
  dsimp only
  split_ifs <;> rfl

theorem activeConnections_drop (guard : Option ProbeGuard) (node : UpstreamNode) :
    ((guard.map (·.drop node)).getD node).activeConnections = node.activeConnections := by
  cases guard with
  | none => rfl
  | some guard =>
    rw [Option.map_some, Option.getD_some, ProbeGuard.drop]
    split_ifs <;> rfl

section

variable (selection : Selection target) (nodes : Nodes)

theorem openConnection_eq (distinct : target.upstreams.Nodup) :
    ∃ change, selection.openConnection nodes = selection.atNode nodes change ∧
      ∀ node, (change node).activeConnections = add64 node.activeConnections 1 :=
  ⟨_, selection.atUri_eq nodes distinct _, fun _ => rfl⟩

theorem claim_eq (now : Nat) :
    ∃ change, (selection.claim nodes now).2 = selection.atNode nodes change ∧
      ∀ node, (change node).activeConnections = node.activeConnections := by
  unfold Selection.claim
  split_ifs
  · refine ⟨fun node => (ProbeGuard.new node target.cooldownSeconds now).2, rfl, ?_⟩
    intro node
    exact activeConnections_newGuard node _ _
  · exact ⟨id, (selection.atNode_id nodes).symm, fun _ => rfl⟩

theorem record_eq (distinct : target.upstreams.Nodup) (latencyMs now : Nat) (report : Report) :
    ∃ change, record selection nodes latencyMs now report = selection.atNode nodes change ∧
      ∀ node, (change node).activeConnections = node.activeConnections := by
  cases report with
  | success =>
    refine ⟨fun node => (node.recordLatencyMs latencyMs).recordSuccess, selection.atNode_atNode nodes _ _, ?_⟩
    intro node
    exact activeConnections_recordSuccess (node.recordLatencyMs latencyMs)
  | outlier =>
    have found := selection.atUri_eq (selection.recordLatency nodes latencyMs) distinct fun node =>
      (node.recordFailure target.failureThreshold now).2
    refine ⟨_, found.trans (selection.atNode_atNode nodes _ _), ?_⟩
    intro node
    exact activeConnections_recordFailure (node.recordLatencyMs latencyMs) _ _
  | dead =>
    have found := selection.atUri_eq nodes distinct fun node => node.markDead now
    exact ⟨_, found, fun _ => rfl⟩
  | silent => exact ⟨id, (selection.atNode_id nodes).symm, fun _ => rfl⟩

theorem countRetry_eq (recorded : Nodes) {change : UpstreamNode → UpstreamNode}
    (same : recorded = selection.atNode nodes change)
    (kept : ∀ node, (change node).activeConnections = node.activeConnections) :
    ∃ change, selection.countRetry recorded = selection.atNode nodes change ∧
      ∀ node, (change node).activeConnections = node.activeConnections := by
  subst same
  exact ⟨_, selection.atNode_atNode nodes _ _, kept⟩

theorem release_eq (distinct : target.upstreams.Nodup) (guard : Option ProbeGuard) :
    ∃ change, selection.release nodes guard = selection.atNode nodes change ∧
      ∀ node, (change node).activeConnections = add64 node.activeConnections (2 ^ 64 - 1) := by
  rw [Selection.release, Selection.dropGuard, Selection.closeConnection, Selection.atUri_eq _ _ distinct,
    Selection.atNode_atNode]
  refine ⟨_, rfl, ?_⟩
  intro node
  exact activeConnections_drop _ _

end

theorem act_cases (distinct : target.upstreams.Nodup) (fleet : Fleet) (request : Request (Stage target))
    (signal : Signal) : Acted fleet request (act fleet request signal) := by
  obtain ⟨retryable, clientHash, failedUris, attempts, stage⟩ := request
  cases stage with
  | choosing =>
    cases signal with
    | select around =>
      refine .still rfl ?_
      unfold act
      dsimp only
      split <;> rfl
    | _ => exact .still rfl rfl
  | selected selection =>
    cases signal with
    | claim now =>
      obtain ⟨change, nodes, kept⟩ := claim_eq selection fleet.nodes now
      exact .changed selection change rfl nodes kept rfl
    | _ => exact .still rfl rfl
  | claimed selection guard =>
    cases signal with
    | connect =>
      obtain ⟨change, nodes, counted⟩ := openConnection_eq selection fleet.nodes distinct
      exact .opened selection change rfl nodes counted rfl rfl
    | _ => exact .still rfl rfl
  | connected selection guard =>
    cases signal with
    | report report latencyMs now =>
      obtain ⟨change, nodes, kept⟩ := record_eq selection fleet.nodes distinct latencyMs now report
      by_cases again :
          Request.again ⟨retryable, clientHash, failedUris, attempts, Stage.connected selection guard⟩ target report =
            true
      · obtain ⟨counting, counted, keeps⟩ := countRetry_eq selection fleet.nodes _ nodes kept
        exact .changed selection counting rfl ((if_pos again).trans counted) keeps rfl
      · exact .changed selection change rfl ((if_neg again).trans nodes) kept rfl
    | abort =>
      obtain ⟨change, nodes, counted⟩ := release_eq selection fleet.nodes distinct guard
      exact .closed selection change rfl nodes counted rfl rfl
    | _ => exact .still rfl rfl
  | closing selection guard again =>
    cases signal with
    | release =>
      obtain ⟨change, nodes, counted⟩ := release_eq selection fleet.nodes distinct guard
      refine .closed selection change rfl nodes counted rfl ?_
      cases again <;> rfl
    | _ => exact .still rfl rfl
  | done => exact .still rfl rfl

section

variable {fleet : Fleet} {request : Request (Stage target)} {result : Fleet × Request (Stage target)}

theorem Acted.frame (acted : Acted fleet request result) (other : Nat) (apart : nodeGiven request ≠ some other) :
    result.1.nodes other = fleet.nodes other := by
  have elsewhere {selection : Selection target} {change : UpstreamNode → UpstreamNode}
      (own : nodeGiven request = some selection.node) (nodes : result.1.nodes = selection.atNode fleet.nodes change) :
      result.1.nodes other = fleet.nodes other := by
    rw [nodes, Selection.atNode_apply, if_neg]
    intro same
    exact apart (own.trans (congrArg some same.symm))
  cases acted with
  | still nodes guarded => rw [nodes]
  | changed selection change own nodes kept guarded => exact elsewhere own nodes
  | opened selection change own nodes counted before after => exact elsewhere own nodes
  | closed selection change own nodes counted before after => exact elsewhere own nodes

def guards (node : Nat) (request : Request (Stage target)) : Bool := guarded request = some node

theorem Acted.connections (acted : Acted fleet request result) (node : Nat)
    (bounded : (fleet.nodes node).activeConnections < 2 ^ 64) :
    (result.1.nodes node).activeConnections < 2 ^ 64 ∧
      ((result.1.nodes node).activeConnections + (guards node request).toNat) % 2 ^ 64 =
        ((fleet.nodes node).activeConnections + (guards node result.2).toNat) % 2 ^ 64 := by
  unfold guards
  cases acted with
  | still nodes guarded => exact ⟨by rw [nodes]; exact bounded, by rw [nodes, guarded]⟩
  | changed selection change own nodes kept guarded =>
    have same : (result.1.nodes node).activeConnections = (fleet.nodes node).activeConnections := by
      rw [nodes, Selection.atNode_apply]
      split_ifs
      · exact kept _
      · rfl
    exact ⟨same ▸ bounded, by rw [same, guarded]⟩
  | opened selection change own nodes counted before after =>
    rw [nodes, Selection.atNode_apply, before, after]
    split_ifs with same
    · rw [counted, same]
      simp [add64, Nat.mod_lt]
    · exact ⟨bounded, by simp [Ne.symm same]⟩
  | closed selection change own nodes counted before after =>
    rw [nodes, Selection.atNode_apply, before, after]
    split_ifs with same
    · rw [counted, same]
      simp [add64, Nat.mod_lt]
      omega
    · exact ⟨bounded, by simp [Ne.symm same]⟩

end

def Counted (target : RouteTarget) (system : System Fleet (Request (Stage target))) : Prop :=
  ∀ node, (system.shared.nodes node).activeConnections = system.processes.countP (guards node) % 2 ^ 64

theorem counted_run (distinct : target.upstreams.Nodup) (labels : List (Label Arrival Signal)) :
    Counted target (run (step (program target)) (initial target) labels) := by
  have free : Always (step (program target)) (fun _ _ => True) (initial target) labels :=
    always_mem _ (fun _ => True) _ _ fun _ _ => trivial
  refine reachable_induction (fun _ _ => True) (initial target) (Counted target) ?_ ?_ ?_ (free.reachable _)
  · intro node
    rfl
  · intro system start _ counted node
    rw [countP_spawned rfl]
    exact counted node
  · intro system index request signal present _ counted node
    have before := counted node
    have bounded : (system.shared.nodes node).activeConnections < 2 ^ 64 := before ▸ Nat.mod_lt _ (by decide)
    obtain ⟨below, moved⟩ := (act_cases distinct system.shared request signal).connections node bounded
    have guarded := countP_set_add (guards node) system.processes (act system.shared request signal).2 present
    change (((act system.shared request signal).1.nodes node).activeConnections) =
      (system.processes.set index (act system.shared request signal).2).countP (guards node) % 2 ^ 64
    rw [before] at moved
    omega

end

/-- In a run every step of a request changes the node it was given and no other, and the connections of each node are
the live guards of the attempts that selected it. -/
structure Attributed (target : RouteTarget) (labels : List (Label Arrival Signal)) : Prop where
  only : ∀ before index signal after, labels = before ++ .act index signal :: after →
    let system := run (step (program target)) (initial target) before
    ∀ request, system.processes[index]? = some request → ∀ other, nodeGiven request ≠ some other →
      (step (program target) system (.act index signal)).shared.nodes other = system.shared.nodes other
  counted : Counted target (run (step (program target)) (initial target) labels)

theorem outcomes_attributed (target : RouteTarget) (distinct : target.upstreams.Nodup)
    (labels : List (Label Arrival Signal)) : Attributed target labels where
  only := by
    intro before index signal after _ system request present other apart
    rw [step_act present]
    exact (act_cases distinct system.shared request signal).frame other apart
  counted := counted_run distinct labels

def twice (first second : Text) : RevRoutes :=
  AList.singleton ['/', 'x'] ⟨[first, second], .roundRobin, [], none, none, none, none, none, .rest⟩

def parseAuthority (text : Text) : Option Uri := some ⟨some "http".toList, some (text.drop 7), ['/'], none⟩

def secondFails : List (Label Arrival Signal) :=
  [.spawn ⟨false, none⟩, .spawn ⟨false, none⟩, .act 0 (.select ⟨fun _ => 0, 0⟩), .act 1 (.select ⟨fun _ => 0, 0⟩),
    .act 1 (.claim 0), .act 1 .connect, .act 1 (.report .dead 0 7)]

theorem outcomes_attributed_two_upstreams :
    ∃ route, initParsedRoutes parseAuthority .http (some (twice ['a'] ['b'])) = .ok [route] ∧
      Attributed route.target secondFails :=
  ⟨_, rfl, outcomes_attributed _ (by decide +kernel) secondFails⟩

/-- With one address twice, the failure of the second node and the guard on it are booked on the first. -/
theorem repeated_upstream_misattributed :
    ∃ route, initParsedRoutes parseAuthority .http (some (twice ['a'] ['a'])) = .ok [route] ∧
      let final := run (step (program route.target)) (initial route.target) secondFails
      final.processes[1]?.bind nodeGiven = some 1 ∧ final.processes.countP (guards 1) = 1 ∧
        (final.shared.nodes 1).activeConnections = 0 ∧ (final.shared.nodes 0).activeConnections = 1 ∧
        (final.shared.nodes 1).isAlive = true ∧ (final.shared.nodes 0).isAlive = false :=
  ⟨_, rfl, by decide +kernel⟩

end Praeco.Router.Attribution
