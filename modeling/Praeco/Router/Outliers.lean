import Praeco.Breaker.Threshold
import Praeco.Router.Attempts

/-! What one attempt of the three handlers makes of the node that it was sent to. The transcoding handler claims no
probe and reports connection failures only, so that it leaves the breaker where the others do in few cases. -/

namespace Praeco.Router.Outliers
open Praeco.Http.Target Praeco.Http.Message Praeco.Breaker.Node Praeco.Router.Config Praeco.Router.Balancing
  Praeco.Router.Failover Praeco.Router.Attempts

structure Attempt where
  target : RouteTarget
  selection : Selection target
  claimedAt : Nat
  reportedAt : Nat
  latencyMs : Nat
  repeated : Bool

namespace Attempt

variable (attempt : Attempt)

abbrev index : Nat := attempt.selection.node

abbrev uri : Uri := attempt.selection.uri

def claim (nodes : Nodes) : Option ProbeGuard × Nodes := attempt.selection.claim nodes attempt.claimedAt

def countRetry (nodes : Nodes) : Nodes := if attempt.repeated then attempt.selection.countRetry nodes else nodes

/-- What the two proxying handlers make of the nodes. A response keeps its connection until its body is through. -/
def proxied (handler : Handler) (nodes : Nodes) (outcome : Outcome) : Nodes :=
  let (guard, claimed) := attempt.claim nodes
  let connected := attempt.selection.openConnection claimed
  match (verdict handler outcome).1 with
  | .success =>
    attempt.selection.tell (attempt.selection.recordLatency connected attempt.latencyMs) attempt.reportedAt .success
  | .outlier =>
    let failed :=
      attempt.selection.tell (attempt.selection.recordLatency connected attempt.latencyMs) attempt.reportedAt .outlier
    if attempt.repeated then attempt.selection.closeConnection (attempt.countRetry failed) else failed
  | .dead =>
    attempt.selection.closeConnection
      (attempt.countRetry (attempt.selection.tell connected attempt.reportedAt .dead))
  | .silent => attempt.selection.release connected guard

def viaHttpProxy (nodes : Nodes) (outcome : Outcome) : Nodes := attempt.proxied httpProxy nodes outcome

def viaGrpcPassthrough (nodes : Nodes) (outcome : Outcome) : Nodes := attempt.proxied grpcPassthrough nodes outcome

/-- What the transcoding handler makes of the nodes: every error of the client library is a failure of the node. -/
def viaGrpcWeb (nodes : Nodes) (outcome : Outcome) : Nodes :=
  let connected := attempt.selection.openConnection nodes
  match outcome with
  | .timedOut => attempt.selection.closeConnection connected
  | .response _ =>
    attempt.selection.closeConnection (attempt.selection.recordLatency connected attempt.latencyMs)
  | .failed _ =>
    attempt.selection.closeConnection
      (attempt.countRetry (attempt.selection.tell connected attempt.reportedAt .dead))

end Attempt

def view (node : UpstreamNode) : Bool × CircuitState × Nat := (node.isAlive, node.circuitState, node.consecutiveFailures)

section

variable {attempt : Attempt} {nodes : Nodes}

def Attempt.Own (attempt : Attempt) : Prop := nodeOf attempt.target attempt.uri = some attempt.index

instance (attempt : Attempt) : Decidable attempt.Own := inferInstanceAs (Decidable (_ = _))

theorem updateNode_index (change : UpstreamNode → UpstreamNode) :
    updateNode attempt.target nodes attempt.uri change attempt.index =
      if attempt.Own then change (nodes attempt.index) else nodes attempt.index := by
  by_cases own : attempt.Own
  · have found : nodeOf attempt.target attempt.uri = some attempt.index := own
    simp only [updateNode, found, if_pos own, Function.update_self]
  · rw [if_neg own]
    cases found : nodeOf attempt.target attempt.uri with
    | none => simp only [updateNode, found]
    | some index =>
      have elsewhere : attempt.index ≠ index := fun same => own (found.trans (congrArg some same.symm))
      simp only [updateNode, found, Function.update_of_ne elsewhere]

theorem atNode_index (change : UpstreamNode → UpstreamNode) :
    attempt.selection.atNode nodes change attempt.index = change (nodes attempt.index) := Function.update_self _ _ _

theorem read_updateNode {γ : Type} (read : UpstreamNode → γ) {change : UpstreamNode → UpstreamNode}
    (kept : ∀ node, read (change node) = read node) :
    read (updateNode attempt.target nodes attempt.uri change attempt.index) = read (nodes attempt.index) := by
  rw [updateNode_index]
  split_ifs
  · exact kept _
  · rfl

theorem view_openConnection :
    view (attempt.selection.openConnection nodes attempt.index) = view (nodes attempt.index) := by
  rw [Selection.openConnection, Selection.atUri]
  exact read_updateNode view fun _ => rfl

theorem view_closeConnection :
    view (attempt.selection.closeConnection nodes attempt.index) = view (nodes attempt.index) := by
  rw [Selection.closeConnection, Selection.atUri]
  exact read_updateNode view fun _ => by simp only [view]

theorem view_recordLatency {latencyMs : Nat} :
    view (attempt.selection.recordLatency nodes latencyMs attempt.index) = view (nodes attempt.index) := by
  rw [Selection.recordLatency, atNode_index]
  rfl

theorem view_countRetry : view (attempt.countRetry nodes attempt.index) = view (nodes attempt.index) := by
  unfold Attempt.countRetry
  split_ifs
  · rw [Selection.countRetry, atNode_index]
    rfl
  · rfl

theorem view_recordSuccess (node : UpstreamNode) :
    view node.recordSuccess =
      if node.isAlive = true ∧ node.consecutiveFailures = 0 then view node else (true, .closed, 0) := by
  unfold UpstreamNode.recordSuccess
  by_cases healthy : node.isAlive = true ∧ node.consecutiveFailures = 0
  · simp [healthy]
  · have changed : (!node.isAlive || decide (0 < node.consecutiveFailures)) = true := by
      rw [Bool.or_eq_true, Bool.not_eq_true', decide_eq_true_eq]
      cases alive : node.isAlive with
      | false => exact .inl rfl
      | true => exact .inr (Nat.pos_of_ne_zero fun none => healthy ⟨alive, none⟩)
    rw [if_pos changed, if_neg healthy]
    rfl

theorem view_markDead (node : UpstreamNode) (now : Nat) :
    view (node.markDead now) = (false, .opened, node.consecutiveFailures) := rfl

theorem failures_congr {first second : UpstreamNode} (same : view first = view second) :
    first.consecutiveFailures = second.consecutiveFailures := congrArg (fun fields => fields.2.2) same

theorem view_connectionFailed (attempt : Attempt) (nodes : Nodes) :
    view (attempt.selection.closeConnection (attempt.countRetry
        (attempt.selection.tell (attempt.selection.openConnection nodes) attempt.reportedAt .dead)) attempt.index) =
      if attempt.Own then (false, .opened, (nodes attempt.index).consecutiveFailures) else view (nodes attempt.index) := by
  have counted : view (attempt.selection.openConnection nodes attempt.index) = view (nodes attempt.index) :=
    view_openConnection
  rw [view_closeConnection, view_countRetry, Selection.tell, targetMarkDead, updateNode_index]
  split_ifs with own
  · rw [view_markDead, failures_congr counted]
  · exact counted

theorem view_recordSuccess_congr {first second : UpstreamNode} (same : view first = view second) :
    view first.recordSuccess = view second.recordSuccess := by
  have alive : first.isAlive = second.isAlive := congrArg Prod.fst same
  rw [view_recordSuccess, view_recordSuccess, same, alive, failures_congr same]

def Attempt.Wins (attempt : Attempt) (nodes : Nodes) : Prop :=
  ((nodes attempt.index).tryEnterHalfOpenProbe attempt.target.cooldownSeconds attempt.claimedAt).1 = true

instance (attempt : Attempt) (nodes : Nodes) : Decidable (attempt.Wins nodes) := inferInstanceAs (Decidable (_ = _))

theorem view_claim (several : isMultiNode attempt.target = true) :
    view ((attempt.claim nodes).2 attempt.index) =
      if attempt.Wins nodes then
        ((nodes attempt.index).isAlive, .halfOpen, (nodes attempt.index).consecutiveFailures)
      else view (nodes attempt.index) := by
  have claimed : (attempt.claim nodes).2 attempt.index =
      ((nodes attempt.index).tryEnterHalfOpenProbe attempt.target.cooldownSeconds attempt.claimedAt).2 := by
    rw [Attempt.claim, Selection.claim, if_pos several]
    exact Function.update_self _ _ _
  rw [claimed]
  split_ifs with wins
  · rw [(tryEnterHalfOpenProbe_won wins).2.2]
    rfl
  · rw [tryEnterHalfOpenProbe_lost (Bool.eq_false_iff.mpr wins)]

variable {handler : Handler} {outcome : Outcome}

theorem view_proxied_success (report : (verdict handler outcome).1 = .success) :
    view (attempt.proxied handler nodes outcome attempt.index) =
      view ((attempt.claim nodes).2 attempt.index).recordSuccess := by
  unfold Attempt.proxied
  simp only [report, Selection.tell]
  rw [atNode_index]
  apply view_recordSuccess_congr
  rw [view_recordLatency, view_openConnection]

theorem view_proxied_dead (report : (verdict handler outcome).1 = .dead) :
    view (attempt.proxied handler nodes outcome attempt.index) =
      if attempt.Own then (false, .opened, ((attempt.claim nodes).2 attempt.index).consecutiveFailures)
      else view ((attempt.claim nodes).2 attempt.index) := by
  unfold Attempt.proxied
  simp only [report]
  exact view_connectionFailed attempt (attempt.claim nodes).2

theorem view_proxied_outlier (attempt : Attempt) (nodes : Nodes) (report : (verdict handler outcome).1 = .outlier) :
    (attempt.Own → (view (attempt.proxied handler nodes outcome attempt.index)).2.2 =
      add64 ((attempt.claim nodes).2 attempt.index).consecutiveFailures 1) ∧
    (¬attempt.Own → view (attempt.proxied handler nodes outcome attempt.index) =
      view ((attempt.claim nodes).2 attempt.index)) := by
  let answered := attempt.selection.recordLatency (attempt.selection.openConnection (attempt.claim nodes).2)
    attempt.latencyMs
  have counted : view (answered attempt.index) = view ((attempt.claim nodes).2 attempt.index) :=
    view_recordLatency.trans view_openConnection
  have effect : view (attempt.proxied handler nodes outcome attempt.index) =
      view (attempt.selection.tell answered attempt.reportedAt .outlier attempt.index) := by
    unfold Attempt.proxied
    simp only [report]
    split_ifs
    · rw [view_closeConnection, view_countRetry]
    · rfl
  rw [effect, Selection.tell, targetRecordFailure, updateNode_index]
  constructor
  · intro own
    rw [if_pos own, ← failures_congr counted]
    exact Breaker.Threshold.recordFailure_counter _ _ _
  · intro other
    rw [if_neg other, counted]

theorem view_viaGrpcWeb (outcome : Outcome) :
    view (attempt.viaGrpcWeb nodes outcome attempt.index) =
      match outcome with
      | .failed _ =>
        if attempt.Own then (false, .opened, (nodes attempt.index).consecutiveFailures) else view (nodes attempt.index)
      | _ => view (nodes attempt.index) := by
  have counted : view (attempt.selection.openConnection nodes attempt.index) = view (nodes attempt.index) :=
    view_openConnection
  cases outcome with
  | timedOut => exact view_closeConnection.trans counted
  | response response => exact view_closeConnection.trans (view_recordLatency.trans counted)
  | failed kind => exact view_connectionFailed attempt nodes

/-- The classes of outcomes: a response that is no outlier to any handler or is one by its status, a timeout, or a
failed connection. -/
def Covered : Outcome → Prop
  | .timedOut => True
  | .response response => isOutlierStatus response.status = true ∨ isGrpcOutlierResponse response = false
  | .failed kind => kind = .upstreamFailure

theorem covered_report (covered : Covered outcome) :
    (verdict httpProxy outcome).1 = (verdict grpcPassthrough outcome).1 := by
  cases outcome with
  | timedOut => rfl
  | response response =>
    rcases covered with outlier | fine
    · simp [verdict, httpProxy, grpcPassthrough, isGrpcOutlierResponse, outlier]
    · have status : isOutlierStatus response.status = false := (Bool.or_eq_false_iff.mp fine).1
      simp [verdict, httpProxy, grpcPassthrough, fine, status]
  | failed kind =>
    cases covered
    rfl

theorem proxied_congr {first second : Handler} (same : (verdict first outcome).1 = (verdict second outcome).1) :
    attempt.proxied first nodes outcome = attempt.proxied second nodes outcome := by
  unfold Attempt.proxied
  rw [same]

def Attempt.Kept (attempt : Attempt) (nodes : Nodes) : Prop :=
  ¬attempt.Wins nodes ∨ (nodes attempt.index).circuitState = .halfOpen

theorem view_claim_eq_iff (several : isMultiNode attempt.target = true) :
    view ((attempt.claim nodes).2 attempt.index) = view (nodes attempt.index) ↔ attempt.Kept nodes := by
  rw [view_claim several]
  unfold Attempt.Kept
  split_ifs with wins
  · simp [view, wins, eq_comm]
  · simp [wins]

end

structure Uniform (attempt : Attempt) (nodes : Nodes) (outcome : Outcome) : Prop where
  proxies : view (attempt.viaHttpProxy nodes outcome attempt.index) =
    view (attempt.viaGrpcPassthrough nodes outcome attempt.index)
  transcoding : view (attempt.viaHttpProxy nodes outcome attempt.index) =
    view (attempt.viaGrpcWeb nodes outcome attempt.index)

/-- Where a handler that claims no probe and reports connection failures only comes to the same. -/
def Agreeable (attempt : Attempt) (nodes : Nodes) : Outcome → Prop
  | .response response =>
    if isOutlierStatus response.status then ¬attempt.Own ∧ attempt.Kept nodes
    else (nodes attempt.index).isAlive = true ∧ (nodes attempt.index).consecutiveFailures = 0
  | .timedOut =>
    if attempt.Own then (nodes attempt.index).isAlive = false ∧ (nodes attempt.index).circuitState = .opened
    else attempt.Kept nodes
  | .failed _ => attempt.Own ∨ attempt.Kept nodes

section

variable {attempt : Attempt} {nodes : Nodes} (several : isMultiNode attempt.target = true)

include several

theorem claim_fields :
    ((attempt.claim nodes).2 attempt.index).isAlive = (nodes attempt.index).isAlive ∧
      ((attempt.claim nodes).2 attempt.index).consecutiveFailures = (nodes attempt.index).consecutiveFailures := by
  have claimed : view ((attempt.claim nodes).2 attempt.index) = _ := view_claim several
  split_ifs at claimed
  · simp only [view, Prod.mk.injEq] at claimed
    exact ⟨claimed.1, claimed.2.2⟩
  · simp only [view, Prod.mk.injEq] at claimed
    exact ⟨claimed.1, claimed.2.2⟩

theorem success_agrees_iff :
    view ((attempt.claim nodes).2 attempt.index).recordSuccess = view (nodes attempt.index) ↔
      (nodes attempt.index).isAlive = true ∧ (nodes attempt.index).consecutiveFailures = 0 := by
  rw [view_recordSuccess, (claim_fields several).1, (claim_fields several).2]
  split_ifs with healthy
  · -- An alive node cannot be won.
    have lost : ¬attempt.Wins nodes := by
      intro wins
      rw [(tryEnterHalfOpenProbe_won wins).1] at healthy
      cases healthy.1
    exact iff_of_true ((view_claim_eq_iff several).mpr (.inl lost)) healthy
  · refine iff_of_false ?_ healthy
    intro same
    simp only [view, Prod.mk.injEq] at same
    exact healthy ⟨same.1.symm, same.2.2.symm⟩

theorem timeout_agrees_iff :
    (if attempt.Own then (false, .opened, ((attempt.claim nodes).2 attempt.index).consecutiveFailures)
      else view ((attempt.claim nodes).2 attempt.index)) = view (nodes attempt.index) ↔
    if attempt.Own then (nodes attempt.index).isAlive = false ∧ (nodes attempt.index).circuitState = .opened
      else attempt.Kept nodes := by
  split_ifs with own
  · rw [(claim_fields several).2]
    simp only [view, Prod.mk.injEq, and_true]
    exact and_congr eq_comm eq_comm
  · exact view_claim_eq_iff several

theorem failure_agrees_iff :
    (if attempt.Own then (false, .opened, ((attempt.claim nodes).2 attempt.index).consecutiveFailures)
      else view ((attempt.claim nodes).2 attempt.index)) =
      (if attempt.Own then (false, .opened, (nodes attempt.index).consecutiveFailures) else view (nodes attempt.index)) ↔
    attempt.Own ∨ attempt.Kept nodes := by
  split_ifs with own
  · rw [(claim_fields several).2]
    simp [own]
  · rw [view_claim_eq_iff several]
    simp [own]

theorem outlier_agrees_iff {outcome : Outcome} (report : (verdict httpProxy outcome).1 = .outlier) :
    view (attempt.viaHttpProxy nodes outcome attempt.index) = view (nodes attempt.index) ↔
      ¬attempt.Own ∧ attempt.Kept nodes := by
  obtain ⟨counted, other⟩ := view_proxied_outlier attempt nodes report
  by_cases own : attempt.Own
  · refine iff_of_false ?_ fun agreeable => agreeable.1 own
    intro same
    have failures := counted own
    rw [(claim_fields several).2] at failures
    have before : (view (attempt.proxied httpProxy nodes outcome attempt.index)).2.2 =
        (nodes attempt.index).consecutiveFailures := failures_congr same
    rw [failures, add64] at before
    omega
  · rw [Attempt.viaHttpProxy, other own, view_claim_eq_iff several]
    simp [own]

end

/-- The three handlers leave the node alike exactly in these cases. -/
theorem handlers_agree_iff (attempt : Attempt) (several : 1 < attempt.target.upstreams.length) (nodes : Nodes)
    (outcome : Outcome) (covered : Covered outcome) :
    Uniform attempt nodes outcome ↔ Agreeable attempt nodes outcome := by
  have multi : isMultiNode attempt.target = true := by simpa [isMultiNode] using several
  have proxies : view (attempt.viaHttpProxy nodes outcome attempt.index) =
      view (attempt.viaGrpcPassthrough nodes outcome attempt.index) := by
    rw [Attempt.viaHttpProxy, proxied_congr (covered_report covered)]
    rfl
  have reduced : Uniform attempt nodes outcome ↔ view (attempt.viaHttpProxy nodes outcome attempt.index) =
      view (attempt.viaGrpcWeb nodes outcome attempt.index) :=
    ⟨fun uniform => uniform.transcoding, fun same => ⟨proxies, same⟩⟩
  rw [reduced, view_viaGrpcWeb]
  cases outcome with
  | timedOut =>
    rw [Attempt.viaHttpProxy, view_proxied_dead rfl]
    exact timeout_agrees_iff multi
  | response response =>
    change _ = view (nodes attempt.index) ↔ if isOutlierStatus response.status = true then _ else _
    by_cases outlier : isOutlierStatus response.status = true
    · rw [if_pos outlier]
      exact outlier_agrees_iff multi (if_pos outlier)
    · have report : (verdict httpProxy (.response response)).1 = .success := if_neg outlier
      rw [if_neg outlier, Attempt.viaHttpProxy, view_proxied_success report]
      exact success_agrees_iff multi
  | failed kind =>
    cases covered
    rw [Attempt.viaHttpProxy, view_proxied_dead rfl]
    exact failure_agrees_iff multi

def firstOfTwo : Attempt where
  target := ⟨[⟨none, some ['a'], ['/'], none⟩, ⟨none, some ['b'], ['/'], none⟩], .random, 10, 1, 3, 0, 0⟩
  selection := ⟨0, ⟨none, some ['a'], ['/'], none⟩, rfl⟩
  claimedAt := 100
  reportedAt := 101
  latencyMs := 5
  repeated := false

theorem handlers_agree_iff_connection :
    Covered (.failed .upstreamFailure) ∧ Uniform firstOfTwo (fun _ => .new) (.failed .upstreamFailure) :=
  ⟨rfl, (handlers_agree_iff firstOfTwo (by decide) (fun _ => .new) (.failed .upstreamFailure) rfl).mpr
    (.inl (by decide))⟩

/-- A node that answers with 503 has failed once by the HTTP proxy and never by the transcoding handler. -/
theorem transcoding_misses_outlier :
    let outcome : Outcome := .response ⟨503, [], []⟩
    Covered outcome ∧ view (firstOfTwo.viaHttpProxy (fun _ => .new) outcome 0) = (true, .closed, 1) ∧
      view (firstOfTwo.viaGrpcWeb (fun _ => .new) outcome 0) = (true, .closed, 0) ∧
      ¬Uniform firstOfTwo (fun _ => .new) outcome := by
  intro outcome
  have proxied : view (firstOfTwo.viaHttpProxy (fun _ => .new) outcome 0) = (true, .closed, 1) := by decide +kernel
  have transcoded : view (firstOfTwo.viaGrpcWeb (fun _ => .new) outcome 0) = (true, .closed, 0) := by decide +kernel
  refine ⟨.inl rfl, proxied, transcoded, ?_⟩
  intro uniform
  exact absurd (proxied.symm.trans (uniform.transcoding.trans transcoded)) (by decide)

end Praeco.Router.Outliers
