import Praeco.Breaker.Guards
import Praeco.Router.Attempts
import Praeco.Schedule.Processes

/-! Concurrent requests to a target with several upstreams. A request selects a node, claims its probe slot, is
sent and reports its outcome in steps of their own, and a lost claim does not keep it from being sent. Where claims
follow selections undisturbed, reports respect the probe in flight and no node recovers behind a request that had no
choice, there is no herd on a node that is not closed. -/

namespace Praeco.Router.Herd
open Praeco.Http.Target Praeco.Schedule.Runs Praeco.Schedule.Processes Praeco.Breaker.Node Praeco.Breaker.Guards
  Praeco.Router.Config Praeco.Router.Balancing Praeco.Router.Failover Praeco.Router.Attempts

/-- The nodes of the target, and how often each has left the closed state. -/
structure Fleet where
  nodes : Nodes
  rrCounter : Nat
  left : Nat → Nat

def Fleet.adopt (fleet : Fleet) (nodes : Nodes) : Fleet where
  nodes := nodes
  rrCounter := fleet.rrCounter
  left index :=
    if (fleet.nodes index).circuitState = .closed ∧ (nodes index).circuitState ≠ .closed then fleet.left index + 1
    else fleet.left index

def hasAlternative (target : RouteTarget) (nodes : Nodes) (failedUris : List Uri) (index : Nat) : Bool :=
  (List.range target.upstreams.length).any fun other =>
    other ≠ index && (nodes other).circuitState = .closed && !hasFailed target failedUris other

/-- A selected node: when and as what the selection has seen it, and whether a closed node that has not failed the
request stood beside it. -/
structure Visit (target : RouteTarget) where
  selection : Selection target
  chosenAt : Nat
  seen : UpstreamNode
  left : Nat
  alternative : Bool

structure Probe where
  guard : Option ProbeGuard
  left : Nat

def Probe.outstanding (probe : Probe) : Bool := probe.guard.any (·.isOutstanding)

inductive Stage (target : RouteTarget) where
  | choosing
  | selected (visit : Visit target)
  | engaged (visit : Visit target) (probe : Probe) (sent : Bool)
  | done

inductive Party (target : RouteTarget) where
  | request (request : Request (Stage target))
  | monitor

inductive Arrival where
  | request (retryable : Bool) (clientHash : Option Nat)
  | monitor

/-- The steps of requests, and those of health checks and of whatever else changes loads and scores. -/
inductive Signal where
  | select (around : Circumstances)
  | claim (now : Nat)
  | send
  | record (report : Report) (now : Nat)
  | abort
  | checkDead (index now : Nat)
  | checkAlive (index : Nat)
  | measure (index activeConnections currentScore : Nat)

variable {target : RouteTarget}

/-- An attempt that reports nothing drops the guard of its probe; the others have completed it. -/
def conclude (selection : Selection target) (nodes : Nodes) (guard : Option ProbeGuard) (now : Nat) : Report → Nodes
  | .silent => selection.dropGuard nodes guard
  | report => selection.tell nodes now report

def finish (request : Request (Stage target)) : Party target := .request { request with stage := .done }

def actRequest (fleet : Fleet) (request : Request (Stage target)) (signal : Signal) : Fleet × Party target :=
  match request.stage, signal with
  | .choosing, .select around =>
    match request.choose target fleet.nodes fleet.rrCounter around with
    | (some selection, rrCounter) =>
      let visit : Visit target := ⟨selection, around.clock selection.node, fleet.nodes selection.node,
        fleet.left selection.node, hasAlternative target fleet.nodes request.failedUris selection.node⟩
      ({ fleet with rrCounter }, .request { request with attempts := request.attempts + 1, stage := .selected visit })
    | (none, rrCounter) => ({ fleet with rrCounter }, finish request)
  | .selected visit, .claim now =>
    let (guard, nodes) := visit.selection.claim fleet.nodes now
    let claimed := fleet.adopt nodes
    (claimed, .request { request with stage := .engaged visit ⟨guard, claimed.left visit.selection.node⟩ false })
  | .engaged visit probe false, .send => (fleet, .request { request with stage := .engaged visit probe true })
  | .engaged visit probe true, .record report now =>
    (fleet.adopt (conclude visit.selection fleet.nodes probe.guard now report),
      .request { request with
        failedUris := request.failedAfter visit.selection report
        stage := if request.again target report then .choosing else .done })
  | .engaged visit probe _, .abort =>
    (fleet.adopt (visit.selection.dropGuard fleet.nodes probe.guard), finish request)
  | .choosing, .abort => (fleet, finish request)
  | .selected _, .abort => (fleet, finish request)
  | _, _ => (fleet, .request request)

def act (fleet : Fleet) : Party target → Signal → Fleet × Party target
  | .request request, signal => actRequest fleet request signal
  | .monitor, .checkDead index now =>
    (fleet.adopt (Function.update fleet.nodes index ((fleet.nodes index).markDead now)), .monitor)
  | .monitor, .checkAlive index =>
    (fleet.adopt (Function.update fleet.nodes index (fleet.nodes index).markAlive), .monitor)
  | .monitor, .measure index activeConnections currentScore =>
    (fleet.adopt (Function.update fleet.nodes index { fleet.nodes index with activeConnections, currentScore }), .monitor)
  | .monitor, _ => (fleet, .monitor)

def arrive : Arrival → Party target
  | .request retryable clientHash => .request ⟨retryable, clientHash, [], 0, .choosing⟩
  | .monitor => .monitor

def requests (target : RouteTarget) : Program Fleet Arrival (Party target) Signal := ⟨arrive, act⟩

abbrev Traffic (target : RouteTarget) := System Fleet (Party target)

def initial : Traffic target := ⟨⟨fun _ => .new, 0, fun _ => 0⟩, []⟩

structure Passage (target : RouteTarget) where
  failedUris : List Uri
  visit : Visit target
  probe : Option Probe
  sent : Bool

def passageOf : Party target → Option (Passage target)
  | .request request =>
    match request.stage with
    | .selected visit => some ⟨request.failedUris, visit, none, false⟩
    | .engaged visit probe sent => some ⟨request.failedUris, visit, some probe, sent⟩
    | _ => none
  | .monitor => none

namespace Passage

variable (passage : Passage target) (fleet : Fleet)

abbrev node : Nat := passage.visit.selection.node

def Tripped : Prop := (fleet.nodes passage.node).circuitState ≠ .closed

def Recent : Prop := passage.visit.seen.circuitState ≠ .closed ∧ passage.visit.left = fleet.left passage.node

def Holds : Prop := ∃ probe ∈ passage.probe, probe.outstanding = true ∧ probe.left = fleet.left passage.node

def Undisturbed (now : Nat) : Prop :=
  (fleet.nodes passage.node).lastFailureTime = passage.visit.seen.lastFailureTime ∧
    (fleet.nodes passage.node).halfOpenProbeInFlight = passage.visit.seen.halfOpenProbeInFlight ∧
    passage.visit.chosenAt ≤ now

/-- The request has found no closed node beside the one that it selected, and has not got the slot. -/
def Exposed : Prop :=
  passage.Tripped fleet ∧ passage.Recent fleet ∧ passage.visit.alternative = false ∧ ¬passage.Holds fleet

instance : Decidable (passage.Tripped fleet) := inferInstanceAs (Decidable (¬_))

instance : Decidable (passage.Recent fleet) := inferInstanceAs (Decidable (_ ∧ _))

instance : Decidable (passage.Holds fleet) := inferInstanceAs (Decidable (∃ probe ∈ passage.probe, _))

instance (now : Nat) : Decidable (passage.Undisturbed fleet now) := inferInstanceAs (Decidable (_ ∧ _))

instance : Decidable (passage.Exposed fleet) := inferInstanceAs (Decidable (_ ∧ _))

end Passage

section accessors

def claiming : Party target → Signal → Option (Passage target × Nat)
  | party, .claim now => ((passageOf party).filter (·.probe.isNone)).map (·, now)
  | _, _ => none

def failing : Party target → Signal → Option (Passage target)
  | party, .record report _ => if report.isFailure then (passageOf party).filter (·.sent) else none
  | _, _ => none

def dropping : Party target → Signal → Option (Passage target)
  | party, .record .silent _ => (passageOf party).filter (·.sent)
  | party, .abort => passageOf party
  | _, _ => none

def condemned : Party target → Signal → Option Nat
  | .monitor, .checkDead index _ => some index
  | _, _ => none

end accessors

def Shielded (traffic : Traffic target) (after : Fleet) : Prop :=
  ∀ index < target.upstreams.length, (traffic.shared.nodes index).circuitState ≠ .closed →
    (after.nodes index).circuitState = .closed →
    ∀ passage ∈ traffic.processes.filterMap passageOf, passage.Exposed traffic.shared →
      index = passage.node ∨ hasFailed target passage.failedUris index = true

instance (traffic : Traffic target) (after : Fleet) : Decidable (Shielded traffic after) :=
  inferInstanceAs (Decidable (∀ index < target.upstreams.length, _))

/-- What keeps the herd away: claims find the node as the selection has seen it; failures, dropped guards and health
checks do not free a slot that another request holds; dropped guards do not open the circuit of a node that is alive;
and recoveries find no request exposed. -/
structure Orderly (traffic : Traffic target) (party : Party target) (signal : Signal) : Prop where
  claims : ∀ claim ∈ claiming party signal, claim.1.Tripped traffic.shared → claim.1.Recent traffic.shared →
    claim.1.visit.alternative = true → claim.1.Undisturbed traffic.shared claim.2
  reports : ∀ passage ∈ failing party signal,
    (traffic.shared.nodes passage.visit.selection.reportIndex).halfOpenProbeInFlight = true →
    passage.visit.selection.reportIndex = passage.node ∧ passage.Holds traffic.shared
  drops : ∀ passage ∈ dropping party signal, passage.probe.any Probe.outstanding = true →
    (traffic.shared.nodes passage.node).isAlive = false ∧
      ((traffic.shared.nodes passage.node).halfOpenProbeInFlight = true → passage.Holds traffic.shared)
  checks : ∀ index ∈ condemned party signal, (traffic.shared.nodes index).halfOpenProbeInFlight = false
  recoveries : Shielded traffic (act traffic.shared party signal).1

instance (traffic : Traffic target) (party : Party target) (signal : Signal) : Decidable (Orderly traffic party signal) :=
  decidable_of_iff (_ ∧ _ ∧ _ ∧ _ ∧ _)
    ⟨fun ⟨claims, reports, drops, checks, recoveries⟩ => ⟨claims, reports, drops, checks, recoveries⟩,
      fun ⟨claims, reports, drops, checks, recoveries⟩ => ⟨claims, reports, drops, checks, recoveries⟩⟩

def OrderlyStep (traffic : Traffic target) : Label Arrival Signal → Prop
  | .spawn _ => True
  | .act place signal => ∀ party ∈ traffic.processes[place]?, Orderly traffic party signal

instance (traffic : Traffic target) (label : Label Arrival Signal) : Decidable (OrderlyStep traffic label) :=
  match label with
  | .spawn _ => .isTrue trivial
  | .act place signal => inferInstanceAs (Decidable (∀ party ∈ traffic.processes[place]?, Orderly traffic party signal))

/-- The request under this number is in flight to the node, which it has selected since the node last left the closed
state, and there is another node, closed, that has not failed it. -/
def Herded (traffic : Traffic target) (node place : Nat) : Prop :=
  ∃ passage ∈ traffic.processes[place]?.bind passageOf, passage.sent = true ∧ passage.node = node ∧
    passage.Recent traffic.shared ∧ hasAlternative target traffic.shared.nodes passage.failedUris node = true

instance (traffic : Traffic target) (node place : Nat) : Decidable (Herded traffic node place) :=
  inferInstanceAs (Decidable (∃ passage ∈ traffic.processes[place]?.bind passageOf, _))

def HerdFree (traffic : Traffic target) : Prop :=
  ∀ node, (traffic.shared.nodes node).circuitState ≠ .closed →
    ∀ first second, Herded traffic node first → Herded traffic node second → first = second

section

def Follows (before after : Fleet) : Prop := ∀ index, after.left index = (before.adopt after.nodes).left index

namespace Follows

variable {before after : Fleet} {index : Nat}

theorem same (nodes : after.nodes = before.nodes) (left : after.left = before.left) : Follows before after := by
  intro index
  have still : ¬((before.nodes index).circuitState = .closed ∧ (before.nodes index).circuitState ≠ .closed) := by tauto
  rw [nodes, left]
  exact (if_neg still).symm

theorem le (follows : Follows before after) (index : Nat) : before.left index ≤ after.left index := by
  rw [follows index, Fleet.adopt]
  dsimp only
  split_ifs
  · omega
  · exact le_rfl

theorem not_closed_before (follows : Follows before after) (still : after.left index = before.left index)
    (tripped : (after.nodes index).circuitState ≠ .closed) : (before.nodes index).circuitState ≠ .closed := by
  intro closed
  have counted := follows index
  have risen : (before.adopt after.nodes).left index = before.left index + 1 := if_pos ⟨closed, tripped⟩
  omega

end Follows

theorem act_follows (fleet : Fleet) (party : Party target) (signal : Signal) :
    Follows fleet (act fleet party signal).1 := by
  cases party with
  | request request =>
    change Follows fleet (actRequest fleet request signal).1
    unfold actRequest
    split
    · split
      · exact .same rfl rfl
      · exact .same rfl rfl
    · intro index
      rfl
    · exact .same rfl rfl
    · intro index
      rfl
    · intro index
      rfl
    · exact .same rfl rfl
    · exact .same rfl rfl
    · exact .same rfl rfl
  | monitor =>
    cases signal with
    | checkDead index now => exact fun _ => rfl
    | checkAlive index => exact fun _ => rfl
    | measure index activeConnections currentScore => exact fun _ => rfl
    | _ => exact .same rfl rfl

def Sighted (visit : Visit target) : Prop :=
  visit.alternative = true →
    visit.seen.isAvailable target.cooldownSeconds visit.chosenAt = true ∧ Consistent visit.seen

/-- What is known of each request under way: the counts that it has seen are past ones, a slot that it holds is taken,
and it holds the slot if it has claimed it beside a closed node; a closed node stood there from the selection on, or
the slot was got all the same. -/
structure Settled (fleet : Fleet) (passage : Passage target) : Prop where
  visited : passage.visit.left ≤ fleet.left passage.node
  probed : ∀ probe ∈ passage.probe, probe.left ≤ fleet.left passage.node
  sighted : passage.probe = none → Sighted passage.visit
  taken : passage.Tripped fleet → passage.Holds fleet → (fleet.nodes passage.node).halfOpenProbeInFlight = true
  winning : passage.probe.isSome = true → passage.Tripped fleet → passage.Recent fleet →
    passage.visit.alternative = true → passage.Holds fleet
  foreseen : passage.Tripped fleet → passage.Recent fleet →
    hasAlternative target fleet.nodes passage.failedUris passage.node = true →
    passage.visit.alternative = true ∨ passage.Holds fleet

section

variable {before after : Fleet} {passage : Passage target}

theorem Settled.held_before (settled : Settled before passage) (follows : Follows before after)
    (tripped : passage.Tripped after) (holds : passage.Holds after) :
    passage.Tripped before ∧ passage.Holds before := by
  obtain ⟨probe, mine, outstanding, current⟩ := holds
  have bound := settled.probed probe mine
  have rises := follows.le passage.node
  have still : after.left passage.node = before.left passage.node := by omega
  exact ⟨follows.not_closed_before still tripped, probe, mine, outstanding, current.trans still⟩

theorem Settled.recent_before (settled : Settled before passage) (follows : Follows before after)
    (tripped : passage.Tripped after) (recent : passage.Recent after) :
    after.left passage.node = before.left passage.node ∧ passage.Tripped before ∧ passage.Recent before := by
  have bound := settled.visited
  have rises := follows.le passage.node
  have current := recent.2
  have still : after.left passage.node = before.left passage.node := by omega
  exact ⟨still, follows.not_closed_before still tripped, recent.1, current.trans still⟩

theorem Passage.Holds.kept (still : after.left passage.node = before.left passage.node) (holds : passage.Holds before) :
    passage.Holds after := by
  obtain ⟨probe, mine, outstanding, current⟩ := holds
  exact ⟨probe, mine, outstanding, current.trans still.symm⟩

theorem alternative_before {failedUris : List Uri} {index : Nat} {nodes recovered : Nodes}
    (recoveries : ∀ other < target.upstreams.length, (nodes other).circuitState ≠ .closed →
      (recovered other).circuitState = .closed → other = index ∨ hasFailed target failedUris other = true)
    (alternative : hasAlternative target recovered failedUris index = true) :
    hasAlternative target nodes failedUris index = true := by
  obtain ⟨other, inside, beside⟩ := List.any_eq_true.mp alternative
  simp only [Bool.and_eq_true, decide_eq_true_eq, Bool.not_eq_true'] at beside
  obtain ⟨⟨different, closed⟩, fresh⟩ := beside
  refine List.any_eq_true.mpr ⟨other, inside, ?_⟩
  have closedBefore : (nodes other).circuitState = .closed := by
    by_contra tripped
    rcases recoveries other (List.mem_range.mp inside) tripped closed with same | failed
    · exact different same
    · rw [failed] at fresh
      cases fresh
  simp [different, closedBefore, fresh]

theorem Settled.carried (settled : Settled before passage) (follows : Follows before after)
    (slot : passage.Tripped after → passage.Holds before → (before.nodes passage.node).halfOpenProbeInFlight = true →
      (after.nodes passage.node).halfOpenProbeInFlight = true)
    (recoveries : passage.Exposed before → ∀ index < target.upstreams.length,
      (before.nodes index).circuitState ≠ .closed → (after.nodes index).circuitState = .closed →
      index = passage.node ∨ hasFailed target passage.failedUris index = true) : Settled after passage := by
  refine ⟨settled.visited.trans (follows.le _), ?_, settled.sighted, ?_, ?_, ?_⟩
  · intro probe mine
    exact (settled.probed probe mine).trans (follows.le _)
  · intro tripped holds
    obtain ⟨trippedBefore, heldBefore⟩ := settled.held_before follows tripped holds
    exact slot tripped heldBefore (settled.taken trippedBefore heldBefore)
  · intro engaged tripped recent alternative
    obtain ⟨still, trippedBefore, recentBefore⟩ := settled.recent_before follows tripped recent
    exact (settled.winning engaged trippedBefore recentBefore alternative).kept still
  · intro tripped recent alternative
    obtain ⟨still, trippedBefore, recentBefore⟩ := settled.recent_before follows tripped recent
    by_cases known : passage.visit.alternative = true ∨ passage.Holds before
    · exact known.imp_right (·.kept still)
    · obtain ⟨blind, empty⟩ := not_or.mp known
      have exposed : passage.Exposed before :=
        ⟨trippedBefore, recentBefore, Bool.eq_false_iff.mpr blind, empty⟩
      exact absurd (settled.foreseen trippedBefore recentBefore (alternative_before (recoveries exposed) alternative))
        known

end

/-- The invariant: a slot is held by one request at most, and the requests that could form a herd hold it. -/
structure Guarded (traffic : Traffic target) : Prop where
  consistent : ∀ index, Consistent (traffic.shared.nodes index)
  settled : ∀ (place : Nat) passage, traffic.processes[place]?.bind passageOf = some passage →
    Settled traffic.shared passage
  single : ∀ (first second : Nat) passage rival, traffic.processes[first]?.bind passageOf = some passage →
    traffic.processes[second]?.bind passageOf = some rival → rival.node = passage.node →
    passage.Tripped traffic.shared → passage.Holds traffic.shared → rival.Holds traffic.shared → first = second

variable {traffic : Traffic target} {place : Nat}

variable {passage : Passage target} {party : Party target} {signal : Signal} {node : UpstreamNode} {now : Nat}
  {request : Request (Stage target)} {visit : Visit target} {probe : Probe}

def Holding (traffic : Traffic target) (place index : Nat) : Prop :=
  ∃ passage, traffic.processes[place]?.bind passageOf = some passage ∧ passage.node = index ∧
    passage.Holds traffic.shared

def Respectful (traffic : Traffic target) (place index : Nat) (node : UpstreamNode) : Prop :=
  Consistent node ∧ (node.circuitState = .closed ∨
    ((traffic.shared.nodes index).halfOpenProbeInFlight = true → node.halfOpenProbeInFlight = true) ∨
    Holding traffic place index)

/-- What a step may make of its request: one that holds a slot has held it before or has found it free. -/
structure Entitled (traffic : Traffic target) (place : Nat) (fleet : Fleet) (passage : Passage target) : Prop where
  settled : Settled fleet passage
  entitled : passage.Tripped fleet → passage.Holds fleet →
    (traffic.shared.nodes passage.node).halfOpenProbeInFlight = false ∨ Holding traffic place passage.node

theorem dead_of_tripped (consistent : Consistent node) (tripped : node.circuitState ≠ .closed) : node.isAlive = false :=
  Bool.eq_false_iff.mpr fun alive => tripped (consistent.1.mp alive)

theorem undisturbed_wins {fleet : Fleet} (sighted : Sighted passage.visit)
    (consistent : Consistent (fleet.nodes passage.node)) (tripped : passage.Tripped fleet)
    (recent : passage.Recent fleet) (alternative : passage.visit.alternative = true)
    (undisturbed : passage.Undisturbed fleet now) :
    ((fleet.nodes passage.node).tryEnterHalfOpenProbe target.cooldownSeconds now).1 = true := by
  obtain ⟨available, seenConsistent⟩ := sighted alternative
  obtain ⟨time, slot, later⟩ := undisturbed
  have seenDead := dead_of_tripped seenConsistent recent.1
  have dead := dead_of_tripped consistent tripped
  simp only [UpstreamNode.isAvailable, seenDead, Bool.false_or, Bool.and_eq_true, Bool.not_eq_true',
    decide_eq_true_eq] at available
  obtain ⟨⟨free, stamped⟩, elapsed⟩ := available
  rw [← slot] at free
  rw [← time] at stamped elapsed
  have cooled : ¬now ≤ add64 (fleet.nodes passage.node).lastFailureTime target.cooldownSeconds :=
    Nat.not_le_of_lt (elapsed.trans_le later)
  simp [UpstreamNode.tryEnterHalfOpenProbe, dead, stamped, cooled, free]

theorem claim_slot (node : UpstreamNode) (cooldownSeconds now : Nat) :
    (node.halfOpenProbeInFlight = true →
      (node.tryEnterHalfOpenProbe cooldownSeconds now).2.halfOpenProbeInFlight = true) ∧
    ((node.tryEnterHalfOpenProbe cooldownSeconds now).1 = true → node.halfOpenProbeInFlight = false ∧
      (node.tryEnterHalfOpenProbe cooldownSeconds now).2.halfOpenProbeInFlight = true) := by
  cases won : (node.tryEnterHalfOpenProbe cooldownSeconds now).1 with
  | false =>
    rw [tryEnterHalfOpenProbe_lost won]
    exact ⟨fun taken => taken, nofun⟩
  | true =>
    obtain ⟨-, free, entered⟩ := tryEnterHalfOpenProbe_won won
    rw [entered]
    exact ⟨fun _ => rfl, fun _ => ⟨free, rfl⟩⟩

theorem respectful_failure {index : Nat} (found : traffic.processes[place]?.bind passageOf = some passage)
    (consistent : Consistent node)
    (held : (traffic.shared.nodes index).halfOpenProbeInFlight = true → index = passage.node ∧
      passage.Holds traffic.shared) :
    Respectful traffic place index node := by
  refine ⟨consistent, .inr ?_⟩
  by_cases taken : (traffic.shared.nodes index).halfOpenProbeInFlight = true
  · obtain ⟨own, holds⟩ := held taken
    exact .inr ⟨passage, found, own.symm, holds⟩
  · exact .inl fun flag => absurd flag taken

theorem probe_of_sent (shown : passageOf party = some passage) (sent : passage.sent = true) :
    passage.probe.isSome = true := by
  unfold passageOf at shown
  split at shown
  · split at shown
    · cases shown
      cases sent
    · cases shown
      rfl
    · cases shown
  · cases shown

theorem entitled_gone {fleet : Fleet} {after : Party target} (gone : passageOf after = none) (passage : Passage target)
    (shown : passageOf after = some passage) : Entitled traffic place fleet passage := by
  rw [gone] at shown
  cases shown

section

variable (guarded : Guarded traffic)

include guarded

theorem Guarded.unheld (found : traffic.processes[place]?.bind passageOf = some passage)
    (tripped : passage.Tripped traffic.shared)
    (free : (traffic.shared.nodes passage.node).halfOpenProbeInFlight = false) : ¬passage.Holds traffic.shared := by
  intro holds
  rw [(guarded.settled place passage found).taken tripped holds] at free
  cases free

theorem guarded_acted (present : traffic.processes[place]? = some party)
    (orderly : Orderly traffic party signal) {result : Fleet × Party target}
    (acted : act traffic.shared party signal = result)
    (respectful : ∀ index, Respectful traffic place index (result.1.nodes index))
    (own : ∀ passage, passageOf result.2 = some passage → Entitled traffic place result.1 passage) :
    Guarded (traffic.acted place result) := by
  have follows : Follows traffic.shared result.1 := acted ▸ act_follows traffic.shared party signal
  have alone : ∀ (other : Nat) (passage rival : Passage target), other ≠ place →
      traffic.processes[other]?.bind passageOf = some rival → rival.node = passage.node →
      rival.Tripped result.1 → rival.Holds result.1 → passage.Tripped result.1 → passage.Holds result.1 →
      ¬Entitled traffic place result.1 passage := by
    intro other passage rival elsewhere found same rivalTripped rivalHolds tripped holds entitled
    obtain ⟨trippedBefore, heldBefore⟩ := (guarded.settled other rival found).held_before follows rivalTripped rivalHolds
    rcases entitled.entitled tripped holds with free | ⟨mine, minePresent, mineNode, mineHolds⟩
    · exact guarded.unheld found trippedBefore (same ▸ free) heldBefore
    · exact elsewhere (guarded.single other place rival mine found minePresent (mineNode.trans same.symm) trippedBefore
        heldBefore mineHolds)
  refine ⟨fun index => (respectful index).1, ?_, ?_⟩
  · intro other passage found
    rcases bind_acted_cases present found with ⟨-, mine⟩ | ⟨elsewhere, before⟩
    · exact (own passage mine).settled
    · refine (guarded.settled other passage before).carried follows ?_ ?_
      · intro tripped holds taken
        rcases (respectful passage.node).2 with closed | kept | ⟨mine, minePresent, mineNode, mineHolds⟩
        · exact absurd closed tripped
        · exact kept taken
        · have trippedBefore : passage.Tripped traffic.shared := by
            intro closed
            have live := (guarded.consistent passage.node).2.mp taken
            rw [closed] at live
            cases live
          exact absurd (guarded.single other place passage mine before minePresent mineNode trippedBefore holds mineHolds)
            elsewhere
      · intro exposed index inside tripped closed
        obtain ⟨process, there, shown⟩ := Option.bind_eq_some_iff.mp before
        have member : passage ∈ traffic.processes.filterMap passageOf :=
          List.mem_filterMap.mpr ⟨process, List.mem_of_getElem? there, shown⟩
        exact orderly.recoveries index inside tripped (acted ▸ closed) passage member exposed
  · intro first second passage rival foundFirst foundSecond same tripped holds rivalHolds
    have rivalTripped : rival.Tripped result.1 := by
      unfold Passage.Tripped
      rw [same]
      exact tripped
    rcases bind_acted_cases present foundFirst with ⟨here, mine⟩ | ⟨elsewhere, before⟩
    · rcases bind_acted_cases present foundSecond with ⟨there, -⟩ | ⟨apart, rivalBefore⟩
      · rw [here, there]
      · exact alone second passage rival apart rivalBefore same rivalTripped rivalHolds tripped holds (own passage mine)
          |>.elim
    · rcases bind_acted_cases present foundSecond with ⟨-, mine⟩ | ⟨-, rivalBefore⟩
      · exact alone first rival passage elsewhere before same.symm tripped holds rivalTripped rivalHolds (own rival mine)
          |>.elim
      · obtain ⟨trippedBefore, heldBefore⟩ := (guarded.settled first passage before).held_before follows tripped holds
        have rivalHeld := ((guarded.settled second rival rivalBefore).held_before follows rivalTripped rivalHolds).2
        exact guarded.single first second passage rival before rivalBefore same trippedBefore heldBefore rivalHeld

theorem Guarded.respectful (place index : Nat) : Respectful traffic place index (traffic.shared.nodes index) :=
  ⟨guarded.consistent index, .inr (.inl fun taken => taken)⟩

theorem Guarded.respectful_update {index : Nat}
    (changed : Respectful traffic place index node) (other : Nat) :
    Respectful traffic place other (Function.update traffic.shared.nodes index node other) :=
  (Function.forall_update_iff _ (Respectful traffic place)).mpr ⟨changed, fun other _ => guarded.respectful place other⟩
    other

theorem Guarded.entitled (found : traffic.processes[place]?.bind passageOf = some passage) :
    Entitled traffic place traffic.shared passage :=
  ⟨guarded.settled place passage found, fun _ holds => .inr ⟨passage, found, rfl, holds⟩⟩

theorem guarded_passed (present : traffic.processes[place]? = some party)
    (orderly : Orderly traffic party signal) {fleet : Fleet} {after : Party target}
    (acted : act traffic.shared party signal = (fleet, after)) (nodes : fleet.nodes = traffic.shared.nodes)
    (own : ∀ passage, passageOf after = some passage → Entitled traffic place fleet passage) :
    Guarded (traffic.acted place (act traffic.shared party signal)) := by
  rw [acted]
  refine guarded_acted guarded present orderly acted ?_ own
  intro index
  change Respectful traffic place index (fleet.nodes index)
  rw [nodes]
  exact guarded.respectful place index

theorem guarded_idle (present : traffic.processes[place]? = some party)
    (orderly : Orderly traffic party signal) (acted : act traffic.shared party signal = (traffic.shared, party)) :
    Guarded (traffic.acted place (act traffic.shared party signal)) := by
  refine guarded_passed guarded present orderly acted rfl ?_
  intro passage shown
  exact guarded.entitled (by rw [present, Option.bind_some, shown])

theorem guarded_monitor (present : traffic.processes[place]? = some .monitor)
    (orderly : Orderly traffic .monitor signal) :
    Guarded (traffic.acted place (act traffic.shared .monitor signal)) := by
  cases signal with
  | checkDead index now =>
    have free := orderly.checks index rfl
    have changed : Respectful traffic place index ((traffic.shared.nodes index).markDead now) := by
      refine ⟨consistent_markDead _ now, .inr (.inl ?_)⟩
      intro taken
      rw [free] at taken
      cases taken
    exact guarded_acted guarded present orderly rfl (guarded.respectful_update changed) (entitled_gone rfl)
  | checkAlive index =>
    exact guarded_acted guarded present orderly rfl
      (guarded.respectful_update ⟨consistent_markAlive _, .inl rfl⟩) (entitled_gone rfl)
  | measure index activeConnections currentScore =>
    exact guarded_acted guarded present orderly rfl
      (guarded.respectful_update ⟨guarded.consistent index, .inr (.inl fun taken => taken)⟩) (entitled_gone rfl)
  | _ => exact guarded_idle guarded present orderly rfl

theorem guarded_spawned {added : Party target} (idle : passageOf added = none) : Guarded (traffic.spawned added) := by
  refine ⟨guarded.consistent, ?_, ?_⟩
  · intro place passage found
    rw [bind_spawned passageOf idle] at found
    exact guarded.settled place passage found
  · intro first second passage rival foundFirst foundSecond
    rw [bind_spawned passageOf idle] at foundFirst foundSecond
    exact guarded.single first second passage rival foundFirst foundSecond

theorem Guarded.held {node : Nat}
    (tripped : (traffic.shared.nodes node).circuitState ≠ .closed) (herded : Herded traffic node place) :
    Holding traffic place node := by
  obtain ⟨passage, found, sent, rfl, recent, alternative⟩ := herded
  obtain ⟨party, -, shown⟩ := Option.bind_eq_some_iff.mp found
  have settled := guarded.settled place passage found
  refine ⟨passage, found, rfl, ?_⟩
  rcases settled.foreseen tripped recent alternative with foreseen | holds
  · exact settled.winning (probe_of_sent shown sent) tripped recent foreseen
  · exact holds

theorem herdFree_of_guarded : HerdFree traffic := by
  intro node tripped first second herded rivalHerded
  obtain ⟨passage, found, here, holds⟩ := guarded.held tripped herded
  obtain ⟨rival, rivalFound, there, rivalHolds⟩ := guarded.held tripped rivalHerded
  subst here
  exact guarded.single first second passage rival found rivalFound there tripped holds rivalHolds

theorem sighted_selected (several : 1 < target.upstreams.length) {around : Circumstances} {selection : Selection target}
    {rrCounter : Nat}
    (chosen : request.choose target traffic.shared.nodes traffic.shared.rrCounter around = (some selection, rrCounter)) :
    Sighted (⟨selection, around.clock selection.node, traffic.shared.nodes selection.node,
      traffic.shared.left selection.node, hasAlternative target traffic.shared.nodes request.failedUris selection.node⟩ :
      Visit target) := by
  intro alternative
  obtain ⟨other, inside, beside⟩ := List.any_eq_true.mp alternative
  simp only [Bool.and_eq_true, decide_eq_true_eq, Bool.not_eq_true'] at beside
  obtain ⟨⟨-, closed⟩, fresh⟩ := beside
  have alive : (traffic.shared.nodes other).isAlive = true := (guarded.consistent other).1.mpr closed
  have available : (traffic.shared.nodes other).isAvailable target.cooldownSeconds (around.clock other) = true := by
    simp [UpstreamNode.isAvailable, alive]
  have selected := Request.choose_selected (congrArg Prod.fst chosen)
  exact ⟨(selected_available several selected (List.mem_range.mp inside) available fresh).1, guarded.consistent _⟩

theorem respectful_success (place index : Nat) :
    Respectful traffic place index (traffic.shared.nodes index).recordSuccess := by
  refine ⟨consistent_recordSuccess (guarded.consistent index), ?_⟩
  unfold UpstreamNode.recordSuccess
  split_ifs with changed
  · exact .inl rfl
  · exact .inr (.inl fun taken => taken)

theorem respectful_drop {failedUris : List Uri} {sent : Bool}
    (found : traffic.processes[place]?.bind passageOf = some ⟨failedUris, visit, some probe, sent⟩)
    (drops : probe.outstanding = true → (traffic.shared.nodes visit.selection.node).isAlive = false ∧
      ((traffic.shared.nodes visit.selection.node).halfOpenProbeInFlight = true →
      (⟨failedUris, visit, some probe, sent⟩ : Passage target).Holds traffic.shared)) (index : Nat) :
    Respectful traffic place index (visit.selection.dropGuard traffic.shared.nodes probe.guard index) := by
  obtain ⟨guard, left⟩ := probe
  by_cases outstanding : Probe.outstanding ⟨guard, left⟩ = true
  · cases guard with
    | none => cases outstanding
    | some guard =>
      obtain ⟨dead, held⟩ := drops outstanding
      refine guarded.respectful_update (respectful_failure found ?_ fun taken => ⟨rfl, held taken⟩) index
      exact (consistent_drop (guarded.consistent _) guard).mpr fun _ => dead
  · have unchanged : visit.selection.dropGuard traffic.shared.nodes guard = traffic.shared.nodes := by
      cases guard with
      | none => exact visit.selection.atNode_id traffic.shared.nodes
      | some guard =>
        have same : ∀ node, guard.drop node = node := fun node => if_neg outstanding
        simp only [Selection.dropGuard, Option.map_some, Option.getD_some, same]
        exact visit.selection.atNode_id traffic.shared.nodes
    rw [unchanged]
    exact guarded.respectful place index

variable (present : traffic.processes[place]? = some (.request request))

include present

theorem respectful_conclude {report : Report}
    (engaged : request.stage = .engaged visit probe true)
    (orderly : Orderly traffic (.request request) (.record report now)) (index : Nat) :
    Respectful traffic place index (conclude visit.selection traffic.shared.nodes probe.guard now report index) := by
  have shown : passageOf (.request request) = some ⟨request.failedUris, visit, some probe, true⟩ := by
    simp only [passageOf, engaged]
  have found : traffic.processes[place]?.bind passageOf = some ⟨request.failedUris, visit, some probe, true⟩ := by
    rw [present, Option.bind_some, shown]
  have reports : report.isFailure = true → _ := fun failure =>
    orderly.reports ⟨request.failedUris, visit, some probe, true⟩ (by simp [failing, failure, shown])
  cases report with
  | success => exact guarded.respectful_update (respectful_success guarded place _) index
  | outlier =>
    change Respectful traffic place index (visit.selection.atUri traffic.shared.nodes _ index)
    rw [visit.selection.atUri_eq_update]
    exact guarded.respectful_update
      (respectful_failure found (consistent_recordFailure (guarded.consistent _) _ now) (reports rfl)) index
  | dead =>
    change Respectful traffic place index (visit.selection.atUri traffic.shared.nodes _ index)
    rw [visit.selection.atUri_eq_update]
    exact guarded.respectful_update (respectful_failure found (consistent_markDead _ now) (reports rfl)) index
  | silent =>
    refine respectful_drop guarded found ?_ index
    intro outstanding
    exact orderly.drops ⟨request.failedUris, visit, some probe, true⟩ (by simp [dropping, shown]) outstanding

theorem guarded_claimed (several : 1 < target.upstreams.length)
    (selected : request.stage = .selected visit)
    (orderly : Orderly traffic (.request request) (.claim now)) :
    Guarded (traffic.acted place (act traffic.shared (.request request) (.claim now))) := by
  let before : Passage target := ⟨request.failedUris, visit, none, false⟩
  let node := traffic.shared.nodes visit.selection.node
  let entered := node.tryEnterHalfOpenProbe target.cooldownSeconds now
  let claimed := traffic.shared.adopt (Function.update traffic.shared.nodes visit.selection.node entered.2)
  let passage : Passage target :=
    ⟨request.failedUris, visit, some ⟨some ⟨entered.1, false⟩, claimed.left visit.selection.node⟩, false⟩
  have shown : passageOf (.request request) = some before := by simp only [passageOf, selected, before]
  have found : traffic.processes[place]?.bind passageOf = some before := by rw [present, Option.bind_some, shown]
  have settled := guarded.settled place before found
  have several' : isMultiNode target = true := decide_eq_true several
  have acted : act traffic.shared (.request request) (.claim now) =
      (claimed, .request { request with
        stage := .engaged visit ⟨some ⟨entered.1, false⟩, claimed.left visit.selection.node⟩ false }) := by
    simp only [act, actRequest, selected, Selection.claim, several', if_true]
    rfl
  have follows : Follows traffic.shared claimed := fun _ => rfl
  obtain ⟨keeps, wins⟩ := claim_slot node target.cooldownSeconds now
  have slot : (claimed.nodes visit.selection.node).halfOpenProbeInFlight = entered.2.halfOpenProbeInFlight :=
    congrArg UpstreamNode.halfOpenProbeInFlight (Function.update_self _ _ _)
  have won : passage.Holds claimed → entered.1 = true := by
    rintro ⟨probe, mine, outstanding, -⟩
    cases mine
    simpa [Probe.outstanding, ProbeGuard.isOutstanding] using outstanding
  have empty : ∀ fleet, ¬before.Holds fleet := by
    rintro fleet ⟨probe, mine, -⟩
    cases mine
  rw [acted]
  refine guarded_acted guarded present orderly acted ?_ ?_
  · exact guarded.respectful_update ⟨consistent_newGuard (guarded.consistent _) _ now, .inr (.inl keeps)⟩
  · intro other same
    cases same
    refine ⟨⟨settled.visited.trans (follows.le _), ?_, ?_, ?_, ?_, ?_⟩, ?_⟩
    · intro probe mine
      cases mine
      exact le_rfl
    · intro unclaimed
      cases unclaimed
    · intro _ holds
      exact slot.trans (wins (won holds)).2
    · intro _ tripped recent alternative
      obtain ⟨-, trippedBefore, recentBefore⟩ := settled.recent_before follows tripped recent
      have claims := orderly.claims (before, now) (by simp [claiming, shown, before]) trippedBefore recentBefore alternative
      have success := undisturbed_wins (settled.sighted rfl) (guarded.consistent _) trippedBefore recentBefore alternative
        claims
      refine ⟨_, rfl, ?_, rfl⟩
      simpa [Probe.outstanding, ProbeGuard.isOutstanding] using success
    · intro tripped recent alternative
      have carried : Settled claimed before := by
        refine settled.carried follows (fun _ holds => absurd holds (empty _)) ?_
        intro exposed index inside trippedBefore closed
        have member : before ∈ traffic.processes.filterMap passageOf :=
          List.mem_filterMap.mpr ⟨_, List.mem_of_getElem? present, shown⟩
        exact orderly.recoveries index inside trippedBefore (by rw [acted]; exact closed) before member exposed
      exact .inl ((carried.foreseen tripped recent alternative).resolve_right (empty _))
    · intro _ holds
      exact .inl (wins (won holds)).1

theorem guarded_selected (several : 1 < target.upstreams.length) {around : Circumstances}
    (choosing : request.stage = .choosing)
    (orderly : Orderly traffic (.request request) (.select around)) :
    Guarded (traffic.acted place (act traffic.shared (.request request) (.select around))) := by
  cases chosen : request.choose target traffic.shared.nodes traffic.shared.rrCounter around with
  | mk choice rrCounter =>
    cases choice with
    | none =>
      have acted : act traffic.shared (.request request) (.select around) =
          ({ traffic.shared with rrCounter }, finish request) := by
        simp only [act, actRequest, choosing, chosen]
      exact guarded_passed guarded present orderly acted rfl (entitled_gone rfl)
    | some selection =>
      let visit : Visit target := ⟨selection, around.clock selection.node, traffic.shared.nodes selection.node,
        traffic.shared.left selection.node,
        hasAlternative target traffic.shared.nodes request.failedUris selection.node⟩
      have acted : act traffic.shared (.request request) (.select around) =
          ({ traffic.shared with rrCounter },
            .request { request with attempts := request.attempts + 1, stage := .selected visit }) := by
        simp only [act, actRequest, choosing, chosen, visit]
      refine guarded_passed guarded present orderly acted rfl ?_
      intro passage shown
      cases shown
      have empty : ∀ fleet, ¬(⟨request.failedUris, visit, none, false⟩ : Passage target).Holds fleet := by
        rintro fleet ⟨probe, mine, -⟩
        cases mine
      refine ⟨⟨le_rfl, nofun, fun _ => sighted_selected guarded several chosen, ?_, nofun, ?_⟩, ?_⟩
      · exact fun _ holds => absurd holds (empty _)
      · exact fun _ _ alternative => .inl alternative
      · exact fun _ holds => absurd holds (empty _)

theorem guarded_sent (engaged : request.stage = .engaged visit probe false)
    (orderly : Orderly traffic (.request request) .send) :
    Guarded (traffic.acted place (act traffic.shared (.request request) .send)) := by
  have acted : act traffic.shared (.request request) .send =
      (traffic.shared, .request { request with stage := .engaged visit probe true }) := by
    simp only [act, actRequest, engaged]
  have found : traffic.processes[place]?.bind passageOf = some ⟨request.failedUris, visit, some probe, false⟩ := by
    rw [present, Option.bind_some]
    simp only [passageOf, engaged]
  refine guarded_passed guarded present orderly acted rfl ?_
  intro passage shown
  cases shown
  obtain ⟨settled, _⟩ := guarded.entitled found
  exact ⟨⟨settled.visited, settled.probed, settled.sighted, settled.taken, settled.winning, settled.foreseen⟩,
    fun _ holds => .inr ⟨_, found, rfl, holds⟩⟩

theorem guarded_recorded {report : Report}
    (engaged : request.stage = .engaged visit probe true)
    (orderly : Orderly traffic (.request request) (.record report now)) :
    Guarded (traffic.acted place (act traffic.shared (.request request) (.record report now))) := by
  have acted : act traffic.shared (.request request) (.record report now) =
      (traffic.shared.adopt (conclude visit.selection traffic.shared.nodes probe.guard now report),
        .request { request with
          failedUris := request.failedAfter visit.selection report
          stage := if request.again target report then .choosing else .done }) := by
    simp only [act, actRequest, engaged]
  rw [acted]
  refine guarded_acted guarded present orderly acted (respectful_conclude guarded present engaged orderly) ?_
  intro passage shown
  dsimp only at shown
  split_ifs at shown
  · cases shown
  · cases shown

theorem guarded_aborted {sent : Bool} (engaged : request.stage = .engaged visit probe sent)
    (orderly : Orderly traffic (.request request) .abort) :
    Guarded (traffic.acted place (act traffic.shared (.request request) .abort)) := by
  have acted : act traffic.shared (.request request) .abort =
      (traffic.shared.adopt (visit.selection.dropGuard traffic.shared.nodes probe.guard), finish request) := by
    cases sent with
    | true => simp only [act, actRequest, engaged]
    | false => simp only [act, actRequest, engaged]
  have shown : passageOf (.request request) = some ⟨request.failedUris, visit, some probe, sent⟩ := by
    simp only [passageOf, engaged]
  rw [acted]
  refine guarded_acted guarded present orderly acted ?_ (entitled_gone rfl)
  refine respectful_drop guarded (by rw [present, Option.bind_some, shown]) ?_
  exact orderly.drops ⟨request.failedUris, visit, some probe, sent⟩ (by rw [dropping, shown]; rfl)

theorem guarded_request (several : 1 < target.upstreams.length)
    (orderly : Orderly traffic (.request request) signal) :
    Guarded (traffic.acted place (act traffic.shared (.request request) signal)) := by
  obtain ⟨retryable, clientHash, failedUris, attempts, stage⟩ := request
  cases stage with
  | choosing =>
    cases signal with
    | select around => exact guarded_selected guarded present several rfl orderly
    | abort => exact guarded_passed guarded present orderly rfl rfl (entitled_gone rfl)
    | _ => exact guarded_idle guarded present orderly rfl
  | selected visit =>
    cases signal with
    | claim now => exact guarded_claimed guarded present several rfl orderly
    | abort => exact guarded_passed guarded present orderly rfl rfl (entitled_gone rfl)
    | _ => exact guarded_idle guarded present orderly rfl
  | engaged visit probe sent =>
    cases signal with
    | send =>
      cases sent with
      | false => exact guarded_sent guarded present rfl orderly
      | true => exact guarded_idle guarded present orderly rfl
    | record report now =>
      cases sent with
      | false => exact guarded_idle guarded present orderly rfl
      | true => exact guarded_recorded guarded present rfl orderly
    | abort => exact guarded_aborted guarded present rfl orderly
    | _ =>
      cases sent with
      | false => exact guarded_idle guarded present orderly rfl
      | true => exact guarded_idle guarded present orderly rfl
  | done =>
    cases signal with
    | _ => exact guarded_idle guarded present orderly rfl

end

theorem guarded_initial : Guarded (initial : Traffic target) := by
  refine ⟨fun _ => (by decide : Consistent .new), ?_, ?_⟩
  · intro place passage impossible
    cases impossible
  · intro first second passage rival impossible
    cases impossible

theorem guarded_reachable (several : 1 < target.upstreams.length)
    (reachable : Reachable (step (requests target)) OrderlyStep initial traffic) : Guarded traffic := by
  refine reachable_induction OrderlyStep initial Guarded guarded_initial ?_ ?_ reachable
  · intro system arrival _ guarded
    cases arrival with
    | request retryable clientHash => exact guarded_spawned guarded rfl
    | monitor => exact guarded_spawned guarded rfl
  · intro system place party signal present orderly guarded
    cases party with
    | request request => exact guarded_request guarded present several (orderly _ present)
    | monitor => exact guarded_monitor guarded present (orderly _ present)

end

/-- In every orderly schedule of requests and health checks there is no herd on a node that is not closed. -/
theorem no_thundering_herd (target : RouteTarget) (several : 1 < target.upstreams.length)
    (labels : List (Label Arrival Signal)) (orderly : Always (step (requests target)) OrderlyStep initial labels) :
    HerdFree (run (step (requests target)) initial labels) :=
  herdFree_of_guarded (guarded_reachable several (orderly.reachable _))

def pair : RouteTarget where
  upstreams := [⟨none, some ['a'], ['/'], none⟩, ⟨none, some ['b'], ['/'], none⟩]
  strategy := .random
  cooldownSeconds := 10
  maxRetries := 1
  failureThreshold := 3
  maxRetryBufferBytes := 0
  activeHealthCheckInterval := 0

/-- Both nodes are dead and each gets a probe; the second one succeeds, and the third request goes to its node. -/
theorem no_thundering_herd_pair :
    let labels : List (Label Arrival Signal) := [.spawn .monitor, .act 0 (.checkDead 0 100), .act 0 (.checkDead 1 100),
      .spawn (.request true none), .spawn (.request true none), .spawn (.request true none),
      .act 1 (.select ⟨fun _ => 200, 0⟩), .act 1 (.claim 200), .act 1 .send, .act 2 (.select ⟨fun _ => 201, 0⟩),
      .act 2 (.claim 201), .act 2 .send, .act 2 (.record .success 202), .act 3 (.select ⟨fun _ => 203, 0⟩),
      .act 3 (.claim 203), .act 3 .send]
    let traffic := run (step (requests pair)) initial labels
    Always (step (requests pair)) OrderlyStep initial labels ∧ Herded traffic 0 1 ∧ HerdFree traffic := by
  intro labels traffic
  have orderly : Always (step (requests pair)) OrderlyStep initial labels := by decide +kernel
  exact ⟨orderly, by decide +kernel, no_thundering_herd pair (by decide) labels orderly⟩

/-- A health check finds the first node dead. Two requests select it after the cooldown; one loses the claim, and both
are sent. -/
theorem lost_claim_is_sent :
    let labels : List (Label Arrival Signal) := [.spawn .monitor, .act 0 (.checkDead 0 100),
      .spawn (.request true none), .spawn (.request true none), .act 1 (.select ⟨fun _ => 200, 0⟩),
      .act 2 (.select ⟨fun _ => 200, 0⟩), .act 1 (.claim 200), .act 2 (.claim 200), .act 1 .send, .act 2 .send]
    let traffic := run (step (requests pair)) initial labels
    (traffic.shared.nodes 0).circuitState = .halfOpen ∧ (traffic.shared.nodes 1).circuitState = .closed ∧
      Herded traffic 0 1 ∧ Herded traffic 0 2 ∧ ¬HerdFree traffic := by
  intro labels traffic
  have probed : (traffic.shared.nodes 0).circuitState = .halfOpen := by decide +kernel
  have first : Herded traffic 0 1 := by decide +kernel
  have second : Herded traffic 0 2 := by decide +kernel
  refine ⟨probed, by decide +kernel, first, second, ?_⟩
  intro free
  have tripped : (traffic.shared.nodes 0).circuitState ≠ .closed := by
    rw [probed]
    decide
  exact absurd (free 0 tripped 1 2 first second) (by decide)

end Praeco.Router.Herd
