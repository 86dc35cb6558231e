import Praeco.Breaker.Node
import Praeco.Schedule.Processes

/-! The reports on a node as sequences of atomic accesses that other reports may interleave. The last store of
`mark_alive` can wipe the timestamp of a `mark_dead` that came after its swap; unless one does, a dead node keeps a
timestamp and becomes available again. -/

namespace Praeco.Breaker.Atomics
open Praeco.Schedule.Runs Praeco.Schedule.Processes Praeco.Breaker.Node

inductive Report where
  | markDead
  | markAlive
  | recordSuccess
  | recordFailure (failureThreshold : Nat)
  deriving DecidableEq, Repr

inductive Access where
  /-- `mark_dead` -/
  | countFailure
  | swapAlive
  | swapOpen (wasAlive : Bool)
  | clearProbe (tripped : Bool)
  | readClock (tripped : Bool)
  | stampFailure (tripped : Bool) (now : ℕ+)
  | countTrip
  /-- `mark_alive` -/
  | resetFailures
  | releaseProbe
  | swapClosed
  | revive
  | forgetFailure
  /-- `record_success` -/
  | loadAlive
  | loadFailures
  /-- `record_failure` -/
  | addFailure (failureThreshold : Nat)
  | takeProbe (tripping : Bool)
  | loadState (tripping : Bool)
  | countOutlier
  | finished
  deriving DecidableEq, Repr

def firstAccess : Report → Access
  | .markDead => .countFailure
  | .markAlive => .resetFailures
  | .recordSuccess => .loadAlive
  | .recordFailure failureThreshold => .addFailure failureThreshold

/-- One access; the clock is past the epoch, and its reading matters where it is read. -/
def access (node : UpstreamNode) (now : ℕ+) : Access → UpstreamNode × Access
  | .countFailure => ({ node with totalFailures := add64 node.totalFailures 1 }, .swapAlive)
  | .swapAlive => ({ node with isAlive := false }, .swapOpen node.isAlive)
  | .swapOpen wasAlive =>
    ({ node with circuitState := .opened }, .clearProbe (wasAlive || node.circuitState ≠ .opened))
  | .clearProbe tripped => ({ node with halfOpenProbeInFlight := false }, .readClock tripped)
  | .readClock tripped => (node, .stampFailure tripped now)
  | .stampFailure tripped now => ({ node with lastFailureTime := now }, if tripped then .countTrip else .finished)
  | .countTrip => ({ node with circuitTrips := add64 node.circuitTrips 1 }, .finished)
  | .resetFailures => ({ node with consecutiveFailures := 0 }, .releaseProbe)
  | .releaseProbe => ({ node with halfOpenProbeInFlight := false }, .swapClosed)
  | .swapClosed => ({ node with circuitState := .closed }, .revive)
  | .revive => ({ node with isAlive := true }, .forgetFailure)
  | .forgetFailure => ({ node with lastFailureTime := 0 }, .finished)
  | .loadAlive => (node, if node.isAlive then .loadFailures else .resetFailures)
  | .loadFailures => (node, if 0 < node.consecutiveFailures then .resetFailures else .finished)
  | .addFailure failureThreshold =>
    let failures := add64 node.consecutiveFailures 1
    ({ node with consecutiveFailures := failures }, .takeProbe (max failureThreshold 1 ≤ failures))
  | .takeProbe tripping =>
    -- The state is looked at only if the slot was free.
    ({ node with halfOpenProbeInFlight := false },
      if node.halfOpenProbeInFlight then .countFailure else .loadState tripping)
  | .loadState tripping =>
    (node, if tripping || node.circuitState = .halfOpen then .countFailure else .countOutlier)
  | .countOutlier => ({ node with totalFailures := add64 node.totalFailures 1 }, .finished)
  | .finished => (node, .finished)

def reports : Program UpstreamNode Report Access ℕ+ := ⟨firstAccess, fun node next now => access node now next⟩

abbrev Reported := System UpstreamNode Access

def initial : Reported := ⟨.new, []⟩

def whole (node : UpstreamNode) (now : Nat) : Report → UpstreamNode
  | .markDead => node.markDead now
  | .markAlive => node.markAlive
  | .recordSuccess => node.recordSuccess
  | .recordFailure failureThreshold => (node.recordFailure failureThreshold now).2

def alone (now : ℕ+) (node : UpstreamNode) (next : Access) : Nat → UpstreamNode × Access
  | 0 => (node, next)
  | steps + 1 =>
    let (after, following) := access node now next
    alone now after following steps

variable (now : ℕ+) (node : UpstreamNode)

theorem alone_finished (steps : Nat) : alone now node .finished steps = (node, .finished) := by
  induction steps with
  | zero => rfl
  | succ steps ih => exact ih

theorem alone_stampFailure (tripped : Bool) (stamp : ℕ+) (spare : Nat) :
    alone now node (.stampFailure tripped stamp) (spare + 2) =
      ({ node with
          lastFailureTime := stamp
          circuitTrips := if tripped then add64 node.circuitTrips 1 else node.circuitTrips }, .finished) := by
  cases tripped with
  | true => exact alone_finished now _ spare
  | false => exact alone_finished now _ (spare + 1)

theorem alone_markDead (spare : Nat) : alone now node .countFailure (spare + 7) = (node.markDead now, .finished) := by
  refine (alone_stampFailure now _ (node.isAlive || node.circuitState ≠ .opened) now spare).trans ?_
  simp [UpstreamNode.markDead]

theorem alone_markAlive (spare : Nat) : alone now node .resetFailures (spare + 5) = (node.markAlive, .finished) := by
  simp only [alone, access]
  exact alone_finished now _ spare

theorem alone_succ (next : Access) (steps : Nat) :
    alone now node next (steps + 1) = alone now (access node now next).1 (access node now next).2 steps := rfl

theorem alone_recordSuccess : alone now node .loadAlive 10 = (node.recordSuccess, .finished) := by
  unfold UpstreamNode.recordSuccess
  cases alive : node.isAlive with
  | false =>
    have loaded : access node now .loadAlive = (node, .resetFailures) := by simp [access, alive]
    rw [alone_succ, loaded]
    exact alone_markAlive now node 4
  | true =>
    have loaded : access node now .loadAlive = (node, .loadFailures) := by simp [access, alive]
    rw [alone_succ, loaded, alone_succ]
    by_cases failed : 0 < node.consecutiveFailures
    · have counted : access node now .loadFailures = (node, .resetFailures) := by simp [access, failed]
      rw [counted, alone_markAlive now node 3]
      simp [failed]
    · have counted : access node now .loadFailures = (node, .finished) := by simp [access, failed]
      rw [counted, alone_finished]
      simp [failed]

theorem alone_recordFailure (failureThreshold : Nat) :
    alone now node (.addFailure failureThreshold) 10 = ((node.recordFailure failureThreshold now).2, .finished) := by
  let failures := add64 node.consecutiveFailures 1
  let raised : UpstreamNode := { node with consecutiveFailures := failures }
  let taken : UpstreamNode := { raised with halfOpenProbeInFlight := false }
  change alone now raised (.takeProbe (max failureThreshold 1 ≤ failures)) 9 = _
  cases probe : node.halfOpenProbeInFlight with
  | true =>
    have took : access raised now (.takeProbe (max failureThreshold 1 ≤ failures)) = (taken, .countFailure) := by
      simp [access, raised, taken, probe]
    rw [alone_succ, took, alone_markDead now taken 1]
    simp [UpstreamNode.recordFailure, probe, taken, raised, failures]
  | false =>
    have took : access raised now (.takeProbe (max failureThreshold 1 ≤ failures)) =
        (taken, .loadState (max failureThreshold 1 ≤ failures)) := by
      simp [access, raised, taken, probe]
    rw [alone_succ, took, alone_succ]
    by_cases trips : (decide (max failureThreshold 1 ≤ failures) || decide (node.circuitState = .halfOpen)) = true
    · have loaded : access taken now (.loadState (max failureThreshold 1 ≤ failures)) = (taken, .countFailure) := by
        simp only [access, taken, raised, trips, if_true]
      rw [loaded, alone_markDead now taken 0]
      rw [Bool.or_comm] at trips
      simp only [UpstreamNode.recordFailure, probe, Bool.false_or, failures, trips, if_true] at trips ⊢
      rfl
    · have loaded : access taken now (.loadState (max failureThreshold 1 ≤ failures)) = (taken, .countOutlier) := by
        simp only [access, taken, raised, trips]
        rfl
      rw [loaded, alone_succ]
      change alone now _ .finished 6 = _
      rw [alone_finished]
      rw [Bool.or_comm] at trips
      simp only [UpstreamNode.recordFailure, probe, Bool.false_or, failures, trips] at trips ⊢
      rfl

/-- A report that nothing interrupts does what the whole operation does. -/
theorem alone_whole (now : ℕ+) (node : UpstreamNode) (report : Report) :
    alone now node (firstAccess report) 10 = (whole node now report, .finished) := by
  cases report with
  | markDead => exact alone_markDead now node 3
  | markAlive => exact alone_markAlive now node 5
  | recordSuccess => exact alone_recordSuccess now node
  | recordFailure failureThreshold => exact alone_recordFailure now node failureThreshold

/-- A `mark_dead` that has swapped `is_alive` and not yet stored its timestamp. -/
def isStamping : Access → Bool
  | .swapOpen _ => true
  | .clearProbe _ => true
  | .readClock _ => true
  | .stampFailure _ _ => true
  | _ => false

def StampPending (reported : Reported) : Prop := ∃ next ∈ reported.processes, isStamping next = true

instance (reported : Reported) : Decidable (StampPending reported) :=
  inferInstanceAs (Decidable (∃ next ∈ reported.processes, isStamping next = true))

theorem access_stamp (node : UpstreamNode) (now : ℕ+) (next : Access) :
    next = .forgetFailure ∨ (access node now next).1.isAlive = true ∨
      (access node now next).1.lastFailureTime ≠ 0 ∨ isStamping (access node now next).2 = true ∨
      (access node now next).1.isAlive = node.isAlive ∧
        (access node now next).1.lastFailureTime = node.lastFailureTime ∧ isStamping next = false := by
  cases next with
  | forgetFailure => exact .inl rfl
  | revive => exact .inr (.inl rfl)
  | stampFailure tripped stamp => exact .inr (.inr (.inl stamp.ne_zero))
  | swapAlive => exact .inr (.inr (.inr (.inl rfl)))
  | swapOpen wasAlive => exact .inr (.inr (.inr (.inl rfl)))
  | clearProbe tripped => exact .inr (.inr (.inr (.inl rfl)))
  | readClock tripped => exact .inr (.inr (.inr (.inl rfl)))
  | _ => exact .inr (.inr (.inr (.inr ⟨rfl, rfl, rfl⟩)))

section

variable {reported : Reported} {index : Nat} {next : Access}

theorem stampPending_self (present : reported.processes[index]? = some next) {result : UpstreamNode × Access}
    (stamping : isStamping result.2 = true) : StampPending (reported.acted index result) := by
  have here : (reported.acted index result).processes[index]? = some result.2 := by
    rw [lookup_acted present, if_pos rfl]
  exact ⟨result.2, List.mem_of_getElem? here, stamping⟩

theorem stampPending_other (present : reported.processes[index]? = some next) (idle : isStamping next = false)
    (pending : StampPending reported) (result : UpstreamNode × Access) :
    StampPending (reported.acted index result) := by
  obtain ⟨other, member, stamping⟩ := pending
  obtain ⟨place, found⟩ := List.getElem?_of_mem member
  have elsewhere : place ≠ index := by
    intro same
    rw [same, present] at found
    cases found
    rw [idle] at stamping
    cases stamping
  have kept : (reported.acted index result).processes[place]? = some other := by
    rw [lookup_acted present, if_neg elsewhere, found]
  exact ⟨other, List.mem_of_getElem? kept, stamping⟩

end

/-- No `mark_dead` swaps `is_alive` between the swap of a `mark_alive` and its last store. -/
def SwapsApart (reported : Reported) : Label Report ℕ+ → Prop
  | .spawn _ => True
  | .act index _ => reported.processes[index]? = some .swapAlive → .forgetFailure ∉ reported.processes

instance (reported : Reported) (label : Label Report ℕ+) : Decidable (SwapsApart reported label) :=
  match label with
  | .spawn _ => .isTrue trivial
  | .act index _ => inferInstanceAs (Decidable (reported.processes[index]? = some .swapAlive → _))

/-- The last store of a `mark_alive` finds the node alive, and a dead node has a timestamp or gets one. -/
structure Stamped (reported : Reported) : Prop where
  revived : .forgetFailure ∈ reported.processes → reported.shared.isAlive = true
  dated : reported.shared.isAlive = false → reported.shared.lastFailureTime ≠ 0 ∨ StampPending reported

theorem access_alive (node : UpstreamNode) (now : ℕ+) (next : Access) :
    (next = .swapAlive ∨ (node.isAlive = true → (access node now next).1.isAlive = true)) ∧
      ((access node now next).2 = .forgetFailure → (access node now next).1.isAlive = true) := by
  cases next with
  | swapAlive => exact ⟨.inl rfl, nofun⟩
  | revive => exact ⟨.inr fun _ => rfl, fun _ => rfl⟩
  | stampFailure tripped => exact ⟨.inr id, by cases tripped <;> nofun⟩
  | loadAlive | loadFailures | takeProbe | loadState =>
    refine ⟨.inr id, fun follows => ?_⟩
    simp only [access] at follows
    split at follows
    all_goals cases follows
  | _ => exact ⟨.inr id, nofun⟩

section

variable {reported : Reported} {index : Nat} {next : Access} {now : ℕ+}

theorem Stamped.revived_acted (stamped : Stamped reported) (present : reported.processes[index]? = some next)
    (apart : SwapsApart reported (.act index now))
    (forgetting : .forgetFailure ∈ (reported.acted index (access reported.shared now next)).processes) :
    (access reported.shared now next).1.isAlive = true := by
  obtain ⟨keeps, begins⟩ := access_alive reported.shared now next
  rcases List.mem_or_eq_of_mem_set forgetting with earlier | same
  · rcases keeps with rfl | keeps
    · exact absurd earlier (apart present)
    · exact keeps (stamped.revived earlier)
  · exact begins same.symm

theorem Stamped.dated_acted (stamped : Stamped reported) (present : reported.processes[index]? = some next)
    (dead : (access reported.shared now next).1.isAlive = false) :
    (access reported.shared now next).1.lastFailureTime ≠ 0 ∨
      StampPending (reported.acted index (access reported.shared now next)) := by
  rcases access_stamp reported.shared now next with forget | alive | stamp | stamping | ⟨same, time, idle⟩
  · subst forget
    cases dead.symm.trans (stamped.revived (List.mem_of_getElem? present))
  · cases dead.symm.trans alive
  · exact .inl stamp
  · exact .inr (stampPending_self present stamping)
  · rw [same] at dead
    rcases stamped.dated dead with stamp | pending
    · exact .inl (time ▸ stamp)
    · exact .inr (stampPending_other present idle pending _)

end

theorem stamped_reachable {reported : Reported} (reachable : Reachable (step reports) SwapsApart initial reported) :
    Stamped reported := by
  refine reachable_induction SwapsApart initial Stamped ⟨nofun, nofun⟩ ?_ ?_ reachable
  · intro system report _ stamped
    constructor
    · intro forgetting
      rcases List.mem_append.mp forgetting with earlier | added
      · exact stamped.revived earlier
      · cases report <;> cases List.mem_singleton.mp added
    · intro dead
      rcases stamped.dated dead with stamp | ⟨next, member, stamping⟩
      · exact .inl stamp
      · exact .inr ⟨next, List.mem_append_left _ member, stamping⟩
  · intro system index next now present apart stamped
    exact ⟨stamped.revived_acted present apart, stamped.dated_acted present⟩

def Quiescent (reported : Reported) : Prop := ∀ next ∈ reported.processes, next = .finished

instance (reported : Reported) : Decidable (Quiescent reported) :=
  inferInstanceAs (Decidable (∀ next ∈ reported.processes, next = .finished))

/-- Between reports a dead node has a timestamp, and it is available once the cooldown has passed and no probe is
in flight. -/
theorem no_permanent_quarantine (labels : List (Label Report ℕ+))
    (apart : Always (step reports) SwapsApart initial labels)
    (quiescent : Quiescent (run (step reports) initial labels))
    (dead : (run (step reports) initial labels).shared.isAlive = false) :
    (run (step reports) initial labels).shared.lastFailureTime ≠ 0 ∧
    ∀ cooldownSeconds now, (run (step reports) initial labels).shared.halfOpenProbeInFlight = false →
      (run (step reports) initial labels).shared.lastFailureTime + cooldownSeconds < now →
      (run (step reports) initial labels).shared.isAvailable cooldownSeconds now = true := by
  have failed : (run (step reports) initial labels).shared.lastFailureTime ≠ 0 := by
    rcases (stamped_reachable (apart.reachable _)).dated dead with stamp | ⟨next, member, stamping⟩
    · exact stamp
    · rw [quiescent next member] at stamping
      cases stamping
  refine ⟨failed, ?_⟩
  intro cooldownSeconds now free elapsed
  exact isAvailable_of_elapsed failed free elapsed

def accesses (index : Nat) (now : ℕ+) (count : Nat) : List (Label Report ℕ+) := List.replicate count (.act index now)

/-- A `mark_dead` begins while a `mark_alive` runs, and swaps after its last store. -/
theorem no_permanent_quarantine_cooled :
    let labels := [.spawn .markAlive, .spawn .markDead] ++ accesses 0 100 3 ++ accesses 1 100 1 ++ accesses 0 100 2 ++
      accesses 1 100 6
    (run (step reports) initial labels).shared.isAlive = false ∧
      (run (step reports) initial labels).shared.isAvailable 10 111 = true := by
  intro labels
  have dead : (run (step reports) initial labels).shared.isAlive = false := by decide
  have available := no_permanent_quarantine labels (by decide) (by decide) dead
  exact ⟨dead, available.2 10 111 (by decide) (by decide)⟩

/-- A `mark_dead` runs as a whole before the last store of a `mark_alive`. -/
theorem late_store_quarantines :
    let reported := run (step reports) initial
      ([.spawn .markAlive, .spawn .markDead] ++ accesses 0 100 4 ++ accesses 1 100 7 ++ accesses 0 100 1)
    Quiescent reported ∧ reported.shared.isAlive = false ∧ reported.shared.lastFailureTime = 0 ∧
      reported.shared.halfOpenProbeInFlight = false ∧
      ∀ cooldownSeconds now, reported.shared.isAvailable cooldownSeconds now = false := by
  intro reported
  have dead : reported.shared.isAlive = false := by decide
  have forgotten : reported.shared.lastFailureTime = 0 := by decide
  refine ⟨by decide, dead, forgotten, by decide, ?_⟩
  intro cooldownSeconds now
  simp [UpstreamNode.isAvailable, dead, forgotten]

end Praeco.Breaker.Atomics
