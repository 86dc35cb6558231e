import Praeco.Breaker.Node
import Praeco.Router.Config

/-! The upstreams of a target as the router works with them: what the nodes stand at, which one a request is sent
to, and the reports that find their node by its address. Nodes go by their index in the target. -/

namespace Praeco.Router.Balancing
open Praeco.Http.Target Praeco.Router.Config Praeco.Breaker.Node

abbrev Nodes := Nat → UpstreamNode

structure Circumstances where
  clock : Nat → Nat
  draw : Nat

variable (target : RouteTarget)

def hasFailed (failedUris : List Uri) (index : Nat) : Bool := target.upstreams[index]?.any (· ∈ failedUris)

/-- The nodes a selection is made from: those that are available and have not failed this request, or else those
that have not failed it, or else all. -/
def candidates (nodes : Nodes) (clock : Nat → Nat) (failedUris : List Uri) : List Nat :=
  let indices := List.range target.upstreams.length
  let available := indices.filter fun index =>
    (nodes index).isAvailable target.cooldownSeconds (clock index) && !hasFailed target failedUris index
  let fresh := indices.filter fun index => !hasFailed target failedUris index
  if available ≠ [] then available else if fresh ≠ [] then fresh else indices

/-- The choice of the strategy, and the round-robin counter after it. Of nodes with equal keys the minimum is the
first and the maximum the last. -/
def pick (nodes : Nodes) (clientHash : Option Nat) (rrCounter draw : Nat) (slice : List Nat) : Option Nat × Nat :=
  match target.strategy with
  | .roundRobin => (slice[rrCounter % slice.length]?, add64 rrCounter 1)
  | .random => (slice[draw % slice.length]?, rrCounter)
  | .leastConnections => (slice.argmin fun index => (nodes index).activeConnections, rrCounter)
  | .sticky => (slice[clientHash.getD draw % slice.length]?, rrCounter)
  | .highestScore => (slice.reverse.argmax fun index => (nodes index).currentScore, rrCounter)

/-- The index of the selected node, and the round-robin counter after it; a target without upstreams panics. -/
def nextUpstream (nodes : Nodes) (clientHash : Option Nat) (rrCounter : Nat) (around : Circumstances)
    (failedUris : List Uri) : Option Nat × Nat :=
  if target.upstreams.length = 1 then (some 0, rrCounter)
  else
    match candidates target nodes around.clock failedUris with
    | [only] => (some only, rrCounter)
    | slice => pick target nodes clientHash rrCounter around.draw slice

def nodeOf (uri : Uri) : Option Nat := target.upstreams.findIdx? (· = uri)

def updateNode (nodes : Nodes) (uri : Uri) (change : UpstreamNode → UpstreamNode) : Nodes :=
  match nodeOf target uri with
  | some index => Function.update nodes index (change (nodes index))
  | none => nodes

def targetMarkDead (nodes : Nodes) (uri : Uri) (now : Nat) : Nodes :=
  updateNode target nodes uri fun node => node.markDead now

def targetRecordFailure (nodes : Nodes) (uri : Uri) (now : Nat) : Nodes :=
  updateNode target nodes uri fun node => (node.recordFailure target.failureThreshold now).2

def isMultiNode : Bool := 1 < target.upstreams.length

/-- How often a request may be tried again: a single upstream leaves no other node to turn to. -/
def maxRetries : Nat := if isMultiNode target then min target.maxRetries (target.upstreams.length - 1) else 0

section

variable {target} {nodes : Nodes} {clientHash : Option Nat} {rrCounter draw index : Nat} {slice : List Nat}

theorem mem_of_pick (picked : (pick target nodes clientHash rrCounter draw slice).1 = some index) : index ∈ slice := by
  unfold pick at picked
  split at picked
  · exact List.mem_of_getElem? picked
  · exact List.mem_of_getElem? picked
  · exact List.argmin_mem picked
  · exact List.mem_of_getElem? picked
  · exact List.mem_reverse.mp (List.argmax_mem picked)

theorem pick_isSome (nonempty : slice ≠ []) : (pick target nodes clientHash rrCounter draw slice).1.isSome = true := by
  have positive : 0 < slice.length := List.length_pos_iff.mpr nonempty
  have inside : ∀ number, (slice[number % slice.length]?).isSome = true := by
    intro number
    simp [Nat.mod_lt number positive]
  unfold pick
  split
  · exact inside _
  · exact inside _
  · rw [Option.isSome_iff_ne_none]
    exact fun none => nonempty (List.argmin_eq_none.mp none)
  · exact inside _
  · rw [Option.isSome_iff_ne_none]
    exact fun none => nonempty (List.reverse_eq_nil_iff.mp (List.argmax_eq_none.mp none))

theorem candidates_ne_nil (several : 1 < target.upstreams.length) (clock : Nat → Nat) (failedUris : List Uri) :
    candidates target nodes clock failedUris ≠ [] := by
  unfold candidates
  dsimp only
  split_ifs with available fresh
  · exact available
  · exact fresh
  · intro none
    rw [List.range_eq_nil] at none
    omega

variable {around : Circumstances} {failedUris : List Uri}

theorem mem_candidates_of_nextUpstream (several : 1 < target.upstreams.length)
    (selected : (nextUpstream target nodes clientHash rrCounter around failedUris).1 = some index) :
    index ∈ candidates target nodes around.clock failedUris := by
  rw [nextUpstream, if_neg (by omega)] at selected
  split at selected
  · next only single =>
    cases selected
    rw [single]
    exact List.mem_singleton_self index
  · exact mem_of_pick selected

theorem lt_of_mem_candidates {clock : Nat → Nat} (candidate : index ∈ candidates target nodes clock failedUris) :
    index < target.upstreams.length := by
  unfold candidates at candidate
  dsimp only at candidate
  split_ifs at candidate
  · exact List.mem_range.mp (List.mem_filter.mp candidate).1
  · exact List.mem_range.mp (List.mem_filter.mp candidate).1
  · exact List.mem_range.mp candidate

theorem exists_selected (nodes : Nodes) (clientHash : Option Nat) (rrCounter : Nat) (around : Circumstances)
    (failedUris : List Uri) (upstreams : target.upstreams ≠ []) :
    ∃ index < target.upstreams.length,
      (nextUpstream target nodes clientHash rrCounter around failedUris).1 = some index := by
  have positive : 0 < target.upstreams.length := List.length_pos_iff.mpr upstreams
  by_cases single : target.upstreams.length = 1
  · exact ⟨0, positive, by rw [nextUpstream, if_pos single]⟩
  · have several : 1 < target.upstreams.length := by omega
    have some_selected : (nextUpstream target nodes clientHash rrCounter around failedUris).1.isSome = true := by
      rw [nextUpstream, if_neg single]
      split
      · rfl
      · exact pick_isSome (candidates_ne_nil several _ _)
    obtain ⟨index, selected⟩ := Option.isSome_iff_exists.mp some_selected
    exact ⟨index, lt_of_mem_candidates (mem_candidates_of_nextUpstream several selected), selected⟩

theorem selected_available {other : Nat} (several : 1 < target.upstreams.length)
    (selected : (nextUpstream target nodes clientHash rrCounter around failedUris).1 = some index)
    (inside : other < target.upstreams.length)
    (available : (nodes other).isAvailable target.cooldownSeconds (around.clock other) = true)
    (fresh : hasFailed target failedUris other = false) :
    (nodes index).isAvailable target.cooldownSeconds (around.clock index) = true ∧
      hasFailed target failedUris index = false := by
  have candidate := mem_candidates_of_nextUpstream several selected
  unfold candidates at candidate
  dsimp only at candidate
  rw [if_pos] at candidate
  · simpa using (List.mem_filter.mp candidate).2
  · apply List.ne_nil_of_mem (a := other)
    simp [inside, available, fresh]

theorem selected_fresh {backend : Uri} (several : 1 < target.upstreams.length)
    (selected : (nextUpstream target nodes clientHash rrCounter around failedUris).1 = some index)
    (here : target.upstreams[index]? = some backend) (other : ∃ upstream ∈ target.upstreams, upstream ∉ failedUris) :
    backend ∉ failedUris := by
  obtain ⟨upstream, member, unfailed⟩ := other
  obtain ⟨place, inside, there⟩ := List.getElem_of_mem member
  have fresh : hasFailed target failedUris place = false := by
    simp [hasFailed, List.getElem?_eq_getElem inside, there, unfailed]
  suffices chosen : hasFailed target failedUris index = false by simpa [hasFailed, here] using chosen
  have candidate := mem_candidates_of_nextUpstream several selected
  unfold candidates at candidate
  dsimp only at candidate
  split_ifs at candidate with available nonempty
  · have both := (List.mem_filter.mp candidate).2
    rw [Bool.and_eq_true, Bool.not_eq_true'] at both
    exact both.2
  · simpa using (List.mem_filter.mp candidate).2
  · exfalso
    apply nonempty
    apply List.ne_nil_of_mem (a := place)
    simp [inside, fresh]

end

end Praeco.Router.Balancing
