import Praeco.Net.Address
import Praeco.Router.Balancing

/-! What the load balancer promises. The nodes of a target fall into tiers, and a selection stays within the best tier
that has a node; within it each strategy keeps its own promise, over one call or over a series of calls. -/

namespace Praeco.Router.Selection
open Praeco.Http.Target Praeco.Net.Address Praeco.Breaker.Node Praeco.Router.Config Praeco.Router.Balancing

structure Situation where
  nodes : Nodes
  clientIp : Option SocketAddr
  around : Circumstances
  failedUris : List Uri

def Situation.clientHash (hash : IpAddr → Nat) (situation : Situation) : Option Nat :=
  situation.clientIp.map fun addr => hash addr.ip

variable (target : RouteTarget) (hash : IpAddr → Nat) (situation : Situation)

def select (rrCounter : Nat) : Option Nat × Nat :=
  nextUpstream target situation.nodes (situation.clientHash hash) rrCounter situation.around situation.failedUris

def Fresh (index : Nat) : Prop := index < target.upstreams.length ∧ hasFailed target situation.failedUris index = false

def Available (index : Nat) : Prop :=
  Fresh target situation index ∧
    (situation.nodes index).isAvailable target.cooldownSeconds (situation.around.clock index) = true

/-- The best tier that has a node: the available nodes that have not failed, those that have not failed, or all. -/
def InBestTier (index : Nat) : Prop :=
  Available target situation index ∨
    (∀ other, ¬Available target situation other) ∧
      (Fresh target situation index ∨ (∀ other, ¬Fresh target situation other) ∧ index < target.upstreams.length)

section

variable {target hash situation}

def tier (target : RouteTarget) (situation : Situation) : List Nat :=
  candidates target situation.nodes situation.around.clock situation.failedUris

theorem mem_tier (index : Nat) : index ∈ tier target situation ↔ InBestTier target situation index := by
  have available (other : Nat) : other ∈ (List.range target.upstreams.length).filter (fun index =>
      (situation.nodes index).isAvailable target.cooldownSeconds (situation.around.clock index) &&
        !hasFailed target situation.failedUris index) ↔ Available target situation other := by
    simp [Available, Fresh, and_assoc, and_comm]
  have fresh (other : Nat) : other ∈ (List.range target.upstreams.length).filter (fun index =>
      !hasFailed target situation.failedUris index) ↔ Fresh target situation other := by
    simp [Fresh]
  unfold tier candidates InBestTier
  dsimp only
  split_ifs with some_available some_fresh
  · obtain ⟨other, member⟩ := List.exists_mem_of_ne_nil _ some_available
    rw [available]
    refine ⟨Or.inl, ?_⟩
    rintro (here | ⟨nowhere, -⟩)
    · exact here
    · exact absurd ((available other).mp member) (nowhere other)
  · obtain ⟨other, member⟩ := List.exists_mem_of_ne_nil _ some_fresh
    have nowhere (index : Nat) : ¬Available target situation index := by
      rw [← available, not_not.mp some_available]
      exact List.not_mem_nil
    rw [fresh]
    refine ⟨fun here => Or.inr ⟨nowhere, Or.inl here⟩, ?_⟩
    rintro (here | ⟨-, here | ⟨stale, -⟩⟩)
    · exact absurd here (nowhere index)
    · exact here
    · exact absurd ((fresh other).mp member) (stale other)
  · have nowhere (index : Nat) : ¬Available target situation index := by
      rw [← available, not_not.mp some_available]
      exact List.not_mem_nil
    have stale (index : Nat) : ¬Fresh target situation index := by
      rw [← fresh, not_not.mp some_fresh]
      exact List.not_mem_nil
    rw [List.mem_range]
    refine ⟨fun inside => Or.inr ⟨nowhere, Or.inr ⟨stale, inside⟩⟩, ?_⟩
    rintro (here | ⟨-, here | ⟨-, inside⟩⟩)
    · exact absurd here (nowhere index)
    · exact absurd here (stale index)
    · exact inside

theorem tier_sorted : (tier target situation).Pairwise (· < ·) := by
  unfold tier candidates
  dsimp only
  split_ifs
  · exact List.pairwise_lt_range.filter _
  · exact List.pairwise_lt_range.filter _
  · exact List.pairwise_lt_range

theorem tier_nodup : (tier target situation).Nodup := tier_sorted.imp ne_of_lt

theorem tier_eq {other : Situation}
    (same : ∀ index, InBestTier target situation index ↔ InBestTier target other index) :
    tier target situation = tier target other := by
  apply List.Perm.eq_of_pairwise' (r := (· < ·)) tier_sorted tier_sorted
  rw [List.perm_ext_iff_of_nodup tier_nodup tier_nodup]
  intro index
  rw [mem_tier, mem_tier, same]

variable {rrCounter index : Nat} (several : 2 ≤ target.upstreams.length)

include several

theorem select_single (single : tier target situation = [index]) :
    select target hash situation rrCounter = (some index, rrCounter) := by
  unfold tier at single
  rw [select, nextUpstream, if_neg (by omega), single]

theorem select_pick (two : 2 ≤ (tier target situation).length) :
    select target hash situation rrCounter =
      pick target situation.nodes (situation.clientHash hash) rrCounter situation.around.draw
        (tier target situation) := by
  rw [select, nextUpstream, if_neg (by omega)]
  split
  · next only single =>
    rw [tier, single] at two
    simp at two
  · rfl

variable (hash situation rrCounter)

theorem select_cases :
    (∃ index, tier target situation = [index] ∧ (select target hash situation rrCounter).1 = some index) ∨
      2 ≤ (tier target situation).length ∧ (select target hash situation rrCounter).1 =
        (pick target situation.nodes (situation.clientHash hash) rrCounter situation.around.draw
          (tier target situation)).1 := by
  have filled : tier target situation ≠ [] := candidates_ne_nil several _ _
  have positive := List.length_pos_iff.mpr filled
  by_cases two : 2 ≤ (tier target situation).length
  · exact Or.inr ⟨two, by rw [select_pick several two]⟩
  · obtain ⟨index, single⟩ := List.length_eq_one_iff.mp (show (tier target situation).length = 1 by omega)
    exact Or.inl ⟨index, single, by rw [select_single several single]⟩

theorem exists_select : ∃ index, (select target hash situation rrCounter).1 = some index := by
  obtain ⟨index, -, selected⟩ := exists_selected situation.nodes (situation.clientHash hash) rrCounter situation.around
    situation.failedUris (List.ne_nil_of_length_pos (show 0 < target.upstreams.length by omega))
  exact ⟨index, selected⟩

variable {hash situation rrCounter}

theorem inBestTier_of_select (selected : (select target hash situation rrCounter).1 = some index) :
    InBestTier target situation index :=
  (mem_tier index).mp (mem_candidates_of_nextUpstream several selected)

/-- What the strategy ensures against the nodes of the tier, the selection does: a node alone in its tier only has to be
compared with itself. -/
theorem select_compares (better : Nat → Nat → Prop) (self : ∀ index, better index index)
    (picks : ∀ other ∈ tier target situation, (pick target situation.nodes (situation.clientHash hash) rrCounter
      situation.around.draw (tier target situation)).1 = some index → better index other)
    (selected : (select target hash situation rrCounter).1 = some index) {other : Nat}
    (member : InBestTier target situation other) : better index other := by
  rw [← mem_tier] at member
  rcases select_cases hash situation rrCounter several with ⟨only, single, chosen⟩ | ⟨-, chosen⟩
  · rw [single, List.mem_singleton] at member
    cases selected.symm.trans chosen
    rw [member]
    exact self _
  · exact picks other member (chosen.symm.trans selected)

theorem leastConnections_minimal (strategy : target.strategy = .leastConnections)
    (selected : (select target hash situation rrCounter).1 = some index) {other : Nat}
    (member : InBestTier target situation other) :
    (situation.nodes index).activeConnections ≤ (situation.nodes other).activeConnections := by
  let connections (index : Nat) : Nat := (situation.nodes index).activeConnections
  refine select_compares several (fun index other => connections index ≤ connections other) (fun _ => le_rfl)
    ?_ selected member
  intro other member picked
  rw [pick, strategy] at picked
  have least : (tier target situation).argmin connections = some index := picked
  exact List.le_of_mem_argmin (f := connections) member least

theorem highestScore_maximal (strategy : target.strategy = .highestScore)
    (selected : (select target hash situation rrCounter).1 = some index) {other : Nat}
    (member : InBestTier target situation other) :
    (situation.nodes other).currentScore ≤ (situation.nodes index).currentScore := by
  let score (index : Nat) := (situation.nodes index).currentScore
  refine select_compares several (fun index other => score other ≤ score index) (fun _ => le_rfl)
    ?_ selected member
  intro other member picked
  rw [pick, strategy] at picked
  have highest : (tier target situation).reverse.argmax score = some index := picked
  exact List.le_of_mem_argmax (f := score) (List.mem_reverse.mpr member) highest

theorem sticky_same (strategy : target.strategy = .sticky) {later : Situation} {laterCounter : Nat}
    {addr laterAddr : SocketAddr} (known : situation.clientIp = some addr)
    (laterKnown : later.clientIp = some laterAddr) (client : addr.ip = laterAddr.ip)
    (same : tier target situation = tier target later) :
    (select target hash situation rrCounter).1 = (select target hash later laterCounter).1 := by
  have hashed : situation.clientHash hash = later.clientHash hash := by
    rw [Situation.clientHash, Situation.clientHash, known, laterKnown, Option.map_some, Option.map_some, client]
  rcases select_cases hash situation rrCounter several with ⟨only, single, chosen⟩ | ⟨two, chosen⟩
  · rw [chosen, select_single several (same ▸ single)]
  · rw [chosen, select_pick several (same ▸ two), pick, pick, strategy, hashed, same, Situation.clientHash, laterKnown]
    rfl

end

def selections (rrCounter : Nat) : List Situation → List (Option Nat)
  | [] => []
  | situation :: later =>
    let (selected, rrCounter) := select target hash situation rrCounter
    selected :: selections rrCounter later

section

variable {target hash} {slice : List Nat}

theorem selections_roundRobin (several : 2 ≤ target.upstreams.length) (strategy : target.strategy = .roundRobin)
    (two : 2 ≤ slice.length) (calls : List Situation) (steady : ∀ call ∈ calls, tier target call = slice)
    (rrCounter : Nat) (room : rrCounter + calls.length ≤ 2 ^ 64) :
    selections target hash rrCounter calls =
      (List.range calls.length).map fun place => slice[(rrCounter + place) % slice.length]? := by
  induction calls generalizing rrCounter with
  | nil => rfl
  | cons call calls ih =>
    have here : tier target call = slice := steady call List.mem_cons_self
    rw [List.length_cons] at room
    have chosen : select target hash call rrCounter = (slice[rrCounter % slice.length]?, add64 rrCounter 1) := by
      rw [select_pick several (here ▸ two), here, pick, strategy]
    have split : selections target hash rrCounter (call :: calls) =
        slice[rrCounter % slice.length]? :: selections target hash (add64 rrCounter 1) calls := by
      rw [selections, chosen]
    rw [split, List.length_cons, List.range_succ_eq_map, List.map_cons, List.map_map]
    refine congrArg _ ?_
    cases calls with
    | nil => rfl
    | cons next calls =>
      rw [List.length_cons] at room
      have counted : add64 rrCounter 1 = rrCounter + 1 := Nat.mod_eq_of_lt (by omega)
      rw [counted, ih (fun other member => steady other (List.mem_cons_of_mem _ member)) _ (by
        rw [List.length_cons]
        omega)]
      apply List.map_congr_left
      intro place _
      rw [Function.comp_apply, Nat.succ_eq_add_one, Nat.add_right_comm, Nat.add_assoc]

theorem round_eq_rotate (rrCounter : Nat) :
    (List.range slice.length).map (fun place => slice[(rrCounter + place) % slice.length]?) =
      (slice.rotate rrCounter).map some := by
  apply List.ext_getElem?
  intro place
  rw [List.getElem?_map, List.getElem?_map]
  by_cases inside : place < slice.length
  · rw [List.getElem?_range inside, List.getElem?_rotate inside, Nat.add_comm place, Option.map_some]
    have bound : (rrCounter + place) % slice.length < slice.length := Nat.mod_lt _ (by omega)
    rw [List.getElem?_eq_getElem bound]
    rfl
  · have outside : (slice.rotate rrCounter).length ≤ place := by
      rw [List.length_rotate]
      omega
    rw [List.getElem?_eq_none (by rw [List.length_range]; omega), List.getElem?_eq_none outside]
    rfl

end

structure Promise : Prop where
  bestTier : ∀ situation rrCounter, ∃ index, (select target hash situation rrCounter).1 = some index ∧
    InBestTier target situation index
  leastConnections : target.strategy = .leastConnections → ∀ situation rrCounter index other,
    (select target hash situation rrCounter).1 = some index → InBestTier target situation other →
      (situation.nodes index).activeConnections ≤ (situation.nodes other).activeConnections
  highestScore : target.strategy = .highestScore → ∀ situation rrCounter index other,
    (select target hash situation rrCounter).1 = some index → InBestTier target situation other →
      (situation.nodes other).currentScore ≤ (situation.nodes index).currentScore
  sticky : target.strategy = .sticky → ∀ situation later rrCounter laterCounter addr laterAddr,
    situation.clientIp = some addr → later.clientIp = some laterAddr → addr.ip = laterAddr.ip →
      (∀ index, InBestTier target situation index ↔ InBestTier target later index) →
        (select target hash situation rrCounter).1 = (select target hash later laterCounter).1
  roundRobin : target.strategy = .roundRobin → ∀ (nodes : Finset Nat) (calls : List Situation) rrCounter,
    2 ≤ nodes.card → calls.length = nodes.card → rrCounter + calls.length ≤ 2 ^ 64 →
      (∀ call ∈ calls, ∀ index, InBestTier target call index ↔ index ∈ nodes) →
        ∀ index ∈ nodes, (selections target hash rrCounter calls).count (some index) = 1

/-- A target of two or more upstreams keeps all of it, for every state of its nodes and every client. -/
theorem nextUpstream_promise (target : RouteTarget) (hash : IpAddr → Nat) (several : 2 ≤ target.upstreams.length) :
    Promise target hash where
  bestTier situation rrCounter := by
    obtain ⟨index, selected⟩ := exists_select hash situation rrCounter several
    exact ⟨index, selected, inBestTier_of_select several selected⟩
  leastConnections strategy _ _ _ _ selected member := leastConnections_minimal several strategy selected member
  highestScore strategy _ _ _ _ selected member := highestScore_maximal several strategy selected member
  sticky strategy _ _ _ _ _ _ known laterKnown client same :=
    sticky_same several strategy known laterKnown client (tier_eq same)
  roundRobin strategy nodes calls rrCounter two whole room steady := by
    intro index member
    obtain ⟨first, made⟩ := List.exists_mem_of_length_pos (show 0 < calls.length by omega)
    have listed (other : Nat) : other ∈ tier target first ↔ other ∈ nodes := by
      rw [mem_tier, steady first made]
    have length : (tier target first).length = nodes.card := by
      rw [← List.toFinset_card_of_nodup tier_nodup]
      congr 1
      ext other
      rw [List.mem_toFinset, listed]
    have same (call : Situation) (member : call ∈ calls) : tier target call = tier target first :=
      tier_eq fun other => (steady call member other).trans (steady first made other).symm
    rw [selections_roundRobin several strategy (length ▸ two) calls same rrCounter room, whole, ← length,
      round_eq_rotate, List.count_map_of_injective _ _ (Option.some_injective _), (List.rotate_perm _ _).count_eq]
    exact List.count_eq_one_of_mem tier_nodup ((listed index).mpr member)

def pair : RouteTarget :=
  ⟨[⟨some "http".toList, some ['a'], ['/'], none⟩, ⟨some "http".toList, some ['b'], ['/'], none⟩],
    .roundRobin, 10, 1, 3, 0, 0⟩

theorem nextUpstream_promise_pair : 2 ≤ pair.upstreams.length ∧ Promise pair fun _ => 0 :=
  ⟨by decide, nextUpstream_promise pair (fun _ => 0) (by decide)⟩

end Praeco.Router.Selection
