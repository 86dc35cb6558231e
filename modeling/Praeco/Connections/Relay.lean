import Praeco.Collections.Map
import Praeco.Net.Address
import Praeco.Schedule.Processes

/-! The connection tracker of the relay server. A drop decrements the entry of its address and removes an emptied
entry in two accesses of the map, so that a count made between them is lost. Without such counts the entries are
the numbers of live guards. -/

namespace Praeco.Connections.Relay
open Praeco.Collections.Map Praeco.Net.Address Praeco.Schedule.Runs Praeco.Schedule.Processes

/-- Unlike the gateway's, this form also masks the loopback address. -/
def canonicalizeIp : IpAddr → IpAddr
  | .v4 addr => .v4 addr
  | .v6 0 0 0 0 0 0xffff s6 s7 => .v4 ((s6.toUInt32 <<< 16) ||| s7.toUInt32)
  | .v6 s0 s1 s2 s3 _ _ _ _ => .v6 s0 s1 s2 s3 0 0 0 0

structure RelayLimits where
  maxGlobal : Nat
  maxPerIp : Nat
  deriving DecidableEq, Repr

structure RelayConnectionTracker where
  globalCount : Nat
  ipCounts : AList (fun _ : IpAddr => Nat)

inductive RelayConnection where
  | acquiring (ip : IpAddr)
  | overGlobal
  | admitted (ip : IpAddr)
  | overIp (ip : IpAddr)
  | refused (message : String)
  | live (ip : IpAddr)
  | dropping (ip : IpAddr)
  | releasing (ip : IpAddr)
  | removing (ip : IpAddr)
  | closed
  deriving DecidableEq, Repr

inductive RelaySignal where
  | advance
  | drop
  deriving DecidableEq, Repr

namespace RelayConnectionTracker

def new : RelayConnectionTracker := ⟨0, ∅⟩

variable (tracker : RelayConnectionTracker)

def entry (ip : IpAddr) : Nat := (tracker.ipCounts.lookup ip).getD 0

def setEntry (ip : IpAddr) (count : Nat) : RelayConnectionTracker :=
  { tracker with ipCounts := tracker.ipCounts.insert ip count }

def removeEntry (ip : IpAddr) : RelayConnectionTracker := { tracker with ipCounts := tracker.ipCounts.erase ip }

def fetchAdd : RelayConnectionTracker := { tracker with globalCount := tracker.globalCount + 1 }

def fetchSub : RelayConnectionTracker := { tracker with globalCount := tracker.globalCount - 1 }

end RelayConnectionTracker

/-- One access of a connection, or the start of its drop. The rollback of an `acquire` over the limit of its
address is made while the entry is locked; here it may also come later. -/
def act (limits : RelayLimits) (tracker : RelayConnectionTracker) :
    RelayConnection → RelaySignal → RelayConnectionTracker × RelayConnection
  | .acquiring ip, .advance =>
    if limits.maxGlobal ≤ tracker.globalCount then (tracker.fetchAdd, .overGlobal) else (tracker.fetchAdd, .admitted ip)
  | .overGlobal, .advance => (tracker.fetchSub, .refused "Global connection limit reached")
  | .admitted ip, .advance =>
    let count := tracker.entry ip
    if limits.maxPerIp ≤ count then (tracker.setEntry ip count, .overIp ip)
    else (tracker.setEntry ip (count + 1), .live ip)
  | .overIp _, .advance => (tracker.fetchSub, .refused "Per-IP connection limit reached")
  | .live ip, .drop => (tracker, .dropping ip)
  | .dropping ip, .advance => (tracker.fetchSub, .releasing ip)
  | .releasing ip, .advance =>
    match tracker.ipCounts.lookup ip with
    | some count => (tracker.setEntry ip (count - 1), if count - 1 = 0 then .removing ip else .closed)
    | none => (tracker, .closed)
  | .removing ip, .advance => (tracker.removeEntry ip, .closed)
  | connection, _ => (tracker, connection)

def relayConnections (limits : RelayLimits) : Program RelayConnectionTracker IpAddr RelayConnection RelaySignal :=
  ⟨fun ip => .acquiring (canonicalizeIp ip), act limits⟩

abbrev RelayServer := System RelayConnectionTracker RelayConnection

def initial : RelayServer := ⟨.new, []⟩

inductive Acted (limits : RelayLimits) (tracker : RelayConnectionTracker) :
    RelayConnection → RelaySignal → RelayConnectionTracker × RelayConnection → Prop where
  | overGlobal (ip : IpAddr) : Acted limits tracker (.acquiring ip) .advance (tracker.fetchAdd, .overGlobal)
  | admitted (ip : IpAddr) : tracker.globalCount < limits.maxGlobal →
    Acted limits tracker (.acquiring ip) .advance (tracker.fetchAdd, .admitted ip)
  | refusedGlobal (message : String) : Acted limits tracker .overGlobal .advance (tracker.fetchSub, .refused message)
  | refusedIp (ip : IpAddr) (message : String) :
    Acted limits tracker (.overIp ip) .advance (tracker.fetchSub, .refused message)
  | acquired (ip : IpAddr) : tracker.entry ip < limits.maxPerIp →
    Acted limits tracker (.admitted ip) .advance (tracker.setEntry ip (tracker.entry ip + 1), .live ip)
  | overIp (ip : IpAddr) :
    Acted limits tracker (.admitted ip) .advance (tracker.setEntry ip (tracker.entry ip), .overIp ip)
  | dropCalled (ip : IpAddr) : Acted limits tracker (.live ip) .drop (tracker, .dropping ip)
  | released (ip : IpAddr) : Acted limits tracker (.dropping ip) .advance (tracker.fetchSub, .releasing ip)
  | lowered (ip : IpAddr) :
    Acted limits tracker (.releasing ip) .advance (tracker.setEntry ip (tracker.entry ip - 1), .closed)
  | emptied (ip : IpAddr) : tracker.entry ip - 1 = 0 →
    Acted limits tracker (.releasing ip) .advance (tracker.setEntry ip 0, .removing ip)
  | missing (ip : IpAddr) : tracker.entry ip = 0 → Acted limits tracker (.releasing ip) .advance (tracker, .closed)
  | removed (ip : IpAddr) : Acted limits tracker (.removing ip) .advance (tracker.removeEntry ip, .closed)
  | nothing (connection : RelayConnection) (signal : RelaySignal) :
    Acted limits tracker connection signal (tracker, connection)

theorem act_cases (limits : RelayLimits) (tracker : RelayConnectionTracker) (connection : RelayConnection)
    (signal : RelaySignal) : Acted limits tracker connection signal (act limits tracker connection signal) := by
  unfold act
  split
  · split_ifs with full
    · exact .overGlobal _
    · exact .admitted _ (Nat.lt_of_not_le full)
  · exact .refusedGlobal _
  · dsimp only
    split_ifs with full
    · exact .overIp _
    · exact .acquired _ (Nat.lt_of_not_le full)
  · exact .refusedIp _ _
  · exact .dropCalled _
  · exact .released _
  · next ip =>
    split
    · next count known =>
      have here : tracker.entry ip = count := by simp [RelayConnectionTracker.entry, known]
      subst here
      split_ifs with last
      · rw [last]
        exact .emptied ip last
      · exact .lowered ip
    · next unknown => exact .missing ip (by simp [RelayConnectionTracker.entry, unknown])
  · exact .removed _
  · exact .nothing _ _

section

variable (tracker : RelayConnectionTracker)

theorem entry_setEntry (ip : IpAddr) (count : Nat) (other : IpAddr) :
    (tracker.setEntry ip count).entry other = if other = ip then count else tracker.entry other :=
  getD_lookup_insert tracker.ipCounts ip count 0 other

theorem entry_removeEntry (ip other : IpAddr) :
    (tracker.removeEntry ip).entry other = if other = ip then 0 else tracker.entry other :=
  getD_lookup_erase tracker.ipCounts ip 0 other

variable {tracker}

theorem entry_setEntry_le {ip : IpAddr} {count : Nat} (lower : count ≤ tracker.entry ip) (other : IpAddr) :
    (tracker.setEntry ip count).entry other ≤ tracker.entry other := by
  rw [entry_setEntry]
  split_ifs with same
  · rw [same]
    exact lower
  · exact le_rfl

theorem entry_removeEntry_le (ip other : IpAddr) : (tracker.removeEntry ip).entry other ≤ tracker.entry other := by
  rw [entry_removeEntry]
  split_ifs with same
  · exact Nat.zero_le _
  · exact le_rfl

end

def isLive : RelayConnection → Bool
  | .live _ => true
  | .dropping _ => true
  | _ => false

def isLiveAt (ip : IpAddr) : RelayConnection → Bool
  | .live held => held = ip
  | .dropping held => held = ip
  | _ => false

def isAdmitted : RelayConnection → Bool
  | .admitted _ => true
  | .overIp _ => true
  | connection => isLive connection

def globalShare (connection : RelayConnection) : Nat :=
  (isAdmitted connection).toNat + (decide (connection = .overGlobal)).toNat

def ipShare (ip : IpAddr) (connection : RelayConnection) : Nat :=
  (isLiveAt ip connection).toNat + (decide (connection = .releasing ip)).toNat

def isIdle : RelayConnection → Bool
  | .live _ => true
  | .refused _ => true
  | .closed => true
  | _ => false

section

variable {limits : RelayLimits} {tracker : RelayConnectionTracker} {connection : RelayConnection}

theorem act_global (signal : RelaySignal) (held : globalShare connection ≤ tracker.globalCount) :
    (act limits tracker connection signal).1.globalCount + globalShare connection =
      tracker.globalCount + globalShare (act limits tracker connection signal).2 := by
  have spec := act_cases limits tracker connection signal
  generalize act limits tracker connection signal = result at spec ⊢
  cases spec with
  | refusedGlobal message => exact Nat.sub_add_cancel held
  | refusedIp ip message => exact Nat.sub_add_cancel held
  | released ip => exact Nat.sub_add_cancel held
  | _ => rfl

theorem ipShare_live (ip other : IpAddr) : ipShare other (.live ip) = if other = ip then 1 else 0 := by
  by_cases same : other = ip
  · simp [ipShare, isLiveAt, same]
  · simp [ipShare, isLiveAt, same, Ne.symm same]

theorem ipShare_releasing (ip other : IpAddr) : ipShare other (.releasing ip) = if other = ip then 1 else 0 := by
  by_cases same : other = ip
  · simp [ipShare, isLiveAt, same]
  · simp [ipShare, isLiveAt, same, Ne.symm same]

theorem entry_released {after : RelayConnectionTracker} {address ip : IpAddr}
    (lowered : after.entry ip = if ip = address then tracker.entry address - 1 else tracker.entry ip)
    (held : ipShare ip (.releasing address) ≤ tracker.entry ip) :
    after.entry ip + ipShare ip (.releasing address) = tracker.entry ip := by
  rw [ipShare_releasing] at held ⊢
  rw [lowered]
  split_ifs at held ⊢ with same
  · subst same
    exact Nat.sub_add_cancel held
  · rfl

/-- The step changes an entry and what the connection holds of it alike, as long as only emptied entries are
removed. -/
theorem act_ip (signal : RelaySignal) (ip : IpAddr) (emptied : connection = .removing ip → tracker.entry ip = 0)
    (held : ipShare ip connection ≤ tracker.entry ip) :
    (act limits tracker connection signal).1.entry ip + ipShare ip connection =
      tracker.entry ip + ipShare ip (act limits tracker connection signal).2 := by
  have spec := act_cases limits tracker connection signal
  generalize act limits tracker connection signal = result at spec ⊢
  cases spec with
  | acquired address below =>
    rw [entry_setEntry, ipShare_live]
    change _ + 0 = _
    split_ifs with same
    · rw [same]
    · rfl
  | overIp address =>
    rw [entry_setEntry]
    split_ifs with same
    · rw [same]
      rfl
    · rfl
  | dropCalled address => rfl
  | released address =>
    rw [ipShare_releasing, ← ipShare_live]
    rfl
  | lowered address => exact entry_released (entry_setEntry tracker address _ ip) held
  | emptied address last => exact entry_released (last ▸ entry_setEntry tracker address 0 ip) held
  | missing address unknown =>
    refine entry_released ?_ held
    split_ifs with same
    · rw [same, unknown]
    · rfl
  | removed address =>
    rw [entry_removeEntry]
    change _ + 0 = _ + 0
    split_ifs with same
    · subst same
      rw [emptied rfl]
    · rfl
  | _ => rfl

theorem act_entry (limits : RelayLimits) (tracker : RelayConnectionTracker) (connection : RelayConnection)
    (signal : RelaySignal) (ip : IpAddr) :
    (act limits tracker connection signal).1.entry ip ≤ tracker.entry ip ∨
      connection = .admitted ip ∧ signal = .advance ∧
        (act limits tracker connection signal).1.entry ip ≤ limits.maxPerIp := by
  have spec := act_cases limits tracker connection signal
  generalize act limits tracker connection signal = result at spec ⊢
  cases spec with
  | acquired address below =>
    rw [entry_setEntry]
    split_ifs with same
    · subst same
      exact .inr ⟨rfl, rfl, below⟩
    · exact .inl le_rfl
  | overIp address => exact .inl (entry_setEntry_le le_rfl ip)
  | lowered address => exact .inl (entry_setEntry_le (Nat.sub_le _ _) ip)
  | emptied address last => exact .inl (entry_setEntry_le (Nat.zero_le _) ip)
  | removed address => exact .inl (entry_removeEntry_le address ip)
  | _ => exact .inl le_rfl

theorem act_removing {signal : RelaySignal} {ip : IpAddr}
    (after : (act limits tracker connection signal).2 = .removing ip) :
    (act limits tracker connection signal).1.entry ip = 0 ∨
      connection = .removing ip ∧ (act limits tracker connection signal).1 = tracker := by
  have spec := act_cases limits tracker connection signal
  generalize act limits tracker connection signal = result at spec after ⊢
  cases spec with
  | emptied address last =>
    cases after
    exact .inl (by rw [entry_setEntry, if_pos rfl])
  | nothing => exact .inr ⟨after, rfl⟩
  | _ => cases after

theorem act_admitted {signal : RelaySignal} (after : isAdmitted (act limits tracker connection signal).2 = true)
    (before : isAdmitted connection = false) : tracker.globalCount < limits.maxGlobal := by
  have spec := act_cases limits tracker connection signal
  generalize act limits tracker connection signal = result at spec after
  cases spec with
  | admitted ip room => exact room
  | nothing =>
    rw [before] at after
    cases after
  | _ => simp [isAdmitted, isLive] at after before

end

def entering : RelayConnection → Option IpAddr
  | .admitted ip => some ip
  | _ => none

/-- No `acquire` accesses the entry of an address while a drop has emptied and not yet removed it. -/
def CountKept (relay : RelayServer) : Label IpAddr RelaySignal → Prop
  | .act index .advance => ∀ ip ∈ relay.processes[index]?.bind entering, .removing ip ∉ relay.processes
  | _ => True

instance (relay : RelayServer) (label : Label IpAddr RelaySignal) : Decidable (CountKept relay label) :=
  match label with
  | .act index .advance =>
    inferInstanceAs (Decidable (∀ ip ∈ relay.processes[index]?.bind entering, .removing ip ∉ relay.processes))
  | .act _ .drop => .isTrue trivial
  | .spawn _ => .isTrue trivial

/-- The counters are the sums of what the connections hold, and the entries about to be removed are empty. -/
structure Balanced (limits : RelayLimits) (relay : RelayServer) : Prop where
  global : relay.shared.globalCount = relay.total globalShare
  perIp : ∀ ip, relay.shared.entry ip = relay.total (ipShare ip)
  perIpLimit : ∀ ip, relay.shared.entry ip ≤ limits.maxPerIp
  emptied : ∀ (index : Nat) ip, relay.processes[index]? = some (.removing ip) → relay.shared.entry ip = 0
  capacity : relay.processes.countP isAdmitted ≤ limits.maxGlobal

section

variable {limits : RelayLimits} {relay : RelayServer}

theorem balanced_spawned (ip : IpAddr) (balanced : Balanced limits relay) :
    Balanced limits (relay.spawned ((relayConnections limits).spawn ip)) := by
  constructor
  · exact balance_spawned RelayConnectionTracker.globalCount balanced.global rfl
  · intro address
    have light : ipShare address ((relayConnections limits).spawn ip) = 0 := rfl
    exact balance_spawned (fun tracker : RelayConnectionTracker => tracker.entry address) (balanced.perIp address) light
  · exact balanced.perIpLimit
  · intro index address present
    rw [lookup_spawned] at present
    split_ifs at present with last
    · cases present
    · exact balanced.emptied index address present
  · rw [countP_spawned rfl]
    exact balanced.capacity

theorem balanced_acted {index : Nat} {connection : RelayConnection} {signal : RelaySignal}
    (present : relay.processes[index]? = some connection) (kept : CountKept relay (.act index signal))
    (balanced : Balanced limits relay) :
    Balanced limits (relay.acted index (act limits relay.shared connection signal)) := by
  constructor
  · exact balance_acted RelayConnectionTracker.globalCount balanced.global present (act_global signal)
  · intro ip
    have emptied : connection = .removing ip → relay.shared.entry ip = 0 := by
      intro removing
      exact balanced.emptied index ip (removing ▸ present)
    exact balance_acted (fun tracker : RelayConnectionTracker => tracker.entry ip) (balanced.perIp ip) present
      (act_ip signal ip emptied)
  · intro ip
    rcases act_entry limits relay.shared connection signal ip with lower | ⟨-, -, within⟩
    · exact lower.trans (balanced.perIpLimit ip)
    · exact within
  · intro other ip removing
    rw [lookup_acted present] at removing
    split_ifs at removing with same
    · rcases act_removing (Option.some.inj removing) with empty | ⟨before, unchanged⟩
      · exact empty
      · rw [System.acted, unchanged]
        exact balanced.emptied index ip (before ▸ present)
    · have empty : relay.shared.entry ip = 0 := balanced.emptied other ip removing
      rcases act_entry limits relay.shared connection signal ip with lower | ⟨admitted, advance, -⟩
      · exact Nat.le_zero.mp (empty ▸ lower)
      · subst admitted advance
        exact absurd (List.mem_of_getElem? removing) (kept ip (by simp [present, entering]))
  · have weighs : ∀ connection, (isAdmitted connection).toNat ≤ globalShare connection := fun _ => Nat.le_add_right _ _
    apply capacity_acted balanced.capacity present weighs
    intro after before
    rw [← balanced.global]
    exact act_admitted after before

theorem balanced_reachable (reachable : Reachable (step (relayConnections limits)) CountKept initial relay) :
    Balanced limits relay := by
  refine reachable_induction CountKept initial (Balanced limits) ?_ ?_ ?_ reachable
  · refine ⟨rfl, fun _ => rfl, fun _ => Nat.zero_le _, ?_, Nat.zero_le _⟩
    intro index ip present
    cases present
  · intro system ip _ balanced
    exact balanced_spawned ip balanced
  · intro system index connection signal present kept balanced
    exact balanced_acted present kept balanced

end

def liveGuards (relay : RelayServer) : Nat := relay.processes.countP isLive

def liveGuardsOf (relay : RelayServer) (ip : IpAddr) : Nat := relay.processes.countP (isLiveAt ip)

def Quiescent (relay : RelayServer) : Prop := relay.processes.all isIdle = true

instance (relay : RelayServer) : Decidable (Quiescent relay) := inferInstanceAs (Decidable (_ = true))

structure Accounted (limits : RelayLimits) (relay : RelayServer) : Prop where
  quiescent : Quiescent relay → ∀ ip, relay.shared.entry ip = liveGuardsOf relay ip
  perIp : ∀ ip, liveGuardsOf relay ip ≤ limits.maxPerIp
  global : liveGuards relay ≤ limits.maxGlobal

theorem ipShare_idle {connection : RelayConnection} (idle : isIdle connection = true) (ip : IpAddr) :
    ipShare ip connection = (isLiveAt ip connection).toNat := by
  cases connection with
  | releasing held => cases idle
  | _ => rfl

theorem balanced_accounted {limits : RelayLimits} {relay : RelayServer} (balanced : Balanced limits relay) :
    Accounted limits relay := by
  constructor
  · intro quiescent ip
    rw [balanced.perIp ip, liveGuardsOf, ← total_toNat, System.total, System.total]
    congr 1
    apply List.map_congr_left
    intro connection member
    exact ipShare_idle (List.all_eq_true.mp quiescent connection member) ip
  · intro ip
    apply le_trans _ (balanced.perIpLimit ip)
    rw [balanced.perIp ip, liveGuardsOf, ← total_toNat]
    exact total_le_total fun connection => Nat.le_add_right _ _
  · apply le_trans _ balanced.capacity
    apply List.countP_mono_left
    intro connection _ live
    cases connection <;> first | rfl | cases live

/-- In every schedule that loses no count, the accounts of the relay are right. -/
theorem relay_accounting (limits : RelayLimits) (labels : List (Label IpAddr RelaySignal))
    (kept : Always (step (relayConnections limits)) CountKept initial labels) :
    Accounted limits (run (step (relayConnections limits)) initial labels) :=
  balanced_accounted (balanced_reachable (kept.reachable _))

def dropAlone (index : Nat) : List (Label IpAddr RelaySignal) :=
  [.act index .drop, .act index .advance, .act index .advance]

def acquireAlone (ip : IpAddr) (index : Nat) : List (Label IpAddr RelaySignal) :=
  [.spawn ip, .act index .advance, .act index .advance]

theorem relay_accounting_reconnect :
    let limits : RelayLimits := ⟨10, 1⟩
    let ip : IpAddr := .v4 0x0A000001
    let labels := acquireAlone ip 0 ++ dropAlone 0 ++ [.act 0 .advance] ++ acquireAlone ip 1
    (run (step (relayConnections limits)) initial labels).processes = [.closed, .live ip] ∧
    Accounted limits (run (step (relayConnections limits)) initial labels) := by
  intro limits ip labels
  have kept : Always (step (relayConnections limits)) CountKept initial labels := by decide +kernel
  exact ⟨by decide +kernel, relay_accounting limits labels kept⟩

/-- The second `acquire` counts in the entry that the first drop is about to remove; a third one is admitted beside
it. -/
theorem lost_count_admits_another :
    let limits : RelayLimits := ⟨10, 1⟩
    let ip : IpAddr := .v4 0x0A000001
    let lost := run (step (relayConnections limits)) initial
      (acquireAlone ip 0 ++ dropAlone 0 ++ acquireAlone ip 1 ++ [.act 0 .advance])
    let crowded := run (step (relayConnections limits)) lost (acquireAlone ip 2)
    Quiescent lost ∧ lost.shared.entry ip = 0 ∧ liveGuardsOf lost ip = 1 ∧
      Quiescent crowded ∧ liveGuardsOf crowded ip = 2 ∧ limits.maxPerIp < liveGuardsOf crowded ip := by
  decide +kernel

end Praeco.Connections.Relay
