import Praeco.Collections.Map
import Praeco.Connections.Tracker

/-! The accounts of the connection tracker, over every schedule: what the counters stand for, the limits, and
that refused calls leave no trace. -/

namespace Praeco.Connections.Accounting
open Praeco.Collections.Map Praeco.Net.Address Praeco.Schedule.Runs Praeco.Schedule.Processes Praeco.Connections.Tracker

theorem counted_self (ip : CountedIp) : ip.toCanonicalIp.counted = some ip := dif_pos ip.specified

theorem canonical_self (ip : CanonicalIp) : canonical ip.ip = ip := by
  cases ip with
  | mk ip same => simp [canonical, same]

inductive Acted (limits : Limits) (tracker : ConnectionTracker) :
    Connection → Signal → ConnectionTracker × Connection → Prop where
  | overGlobal (ip : Option CanonicalIp) : limits.maxConnections ≤ tracker.currentConnections →
    Acted limits tracker (.acquiring ip) .advance (tracker.fetchAdd, .overGlobal tracker.currentConnections)
  | admitted (ip : Option CanonicalIp) (counted : CountedIp) : tracker.currentConnections < limits.maxConnections →
    Acted limits tracker (.acquiring ip) .advance (tracker.fetchAdd, .admitted counted)
  | uncounted (ip : Option CanonicalIp) : tracker.currentConnections < limits.maxConnections →
    ip.bind CanonicalIp.counted = none →
    Acted limits tracker (.acquiring ip) .advance (tracker.fetchAdd, .live ⟨ip⟩ (.ok ()))
  | refusedGlobal (current : Nat) (error : AcquireError) :
    Acted limits tracker (.overGlobal current) .advance (tracker.fetchSub, .refused error)
  | refusedIp (ip : CountedIp) (current : UInt32) (error : AcquireError) :
    Acted limits tracker (.overIp ip current) .advance (tracker.fetchSub, .refused error)
  | acquired (ip : CountedIp) : (tracker.entry ip.ip).toNat < limits.maxConnectionsPerIp →
    Acted limits tracker (.admitted ip) .advance
      (tracker.setEntry ip.ip (tracker.entry ip.ip + 1), .live ⟨some ip.toCanonicalIp⟩ (.ok ()))
  | overIp (ip : CountedIp) : limits.maxConnectionsPerIp ≤ (tracker.entry ip.ip).toNat →
    Acted limits tracker (.admitted ip) .advance
      (tracker.setEntry ip.ip (tracker.entry ip.ip), .overIp ip (tracker.entry ip.ip))
  | bindCalled (answer : Except AcquireError Unit) (raw : IpAddr) (ip : CountedIp) :
    Acted limits tracker (.live ⟨none⟩ answer) (.bindIp raw) (tracker, .binding ip)
  | bindIdle (guard : ConnectionGuard) (answer : Except AcquireError Unit) (raw : IpAddr) :
    Acted limits tracker (.live guard answer) (.bindIp raw) (tracker, .live guard (.ok ()))
  | bound (ip : CountedIp) : (tracker.entry ip.ip).toNat < limits.maxConnectionsPerIp →
    Acted limits tracker (.binding ip) .advance
      (tracker.setEntry ip.ip (tracker.entry ip.ip + 1), .live ⟨some ip.toCanonicalIp⟩ (.ok ()))
  | bindRefused (ip : CountedIp) (error : AcquireError) : limits.maxConnectionsPerIp ≤ (tracker.entry ip.ip).toNat →
    Acted limits tracker (.binding ip) .advance
      (tracker.setEntry ip.ip (tracker.entry ip.ip), .live ⟨none⟩ (.error error))
  | dropCalled (guard : ConnectionGuard) (answer : Except AcquireError Unit) :
    Acted limits tracker (.live guard answer) .drop (tracker, .dropping guard)
  | released (guard : ConnectionGuard) (ip : CountedIp) : guard.ip = some ip.toCanonicalIp →
    Acted limits tracker (.dropping guard) .advance (tracker.fetchSub, .releasing ip)
  | releasedUncounted (guard : ConnectionGuard) : guard.ip.bind CanonicalIp.counted = none →
    Acted limits tracker (.dropping guard) .advance (tracker.fetchSub, .closed)
  | closed (ip : CountedIp) : Acted limits tracker (.releasing ip) .advance (uncountIp tracker ip, .closed)
  | nothing (connection : Connection) (signal : Signal) : Acted limits tracker connection signal (tracker, connection)

theorem counted_some {ip : CanonicalIp} {counted : CountedIp} (found : ip.counted = some counted) :
    ip = counted.toCanonicalIp := by
  unfold CanonicalIp.counted at found
  split_ifs at found
  cases found
  rfl

section

variable {limits : Limits} {tracker : ConnectionTracker} {ip : CountedIp}

theorem countIp_full (full : limits.maxConnectionsPerIp ≤ (tracker.entry ip.ip).toNat) :
    countIp limits tracker ip = (false, tracker.setEntry ip.ip (tracker.entry ip.ip)) := by
  simp only [countIp, if_pos full]

theorem countIp_room (below : (tracker.entry ip.ip).toNat < limits.maxConnectionsPerIp) :
    countIp limits tracker ip = (true, tracker.setEntry ip.ip (tracker.entry ip.ip + 1)) := by
  simp only [countIp, if_neg (Nat.not_le_of_lt below)]

end

theorem act_cases (limits : Limits) (tracker : ConnectionTracker) (connection : Connection) (signal : Signal) :
    Acted limits tracker connection signal (act limits tracker connection signal) := by
  unfold act
  split
  · dsimp only
    split_ifs with full
    · exact .overGlobal _ full
    · have room := Nat.lt_of_not_le full
      split
      · exact .admitted _ _ room
      · next absent => exact .uncounted _ room absent
  · exact .refusedGlobal _ _
  · next ip =>
    rcases Nat.lt_or_ge (tracker.entry ip.ip).toNat limits.maxConnectionsPerIp with below | full
    · rw [countIp_room below]
      exact .acquired ip below
    · rw [countIp_full full]
      exact .overIp ip full
  · exact .refusedIp _ _ _
  · next guard answer raw =>
    split
    · next ip _ absent =>
      cases guard
      cases absent
      exact .bindCalled answer raw ip
    · exact .bindIdle guard answer raw
  · next ip =>
    rcases Nat.lt_or_ge (tracker.entry ip.ip).toNat limits.maxConnectionsPerIp with below | full
    · rw [countIp_room below]
      exact .bound ip below
    · rw [countIp_full full]
      exact .bindRefused ip _ full
  · exact .dropCalled _ _
  · next guard =>
    unfold afterRelease
    simp only [canonical_self]
    split
    · next ip found =>
      obtain ⟨held, known, counted⟩ := Option.bind_eq_some_iff.mp found
      exact .released guard ip (known.trans (congrArg some (counted_some counted)))
    · next absent => exact .releasedUncounted guard absent
  · exact .closed _
  · exact .nothing _ _

section

variable (tracker : ConnectionTracker)

theorem entry_setEntry (ip : IpAddr) (count : UInt32) (other : IpAddr) :
    (tracker.setEntry ip count).entry other = if other = ip then count else tracker.entry other :=
  getD_lookup_insert tracker.ipCounts ip count 0 other

theorem entry_uncountIp_self (ip : CountedIp) (counted : 1 ≤ (tracker.entry ip.ip).toNat) :
    (uncountIp tracker ip).entry ip.ip = tracker.entry ip.ip - 1 := by
  unfold uncountIp
  cases known : tracker.ipCounts.lookup ip.ip with
  | none => simp [ConnectionTracker.entry, known] at counted
  | some count =>
    have here : tracker.entry ip.ip = count := by simp [ConnectionTracker.entry, known]
    rw [here] at counted ⊢
    dsimp only
    by_cases single : count ≤ 1
    · have one : count = 1 := by
        apply UInt32.toNat_inj.mp
        have below : count.toNat ≤ 1 := single
        change count.toNat = 1
        omega
      rw [if_pos single]
      simp [ConnectionTracker.entry, one]
    · rw [if_neg single, entry_setEntry, if_pos rfl]

theorem entry_uncountIp_ne {ip : CountedIp} {other : IpAddr} (different : other ≠ ip.ip) :
    (uncountIp tracker ip).entry other = tracker.entry other := by
  unfold uncountIp
  split
  · split_ifs
    · simp [ConnectionTracker.entry, AList.lookup_erase_ne different]
    · rw [entry_setEntry, if_neg different]
  · rfl

end

section

variable (limits : Limits)

def Sized (tracker : ConnectionTracker) : Prop :=
  ∀ ip count, tracker.ipCounts.lookup ip = some count →
    1 ≤ count.toNat ∧ count.toNat ≤ limits.maxConnectionsPerIp ∧ ip.isUnspecified = false

def Sound : Prop := 1 ≤ limits.maxConnectionsPerIp ∧ limits.maxConnectionsPerIp < 2 ^ 32

variable {limits}

variable {tracker : ConnectionTracker}

theorem sized_setEntry (sized : Sized limits tracker) (ip : CountedIp) (count : UInt32) (positive : 1 ≤ count.toNat)
    (within : count.toNat ≤ limits.maxConnectionsPerIp) : Sized limits (tracker.setEntry ip.ip count) := by
  intro other found known
  by_cases same : other = ip.ip
  · subst same
    rw [ConnectionTracker.setEntry, AList.lookup_insert, Option.some.injEq] at known
    rw [← known]
    exact ⟨positive, within, ip.specified⟩
  · rw [ConnectionTracker.setEntry, AList.lookup_insert_ne same] at known
    exact sized other found known

theorem entry_le (sized : Sized limits tracker) (ip : IpAddr) :
    (tracker.entry ip).toNat ≤ limits.maxConnectionsPerIp := by
  unfold ConnectionTracker.entry
  cases known : tracker.ipCounts.lookup ip with
  | none => exact Nat.zero_le _
  | some count => exact (sized ip count known).2.1

theorem toNat_succ (width : limits.maxConnectionsPerIp < 2 ^ 32) {count : UInt32}
    (below : count.toNat < limits.maxConnectionsPerIp) : (count + 1).toNat = count.toNat + 1 := by
  have small : count.toNat + 1 < 2 ^ 32 := by omega
  rw [UInt32.toNat_add]
  exact Nat.mod_eq_of_lt small

theorem sized_raised (sound : Sound limits) (sized : Sized limits tracker) (ip : CountedIp)
    (below : (tracker.entry ip.ip).toNat < limits.maxConnectionsPerIp) :
    Sized limits (tracker.setEntry ip.ip (tracker.entry ip.ip + 1)) := by
  have raised := toNat_succ sound.2 below
  exact sized_setEntry sized ip _ (by omega) (by omega)

theorem sized_touched (sound : Sound limits) (sized : Sized limits tracker) (ip : CountedIp)
    (full : limits.maxConnectionsPerIp ≤ (tracker.entry ip.ip).toNat) :
    Sized limits (tracker.setEntry ip.ip (tracker.entry ip.ip)) :=
  sized_setEntry sized ip _ (sound.1.trans full) (entry_le sized ip.ip)

theorem sized_uncountIp (sized : Sized limits tracker) (ip : CountedIp) : Sized limits (uncountIp tracker ip) := by
  unfold uncountIp
  cases known : tracker.ipCounts.lookup ip.ip with
  | none => exact sized
  | some count =>
    obtain ⟨positive, within, -⟩ := sized ip.ip count known
    dsimp only
    split_ifs with single
    · intro other found kept
      by_cases same : other = ip.ip
      · subst same
        simp at kept
      · rw [AList.lookup_erase_ne same] at kept
        exact sized other found kept
    · have more : 1 < count.toNat := Nat.lt_of_not_le single
      have lowered : (count - 1).toNat = count.toNat - 1 := UInt32.toNat_sub_of_le count 1 positive
      exact sized_setEntry sized ip _ (by omega) (by omega)

theorem act_sized (sound : Sound limits) (sized : Sized limits tracker) (connection : Connection) (signal : Signal) :
    Sized limits (act limits tracker connection signal).1 := by
  have spec := act_cases limits tracker connection signal
  generalize act limits tracker connection signal = result at spec ⊢
  cases spec with
  | acquired ip below => exact sized_raised sound sized ip below
  | bound ip below => exact sized_raised sound sized ip below
  | overIp ip full => exact sized_touched sound sized ip full
  | bindRefused ip error full => exact sized_touched sound sized ip full
  | closed ip => exact sized_uncountIp sized ip
  | _ => exact sized

end

def isLive : Connection → Bool
  | .live _ _ => true
  | .binding _ => true
  | .dropping _ => true
  | _ => false

def isPending : Connection → Bool
  | .overGlobal _ => true
  | .admitted _ => true
  | .overIp _ _ => true
  | _ => false

def guardOf : Connection → Option ConnectionGuard
  | .live guard _ => some guard
  | .dropping guard => some guard
  | _ => none

def isBound (ip : IpAddr) (connection : Connection) : Bool :=
  ((guardOf connection).bind ConnectionGuard.ip).map CanonicalIp.ip = some ip

def isReleasing (ip : IpAddr) : Connection → Bool
  | .releasing held => held.ip = ip
  | _ => false

def globalShare (connection : Connection) : Nat := (isLive connection).toNat + (isPending connection).toNat

def ipShare (ip : IpAddr) (connection : Connection) : Nat :=
  if ip.isUnspecified then 0 else (isBound ip connection).toNat + (isReleasing ip connection).toNat

section

variable (limits : Limits)

theorem uncountIp_currentConnections (tracker : ConnectionTracker) (ip : CountedIp) :
    (uncountIp tracker ip).currentConnections = tracker.currentConnections := by
  unfold uncountIp
  split
  · split_ifs
    · rfl
    · rfl
  · rfl

theorem act_global (tracker : ConnectionTracker) (connection : Connection) (signal : Signal)
    (held : globalShare connection ≤ tracker.currentConnections) :
    (act limits tracker connection signal).1.currentConnections + globalShare connection =
      tracker.currentConnections + globalShare (act limits tracker connection signal).2 := by
  have spec := act_cases limits tracker connection signal
  generalize act limits tracker connection signal = result at spec ⊢
  cases spec with
  | refusedGlobal current error => exact Nat.sub_add_cancel held
  | refusedIp ip current error => exact Nat.sub_add_cancel held
  | released guard ip bound => exact Nat.sub_add_cancel held
  | releasedUncounted guard free => exact Nat.sub_add_cancel held
  | closed ip =>
    rw [uncountIp_currentConnections]
    rfl
  | _ => rfl

theorem ipShare_held (ip : CountedIp) (answer : Except AcquireError Unit) (other : IpAddr) :
    ipShare other (.live ⟨some ip.toCanonicalIp⟩ answer) = if other = ip.ip then 1 else 0 := by
  unfold ipShare
  by_cases same : other = ip.ip
  · subst same
    simp [ip.specified, isBound, guardOf, isReleasing]
  · simp [isBound, guardOf, isReleasing, same, Ne.symm same]

theorem ipShare_dropping (guard : ConnectionGuard) (answer : Except AcquireError Unit) (ip : IpAddr) :
    ipShare ip (.dropping guard) = ipShare ip (.live guard answer) := rfl

theorem ipShare_releasing (ip : CountedIp) (other : IpAddr) :
    ipShare other (.releasing ip) = if other = ip.ip then 1 else 0 := by
  unfold ipShare
  by_cases same : other = ip.ip
  · subst same
    simp [ip.specified, isBound, guardOf, isReleasing]
  · simp [isBound, guardOf, isReleasing, same, Ne.symm same]

theorem ipShare_idle (ip : IpAddr) {connection : Connection} (guardless : guardOf connection = none)
    (released : isReleasing ip connection = false) : ipShare ip connection = 0 := by
  simp [ipShare, isBound, guardless, released]

theorem ipShare_uncounted {guard : ConnectionGuard} (free : guard.ip.bind CanonicalIp.counted = none)
    (answer : Except AcquireError Unit) (ip : IpAddr) : ipShare ip (.live guard answer) = 0 := by
  unfold ipShare
  split_ifs with unspecified
  · rfl
  · obtain ⟨_ | held⟩ := guard
    · rfl
    · have other : held.ip ≠ ip := by
        intro same
        subst same
        simp only [Option.bind_some, CanonicalIp.counted, dite_eq_right_iff, reduceCtorEq, imp_false] at free
        exact free (by simpa using unspecified)
      simp [isBound, guardOf, isReleasing, other]

theorem entry_raised {limits : Limits} (width : limits.maxConnectionsPerIp < 2 ^ 32) {tracker : ConnectionTracker}
    {address : IpAddr} (below : (tracker.entry address).toNat < limits.maxConnectionsPerIp) (ip : IpAddr) :
    ((tracker.setEntry address (tracker.entry address + 1)).entry ip).toNat =
      (tracker.entry ip).toNat + if ip = address then 1 else 0 := by
  rw [entry_setEntry]
  split_ifs with same
  · rw [same, toNat_succ width below]
  · rfl

theorem entry_touched (tracker : ConnectionTracker) (address ip : IpAddr) :
    (tracker.setEntry address (tracker.entry address)).entry ip = tracker.entry ip := by
  rw [entry_setEntry]
  split_ifs with same
  · rw [same]
  · rfl

theorem act_ip {limits : Limits} (width : limits.maxConnectionsPerIp < 2 ^ 32) (tracker : ConnectionTracker)
    (connection : Connection) (signal : Signal) (ip : IpAddr)
    (held : ipShare ip connection ≤ (tracker.entry ip).toNat) :
    ((act limits tracker connection signal).1.entry ip).toNat + ipShare ip connection =
      (tracker.entry ip).toNat + ipShare ip (act limits tracker connection signal).2 := by
  have none_held : ∀ answer, ipShare ip (.live ⟨none⟩ answer) = 0 := by
    intro answer
    exact ipShare_uncounted rfl answer ip
  have spec := act_cases limits tracker connection signal
  generalize act limits tracker connection signal = result at spec ⊢
  cases spec with
  | uncounted address room free =>
    rw [ipShare_uncounted free, ipShare_idle ip rfl rfl]
    rfl
  | acquired counted below => rw [entry_raised width below, ipShare_held, ipShare_idle ip rfl rfl, Nat.add_zero]
  | bound counted below => rw [entry_raised width below, ipShare_held, ipShare_idle ip rfl rfl, Nat.add_zero]
  | overIp counted full =>
    rw [entry_touched]
    rfl
  | bindRefused counted error full => rw [entry_touched, none_held, ipShare_idle ip rfl rfl]
  | bindCalled answer raw counted => rw [none_held, ipShare_idle ip rfl rfl]
  | released guard counted bound =>
    obtain ⟨_⟩ := guard
    cases bound
    rw [ipShare_dropping _ (.ok ()), ipShare_held, ipShare_releasing]
    rfl
  | releasedUncounted guard free =>
    rw [ipShare_dropping _ (.ok ()), ipShare_uncounted free, ipShare_idle ip rfl rfl]
    rfl
  | closed counted =>
    rw [ipShare_releasing] at held ⊢
    by_cases same : ip = counted.ip
    · subst same
      rw [if_pos rfl] at held ⊢
      rw [entry_uncountIp_self _ _ held, UInt32.toNat_sub_of_le _ 1 held, ipShare_idle _ rfl rfl]
      exact Nat.sub_add_cancel held
    · rw [entry_uncountIp_ne tracker same, if_neg same, ipShare_idle ip rfl rfl]
  | _ => rfl

end

def isAdmitted : Connection → Bool
  | .admitted _ => true
  | .overIp _ _ => true
  | connection => isLive connection

theorem act_admitted {limits : Limits} {tracker : ConnectionTracker} {connection : Connection} {signal : Signal}
    (after : isAdmitted (act limits tracker connection signal).2 = true) (before : isAdmitted connection = false) :
    tracker.currentConnections < limits.maxConnections := by
  have spec := act_cases limits tracker connection signal
  generalize act limits tracker connection signal = result at spec after
  cases spec with
  | admitted address counted room => exact room
  | uncounted address room free => exact room
  | nothing =>
    rw [before] at after
    cases after
  | _ => simp [isAdmitted, isLive] at after before

theorem admitted_le_share (connection : Connection) : (isAdmitted connection).toNat ≤ globalShare connection := by
  cases connection <;> simp [isAdmitted, globalShare, isLive, isPending]

/-- The counters are the sums of what the connections hold. -/
structure Balanced (limits : Limits) (gateway : Gateway) : Prop where
  sized : Sized limits gateway.shared
  global : gateway.shared.currentConnections = gateway.total globalShare
  perIp : ∀ ip, (gateway.shared.entry ip).toNat = gateway.total (ipShare ip)
  capacity : gateway.processes.countP isAdmitted ≤ limits.maxConnections

section

variable {limits : Limits}

theorem balanced_initial (limits : Limits) : Balanced limits initial := by
  refine ⟨?_, rfl, fun _ => rfl, Nat.zero_le _⟩
  intro ip count known
  cases known

theorem balanced_acted (sound : Sound limits) {gateway : Gateway} (balanced : Balanced limits gateway) {index : Nat}
    {connection : Connection} (present : gateway.processes[index]? = some connection) (signal : Signal) :
    Balanced limits (gateway.acted index (act limits gateway.shared connection signal)) := by
  constructor
  · exact act_sized sound balanced.sized connection signal
  · exact balance_acted ConnectionTracker.currentConnections balanced.global present
      (act_global limits gateway.shared connection signal)
  · intro ip
    exact balance_acted (fun tracker => (tracker.entry ip).toNat) (balanced.perIp ip) present
      (act_ip sound.2 gateway.shared connection signal ip)
  · apply capacity_acted balanced.capacity present admitted_le_share
    intro after before
    rw [← balanced.global]
    exact act_admitted after before

theorem balanced_step (sound : Sound limits) (gateway : Gateway) (label : Label (Option IpAddr) Signal)
    (balanced : Balanced limits gateway) : Balanced limits (step (connections limits) gateway label) := by
  cases label with
  | spawn ip =>
    refine ⟨balanced.sized, balance_spawned _ balanced.global rfl, ?_, ?_⟩
    · intro address
      have light : ipShare address ((connections limits).spawn ip) = 0 := ipShare_idle address rfl rfl
      exact balance_spawned (fun tracker : ConnectionTracker => (tracker.entry address).toNat) (balanced.perIp address) light
    · rw [step, countP_spawned rfl]
      exact balanced.capacity
  | act index signal =>
    cases present : gateway.processes[index]? with
    | none => simpa only [step, present] using balanced
    | some connection =>
      rw [step_act present]
      exact balanced_acted sound balanced present signal

theorem balanced_run (sound : Sound limits) (gateway : Gateway) (labels : List (Label (Option IpAddr) Signal))
    (balanced : Balanced limits gateway) : Balanced limits (run (step (connections limits)) gateway labels) := by
  have unconditional : Always (step (connections limits)) (fun _ _ => True) gateway labels :=
    always_mem _ (fun _ => True) gateway labels fun _ _ => trivial
  refine unconditional.invariant _ (Balanced limits) ?_ balanced
  intro state label _ kept
  exact balanced_step sound state label kept

/-- What the steps of a connection have changed in the counters is what it holds of them. -/
theorem net_shares (sound : Sound limits) (gateway : Gateway) (balanced : Balanced limits gateway) (index : Nat)
    (labels : List (Label (Option IpAddr) Signal)) :
    net (connections limits) ConnectionTracker.currentConnections index gateway labels =
      (run (step (connections limits)) gateway labels).weightAt globalShare index - gateway.weightAt globalShare index ∧
    ∀ ip, net (connections limits) (fun tracker => (tracker.entry ip).toNat) index gateway labels =
      (run (step (connections limits)) gateway labels).weightAt (ipShare ip) index - gateway.weightAt (ipShare ip) index := by
  constructor
  · refine net_eq (Balanced limits) (balanced_step sound) (fun _ => rfl) ?_ index labels gateway balanced
    intro system other connection signal holds present
    exact act_global limits system.shared connection signal (holds.global ▸ weight_le_total globalShare present)
  · intro ip
    refine net_eq (Balanced limits) (balanced_step sound) (fun _ => ipShare_idle ip rfl rfl) ?_ index labels gateway balanced
    intro system other connection signal holds present
    exact act_ip sound.2 system.shared connection signal ip (holds.perIp ip ▸ weight_le_total (ipShare ip) present)

end

def liveGuards (gateway : Gateway) : Nat := gateway.processes.countP isLive

def pendingAcquires (gateway : Gateway) : Nat := gateway.processes.countP isPending

def boundGuards (gateway : Gateway) (ip : IpAddr) : Nat := gateway.processes.countP (isBound ip)

def releasingDrops (gateway : Gateway) (ip : IpAddr) : Nat := gateway.processes.countP (isReleasing ip)

/-- The accounts of the gateway. The entry of an address also counts the guards whose drop has given back the
global permit and not yet the entry. -/
structure Accounted (limits : Limits) (gateway : Gateway) : Prop where
  capacity : liveGuards gateway ≤ limits.maxConnections
  global : gateway.shared.currentConnections = liveGuards gateway + pendingAcquires gateway
  perIp : ∀ ip, ip.isUnspecified = false →
    (gateway.shared.entry ip).toNat = boundGuards gateway ip + releasingDrops gateway ip
  perIpLimit : ∀ ip, (gateway.shared.entry ip).toNat ≤ limits.maxConnectionsPerIp
  unspecified : ∀ ip, ip.isUnspecified = true → gateway.shared.ipCounts.lookup ip = none
  noZero : ∀ ip, gateway.shared.ipCounts.lookup ip ≠ some 0

theorem balanced_accounted {limits : Limits} {gateway : Gateway} (balanced : Balanced limits gateway) :
    Accounted limits gateway := by
  have global : gateway.total globalShare = liveGuards gateway + pendingAcquires gateway := by
    unfold liveGuards pendingAcquires
    rw [← total_toNat, ← total_toNat, ← total_add]
    rfl
  constructor
  · apply le_trans _ balanced.capacity
    apply List.countP_mono_left
    intro connection _ live
    cases connection <;> first | rfl | cases live
  · exact balanced.global.trans global
  · intro ip specified
    have share : ipShare ip = fun connection => (isBound ip connection).toNat + (isReleasing ip connection).toNat := by
      funext connection
      simp [ipShare, specified]
    rw [balanced.perIp ip, share, total_add, total_toNat, total_toNat]
    rfl
  · exact entry_le balanced.sized
  · intro ip unspecified
    cases known : gateway.shared.ipCounts.lookup ip with
    | none => rfl
    | some count =>
      obtain ⟨-, -, specified⟩ := balanced.sized ip count known
      rw [specified] at unspecified
      cases unspecified
  · intro ip known
    exact absurd (balanced.sized ip 0 known).1 (by decide)

/-- In every schedule the accounts are right; what a refused `acquire` or `bind_ip` has changed in a counter, it
has changed back. -/
theorem gateway_accounting (limits : Limits) (positive : 1 ≤ limits.maxConnectionsPerIp)
    (width : limits.maxConnectionsPerIp < 2 ^ 32) (labels : List (Label (Option IpAddr) Signal)) :
    Accounted limits (run (step (connections limits)) initial labels) ∧
    (∀ index error, (run (step (connections limits)) initial labels).processes[index]? = some (.refused error) →
      net (connections limits) ConnectionTracker.currentConnections index initial labels = 0 ∧
      ∀ ip, net (connections limits) (fun tracker => (tracker.entry ip).toNat) index initial labels = 0) ∧
    ∀ index guard answer more error,
      (run (step (connections limits)) initial labels).processes[index]? = some (.live guard answer) →
      (run (step (connections limits)) (run (step (connections limits)) initial labels) more).processes[index]? =
        some (.live guard (.error error)) →
      net (connections limits) ConnectionTracker.currentConnections index
        (run (step (connections limits)) initial labels) more = 0 ∧
      ∀ ip, net (connections limits) (fun tracker => (tracker.entry ip).toNat) index
        (run (step (connections limits)) initial labels) more = 0 := by
  have sound : Sound limits := ⟨positive, width⟩
  have balanced := balanced_run sound initial labels (balanced_initial limits)
  refine ⟨balanced_accounted balanced, ?_, ?_⟩
  · intro index error refused
    obtain ⟨global, perIp⟩ := net_shares sound initial (balanced_initial limits) index labels
    constructor
    · rw [global, System.weightAt, refused]
      rfl
    · intro ip
      rw [perIp ip, System.weightAt, refused, Option.map_some, ipShare_idle ip rfl rfl]
      rfl
  · intro index guard answer more error before after
    obtain ⟨global, perIp⟩ := net_shares sound _ balanced index more
    constructor
    · rw [global, System.weightAt, after, System.weightAt, before]
      rfl
    · intro ip
      rw [perIp ip, System.weightAt, after, System.weightAt, before, Option.map_some, Option.map_some,
        ← ipShare_dropping guard answer ip, ← ipShare_dropping guard (.error error) ip]
      exact Int.sub_self _

def acquireAlone (ip : IpAddr) (index : Nat) : List (Label (Option IpAddr) Signal) :=
  [.spawn (some ip), .act index .advance, .act index .advance]

theorem gateway_accounting_refused :
    let limits : Limits := ⟨2, 1⟩
    let ip : IpAddr := .v4 0x0A000001
    let labels := acquireAlone ip 0 ++ acquireAlone ip 1 ++ [.act 1 .advance]
    (run (step (connections limits)) initial labels).processes[1]? = some (.refused (.ipLimitReached ip 1 1)) ∧
    Accounted limits (run (step (connections limits)) initial labels) ∧
    net (connections limits) ConnectionTracker.currentConnections 1 initial labels = 0 := by
  intro limits ip labels
  have refused : (run (step (connections limits)) initial labels).processes[1]? =
      some (.refused (.ipLimitReached ip 1 1)) := rfl
  have accounting := gateway_accounting limits (by decide) (by decide) labels
  exact ⟨refused, accounting.1, (accounting.2.1 1 _ refused).1⟩

theorem run_acquireAlone (limits : Limits) (gateway : Gateway) (ip : CountedIp)
    (room : gateway.shared.currentConnections < limits.maxConnections)
    (below : (gateway.shared.entry ip.ip).toNat < limits.maxConnectionsPerIp) :
    run (step (connections limits)) gateway (acquireAlone ip.ip gateway.processes.length) =
      ⟨gateway.shared.fetchAdd.setEntry ip.ip (gateway.shared.entry ip.ip + 1),
        gateway.processes ++ [.live ⟨some ip.toCanonicalIp⟩ (.ok ())]⟩ := by
  have admitted : act limits gateway.shared (.acquiring (some (canonical ip.ip))) .advance =
      (gateway.shared.fetchAdd, .admitted ip) := by
    simp [act, canonical_self, counted_self, Nat.not_le_of_lt room]
  have counted : act limits gateway.shared.fetchAdd (.admitted ip) .advance =
      (gateway.shared.fetchAdd.setEntry ip.ip (gateway.shared.entry ip.ip + 1),
        .live ⟨some ip.toCanonicalIp⟩ (.ok ())) := by
    have same : gateway.shared.fetchAdd.entry ip.ip = gateway.shared.entry ip.ip := rfl
    rw [act, countIp_room (same ▸ below), same]
  simp [run, acquireAlone, step, System.spawned, System.acted, connections, admitted, counted]

theorem run_acquireAlone_wide (limits : Limits) (wide : 2 ^ 32 ≤ limits.maxConnectionsPerIp) (ip : CountedIp)
    {gateway : Gateway} {count : Nat} (length : gateway.processes.length = count)
    (room : gateway.shared.currentConnections < limits.maxConnections) :
    run (step (connections limits)) gateway (acquireAlone ip.ip count) =
      ⟨gateway.shared.fetchAdd.setEntry ip.ip (gateway.shared.entry ip.ip + 1),
        gateway.processes ++ [.live ⟨some ip.toCanonicalIp⟩ (.ok ())]⟩ := by
  subst length
  exact run_acquireAlone limits gateway ip room ((UInt32.toNat_lt _).trans_le wide)

theorem acquires_wrap (limits : Limits) (wide : 2 ^ 32 ≤ limits.maxConnectionsPerIp) (ip : CountedIp) (count : Nat)
    (room : count ≤ limits.maxConnections) :
    let gateway := run (step (connections limits)) initial ((List.range count).flatMap (acquireAlone ip.ip))
    gateway.shared.currentConnections = count ∧ gateway.shared.entry ip.ip = UInt32.ofNat count ∧
      gateway.processes = List.replicate count (.live ⟨some ip.toCanonicalIp⟩ (.ok ())) := by
  induction count with
  | zero => exact ⟨rfl, rfl, rfl⟩
  | succ count ih =>
    obtain ⟨current, entry, processes⟩ := ih (Nat.le_of_succ_le room)
    rw [List.range_succ, List.flatMap_append, run_append, List.flatMap_singleton]
    generalize run (step (connections limits)) initial ((List.range count).flatMap (acquireAlone ip.ip)) = gateway at *
    have length : gateway.processes.length = count := by rw [processes, List.length_replicate]
    rw [run_acquireAlone_wide limits wide ip length (by omega)]
    refine ⟨congrArg (· + 1) current, ?_, ?_⟩
    · rw [entry_setEntry, if_pos rfl, entry]
      exact (UInt32.ofNat_add count 1).symm
    · rw [processes, List.replicate_succ']

/-- Between the two releases of a drop no count of live guards fits both counters, and an entry that has wrapped
does not count its guards. -/
theorem counters_differ_in_drop :
    (let ip : IpAddr := .v4 0x0A000001
    let gateway := run (step (connections ⟨1, 1⟩)) initial (acquireAlone ip 0 ++ [.act 0 .drop, .act 0 .advance])
    ∀ live : Connection → Bool,
      ¬(gateway.shared.currentConnections = gateway.processes.countP live + pendingAcquires gateway ∧
        (gateway.shared.entry ip).toNat =
          gateway.processes.countP fun connection =>
            live connection && (isBound ip connection || isReleasing ip connection))) ∧
    ∃ labels, let gateway := run (step (connections ⟨2 ^ 33, 2 ^ 33⟩)) initial labels
      let ip : IpAddr := .v4 0x0A000001
      gateway.shared.entry ip = 0 ∧ boundGuards gateway ip = 2 ^ 32 := by
  constructor
  · intro ip gateway live both
    have processes : gateway.processes = [.releasing ⟨canonical ip, rfl⟩] := rfl
    have none_live : live (.releasing ⟨canonical ip, rfl⟩) = false := by
      have counted := both.1
      rw [processes] at counted
      cases held : live (.releasing ⟨canonical ip, rfl⟩) with
      | false => rfl
      | true =>
        rw [List.countP_singleton, if_pos held] at counted
        have empty : gateway.shared.currentConnections = 0 := rfl
        omega
    have entries := both.2
    rw [processes, List.countP_singleton, none_live] at entries
    exact absurd entries (by decide)
  · let ip : CountedIp := ⟨canonical (.v4 0x0A000001), rfl⟩
    obtain ⟨-, entry, processes⟩ := acquires_wrap ⟨2 ^ 33, 2 ^ 33⟩ (by decide) ip (2 ^ 32) (by decide)
    refine ⟨(List.range (2 ^ 32)).flatMap (acquireAlone ip.ip), entry.trans rfl, ?_⟩
    rw [boundGuards, processes, List.countP_replicate]
    rfl

end Praeco.Connections.Accounting
