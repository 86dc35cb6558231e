import Praeco.Connections.Accounting
import Praeco.Net.Display

/-! Connections that are identified: what a guard contributes to the count of its client's address, whichever way the
address has come to it. -/

namespace Praeco.Connections.Identity
open Praeco.Net.Address Praeco.Schedule.Runs Praeco.Schedule.Processes Tracker Accounting

abbrev Schedule := List (Label (Option IpAddr) Signal)

section

variable (limits : Limits) (ip : IpAddr) (index : Nat)

def after (labels : Schedule) : Gateway := run (step (connections limits)) initial labels

/-- The guard under the index has the address from `acquire`, or from its first `bind_ip`, which has returned. -/
inductive Identified : Schedule → Prop
  | acquired (before later : Schedule) (fresh : (after limits before).processes.length = index) :
      Identified (before ++ .spawn (some ip) :: later)
  | bound (before between later : Schedule) (guard : ConnectionGuard)
      (anonymous : (after limits before).processes[index]? = some (.live ⟨none⟩ (.ok ())))
      (first : ∀ raw, .act index (.bindIp raw) ∉ before)
      (waiting : ∀ signal, .act index signal ∈ between → signal = .advance)
      (returned : (after limits (before ++ .act index (.bindIp ip) :: between)).processes[index]? =
        some (.live guard (.ok ()))) :
      Identified (before ++ .act index (.bindIp ip) :: (between ++ later))

def contribution (labels : Schedule) : Int :=
  net (connections limits) (fun tracker => (tracker.entry ip).toNat) index initial labels

/-- As long as it is not dropped, an identified guard contributes one to the count of its address. -/
def CountsOnce : Prop :=
  ∀ (labels : Schedule) (index : Nat) (guard : ConnectionGuard) (answer : Except AcquireError Unit),
    Identified limits ip index labels → (after limits labels).processes[index]? = some (.live guard answer) →
    contribution limits (canonicalClientIp ip) index labels = 1

end

/-- An address whose canonical form is unspecified: in the network of the unspecified address, apart from the loopback
address and the mapped ones, or the unspecified IPv4 address, mapped or not. -/
def Vanishing : IpAddr → Prop
  | .v4 addr => addr = 0
  | .v6 s0 s1 s2 s3 s4 s5 s6 s7 =>
    (s0 = 0 ∧ s1 = 0 ∧ s2 = 0 ∧ s3 = 0) ∧ ¬(s4 = 0 ∧ s5 = 0 ∧ s6 = 0 ∧ s7 = 1) ∧
      (s4 = 0 ∧ s5 = 0xffff → s6 = 0 ∧ s7 = 0)

instance : DecidablePred Vanishing
  | .v4 addr => inferInstanceAs (Decidable (addr = 0))
  | .v6 .. => inferInstanceAs (Decidable (_ ∧ _ ∧ _))

theorem isUnspecified_v4 (addr : UInt32) : (IpAddr.v4 addr).isUnspecified = true ↔ addr = 0 := by
  unfold IpAddr.isUnspecified
  split <;> simp_all

theorem isUnspecified_v6 (s0 s1 s2 s3 s4 s5 s6 s7 : UInt16) :
    (IpAddr.v6 s0 s1 s2 s3 s4 s5 s6 s7).isUnspecified = true ↔
      (s0 = 0 ∧ s1 = 0 ∧ s2 = 0 ∧ s3 = 0) ∧ s4 = 0 ∧ s5 = 0 ∧ s6 = 0 ∧ s7 = 0 := by
  unfold IpAddr.isUnspecified
  split
  · simp_all
  · simp_all
  · rename_i other
    simp only [Bool.false_eq_true, false_iff]
    rintro ⟨⟨rfl, rfl, rfl, rfl⟩, rfl, rfl, rfl, rfl⟩
    exact other rfl

theorem canonical_unspecified_iff (ip : IpAddr) : (canonicalClientIp ip).isUnspecified = true ↔ Vanishing ip := by
  unfold canonicalClientIp
  split
  · exact isUnspecified_v4 _
  · rename_i s6 s7
    rw [isUnspecified_v4]
    constructor
    · intro zero
      obtain ⟨rfl, rfl⟩ := Praeco.Net.Display.halves_join s6 s7 0 zero
      decide
    · rintro ⟨-, -, mapped⟩
      obtain ⟨rfl, rfl⟩ := mapped ⟨rfl, rfl⟩
      rfl
  · decide
  · decide
  · rename_i s0 s1 s2 s3 s4 s5 s6 s7 unmapped other _
    rw [isUnspecified_v6]
    simp only [Vanishing, and_self, and_true]
    constructor
    · rintro ⟨rfl, rfl, rfl, rfl⟩
      refine ⟨⟨rfl, rfl, rfl, rfl⟩, ?_, ?_⟩
      · rintro ⟨rfl, rfl, rfl, rfl⟩
        exact other rfl rfl rfl rfl rfl rfl rfl rfl
      · rintro ⟨rfl, rfl⟩
        exact absurd (unmapped rfl rfl rfl rfl rfl) (not_not.mpr rfl)
    · rintro ⟨zero, -, -⟩
      exact zero

/-! What a connection that has an address of its own can become. -/

def Carries (ip : CountedIp) : Connection → Prop
  | .acquiring held => held = some ip.toCanonicalIp
  | .admitted held => held = ip
  | .overIp held _ => held = ip
  | .live guard _ => guard.ip = some ip.toCanonicalIp
  | .binding _ => False
  | .dropping guard => guard.ip = some ip.toCanonicalIp
  | .releasing held => held = ip
  | _ => True

variable (limits : Limits)

theorem carries_act (ip : CountedIp) (tracker : ConnectionTracker) (connection : Connection) (signal : Signal)
    (carries : Carries ip connection) : Carries ip (act limits tracker connection signal).2 := by
  unfold act
  split
  · obtain rfl : _ = some ip.toCanonicalIp := carries
    dsimp only
    split_ifs
    · trivial
    · rw [Option.bind_some, counted_self]
      rfl
  · trivial
  · obtain rfl : _ = ip := carries
    split
    · rfl
    · rfl
  · trivial
  · rename_i guard answer raw
    have held : guard.ip = some ip.toCanonicalIp := carries
    rw [held]
    split
    · rename_i other
      cases other
    · exact held
  · exact carries.elim
  · exact carries
  · rename_i guard
    have held : guard.ip = some ip.toCanonicalIp := carries
    rw [afterRelease, held, Option.bind_some, canonical_self, counted_self]
    rfl
  · trivial
  · exact carries

def Binds (ip : CountedIp) : Connection → Prop
  | .binding held => held = ip
  | .live guard (.ok _) => guard.ip = some ip.toCanonicalIp
  | .live _ (.error _) => True
  | _ => False

theorem binds_act (ip : CountedIp) (tracker : ConnectionTracker) (connection : Connection) (signal : Signal)
    (advance : signal = .advance) (binds : Binds ip connection) :
    Binds ip (act limits tracker connection signal).2 := by
  subst advance
  cases connection with
  | binding held =>
    obtain rfl : held = ip := binds
    rcases Nat.lt_or_ge (tracker.entry held.ip).toNat limits.maxConnectionsPerIp with below | full
    · rw [act, countIp_room below]
      rfl
    · rw [act, countIp_full full]
      trivial
  | live guard answer => exact binds
  | _ => exact binds.elim

theorem after_append (first second : Schedule) :
    after limits (first ++ second) = run (step (connections limits)) (after limits first) second :=
  run_append _ _ _ _

theorem Identified.carries {limits : Limits} {raw : IpAddr} {index : Nat} {labels : Schedule} {ip : CountedIp}
    (counted : canonical raw = ip.toCanonicalIp) (identified : Identified limits raw index labels) :
    ∃ connection, (after limits labels).processes[index]? = some connection ∧ Carries ip connection := by
  have kept (tracker : ConnectionTracker) (connection : Connection) (signal : Signal) (_ : True) :=
    carries_act limits ip tracker connection signal
  cases identified with
  | acquired before later fresh =>
    rw [after_append]
    have start : (step (connections limits) (after limits before) (.spawn (some raw))).processes[index]? =
        some (.acquiring (some ip.toCanonicalIp)) := by
      rw [step, lookup_spawned, if_pos fresh.symm, ← counted]
      rfl
    exact follow (connections limits) (Carries ip) (fun _ => True) kept later (fun _ _ => trivial) start rfl
  | bound before between later guard anonymous first waiting returned =>
    have called : (step (connections limits) (after limits before) (.act index (.bindIp raw))).processes[index]? =
        some (.binding ip) := by
      rw [step_act anonymous, lookup_acted anonymous, if_pos rfl]
      simp [connections, act, counted, counted_self]
    rw [after_append] at returned
    obtain ⟨connection, answered, binds⟩ := follow (connections limits) (Binds ip) (· = .advance)
      (binds_act limits ip) between waiting called rfl
    obtain rfl : connection = .live guard (.ok ()) := Option.some.inj (answered.symm.trans returned)
    have whole : before ++ .act index (.bindIp raw) :: (between ++ later) =
        (before ++ .act index (.bindIp raw) :: between) ++ later := by simp
    rw [whole, after_append, after_append]
    exact follow (connections limits) (Carries ip) (fun _ => True) kept later (fun _ _ => trivial) returned binds

def PerIp (gateway : Gateway) : Prop := ∀ ip, (gateway.shared.entry ip).toNat = gateway.total (ipShare ip)

theorem perIp_step {limits : Limits} (width : limits.maxConnectionsPerIp < 2 ^ 32) (gateway : Gateway)
    (label : Label (Option IpAddr) Signal) (perIp : PerIp gateway) :
    PerIp (step (connections limits) gateway label) := by
  intro ip
  cases label with
  | spawn start =>
    exact balance_spawned (fun tracker : ConnectionTracker => (tracker.entry ip).toNat) (perIp ip)
      (ipShare_idle ip rfl rfl)
  | act index signal =>
    cases present : gateway.processes[index]? with
    | none => simpa only [step, present] using perIp ip
    | some connection =>
      rw [step_act present]
      exact balance_acted (fun tracker => (tracker.entry ip).toNat) (perIp ip) present
        (act_ip width gateway.shared connection signal ip)

theorem contribution_eq {limits : Limits} (width : limits.maxConnectionsPerIp < 2 ^ 32) (ip : IpAddr) (index : Nat)
    (labels : Schedule) : contribution limits ip index labels = (after limits labels).weightAt (ipShare ip) index := by
  have account : net (connections limits) (fun tracker => (tracker.entry ip).toNat) index initial labels =
      (after limits labels).weightAt (ipShare ip) index - initial.weightAt (ipShare ip) index := by
    refine net_eq PerIp (perIp_step width) (fun _ => ipShare_idle ip rfl rfl) ?_ index labels initial fun _ => rfl
    intro system other connection signal perIp present
    exact act_ip width system.shared connection signal ip (perIp ip ▸ weight_le_total (ipShare ip) present)
  exact account.trans (Int.sub_zero _)

theorem counts_once {limits : Limits} (width : limits.maxConnectionsPerIp < 2 ^ 32) {raw : IpAddr} {ip : CountedIp}
    (counted : canonical raw = ip.toCanonicalIp) : CountsOnce limits raw := by
  intro labels index guard answer identified live
  obtain ⟨connection, present, carries⟩ := identified.carries counted
  obtain rfl : connection = .live guard answer := Option.some.inj (present.symm.trans live)
  obtain ⟨held⟩ := guard
  obtain rfl : held = some ip.toCanonicalIp := carries
  have same : canonicalClientIp raw = ip.ip := congrArg CanonicalIp.ip counted
  rw [contribution_eq width, System.weightAt, live, Option.map_some, ipShare_held, if_pos same]
  rfl

theorem no_guard {limits : Limits} (none_allowed : limits.maxConnections = 0) (labels : Schedule) (index : Nat)
    (connection : Connection) (present : (after limits labels).processes[index]? = some connection) :
    isAdmitted connection = false := by
  have reached : Reachable (step (connections limits)) (fun _ _ => True) initial (after limits labels) :=
    Always.reachable _ (always_mem _ (fun _ => True) initial labels fun _ _ => trivial)
  refine reachable_induction (fun _ _ => True) initial (fun gateway => ∀ (other : Nat) (process : Connection),
    gateway.processes[other]? = some process → isAdmitted process = false) ?_ ?_ ?_ reached index connection present
  · intro other process known
    cases known
  · intro gateway start _ ih other process known
    rw [lookup_spawned] at known
    split_ifs at known
    · cases known
      rfl
    · exact ih other process known
  · intro gateway mover process signal here _ ih other result known
    rw [lookup_acted here] at known
    split_ifs at known
    · cases known
      by_contra admitted
      have room := act_admitted (Bool.eq_true_of_not_eq_false admitted) (ih mover process here)
      omega
    · exact ih other result known

def releaseAlone (ip : IpAddr) (index : Nat) : Schedule :=
  acquireAlone ip index ++ [.act index .drop, .act index .advance]

theorem run_release (tracker : ConnectionTracker) (processes : List Connection) (ip : CountedIp)
    (answer : Except AcquireError Unit) :
    run (step (connections limits)) ⟨tracker, processes ++ [.live ⟨some ip.toCanonicalIp⟩ answer]⟩
        [.act processes.length .drop, .act processes.length .advance] =
      ⟨tracker.fetchSub, processes ++ [.releasing ip]⟩ := by
  simp [run, step, System.acted, connections, act, afterRelease, canonical_self, counted_self]

theorem releases_wrap (wide : 2 ^ 32 ≤ limits.maxConnectionsPerIp) (some_allowed : 0 < limits.maxConnections)
    (ip : CountedIp) (count : Nat) :
    (after limits ((List.range count).flatMap (releaseAlone ip.ip))).shared.currentConnections = 0 ∧
      (after limits ((List.range count).flatMap (releaseAlone ip.ip))).shared.entry ip.ip = UInt32.ofNat count ∧
      (after limits ((List.range count).flatMap (releaseAlone ip.ip))).processes =
        List.replicate count (.releasing ip) := by
  induction count with
  | zero => exact ⟨rfl, rfl, rfl⟩
  | succ count ih =>
    rw [List.range_succ, List.flatMap_append, after_append, List.flatMap_singleton, releaseAlone, run_append]
    generalize after limits ((List.range count).flatMap (releaseAlone ip.ip)) = gateway at ih ⊢
    obtain ⟨current, entry, processes⟩ := ih
    have length : gateway.processes.length = count := by rw [processes, List.length_replicate]
    have released := run_release limits (gateway.shared.fetchAdd.setEntry ip.ip (gateway.shared.entry ip.ip + 1))
      gateway.processes ip (.ok ())
    rw [length] at released
    rw [run_acquireAlone_wide limits wide ip length (by omega), released]
    refine ⟨current, ?_, ?_⟩
    · change (gateway.shared.fetchAdd.setEntry ip.ip (gateway.shared.entry ip.ip + 1)).entry ip.ip = _
      rw [entry_setEntry, if_pos rfl, entry]
      exact (UInt32.ofNat_add count 1).symm
    · rw [processes, List.replicate_succ']

theorem vanishing_uncounted (some_allowed : 0 < limits.maxConnections) (ip : IpAddr) (vanishing : Vanishing ip) :
    ¬CountsOnce limits ip := by
  intro counts
  have uncounted : (canonical ip).counted = none := by
    apply dif_neg
    rw [Bool.not_eq_false]
    exact (canonical_unspecified_iff ip).mpr vanishing
  have admitted : act limits .new (.acquiring (some (canonical ip))) .advance =
      (ConnectionTracker.fetchAdd .new, .live ⟨some (canonical ip)⟩ (.ok ())) := by
    have room : ¬limits.maxConnections ≤ ConnectionTracker.new.currentConnections := Nat.not_le_of_lt some_allowed
    simp [act, room, uncounted]
  have reached : after limits [.spawn (some ip), .act 0 .advance] =
      ⟨ConnectionTracker.fetchAdd .new, [.live ⟨some (canonical ip)⟩ (.ok ())]⟩ := by
    simp [after, run, step, System.spawned, System.acted, connections, initial, admitted]
  have one := counts [.spawn (some ip), .act 0 .advance] 0 ⟨some (canonical ip)⟩ (.ok ())
    (.acquired [] [.act 0 .advance] rfl) (by rw [reached]; rfl)
  have none_added : contribution limits (canonicalClientIp ip) 0 [.spawn (some ip), .act 0 .advance] = 0 := by
    rw [contribution, net_alone 0 initial _ (by simp)]
    change (((after limits [.spawn (some ip), .act 0 .advance]).shared.entry (canonicalClientIp ip)).toNat : Int) -
      _ = 0
    rw [reached]
    rfl
  omega

theorem wide_uncounted (wide : 2 ^ 32 ≤ limits.maxConnectionsPerIp) (some_allowed : 0 < limits.maxConnections)
    (raw : IpAddr) (ip : CountedIp) (counted : canonical raw = ip.toCanonicalIp) : ¬CountsOnce limits raw := by
  intro counts
  obtain ⟨count, last⟩ : ∃ count, count + 1 = 2 ^ 32 := ⟨2 ^ 32 - 1, by decide⟩
  obtain ⟨current, entry, processes⟩ := releases_wrap limits wide some_allowed ip count
  have others : ∀ signal, .act count signal ∉ (List.range count).flatMap (releaseAlone ip.ip) := by
    intro signal member
    obtain ⟨index, inside, known⟩ := List.mem_flatMap.mp member
    have bound := List.mem_range.mp inside
    simp only [releaseAlone, acquireAlone, List.cons_append, List.nil_append, List.mem_cons, List.not_mem_nil, or_false,
      reduceCtorEq, false_or, Label.act.injEq] at known
    omega
  generalize labels : (List.range count).flatMap (releaseAlone ip.ip) = before at current entry processes others
  generalize reached : after limits before = gateway at current entry processes
  have length : gateway.processes.length = count := by rw [processes, List.length_replicate]
  have acquired :
      run (step (connections limits)) gateway [.spawn (some raw), .act count .advance, .act count .advance] =
      ⟨gateway.shared.fetchAdd.setEntry ip.ip (gateway.shared.entry ip.ip + 1),
        gateway.processes ++ [.live ⟨some ip.toCanonicalIp⟩ (.ok ())]⟩ := by
    rw [← run_acquireAlone_wide limits wide ip length (by omega), acquireAlone]
    have same : step (connections limits) gateway (.spawn (some raw)) =
        step (connections limits) gateway (.spawn (some ip.ip)) := by
      simp [step, connections, counted, canonical_self]
    simp only [run, List.foldl_cons, same]
  have one := counts (before ++ [.spawn (some raw), .act count .advance, .act count .advance]) count
    ⟨some ip.toCanonicalIp⟩ (.ok ()) (.acquired before _ (by rw [reached, length]))
    (by rw [after_append, reached, acquired, ← length]; exact List.getElem?_concat_length)
  have same : canonicalClientIp raw = ip.ip := congrArg CanonicalIp.ip counted
  have full : (gateway.shared.entry ip.ip).toNat = count := by
    rw [entry, UInt32.toNat_ofNat']
    omega
  have wrapped : gateway.shared.entry ip.ip + 1 = 0 := by
    rw [entry, ← UInt32.ofNat_one, ← UInt32.ofNat_add, last]
    rfl
  have taken : contribution limits ip.ip count
      (before ++ [.spawn (some raw), .act count .advance, .act count .advance]) = -count := by
    rw [contribution, net_append, net_others count initial before others]
    change 0 + net _ _ count (after limits before) _ = _
    rw [reached, net_alone count gateway _ (by simp), acquired]
    simp only [entry_setEntry, if_true, wrapped, full]
    simp
  rw [same, taken] at one
  omega

/-- Identified guards are counted once if the canonical form of the address is not unspecified and the limit fits an
entry, and in no other case in which there are guards at all. -/
theorem countsOnce_iff (limits : Limits) (ip : IpAddr) :
    CountsOnce limits ip ↔
      limits.maxConnections = 0 ∨ (¬Vanishing ip ∧ limits.maxConnectionsPerIp < 2 ^ 32) := by
  have counted (present : ¬Vanishing ip) : ∃ held : CountedIp, canonical ip = held.toCanonicalIp := by
    have known : (canonicalClientIp ip).isUnspecified = false := by
      rw [← Bool.not_eq_true, canonical_unspecified_iff]
      exact present
    exact ⟨⟨canonical ip, known⟩, rfl⟩
  constructor
  · intro counts
    by_contra other
    push Not at other
    have some_allowed : 0 < limits.maxConnections := by omega
    by_cases vanishing : Vanishing ip
    · exact vanishing_uncounted limits some_allowed ip vanishing counts
    · obtain ⟨held, same⟩ := counted vanishing
      exact wide_uncounted limits (other.2 vanishing) some_allowed ip held same counts
  · rintro (none_allowed | ⟨present, width⟩)
    · intro labels index guard answer _ live
      have admitted := no_guard none_allowed labels index _ live
      cases admitted
    · obtain ⟨held, same⟩ := counted present
      exact counts_once width same

/-- The client `::2` stands for the network of the unspecified address and is not counted, neither way. -/
theorem vanishing_client :
    let ip : IpAddr := .v6 0 0 0 0 0 0 0 2
    let acquired : Schedule := [.spawn (some ip), .act 0 .advance]
    let bound : Schedule := [.spawn none, .act 0 .advance, .act 0 (.bindIp ip)]
    ip.isUnspecified = false ∧
      (after ⟨1, 1⟩ acquired).processes[0]? = some (.live ⟨some (canonical ip)⟩ (.ok ())) ∧
      contribution ⟨1, 1⟩ (canonicalClientIp ip) 0 acquired = 0 ∧
      (after ⟨1, 1⟩ bound).processes[0]? = some (.live ⟨none⟩ (.ok ())) ∧
      contribution ⟨1, 1⟩ (canonicalClientIp ip) 0 bound = 0 :=
  ⟨rfl, rfl, rfl, rfl, rfl⟩

end Praeco.Connections.Identity
