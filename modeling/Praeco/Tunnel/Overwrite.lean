import Praeco.Tunnel.Registry

/-! The overwrite protection of the relay. The check finds no tunnel under a name that is free, but nothing keeps
the name free until the insertion: protection holds as long as no connection inserts under a name for which another
one is between its check and its insertion. -/

namespace Praeco.Tunnel.Overwrite
open Praeco.Strings Utf8 Praeco.Streams Reading Praeco.Schedule.Runs Praeco.Schedule.Processes
open Praeco.Tunnel.Register Registry

variable {unicode : Alphanumerics} {enableProxyProtocol : Bool}

/-- The name for which a connection has passed the check but not inserted its entry yet. -/
def pendingName : Connection unicode → Option Text
  | .registering admitted _ => some admitted.sni
  | .inserting tunnel => some tunnel.admitted.sni
  | _ => none

def insertingName : Connection unicode → Option Text
  | .inserting tunnel => some tunnel.admitted.sni
  | _ => none

def runningEntry : Connection unicode → Option (Text × TunnelRoute)
  | .registered .running tunnel => some (tunnel.admitted.sni, tunnel.route)
  | _ => none

def KeepsRunning (enableProxyProtocol : Bool) (system : ControlPlane unicode)
    (label : Label (List Text × Source UInt8) Signal) : Prop :=
  ∀ index < system.processes.length, ∀ entry ∈ system.processes[index]?.bind runningEntry,
    system.shared.tunnels.lookup entry.1 = some entry.2 →
    (step (controlPlane unicode enableProxyProtocol) system label).shared.tunnels.lookup entry.1 = some entry.2

/-- No insertion under a name for which another registration is under way. -/
def Undisturbed (system : ControlPlane unicode) : Label (List Text × Source UInt8) Signal → Prop
  | .spawn _ => True
  | .act index _ => ∀ sni ∈ system.processes[index]?.bind insertingName, ∀ other < system.processes.length,
      other ≠ index → system.processes[other]?.bind pendingName ≠ some sni

instance (system : ControlPlane unicode) (label : Label (List Text × Source UInt8) Signal) :
    Decidable (KeepsRunning enableProxyProtocol system label) :=
  inferInstanceAs (Decidable (∀ index < system.processes.length, ∀ entry ∈ system.processes[index]?.bind runningEntry,
    system.shared.tunnels.lookup entry.1 = some entry.2 →
    (step (controlPlane unicode enableProxyProtocol) system label).shared.tunnels.lookup entry.1 = some entry.2))

instance (system : ControlPlane unicode) :
    (label : Label (List Text × Source UInt8) Signal) → Decidable (Undisturbed system label)
  | .spawn _ => .isTrue trivial
  | .act index _ => inferInstanceAs (Decidable (∀ sni ∈ system.processes[index]?.bind insertingName,
      ∀ other < system.processes.length, other ≠ index → system.processes[other]?.bind pendingName ≠ some sni))

def controlOf : Connection unicode → Option Nat
  | .registering _ control => some control
  | .inserting tunnel => some tunnel.control
  | .registered _ tunnel => some tunnel.control
  | _ => none

def openControl : Connection unicode → Option Nat
  | .registered .closed _ => none
  | connection => controlOf connection

/-- Receivers that are held are not closed, a name with a registration under way has no entry, and the entry of a
connection stays until the connection takes it out. -/
structure Protected (system : ControlPlane unicode) : Prop where
  owned : Owned system
  numbered : Numbered controlOf Relay.channels system
  made : ∀ control ∈ system.shared.closed, control < system.shared.channels
  opened : ∀ (index control : Nat), system.processes[index]?.bind openControl = some control →
    control ∉ system.shared.closed
  free : ∀ (index : Nat) (sni : Text), system.processes[index]?.bind pendingName = some sni →
    system.shared.tunnels.lookup sni = none
  kept : ∀ (index : Nat) (connection : Connection unicode) (sni : Text) (route : TunnelRoute),
    system.processes[index]? = some connection → connection.Holds sni route →
    system.shared.tunnels.lookup sni = some route

variable {connection : Connection unicode} {system : ControlPlane unicode}

theorem controlOf_of_openControl {control : Nat} (held : openControl connection = some control) :
    controlOf connection = some control := by
  unfold openControl at held
  split at held
  · cases held
  · exact held

theorem numbered_control {index : Nat} {result : Relay × Connection unicode}
    (numbered : Numbered controlOf Relay.channels system) (present : system.processes[index]? = some connection)
    (spec : Acted enableProxyProtocol system.shared connection result) :
    Numbered controlOf Relay.channels (system.acted index result) := by
  apply numbered.acted present
  cases spec with
  | passed admitted free => exact Or.inr ⟨rfl, rfl⟩
  | _ => exact Or.inl ⟨rfl, rfl⟩

namespace Protected

variable {system : ControlPlane unicode} {index : Nat} {connection : Connection unicode}
  {result : Relay × Connection unicode}

/-- Entries whose receiver is gone do not occur: the removal comes before the end of the task. -/
theorem occupied (protection : Protected system) (sni : Text) (route : TunnelRoute)
    (found : system.shared.tunnels.lookup sni = some route) : system.shared.occupied sni = true := by
  obtain ⟨index, connection, there, holds⟩ := protection.owned sni route found
  obtain ⟨stage, tunnel, rfl, stays, _, own⟩ := holds.registered
  have held : system.processes[index]?.bind openControl = some tunnel.control := by
    rw [there]
    rcases stays with rfl | rfl <;> rfl
  have isOpen := protection.opened index tunnel.control held
  have channel : route.control = tunnel.control := by rw [← own, RegisteredTunnel.route]
  rw [Relay.occupied, found]
  exact decide_eq_true (channel ▸ isOpen)

theorem unique (protection : Protected system) {first second : Nat} {one two : Connection unicode} {sni : Text}
    {route route' : TunnelRoute} (here : system.processes[first]? = some one)
    (there : system.processes[second]? = some two) (holds : one.Holds sni route) (holds' : two.Holds sni route') :
    first = second := by
  have same := (protection.kept first one sni route here holds).symm.trans
    (protection.kept second two sni route' there holds')
  obtain ⟨_, tunnel, rfl, _, _, own⟩ := holds.registered
  obtain ⟨_, tunnel', rfl, _, _, own'⟩ := holds'.registered
  have channel : tunnel.control = tunnel'.control :=
    congrArg TunnelRoute.control (own.trans ((Option.some.inj same).trans own'.symm))
  apply protection.numbered.distinct first second tunnel'.control
  · rw [here]
    exact congrArg some channel
  · rw [there]
    rfl

variable (protection : Protected system) (present : system.processes[index]? = some connection)
  (spec : Acted enableProxyProtocol system.shared connection result)

include protection present spec

theorem made_acted : ∀ control ∈ result.1.closed, control < result.1.channels := by
  intro control member
  cases spec with
  | passed admitted free => exact Nat.lt_succ_of_lt (protection.made control member)
  | finished tunnel =>
    rcases List.mem_cons.mp member with rfl | earlier
    · apply protection.numbered.below index tunnel.control
      rw [present]
      rfl
    · exact protection.made control earlier
  | _ => exact protection.made control member

theorem opened_acted (other control : Nat)
    (held : (system.acted index result).processes[other]?.bind openControl = some control) :
    control ∉ result.1.closed := by
  have own : system.processes[index]?.bind openControl = openControl connection := by rw [present, Option.bind_some]
  rw [bind_acted openControl present] at held
  cases spec with
  | passed admitted free =>
    split_ifs at held with here
    · cases held
      exact fun member => lt_irrefl _ (protection.made _ member)
    · exact protection.opened other control held
  | finished tunnel =>
    split_ifs at held with here
    · cases held
    · intro member
      rcases List.mem_cons.mp member with rfl | earlier
      · refine here (protection.numbered.distinct other index tunnel.control ?_ ?_)
        · obtain ⟨holder, there, holds⟩ := Option.bind_eq_some_iff.mp held
          rw [there]
          exact controlOf_of_openControl holds
        · rw [present]
          rfl
      · exact protection.opened other control held earlier
  | _ =>
    split_ifs at held with here
    · exact protection.opened index control (own.trans held)
    · exact protection.opened other control held

theorem free_acted (signal : Signal)
    (undisturbed : Undisturbed system (.act index signal)) (other : Nat) (sni : Text)
    (pending : (system.acted index result).processes[other]?.bind pendingName = some sni) :
    result.1.tunnels.lookup sni = none := by
  have own : system.processes[index]?.bind pendingName = pendingName connection := by rw [present, Option.bind_some]
  rw [bind_acted pendingName present] at pending
  cases spec with
  | passed admitted free =>
    split_ifs at pending with here
    · cases pending
      by_contra taken
      obtain ⟨route, found⟩ := Option.ne_none_iff_exists'.mp taken
      rw [protection.occupied _ route found] at free
      cases free
    · exact protection.free other sni pending
  | inserted tunnel =>
    split_ifs at pending with here
    · cases pending
    · -- Only this connection has a registration under way for the name it inserts.
      have apart : sni ≠ tunnel.admitted.sni := by
        rintro rfl
        have bound : other < system.processes.length := by
          obtain ⟨holder, there, _⟩ := Option.bind_eq_some_iff.mp pending
          exact (List.getElem?_eq_some_iff.mp there).1
        refine undisturbed tunnel.admitted.sni ?_ other bound here pending
        rw [present]
        rfl
      rw [lookup_insert, if_neg apart]
      exact protection.free other sni pending
  | removed tunnel =>
    split_ifs at pending with here
    · cases pending
    · have none := protection.free other sni pending
      rw [lookup_removeIf]
      split_ifs with same
      · rw [← same, none]
        rfl
      · exact none
  | _ =>
    split_ifs at pending with here
    · exact protection.free index sni (own.trans pending)
    · exact protection.free other sni pending

theorem kept_acted (other : Nat) (holder : Connection unicode)
    (sni : Text) (route : TunnelRoute) (there : (system.acted index result).processes[other]? = some holder)
    (holds : holder.Holds sni route) : result.1.tunnels.lookup sni = some route := by
  rw [lookup_acted present] at there
  cases spec with
  | inserted tunnel =>
    rw [lookup_insert]
    split_ifs at there with here
    · cases there
      obtain ⟨rfl, rfl⟩ := holds
      exact if_pos rfl
    · have before := protection.kept other holder sni route there holds
      split_ifs with same
      · -- The name of a registration under way has no entry.
        have free := protection.free index tunnel.admitted.sni (by rw [present]; rfl)
        cases before.symm.trans (same ▸ free)
      · exact before
  | removed tunnel =>
    split_ifs at there with here
    · cases there
      exact holds.elim
    · rw [lookup_removeIf, if_neg fun same => here (protection.unique there present holds ⟨same.symm, rfl⟩)]
      exact protection.kept other holder sni route there holds
  | ended tunnel | idle connection =>
    split_ifs at there with here
    · cases there
      exact protection.kept index _ sni route present holds
    · exact protection.kept other holder sni route there holds
  | _ =>
    split_ifs at there with here
    · cases there
      exact holds.elim
    · exact protection.kept other holder sni route there holds

end Protected

theorem reachable_protected
    (reachable : Reachable (step (controlPlane unicode enableProxyProtocol)) Undisturbed (initial unicode) system) :
    Protected system := by
  refine reachable_induction Undisturbed (initial unicode) Protected ?_ ?_ ?_ reachable
  · refine ⟨?_, ⟨?_, ?_⟩, ?_, ?_, ?_, nofun⟩
    · intro sni route found
      cases found
    · intro index n held
      cases held
    · intro first second n held
      cases held
    · intro control member
      cases member
    · intro index control held
      cases held
    · intro index sni pending
      cases pending
  · intro system start _ protection
    refine ⟨protection.owned.spawned _, protection.numbered.spawned rfl, protection.made, ?_, ?_, ?_⟩
    · intro index control
      rw [bind_spawned openControl rfl]
      exact protection.opened index control
    · intro index sni
      rw [bind_spawned pendingName rfl]
      exact protection.free index sni
    · intro index connection sni route there holds
      rw [lookup_spawned] at there
      split_ifs at there
      · cases there
        exact holds.elim
      · exact protection.kept index connection sni route there holds
  · intro system index connection signal present undisturbed protection
    have spec := act_cases enableProxyProtocol system.shared connection signal
    exact ⟨protection.owned.acted present spec, numbered_control protection.numbered present spec,
      protection.made_acted present spec, protection.opened_acted present spec,
      protection.free_acted present spec signal undisturbed, protection.kept_acted present spec⟩

theorem runningEntry_some {entry : Text × TunnelRoute} (running : runningEntry connection = some entry) :
    ∃ tunnel, connection = .registered .running tunnel ∧ entry = (tunnel.admitted.sni, tunnel.route) := by
  unfold runningEntry at running
  split at running
  · exact ⟨_, rfl, (Option.some.inj running).symm⟩
  · cases running

theorem Protected.keepsRunning (protection : Protected system) (label : Label (List Text × Source UInt8) Signal) :
    KeepsRunning enableProxyProtocol system label := by
  intro index _ entry running found
  obtain ⟨connection, there, own⟩ := Option.bind_eq_some_iff.mp running
  obtain ⟨owner, rfl, rfl⟩ := runningEntry_some own
  cases label with
  | spawn start => exact found
  | act other signal =>
    cases present : system.processes[other]? with
    | none => simpa only [step, present] using found
    | some connection =>
      rw [step_act present]
      have spec := act_cases enableProxyProtocol system.shared connection signal
      change (act unicode enableProxyProtocol system.shared connection signal).1.tunnels.lookup owner.admitted.sni =
        some owner.route
      generalize act unicode enableProxyProtocol system.shared connection signal = result at spec ⊢
      cases spec with
      | inserted tunnel =>
        rw [lookup_insert]
        split_ifs with same
        · have free := protection.free other tunnel.admitted.sni (by rw [present]; rfl)
          rw [← same, found] at free
          cases free
        · exact found
      | removed tunnel =>
        rw [lookup_removeIf, if_neg]
        · exact found
        · intro same
          cases protection.unique there present ⟨rfl, rfl⟩ ⟨same.symm, rfl⟩
          cases there.symm.trans present
      | _ => exact found

/-- Running tunnels keep their entries along every run without an insertion in the gap of another registration. -/
theorem running_kept (labels : List (Label (List Text × Source UInt8) Signal))
    (undisturbed : Always (step (controlPlane unicode enableProxyProtocol)) Undisturbed (initial unicode) labels) :
    Always (step (controlPlane unicode enableProxyProtocol)) (KeepsRunning enableProxyProtocol) (initial unicode)
      labels := by
  apply undisturbed.conclude
  intro system label reachable _
  exact (reachable_protected reachable).keepsRunning label

/-- A tunnel is registered, ends and is taken out; the next connection registers the same name. -/
theorem running_kept_reconnect :
    let labels := connect "a.b".toList 0 ++ advance 0 3 ++ [.act 0 .disconnect] ++ advance 0 2 ++
      connect "a.b".toList 1 ++ advance 1 3
    let plane := controlPlane asciiAlphanumerics false
    (run (step plane) (initial asciiAlphanumerics) labels).shared.tunnels.lookup "a.b".toList = some ⟨1, 2, false⟩ ∧
    Always (step plane) (KeepsRunning false) (initial asciiAlphanumerics) labels := by
  intro labels plane
  have undisturbed : Always (step plane) Undisturbed (initial asciiAlphanumerics) labels := by decide +kernel
  exact ⟨by decide +kernel, running_kept labels undisturbed⟩

/-- Two connections pass the check for one name; the second insertion replaces the running tunnel of the first. -/
theorem second_registration_overwrites :
    let both := connect "a.b".toList 0 ++ connect "a.b".toList 1 ++ advance 0 1 ++ advance 1 1 ++ advance 0 2 ++
      advance 1 1
    let plane := controlPlane asciiAlphanumerics false
    let before := run (step plane) (initial asciiAlphanumerics) both
    let after := run (step plane) before (advance 1 1)
    before.processes[0]?.bind runningEntry = some ("a.b".toList, ⟨0, 1, false⟩) ∧
      before.shared.tunnels.lookup "a.b".toList = some ⟨0, 1, false⟩ ∧
      after.processes[0]?.bind runningEntry = some ("a.b".toList, ⟨0, 1, false⟩) ∧
      after.shared.tunnels.lookup "a.b".toList = some ⟨1, 2, false⟩ ∧
      ¬ Always (step plane) (KeepsRunning false) (initial asciiAlphanumerics) (both ++ advance 1 1) := by
  decide +kernel

end Praeco.Tunnel.Overwrite
