import Praeco.Tunnel.Register
import Praeco.Schedule.Processes

/-! The table of tunnels on the relay. A control connection is a process; the check for a running tunnel, the draw
of a generation, the insertion, the removal and the end of the task are steps of their own, and connections
interleave in any order. -/

namespace Praeco.Tunnel.Registry
open Praeco.Strings Utf8 Praeco.Streams Reading Praeco.Tunnel.Register Praeco.Schedule.Runs Praeco.Schedule.Processes

/-- `control` stands for the channel to the driver loop of the connection that made the entry. -/
structure TunnelRoute where
  control : Nat
  generation : UInt64
  supportsProxyV2 : Bool
  deriving DecidableEq, Repr

/-- The map, the generation counter, and the channels: how many were made and which of them have lost their
receiver. -/
structure Relay where
  tunnels : AList (fun _ : Text => TunnelRoute)
  generation : UInt64
  channels : Nat
  closed : List Nat

variable (unicode : Alphanumerics) (enableProxyProtocol : Bool)

structure Admitted where
  allowedSnis : List Text
  registration : Registration
  admissible : Admissible unicode allowedSnis registration.sni

def Admitted.sni {unicode : Alphanumerics} (admitted : Admitted unicode) : Text := admitted.registration.sni

structure RegisteredTunnel where
  admitted : Admitted unicode
  control : Nat
  generation : UInt64

def RegisteredTunnel.route {unicode : Alphanumerics} (tunnel : RegisteredTunnel unicode) : TunnelRoute :=
  ⟨tunnel.control, tunnel.generation, tunnel.admitted.registration.supportsProxyV2⟩

/-- After the insertion: the driver loop runs, it has ended, the entry has been taken out, the task has ended. -/
inductive Stage where
  | running
  | closing
  | removed
  | closed
  deriving DecidableEq, Repr

inductive Connection where
  | connecting (allowedSnis : List Text) (stream : Source UInt8)
  | checking (admitted : Admitted unicode)
  | rejected
  | registering (admitted : Admitted unicode) (control : Nat)
  | inserting (tunnel : RegisteredTunnel unicode)
  | registered (stage : Stage) (tunnel : RegisteredTunnel unicode)

inductive Signal where
  | advance
  | disconnect
  deriving DecidableEq, Repr

namespace Relay

def new : Relay := ⟨∅, 1, 0, []⟩

variable (relay : Relay)

def occupied (sni : Text) : Bool :=
  match relay.tunnels.lookup sni with
  | some existing => existing.control ∉ relay.closed
  | none => false

def insert (sni : Text) (route : TunnelRoute) : Relay := { relay with tunnels := relay.tunnels.insert sni route }

def removeIf (sni : Text) (generation : UInt64) : Relay :=
  { relay with
    tunnels :=
      match relay.tunnels.lookup sni with
      | some route => if route.generation = generation then relay.tunnels.erase sni else relay.tunnels
      | none => relay.tunnels }

end Relay

/-- One access of a connection. Signals that do not fit do nothing. -/
def act (relay : Relay) : Connection unicode → Signal → Relay × Connection unicode
  | .connecting allowedSnis stream, .advance =>
    match accepted : acceptRegistration unicode allowedSnis enableProxyProtocol stream with
    | some result =>
      (relay, .checking ⟨allowedSnis, result.1, acceptRegistration_admissible unicode _ _ _ result accepted⟩)
    | none => (relay, .rejected)
  | .checking admitted, .advance =>
    if relay.occupied admitted.sni then (relay, .rejected)
    else ({ relay with channels := relay.channels + 1 }, .registering admitted relay.channels)
  | .registering admitted control, .advance =>
    ({ relay with generation := relay.generation + 1 }, .inserting ⟨admitted, control, relay.generation⟩)
  | .inserting tunnel, .advance => (relay.insert tunnel.admitted.sni tunnel.route, .registered .running tunnel)
  | .registered .running tunnel, .disconnect => (relay, .registered .closing tunnel)
  | .registered .closing tunnel, .advance =>
    (relay.removeIf tunnel.admitted.sni tunnel.generation, .registered .removed tunnel)
  | .registered .removed tunnel, .advance =>
    ({ relay with closed := tunnel.control :: relay.closed }, .registered .closed tunnel)
  | connection, _ => (relay, connection)

def controlPlane : Program Relay (List Text × Source UInt8) (Connection unicode) Signal :=
  ⟨fun start => .connecting start.1 start.2, act unicode enableProxyProtocol⟩

abbrev ControlPlane := System Relay (Connection unicode)

def initial : ControlPlane unicode := ⟨.new, []⟩

section

variable {unicode enableProxyProtocol}

inductive Acted (enableProxyProtocol : Bool) (relay : Relay) : Connection unicode → Relay × Connection unicode → Prop where
  | idle (connection : Connection unicode) : Acted enableProxyProtocol relay connection (relay, connection)
  | accepted (admitted : Admitted unicode) (stream left : Source UInt8)
    (done : acceptRegistration unicode admitted.allowedSnis enableProxyProtocol stream =
      some (admitted.registration, left)) :
    Acted enableProxyProtocol relay (.connecting admitted.allowedSnis stream) (relay, .checking admitted)
  | declined (allowedSnis : List Text) (stream : Source UInt8) :
    Acted enableProxyProtocol relay (.connecting allowedSnis stream) (relay, .rejected)
  | refused (admitted : Admitted unicode) : Acted enableProxyProtocol relay (.checking admitted) (relay, .rejected)
  | passed (admitted : Admitted unicode) (free : relay.occupied admitted.sni = false) :
    Acted enableProxyProtocol relay (.checking admitted)
      ({ relay with channels := relay.channels + 1 }, .registering admitted relay.channels)
  | drawn (admitted : Admitted unicode) (control : Nat) :
    Acted enableProxyProtocol relay (.registering admitted control)
      ({ relay with generation := relay.generation + 1 }, .inserting ⟨admitted, control, relay.generation⟩)
  | inserted (tunnel : RegisteredTunnel unicode) :
    Acted enableProxyProtocol relay (.inserting tunnel)
      (relay.insert tunnel.admitted.sni tunnel.route, .registered .running tunnel)
  | ended (tunnel : RegisteredTunnel unicode) :
    Acted enableProxyProtocol relay (.registered .running tunnel) (relay, .registered .closing tunnel)
  | removed (tunnel : RegisteredTunnel unicode) :
    Acted enableProxyProtocol relay (.registered .closing tunnel)
      (relay.removeIf tunnel.admitted.sni tunnel.generation, .registered .removed tunnel)
  | finished (tunnel : RegisteredTunnel unicode) :
    Acted enableProxyProtocol relay (.registered .removed tunnel)
      ({ relay with closed := tunnel.control :: relay.closed }, .registered .closed tunnel)

theorem act_cases (enableProxyProtocol : Bool) (relay : Relay) (connection : Connection unicode) (signal : Signal) :
    Acted enableProxyProtocol relay connection (act unicode enableProxyProtocol relay connection signal) := by
  unfold act
  split
  · split
    · next result done => exact .accepted ⟨_, _, _⟩ _ result.2 done
    · exact .declined _ _
  · split
    · exact .refused _
    · rename_i free
      exact .passed _ (Bool.eq_false_iff.mpr free)
  · exact .drawn _ _
  · exact .inserted _
  · exact .ended _
  · exact .removed _
  · exact .finished _
  · exact .idle _

namespace Connection

def generationOf : Connection unicode → Option UInt64
  | .inserting tunnel => some tunnel.generation
  | .registered _ tunnel => some tunnel.generation
  | _ => none

def Holds : Connection unicode → Text → TunnelRoute → Prop
  | .registered .running tunnel, sni, route => tunnel.admitted.sni = sni ∧ tunnel.route = route
  | .registered .closing tunnel, sni, route => tunnel.admitted.sni = sni ∧ tunnel.route = route
  | _, _, _ => False

theorem Holds.registered {connection : Connection unicode} {sni : Text} {route : TunnelRoute}
    (holds : connection.Holds sni route) :
    ∃ stage tunnel, connection = .registered stage tunnel ∧ (stage = .running ∨ stage = .closing) ∧
      tunnel.admitted.sni = sni ∧ tunnel.route = route := by
  unfold Holds at holds
  split at holds
  · exact ⟨.running, _, rfl, Or.inl rfl, holds⟩
  · exact ⟨.closing, _, rfl, Or.inr rfl, holds⟩
  · exact holds.elim

end Connection

theorem lookup_removeIf (relay : Relay) (sni name : Text) (generation : UInt64) :
    (relay.removeIf sni generation).tunnels.lookup name =
      if name = sni then (relay.tunnels.lookup sni).filter (fun route => route.generation ≠ generation)
      else relay.tunnels.lookup name := by
  unfold Relay.removeIf
  by_cases same : name = sni
  · subst same
    rw [if_pos rfl]
    cases found : relay.tunnels.lookup name with
    | none => exact found
    | some route =>
      by_cases mine : route.generation = generation
      · simp [Option.filter, mine]
      · simp [Option.filter, mine, found]
  · rw [if_neg same]
    cases found : relay.tunnels.lookup sni with
    | none => rfl
    | some route =>
      by_cases mine : route.generation = generation
      · simp only [mine, if_true]
        exact AList.lookup_erase_ne same
      · simp [mine]

theorem lookup_insert (relay : Relay) (sni name : Text) (route : TunnelRoute) :
    (relay.insert sni route).tunnels.lookup name =
      if name = sni then some route else relay.tunnels.lookup name := by
  unfold Relay.insert
  by_cases same : name = sni
  · subst same
    simp
  · rw [if_neg same]
    exact AList.lookup_insert_ne same

def Owned (system : ControlPlane unicode) : Prop :=
  ∀ sni route, system.shared.tunnels.lookup sni = some route →
    ∃ (index : Nat) (connection : Connection unicode), system.processes[index]? = some connection ∧
      connection.Holds sni route

variable {result : Relay × Connection unicode} {system : ControlPlane unicode}

theorem acted_entry {relay : Relay} {connection : Connection unicode}
    (spec : Acted enableProxyProtocol relay connection result) (sni : Text) (route : TunnelRoute)
    (found : result.1.tunnels.lookup sni = some route) :
    result.2.Holds sni route ∨ relay.tunnels.lookup sni = some route ∧
      (connection.Holds sni route → result.2.Holds sni route) := by
  cases spec with
  | idle connection => exact Or.inr ⟨found, id⟩
  | accepted admitted stream left done => exact Or.inr ⟨found, False.elim⟩
  | declined allowedSnis stream => exact Or.inr ⟨found, False.elim⟩
  | refused admitted => exact Or.inr ⟨found, False.elim⟩
  | passed admitted free => exact Or.inr ⟨found, False.elim⟩
  | drawn admitted control => exact Or.inr ⟨found, False.elim⟩
  | inserted tunnel =>
    rw [lookup_insert] at found
    split_ifs at found with same
    · exact Or.inl ⟨same.symm, Option.some.inj found⟩
    · exact Or.inr ⟨found, False.elim⟩
  | ended tunnel => exact Or.inr ⟨found, id⟩
  | removed tunnel =>
    rw [lookup_removeIf] at found
    split_ifs at found with same
    · subst same
      rw [Option.filter_eq_some_iff, decide_eq_true_eq] at found
      exact Or.inr ⟨found.1, fun own => absurd (congrArg TunnelRoute.generation own.2).symm found.2⟩
    · exact Or.inr ⟨found, fun own => absurd own.1.symm same⟩
  | finished tunnel => exact Or.inr ⟨found, False.elim⟩

theorem Owned.acted {index : Nat} {connection : Connection unicode} (owned : Owned system)
    (present : system.processes[index]? = some connection)
    (spec : Acted enableProxyProtocol system.shared connection result) : Owned (system.acted index result) := by
  intro sni route found
  rcases acted_entry spec sni route found with own | ⟨before, kept⟩
  · exact ⟨index, result.2, by rw [lookup_acted present, if_pos rfl], own⟩
  · obtain ⟨other, owner, there, holds⟩ := owned sni route before
    by_cases here : other = index
    · subst here
      cases present.symm.trans there
      exact ⟨other, result.2, by rw [lookup_acted present, if_pos rfl], kept holds⟩
    · exact ⟨other, owner, by rw [lookup_acted present, if_neg here, there], holds⟩

theorem Owned.spawned (owned : Owned system) (added : Connection unicode) : Owned (system.spawned added) := by
  intro sni route found
  obtain ⟨other, owner, there, holds⟩ := owned sni route found
  refine ⟨other, owner, ?_, holds⟩
  have bound := (List.getElem?_eq_some_iff.mp there).1
  rw [lookup_spawned, if_neg (by omega), there]

def drawn (system : ControlPlane unicode) : Nat :=
  system.processes.countP fun connection => connection.generationOf.isSome

/-- The counter counts modulo `2 ^ 64`, so the generations differ until it comes round. -/
structure Counted (system : ControlPlane unicode) : Prop where
  counter : system.shared.generation = UInt64.ofNat (drawn system + 1)
  earlier : ∀ (index : Nat) (generation : UInt64),
    system.processes[index]?.bind Connection.generationOf = some generation →
    ∃ serial < drawn system, generation = UInt64.ofNat (serial + 1)
  distinct : drawn system ≤ 2 ^ 64 → ∀ (first second : Nat) (generation : UInt64),
    system.processes[first]?.bind Connection.generationOf = some generation →
    system.processes[second]?.bind Connection.generationOf = some generation → first = second

theorem ofNat_ne_of_lt {earlier later : Nat} (order : earlier < later) (near : later < 2 ^ 64) :
    UInt64.ofNat (earlier + 1) ≠ UInt64.ofNat (later + 1) := by
  intro same
  have values := congrArg UInt64.toNat same
  rw [UInt64.toNat_ofNat', UInt64.toNat_ofNat'] at values
  omega

theorem Counted.spawned (counted : Counted system) (allowedSnis : List Text) (stream : Source UInt8) :
    Counted (system.spawned (.connecting allowedSnis stream)) := by
  have same : drawn (system.spawned (.connecting allowedSnis stream)) = drawn system := countP_spawned rfl
  refine ⟨same ▸ counted.counter, ?_, ?_⟩
  · intro index generation
    rw [bind_spawned Connection.generationOf rfl, same]
    exact counted.earlier index generation
  · intro few first second generation
    rw [bind_spawned Connection.generationOf rfl, bind_spawned Connection.generationOf rfl]
    exact counted.distinct (same ▸ few) first second generation

section

variable {system : ControlPlane unicode} {index : Nat} {connection : Connection unicode}
  {result : Relay × Connection unicode}

theorem Counted.kept (counted : Counted system) (present : system.processes[index]? = some connection)
    (same : result.2.generationOf = connection.generationOf)
    (counter : result.1.generation = system.shared.generation) : Counted (system.acted index result) := by
  have view (other : Nat) : (system.acted index result).processes[other]?.bind Connection.generationOf =
      system.processes[other]?.bind Connection.generationOf := by
    rw [bind_acted Connection.generationOf present, same]
    split_ifs with here
    · rw [here, present, Option.bind_some]
    · rfl
  have count : drawn (system.acted index result) = drawn system := by
    have change := countP_set_add (fun connection : Connection unicode => connection.generationOf.isSome)
      system.processes result.2 present
    rw [same] at change
    exact Nat.add_right_cancel change
  refine ⟨count ▸ counter.trans counted.counter, ?_, ?_⟩
  · intro other generation held
    rw [view] at held
    exact count ▸ counted.earlier other generation held
  · intro few first second generation held shared
    rw [view] at held shared
    exact counted.distinct (count ▸ few) first second generation held shared

theorem Counted.drew (counted : Counted system) (present : system.processes[index]? = some connection)
    (none : connection.generationOf = none) (fresh : result.2.generationOf = some system.shared.generation)
    (counter : result.1.generation = system.shared.generation + 1) : Counted (system.acted index result) := by
  have count : drawn (system.acted index result) = drawn system + 1 := by
    have change := countP_set_add (fun connection : Connection unicode => connection.generationOf.isSome)
      system.processes result.2 present
    rw [none, fresh] at change
    exact change
  have other (few : drawn system + 1 ≤ 2 ^ 64) (place : Nat)
      (held : system.processes[place]?.bind Connection.generationOf = some system.shared.generation) : False := by
    obtain ⟨serial, below, same⟩ := counted.earlier place _ held
    exact ofNat_ne_of_lt below few (same.symm.trans counted.counter)
  refine ⟨?_, ?_, ?_⟩
  · rw [count, UInt64.ofNat_add, ← counted.counter]
    exact counter
  · intro place generation held
    rw [bind_acted Connection.generationOf present, fresh] at held
    rw [count]
    split_ifs at held
    · cases held
      exact ⟨drawn system, Nat.lt_succ_self _, counted.counter⟩
    · obtain ⟨serial, below, same⟩ := counted.earlier place generation held
      exact ⟨serial, Nat.lt_succ_of_lt below, same⟩
  · intro few first second generation held shared
    rw [count] at few
    rw [bind_acted Connection.generationOf present, fresh] at held shared
    split_ifs at held shared with one two two
    · rw [one, two]
    · cases held
      exact (other few second shared).elim
    · cases shared
      exact (other few first held).elim
    · exact counted.distinct (Nat.le_of_succ_le few) first second generation held shared

theorem Counted.acted (counted : Counted system) (present : system.processes[index]? = some connection)
    (spec : Acted enableProxyProtocol system.shared connection result) : Counted (system.acted index result) := by
  cases spec with
  | drawn admitted control => exact counted.drew present rfl rfl rfl
  | _ => exact counted.kept present rfl rfl

end

/-- What the table guarantees at any moment: an entry stands under a lower-case name that the certificate of its
connection carries, no registered connection takes out the entry of another one until the generations come round, and a
name has no entry once every connection that registered it is through with its removal. -/
structure Safe (enableProxyProtocol : Bool) (system : ControlPlane unicode) : Prop where
  keyed : ∀ sni route, system.shared.tunnels.lookup sni = some route →
    ∃ (index : Nat) (stage : Stage) (tunnel : RegisteredTunnel unicode),
      system.processes[index]? = some (.registered stage tunnel) ∧ tunnel.admitted.sni = sni ∧ tunnel.route = route ∧
      Admissible unicode tunnel.admitted.allowedSnis sni
  foreign : drawn system ≤ 2 ^ 64 → ∀ (index other : Nat) (stage otherStage : Stage) (tunnel owner : RegisteredTunnel unicode)
    (signal : Signal), system.processes[index]? = some (.registered stage tunnel) → other ≠ index →
    system.processes[other]? = some (.registered otherStage owner) →
    system.shared.tunnels.lookup owner.admitted.sni = some owner.route →
    (step (controlPlane unicode enableProxyProtocol) system (.act index signal)).shared.tunnels.lookup
      owner.admitted.sni = some owner.route
  emptied : ∀ sni, (∀ (index : Nat) (stage : Stage) (tunnel : RegisteredTunnel unicode),
      system.processes[index]? = some (.registered stage tunnel) → tunnel.admitted.sni = sni →
      stage = .removed ∨ stage = .closed) →
    system.shared.tunnels.lookup sni = none

end

def Asked (unicode : Alphanumerics) (enableProxyProtocol : Bool) (start : List Text × Source UInt8) :
    Connection unicode → Prop
  | .connecting allowedSnis stream => start = (allowedSnis, stream)
  | .rejected => True
  | .checking admitted | .registering admitted _ | .inserting ⟨admitted, _, _⟩ | .registered _ ⟨admitted, _, _⟩ =>
    ∃ left, acceptRegistration unicode start.1 enableProxyProtocol start.2 = some (admitted.registration, left)

theorem Asked.acted {start : List Text × Source UInt8} {relay : Relay} {connection : Connection unicode}
    {result : Relay × Connection unicode} (asked : Asked unicode enableProxyProtocol start connection)
    (spec : Acted enableProxyProtocol relay connection result) : Asked unicode enableProxyProtocol start result.2 := by
  cases spec with
  | accepted admitted stream left done =>
    cases asked
    exact ⟨left, done⟩
  | declined | refused => exact trivial
  | _ => exact asked

theorem registered_asked {labels : List (Label (List Text × Source UInt8) Signal)} {index : Nat} {stage : Stage}
    {tunnel : RegisteredTunnel unicode} {start : List Text × Source UInt8}
    (begun : (starts labels)[index]? = some start)
    (present : (run (step (controlPlane unicode enableProxyProtocol)) (initial unicode) labels).processes[index]? =
      some (.registered stage tunnel)) :
    ∃ left, acceptRegistration unicode start.1 enableProxyProtocol start.2 =
      some (tunnel.admitted.registration, left) := by
  obtain ⟨origin, started, asked⟩ := origin (controlPlane unicode enableProxyProtocol)
    (Asked unicode enableProxyProtocol) (fun _ => rfl)
    (fun relay _ connection signal asked => asked.acted _ _ (act_cases enableProxyProtocol relay connection signal)) _
    labels present
  cases begun.symm.trans started
  exact asked

def connect (name : Text) (index : Nat) : List (Label (List Text × Source UInt8) Signal) :=
  [.spawn ([name], [utf8 "REGISTER ".toList, utf8 name, [10]]), .act index .advance]

def advance (index steps : Nat) : List (Label (List Text × Source UInt8) Signal) :=
  List.replicate steps (.act index .advance)

/-! ### The counter comes round -/

section

abbrev plane : Program Relay (List Text × Source UInt8) (Connection asciiAlphanumerics) Signal :=
  controlPlane asciiAlphanumerics false

def hostName : Text := "a.b".toList

theorem host_accepted :
    acceptRegistration asciiAlphanumerics [hostName] false [utf8 "REGISTER ".toList, utf8 hostName, [10]] =
      some (⟨hostName, false⟩, [[]]) := by
  decide +kernel

def host : Admitted asciiAlphanumerics :=
  ⟨[hostName], ⟨hostName, false⟩, acceptRegistration_admissible _ _ _ _ _ host_accepted⟩

variable {shared : Relay} {processes : List (Connection asciiAlphanumerics)}

end

end Praeco.Tunnel.Registry
