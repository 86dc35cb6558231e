import Praeco.Schedule.Exclusive
import Praeco.Server.Reload

/-! The reload handler among the server tasks. The handler starts tasks, swaps stacks and cancels tasks one after the
other, and the sockets of the tasks are bound and closed by the tasks in between. -/

namespace Praeco.Server.Handover
open Praeco.Strings Utf8 Praeco.Schedule.Runs Praeco.Schedule.Exclusive Praeco.Server.Reload

variable {Settings Stack Endpoint : Type}

structure Signal (Settings Stack Endpoint : Type) where
  reload : Sighup Settings Stack
  endpoints : ServerConfig Settings → List Endpoint

/-- Where the handler stands: it waits for a signal, goes through the stacks that were built, or cancels what is left. -/
inductive Handler (Settings Stack Endpoint : Type) where
  | idle
  | managing (endpoints : ServerConfig Settings → List Endpoint) (builtStacks : List (Built Settings Stack))
    (next : Table Settings)
  | draining (removed : List ((_ : Text) × Entry Settings)) (next : Table Settings)

structure Gateway (Settings Stack Endpoint : Type) where
  world : World Settings Stack
  handler : Handler Settings Stack Endpoint
  sockets : List (Ticket Nat Endpoint)

inductive Label (Settings Stack Endpoint : Type) where
  | hangup (signal : Signal Settings Stack Endpoint)
  | handle
  | schedule (socket : Nat)

def starts (active : Table Settings) (built : Built Settings Stack) : Bool :=
  match active.lookup built.1 with
  | none => true
  | some entry => needsRestart entry.config built.2.1

def boot (buildServiceStack : ServerConfig Settings → Except Text Stack)
    (endpoints : ServerConfig Settings → List Endpoint) (config : Config Settings) : Gateway Settings Stack Endpoint :=
  let world := Reload.start buildServiceStack config
  ⟨world, .idle, world.tasks.zipIdx.flatMap fun task => waitFor task.2 (endpoints task.1.config)⟩

namespace Gateway

variable (gateway : Gateway Settings Stack Endpoint)

def receive (configPath : Text) (signal : Signal Settings Stack Endpoint) : Gateway Settings Stack Endpoint :=
  match gateway.handler, load signal.reload.disk configPath with
  | .idle, .ok config =>
    let dry := signal.reload.dryRun config.servers
    if dry.reloadErrors ≠ [] then gateway
    else
      { gateway with
        world := { gateway.world with config }
        handler := .managing signal.endpoints (signal.reload.order.arrange dry.builtStacks.entries) ∅ }
  | _, _ => gateway

def handle : Gateway Settings Stack Endpoint :=
  match gateway.handler with
  | .idle => gateway
  | .managing endpoints (built :: builtStacks) next =>
    let pending := Pending.manage ⟨gateway.world.active, next, gateway.world.tasks⟩ built
    { world := { gateway.world with active := pending.active, tasks := pending.tasks }
      handler := .managing endpoints builtStacks pending.next
      sockets :=
        if starts gateway.world.active built then
          gateway.sockets ++ waitFor gateway.world.tasks.length (endpoints built.2.1)
        else gateway.sockets }
  | .managing _ [] next => { gateway with handler := .draining gateway.world.active.entries next }
  | .draining (entry :: removed) next =>
    { gateway with
      world := { gateway.world with tasks := drain gateway.world.tasks [entry] }
      handler := .draining removed next }
  | .draining [] next => { gateway with world := { gateway.world with active := next }, handler := .idle }

def stopped (task : Nat) : Bool := (gateway.world.tasks[task]?.map (·.cancelled)).getD false

end Gateway

section

variable [DecidableEq Endpoint] (configPath : Text)

def step (gateway : Gateway Settings Stack Endpoint) : Label Settings Stack Endpoint → Gateway Settings Stack Endpoint
  | .hangup signal => gateway.receive configPath signal
  | .handle => gateway.handle
  | .schedule socket => { gateway with sockets := turn gateway.stopped gateway.sockets socket }

/-! ### The handler by itself -/

def handling (count : Nat) : List (Label Settings Stack Endpoint) := List.replicate count .handle

theorem run_handling_add (gateway : Gateway Settings Stack Endpoint) (first second : Nat) :
    run (step configPath) gateway (handling (first + second)) =
      run (step configPath) (run (step configPath) gateway (handling first)) (handling second) := by
  rw [handling, List.replicate_add, run_append]
  rfl

theorem run_managing (endpoints : ServerConfig Settings → List Endpoint) (builtStacks : List (Built Settings Stack))
    (next : Table Settings) (gateway : Gateway Settings Stack Endpoint)
    (at_ : gateway.handler = .managing endpoints builtStacks next) :
    let pending := builtStacks.foldl Pending.manage ⟨gateway.world.active, next, gateway.world.tasks⟩
    let after := run (step configPath) gateway (handling builtStacks.length)
    after.world = ⟨gateway.world.config, pending.active, pending.tasks⟩ ∧
      after.handler = .managing endpoints [] pending.next := by
  induction builtStacks generalizing gateway next with
  | nil => exact ⟨rfl, at_⟩
  | cons built builtStacks ih =>
    have first : gateway.handle.handler = .managing endpoints builtStacks
        (Pending.manage ⟨gateway.world.active, next, gateway.world.tasks⟩ built).next := by
      unfold Gateway.handle
      rw [at_]
    have world : gateway.handle.world = ⟨gateway.world.config,
        (Pending.manage ⟨gateway.world.active, next, gateway.world.tasks⟩ built).active,
        (Pending.manage ⟨gateway.world.active, next, gateway.world.tasks⟩ built).tasks⟩ := by
      unfold Gateway.handle
      rw [at_]
    have later := ih _ gateway.handle first
    rw [world] at later
    exact later

theorem run_draining (removed : List ((_ : Text) × Entry Settings)) (next : Table Settings)
    (gateway : Gateway Settings Stack Endpoint) (at_ : gateway.handler = .draining removed next) :
    let after := run (step configPath) gateway (handling removed.length)
    after.world = { gateway.world with tasks := drain gateway.world.tasks removed } ∧ after.handler = .draining [] next := by
  induction removed generalizing gateway with
  | nil => exact ⟨rfl, at_⟩
  | cons entry removed ih =>
    have first : gateway.handle.handler = .draining removed next := by
      unfold Gateway.handle
      rw [at_]
    have world : gateway.handle.world = { gateway.world with tasks := drain gateway.world.tasks [entry] } := by
      unfold Gateway.handle
      rw [at_]
    have later := ih gateway.handle first
    rw [world] at later
    exact later

theorem run_applying (endpoints : ServerConfig Settings → List Endpoint) (builtStacks : List (Built Settings Stack))
    (next : Table Settings) (gateway : Gateway Settings Stack Endpoint)
    (at_ : gateway.handler = .managing endpoints builtStacks next) :
    let pending := builtStacks.foldl Pending.manage ⟨gateway.world.active, next, gateway.world.tasks⟩
    ∃ count, let after := run (step configPath) gateway (handling count)
      after.world = ⟨gateway.world.config, pending.next, drain pending.tasks pending.active.entries⟩ ∧
        after.handler = .idle := by
  intro pending
  obtain ⟨managed, turned⟩ := run_managing configPath endpoints builtStacks next gateway at_
  generalize reached : run (step configPath) gateway (handling builtStacks.length) = middle at managed turned
  have drains : middle.handle.handler = .draining pending.active.entries pending.next := by
    unfold Gateway.handle
    rw [turned, managed]
  have same : middle.handle.world = ⟨gateway.world.config, pending.active, pending.tasks⟩ := by
    unfold Gateway.handle
    rw [turned]
    exact managed
  obtain ⟨drained, emptied⟩ := run_draining configPath _ _ middle.handle drains
  generalize cleared : run (step configPath) middle.handle (handling pending.active.entries.length) = last
    at drained emptied
  refine ⟨builtStacks.length + (1 + (pending.active.entries.length + 1)), ?_⟩
  have path : run (step configPath) gateway
      (handling (builtStacks.length + (1 + (pending.active.entries.length + 1)))) = last.handle := by
    rw [run_handling_add, run_handling_add, run_handling_add, reached]
    change run (step configPath) (run (step configPath) middle.handle _) (handling 1) = _
    rw [cleared]
    rfl
  rw [path]
  unfold Gateway.handle
  rw [emptied, drained, same]
  exact ⟨rfl, rfl⟩

/-- A signal and the steps of the handler that follow it make the reload that the servers go through. -/
theorem handled_hangup (signal : Signal Settings Stack Endpoint) (gateway : Gateway Settings Stack Endpoint)
    (idle : gateway.handler = .idle) :
    ∃ count, let after := run (step configPath) gateway (.hangup signal :: handling count)
      after.world = Reload.hangup configPath gateway.world signal.reload ∧ after.handler = .idle := by
  have received : step configPath gateway (.hangup signal) = gateway.receive configPath signal := rfl
  unfold Gateway.receive at received
  rw [idle] at received
  unfold Reload.hangup
  cases loaded : load signal.reload.disk configPath with
  | error e =>
    rw [loaded] at received
    exact ⟨0, congrArg Gateway.world received, (congrArg Gateway.handler received).trans idle⟩
  | ok config =>
    rw [loaded] at received
    dsimp only at received ⊢
    split_ifs at received ⊢ with errors
    · exact ⟨0, congrArg Gateway.world received, (congrArg Gateway.handler received).trans idle⟩
    · obtain ⟨count, applied⟩ := run_applying configPath _ _ _ _ (congrArg Gateway.handler received)
      rw [congrArg Gateway.world received] at applied
      exact ⟨count, applied⟩

/-- A server moves to another port. -/
theorem handled_hangup_move :
    let gateway : Gateway Unit Nat Nat := boot (fun _ => .ok 0) (fun _ => []) (configOf [serverOf 'a' 1])
    let reload := reloadOf [serverOf 'a' 2] 1
    ∃ count, (run (step []) gateway (.hangup ⟨reload, fun _ => []⟩ :: handling count)).world =
      hangup [] gateway.world reload := by
  intro gateway reload
  obtain ⟨count, same, -⟩ := handled_hangup [] ⟨reload, fun _ => []⟩ gateway rfl
  exact ⟨count, same⟩

end

/-! ### No socket is refused -/

def Gateway.upcoming (gateway : Gateway Settings Stack Endpoint) : List Endpoint :=
  match gateway.handler with
  | .managing endpoints builtStacks _ =>
    (builtStacks.filter (starts gateway.world.active)).flatMap fun built => endpoints built.2.1
  | _ => []

def Handler.remaining : Handler Settings Stack Endpoint → List (Built Settings Stack)
  | .managing _ builtStacks _ => builtStacks
  | _ => []

/-- Nothing was refused so far, and no endpoint is wanted twice, also by the servers that are about to be started. -/
structure Clear (gateway : Gateway Settings Stack Endpoint) : Prop where
  unrefused : ∀ socket ∈ gateway.sockets, socket.stage ≠ .refused
  apart : (wanted gateway.sockets ++ gateway.upcoming).Nodup
  keyed : gateway.handler.remaining.keys.Nodup

def Apart (endpoints : ServerConfig Settings → List Endpoint) (config : Config Settings) : Prop :=
  ((config.servers.filter (·.enabled)).flatMap endpoints).Nodup

/-- The servers that the reload starts bind nothing that an earlier task still holds or waits for. -/
def Unused (gateway : Gateway Settings Stack Endpoint) (endpoints : ServerConfig Settings → List Endpoint)
    (config : Config Settings) : Prop :=
  ∀ server ∈ config.servers, server.enabled = true →
    (∀ entry, gateway.world.active.lookup server.name = some entry → entry.config.listener ≠ server.listener) →
      ∀ endpoint ∈ endpoints server, endpoint ∉ wanted gateway.sockets

theorem active_manage (active next : Table Settings) (tasks : List (Task Settings Stack))
    (built : Built Settings Stack) :
    (Pending.manage ⟨active, next, tasks⟩ built).active =
      if starts active built then active else active.erase built.1 := by
  unfold Pending.manage starts
  dsimp only
  cases active.lookup built.1 with
  | none => rfl
  | some entry =>
    dsimp only
    split_ifs <;> rfl

theorem starts_erase (active : Table Settings) {name : Text} {built : Built Settings Stack} (other : built.1 ≠ name) :
    starts (active.erase name) built = starts active built := by
  unfold starts
  rw [AList.lookup_erase_ne other]

theorem clear_handle {gateway : Gateway Settings Stack Endpoint} (clear : Clear gateway) : Clear gateway.handle := by
  obtain ⟨unrefused, apart, keyed⟩ := clear
  obtain ⟨world, handler, sockets⟩ := gateway
  cases handler with
  | idle => exact ⟨unrefused, apart, keyed⟩
  | draining removed next =>
    cases removed with
    | nil => exact ⟨unrefused, apart, keyed⟩
    | cons entry removed => exact ⟨unrefused, apart, keyed⟩
  | managing endpoints builtStacks next =>
    cases builtStacks with
    | nil => exact ⟨unrefused, apart, keyed⟩
    | cons built builtStacks =>
      obtain ⟨fresh, distinct⟩ := List.nodup_cons.mp keyed
      change (wanted sockets ++ ((built :: builtStacks).filter (starts world.active)).flatMap _).Nodup at apart
      unfold Gateway.handle
      dsimp only
      cases begins : starts world.active built with
      | true =>
        rw [List.filter_cons_of_pos begins, List.flatMap_cons, ← List.append_assoc] at apart
        rw [if_pos rfl]
        refine ⟨?_, ?_, distinct⟩
        · intro socket member
          rcases List.mem_append.mp member with earlier | opened
          · exact unrefused socket earlier
          · obtain ⟨endpoint, -, rfl⟩ := List.mem_map.mp opened
            exact Stage.noConfusion
        · change (wanted (sockets ++ waitFor _ _) ++
            (builtStacks.filter (starts (Pending.manage _ _).active)).flatMap _).Nodup
          rw [active_manage, if_pos begins, wanted_append, wanted_waitFor]
          exact apart
      | false =>
        rw [List.filter_cons_of_neg (by simpa using begins)] at apart
        rw [if_neg Bool.false_ne_true]
        refine ⟨unrefused, ?_, distinct⟩
        have same : builtStacks.filter (starts (world.active.erase built.1)) = builtStacks.filter (starts world.active) := by
          apply List.filter_congr
          intro other member
          apply starts_erase
          intro one
          exact fresh (one ▸ List.mem_keys_of_mem member)
        change (wanted sockets ++ (builtStacks.filter (starts (Pending.manage _ _).active)).flatMap _).Nodup
        rw [active_manage, begins, if_neg Bool.false_ne_true, same]
        exact apart

theorem apart_built {endpoints : ServerConfig Settings → List Endpoint} {config : Config Settings}
    (apart : Apart endpoints config) (reload : Sighup Settings Stack) (chosen : Built Settings Stack → Bool) :
    (((reload.order.arrange (reload.dryRun config.servers).builtStacks.entries).filter chosen).flatMap
      fun built => endpoints built.2.1).Nodup := by
  obtain ⟨own, different⟩ := List.nodup_flatMap.mp apart
  have perm := reload.order.perm (reload.dryRun config.servers).builtStacks.entries
  have listed (built : Built Settings Stack)
      (member : built ∈ (reload.order.arrange (reload.dryRun config.servers).builtStacks.entries).filter chosen) :
      built.2.1 ∈ config.servers.filter (·.enabled) ∧ built.2.1.name = built.1 := by
    have found := AList.mem_lookup_iff.mpr (perm.mem_iff.mp (List.mem_of_mem_filter member))
    obtain ⟨inside, enabled, named, -⟩ := Sighup.lookup_builtStacks found
    exact ⟨List.mem_filter.mpr ⟨inside, enabled⟩, named⟩
  have keys : (reload.order.arrange (reload.dryRun config.servers).builtStacks.entries).Pairwise
      fun first second => first.1 ≠ second.1 :=
    List.pairwise_map.mp ((perm.map _).nodup_iff.mpr (reload.dryRun config.servers).builtStacks.nodupKeys)
  apply List.nodup_flatMap.mpr
  refine ⟨fun built member => own _ (listed built member).1, ?_⟩
  refine (keys.sublist List.filter_sublist).imp_of_mem ?_
  intro first second here there other
  have symmetric : Std.Symm (Function.onFun List.Disjoint endpoints) := ⟨fun _ _ => List.Disjoint.symm⟩
  apply different.forall (listed first here).1 (listed second there).1
  intro same
  exact other ((listed first here).2.symm.trans ((congrArg _ same).trans (listed second there).2))

variable {configPath : Text}

theorem changed_of_starts {active : Table Settings} {built : Built Settings Stack} (begins : starts active built = true)
    (entry : Entry Settings) (found : active.lookup built.1 = some entry) :
    entry.config.listener ≠ built.2.1.listener := by
  unfold starts at begins
  rw [found] at begins
  have restart : needsRestart entry.config built.2.1 = true := begins
  intro same
  rw [needsRestart_eq_false.mpr same] at restart
  cases restart

theorem clear_receive {gateway : Gateway Settings Stack Endpoint} (clear : Clear gateway)
    (signal : Signal Settings Stack Endpoint)
    (free : gateway.handler = .idle → ∀ config, load signal.reload.disk configPath = .ok config →
      ¬signal.reload.Refused configPath → Apart signal.endpoints config ∧ Unused gateway signal.endpoints config) :
    Clear (gateway.receive configPath signal) := by
  unfold Gateway.receive
  split
  · rename_i config idle loaded
    dsimp only
    split_ifs with errors
    · exact clear
    · obtain ⟨apart, unused⟩ := free idle config loaded fun refused => errors ((Sighup.refused_iff loaded).mp refused)
      have perm := signal.reload.order.perm (signal.reload.dryRun config.servers).builtStacks.entries
      refine ⟨clear.unrefused, ?_, (perm.map _).nodup_iff.mpr (signal.reload.dryRun config.servers).builtStacks.nodupKeys⟩
      refine List.nodup_append.mpr ⟨(List.nodup_append.mp clear.apart).1, apart_built apart signal.reload _, ?_⟩
      rintro endpoint used other upcoming rfl
      obtain ⟨built, member, bound⟩ := List.mem_flatMap.mp upcoming
      obtain ⟨listed, begins⟩ := List.mem_filter.mp member
      obtain ⟨inside, enabled, named, -⟩ :=
        Sighup.lookup_builtStacks (AList.mem_lookup_iff.mpr (perm.mem_iff.mp listed))
      refine unused built.2.1 inside enabled ?_ endpoint bound used
      rw [named]
      exact changed_of_starts begins
  · exact clear

theorem start_sublist (buildServiceStack : ServerConfig Settings → Except Text Stack) (config : Config Settings) :
    ((Reload.start buildServiceStack config).tasks.map (·.config)).Sublist (config.servers.filter (·.enabled)) := by
  have launched (servers : List (ServerConfig Settings)) (world : World Settings Stack) :
      ∃ started, (servers.foldl (launch buildServiceStack) world).tasks.map (·.config) =
        world.tasks.map (·.config) ++ started ∧ started.Sublist (servers.filter (·.enabled)) := by
    induction servers generalizing world with
    | nil => exact ⟨[], (List.append_nil _).symm, List.Sublist.refl _⟩
    | cons server servers ih =>
      obtain ⟨started, same, sub⟩ := ih (launch buildServiceStack world server)
      rw [List.foldl_cons, same]
      unfold launch
      split_ifs with enabled
      · rw [List.filter_cons_of_pos enabled]
        split
        · rename_i stack built
          refine ⟨server :: started, ?_, sub.cons_cons server⟩
          rw [List.map_append, List.append_assoc]
          rfl
        · exact ⟨started, rfl, sub.cons server⟩
      · rw [List.filter_cons_of_neg enabled]
        exact ⟨started, rfl, sub⟩
  obtain ⟨started, same, sub⟩ := launched config.servers ⟨config, ∅, []⟩
  exact same ▸ sub

theorem clear_boot (buildServiceStack : ServerConfig Settings → Except Text Stack)
    (endpoints : ServerConfig Settings → List Endpoint) (config : Config Settings) (apart : Apart endpoints config) :
    Clear (boot buildServiceStack endpoints config) := by
  refine ⟨?_, ?_, List.nodup_nil⟩
  · intro socket member
    obtain ⟨task, -, waiting⟩ := List.mem_flatMap.mp member
    obtain ⟨endpoint, -, rfl⟩ := List.mem_map.mp waiting
    exact Stage.noConfusion
  · have order : (Reload.start buildServiceStack config).tasks.zipIdx.flatMap (fun task => endpoints task.1.config) =
        ((Reload.start buildServiceStack config).tasks.map (·.config)).flatMap endpoints := by
      rw [← List.zipIdx_map_fst 0 (Reload.start buildServiceStack config).tasks, List.map_map, List.flatMap_map,
        List.zipIdx_map_fst]
      rfl
    change (wanted (List.flatMap _ _) ++ []).Nodup
    rw [List.append_nil, wanted_flatMap, order]
    exact apart.sublist ((start_sublist buildServiceStack config).flatMap endpoints)

section

variable [DecidableEq Endpoint]

theorem clear_schedule {gateway : Gateway Settings Stack Endpoint} (clear : Clear gateway) (socket : Nat) :
    Clear (step configPath gateway (.schedule socket)) where
  unrefused := turn_unrefused (List.nodup_append.mp clear.apart).1 clear.unrefused socket
  apart := clear.apart.sublist ((wanted_turn _ _ socket).append_right _)
  keyed := clear.keyed

def Permits (configPath : Text) (gateway : Gateway Settings Stack Endpoint) : Label Settings Stack Endpoint → Prop
  | .hangup signal => gateway.handler = .idle → ∀ config, load signal.reload.disk configPath = .ok config →
    ¬signal.reload.Refused configPath → Apart signal.endpoints config ∧ Unused gateway signal.endpoints config
  | _ => True

theorem clear_step {gateway : Gateway Settings Stack Endpoint} (clear : Clear gateway)
    (label : Label Settings Stack Endpoint) (permits : Permits configPath gateway label) :
    Clear (step configPath gateway label) := by
  cases label with
  | hangup signal => exact clear_receive clear signal permits
  | handle => exact clear_handle clear
  | schedule socket => exact clear_schedule clear socket

end

end Praeco.Server.Handover
