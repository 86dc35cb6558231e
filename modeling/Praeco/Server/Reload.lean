import Praeco.Collections.Map
import Praeco.Router.Config
import Praeco.Schedule.Runs
import Praeco.Strings.Fields
import Praeco.Tunnel.Register

/-! Startup and reload of the servers. A task runs one server; its cancellation token and its service stack are made
with it and go by its number here. The table of active servers is keyed by their names. Tasks that end by themselves are
not looked at. -/

namespace Praeco.Server.Reload
open Praeco.Strings Utf8 Fields Praeco.Collections.Map Praeco.Schedule.Runs Praeco.Router.Config Praeco.Tunnel.Register

variable {Settings Stack : Type}

/-- A server of the configuration; `settings` is what only its stack and its TLS configuration are built from. -/
structure ServerConfig (Settings : Type) where
  name : Text
  ip : Option Text
  port : Option Nat
  tunnel : Option TunnelConfig
  enabled : Bool
  protocol : Protocol
  settings : Settings
  deriving DecidableEq

structure Config (Settings : Type) where
  includes : List Text
  pkiBaseOid : Option Text
  parsedPkiBaseOid : Option (List Nat)
  servers : List (ServerConfig Settings)

/-! ### Loading -/

/-- The files as a load finds them, and what the libraries and `finalize` make of them. -/
structure Disk (Settings : Type) where
  readToString : Text → Option Text
  isToml : Text → Bool
  parseConfig : Text → Option (Config Settings)
  resolve : Text → Text
  glob : Text → Option (List (Option Text))
  debugPath : Text → Text
  finalize : ServerConfig Settings → Except Text (ServerConfig Settings)

def orError {α : Type} (value : Option α) (context : Text) : Except Text α :=
  match value with
  | some value => .ok value
  | none => .error context

namespace Disk

variable (disk : Disk Settings)

/-- Only the servers of an included file are taken. -/
def loadFragment (path : Text) : Except Text (List (ServerConfig Settings)) := do
  let text ← orError (disk.readToString path) ("Failed to read included config file: ".toList ++ disk.debugPath path)
  if disk.isToml text = false then
    .error ("Failed to parse included TOML configuration: ".toList ++ disk.debugPath path)
  else
    let fragment ← orError (disk.parseConfig text)
      ("Failed to parse included TOML into Config struct: ".toList ++ disk.debugPath path)
    .ok fragment.servers

def loadFragments : List (Option Text) → Except Text (List (ServerConfig Settings))
  | [] => .ok []
  | none :: rest => loadFragments rest
  | some path :: rest => do
    let first ← disk.loadFragment path
    let others ← loadFragments rest
    .ok (first ++ others)

def loadIncludes : List Text → Except Text (List (ServerConfig Settings))
  | [] => .ok []
  | pattern :: rest => do
    let paths ← orError (disk.glob (disk.resolve pattern)) ("Invalid glob pattern: ".toList ++ disk.resolve pattern)
    let first ← disk.loadFragments paths
    let others ← loadIncludes rest
    .ok (first ++ others)

end Disk

def parseOid : List Text → Except Text (List Nat)
  | [] => .ok []
  | part :: rest => do
    let first ← orError (parseUsize part) ("Invalid OID component in config: '".toList ++ part ++ ['\''])
    let others ← parseOid rest
    .ok (first :: others)

def finalizeAll (disk : Disk Settings) : List (ServerConfig Settings) → Except Text (List (ServerConfig Settings))
  | [] => .ok []
  | server :: rest => do
    let first ← disk.finalize server
    let others ← finalizeAll disk rest
    .ok (first :: others)

def load (disk : Disk Settings) (configFile : Text) : Except Text (Config Settings) := do
  let text ← orError (disk.readToString configFile) ("Failed to read config file: ".toList ++ configFile)
  let config ← orError (disk.parseConfig text) "Failed to parse TOML configuration".toList
  let included ← disk.loadIncludes config.includes
  let parsedPkiBaseOid ← match config.pkiBaseOid with
    | some oid => (parseOid (oid.splitOn '.')).map some
    | none => .ok config.parsedPkiBaseOid
  let servers ← finalizeAll disk (config.servers ++ included)
  .ok { config with parsedPkiBaseOid, servers }

/-! ### Startup -/

structure Task (Settings Stack : Type) where
  config : ServerConfig Settings
  cancelled : Bool
  stack : Stack

structure Entry (Settings : Type) where
  task : Nat
  config : ServerConfig Settings

abbrev Table (Settings : Type) := AList (fun _ : Text => Entry Settings)

/-- The global configuration, the table, and all tasks that were ever started. -/
structure World (Settings Stack : Type) where
  config : Config Settings
  active : Table Settings
  tasks : List (Task Settings Stack)

/-- Startup passes by a server whose stack cannot be built. -/
def launch (buildServiceStack : ServerConfig Settings → Except Text Stack) (world : World Settings Stack)
    (server : ServerConfig Settings) : World Settings Stack :=
  if server.enabled then
    match buildServiceStack server with
    | .ok stack =>
      { world with
        active := world.active.insert server.name ⟨world.tasks.length, server⟩
        tasks := world.tasks ++ [⟨server, false, stack⟩] }
    | .error _ => world
  else world

def start (buildServiceStack : ServerConfig Settings → Except Text Stack) (config : Config Settings) :
    World Settings Stack := config.servers.foldl (launch buildServiceStack) ⟨config, ∅, []⟩

/-! ### Reload -/

abbrev Built (Settings Stack : Type) := (_ : Text) × (ServerConfig Settings × Stack)

/-- What a reload meets: the files, how the builds turn out, and the order of the map of stacks. -/
structure Sighup (Settings Stack : Type) where
  disk : Disk Settings
  buildRustlsConfig : ServerConfig Settings → Except Text Unit
  buildServiceStack : ServerConfig Settings → Except Text Stack
  order : Iteration (Built Settings Stack)

structure DryRun (Settings Stack : Type) where
  reloadErrors : List (Text × Text)
  builtStacks : AList (fun _ : Text => ServerConfig Settings × Stack)

namespace Sighup

variable (reload : Sighup Settings Stack)

def build (server : ServerConfig Settings) : Except Text Stack :=
  if server.protocol = .https ∨ server.tunnel.isSome then
    match reload.buildRustlsConfig server with
    | .error e => .error ("TLS config error: ".toList ++ e)
    | .ok _ => reload.buildServiceStack server
  else reload.buildServiceStack server

def tryServer (dry : DryRun Settings Stack) (server : ServerConfig Settings) : DryRun Settings Stack :=
  if server.enabled then
    match reload.build server with
    | .ok stack => { dry with builtStacks := dry.builtStacks.insert server.name (server, stack) }
    | .error e => { dry with reloadErrors := dry.reloadErrors ++ [(server.name, e)] }
  else dry

def dryRun (servers : List (ServerConfig Settings)) : DryRun Settings Stack := servers.foldl reload.tryServer ⟨[], ∅⟩

end Sighup

structure Pending (Settings Stack : Type) where
  active : Table Settings
  next : Table Settings
  tasks : List (Task Settings Stack)

def needsRestart (old new : ServerConfig Settings) : Bool :=
  old.ip ≠ new.ip || old.port ≠ new.port || old.protocol ≠ new.protocol || old.tunnel ≠ new.tunnel

namespace Pending

variable (pending : Pending Settings Stack) (built : Built Settings Stack)

def restart : Pending Settings Stack :=
  { pending with
    next := pending.next.insert built.1 ⟨pending.tasks.length, built.2.1⟩
    tasks := pending.tasks ++ [⟨built.2.1, false, built.2.2⟩] }

def keep (entry : Entry Settings) : Pending Settings Stack where
  active := pending.active.erase built.1
  next := pending.next.insert built.1 ⟨entry.task, built.2.1⟩
  tasks := pending.tasks.modify entry.task fun task => { task with stack := built.2.2 }

def manage : Pending Settings Stack :=
  match pending.active.lookup built.1 with
  | none => pending.restart built
  | some entry => if needsRestart entry.config built.2.1 then pending.restart built else pending.keep built entry

end Pending

def drain (tasks : List (Task Settings Stack)) (entries : List ((_ : Text) × Entry Settings)) :
    List (Task Settings Stack) :=
  entries.foldl (fun tasks entry => tasks.modify entry.2.task fun task => { task with cancelled := true }) tasks

def hangup (configPath : Text) (world : World Settings Stack) (reload : Sighup Settings Stack) : World Settings Stack :=
  match load reload.disk configPath with
  | .error _ => world
  | .ok config =>
    let dry := reload.dryRun config.servers
    if dry.reloadErrors ≠ [] then world
    else
      let pending := (reload.order.arrange dry.builtStacks.entries).foldl Pending.manage ⟨world.active, ∅, world.tasks⟩
      ⟨config, pending.next, drain pending.tasks pending.active.entries⟩

/-! ### The table as a picture of the running tasks -/

def ServerConfig.listener (server : ServerConfig Settings) :
    Option Text × Option Nat × Protocol × Option TunnelConfig :=
  (server.ip, server.port, server.protocol, server.tunnel)

structure Task.Serves (task : Task Settings Stack) (server : ServerConfig Settings) : Prop where
  running : task.cancelled = false
  named : task.config.name = server.name
  bound : task.config.listener = server.listener

structure Tracked (world : World Settings Stack) : Prop where
  listed : ∀ name entry, world.active.lookup name = some entry →
    entry.config.name = name ∧ ∃ task, world.tasks[entry.task]? = some task ∧ task.Serves entry.config
  live : ∀ index task, world.tasks[index]? = some task → task.cancelled = false →
    ∃ name entry, world.active.lookup name = some entry ∧ entry.task = index

theorem needsRestart_eq_false {old new : ServerConfig Settings} :
    needsRestart old new = false ↔ old.listener = new.listener := by
  simp [needsRestart, ServerConfig.listener, and_assoc]

theorem lookup_append_singleton {α : Type} {items : List α} {item added : α} {index : Nat}
    (found : items[index]? = some item) : (items ++ [added])[index]? = some item := by
  rw [List.getElem?_append_left (List.getElem?_eq_some_iff.mp found).1]
  exact found

theorem of_lookup_append_singleton {α : Type} {items : List α} {item added : α} {index : Nat}
    (found : (items ++ [added])[index]? = some item) : items[index]? = some item ∨ items.length = index := by
  rw [List.getElem?_append] at found
  split_ifs at found with before
  · exact Or.inl found
  · have inside := (List.getElem?_eq_some_iff.mp found).1
    rw [List.length_singleton] at inside
    exact Or.inr (by omega)

theorem Tracked.name_eq {world : World Settings Stack} (tracked : Tracked world) {name : Text} {entry : Entry Settings}
    {task : Task Settings Stack} (found : world.active.lookup name = some entry)
    (there : world.tasks[entry.task]? = some task) : task.config.name = name := by
  obtain ⟨named, other, same, serves⟩ := tracked.listed name entry found
  cases there.symm.trans same
  exact serves.named.trans named

/-! ### Startup -/

def Config.enabledNames (config : Config Settings) : List Text :=
  (config.servers.filter (·.enabled)).map (·.name)

theorem enabled_unique {servers : List (ServerConfig Settings)}
    (distinct : ((servers.filter (·.enabled)).map (·.name)).Nodup) {first second : ServerConfig Settings}
    (here : first ∈ servers) (active : first.enabled = true) (there : second ∈ servers)
    (enabled : second.enabled = true) (same : first.name = second.name) : first = second :=
  List.inj_on_of_nodup_map distinct (List.mem_filter.mpr ⟨here, active⟩) (List.mem_filter.mpr ⟨there, enabled⟩) same

section

variable {buildServiceStack : ServerConfig Settings → Except Text Stack}

variable {world : World Settings Stack}

theorem tracked_launch (tracked : Tracked world) (server : ServerConfig Settings)
    (fresh : server.enabled = true → world.active.lookup server.name = none) :
    Tracked (launch buildServiceStack world server) := by
  unfold launch
  split_ifs with enabled
  · split
    · rename_i stack built
      constructor
      · intro name entry found
        by_cases own : name = server.name
        · subst own
          rw [AList.lookup_insert] at found
          cases found
          exact ⟨rfl, ⟨server, false, stack⟩, by simp, rfl, rfl, rfl⟩
        · rw [AList.lookup_insert_ne own] at found
          obtain ⟨named, task, there, serves⟩ := tracked.listed name entry found
          exact ⟨named, task, lookup_append_singleton there, serves⟩
      · intro index task there running
        rcases of_lookup_append_singleton there with before | last
        · obtain ⟨name, entry, found, same⟩ := tracked.live index task before running
          have other : name ≠ server.name := by
            rintro rfl
            rw [fresh enabled] at found
            cases found
          exact ⟨name, entry, (AList.lookup_insert_ne other).trans found, same⟩
        · exact ⟨server.name, _, AList.lookup_insert _, last⟩
    · exact tracked
  · exact tracked

theorem lookup_launch {server : ServerConfig Settings} {name : Text}
    (other : server.enabled = true → name ≠ server.name) :
    (launch buildServiceStack world server).active.lookup name = world.active.lookup name := by
  unfold launch
  split_ifs with enabled
  · split
    · exact AList.lookup_insert_ne (other enabled)
    · rfl
  · rfl

theorem tracked_foldl_launch (servers : List (ServerConfig Settings)) (tracked : Tracked world)
    (distinct : ((servers.filter (·.enabled)).map (·.name)).Nodup)
    (fresh : ∀ server ∈ servers, server.enabled = true → world.active.lookup server.name = none) :
    Tracked (servers.foldl (launch buildServiceStack) world) := by
  induction servers generalizing world with
  | nil => exact tracked
  | cons server servers ih =>
    have later : ((servers.filter (·.enabled)).map (·.name)).Nodup :=
      distinct.sublist ((List.sublist_cons_self server servers).filter _ |>.map _)
    refine ih (tracked_launch tracked server (fresh server List.mem_cons_self)) later ?_
    intro other member enabled
    rw [lookup_launch]
    · exact fresh other (List.mem_cons_of_mem _ member) enabled
    · intro first same
      rw [List.filter_cons_of_pos first, List.map_cons, List.nodup_cons] at distinct
      exact distinct.1 (same ▸ List.mem_map_of_mem (List.mem_filter.mpr ⟨member, enabled⟩))

theorem tracked_start (config : Config Settings) (distinct : config.enabledNames.Nodup) :
    Tracked (start buildServiceStack config) := by
  refine tracked_foldl_launch config.servers ⟨?_, ?_⟩ distinct fun _ _ _ => rfl
  · intro name entry found
    cases found
  · intro index task there
    cases there

end

/-! ### The dry run -/

namespace Sighup

variable (reload : Sighup Settings Stack)

def Refused (configPath : Text) : Prop :=
  match load reload.disk configPath with
  | .error _ => True
  | .ok config => ∃ server ∈ config.servers, server.enabled = true ∧ ∃ e, reload.build server = .error e

variable {reload}

variable {server : ServerConfig Settings} {stack : Stack} {servers : List (ServerConfig Settings)}

theorem build_ok (built : reload.build server = .ok stack) : reload.buildServiceStack server = .ok stack := by
  unfold build at built
  split_ifs at built
  · split at built
    · cases built
    · exact built
  · exact built

theorem dryRun_concat (servers : List (ServerConfig Settings)) (server : ServerConfig Settings) :
    reload.dryRun (servers ++ [server]) = reload.tryServer (reload.dryRun servers) server := by
  rw [dryRun, List.foldl_append]
  rfl

theorem reloadErrors_eq_nil (servers : List (ServerConfig Settings)) :
    (reload.dryRun servers).reloadErrors = [] ↔
      ∀ server ∈ servers, server.enabled = true → ∃ stack, reload.build server = .ok stack := by
  induction servers using List.reverseRecOn with
  | nil => simp [dryRun]
  | append_singleton servers server ih =>
    rw [dryRun_concat, tryServer, List.forall_mem_append, List.forall_mem_singleton, ← ih]
    split_ifs with enabled
    · split
      · rename_i stack built
        simp [built]
      · rename_i e built
        simp [built, enabled]
    · simp [enabled]

theorem accepted_iff {configPath : Text} {config : Config Settings}
    (loaded : load reload.disk configPath = .ok config) :
    ¬reload.Refused configPath ↔
      ∀ server ∈ config.servers, server.enabled = true → ∃ stack, reload.build server = .ok stack := by
  unfold Refused
  rw [loaded]
  constructor
  · intro accepted server member enabled
    cases result : reload.build server with
    | ok stack => exact ⟨stack, rfl⟩
    | error e => exact absurd ⟨server, member, enabled, e, result⟩ accepted
  · rintro builds ⟨server, member, enabled, e, failed⟩
    obtain ⟨stack, built⟩ := builds server member enabled
    cases failed.symm.trans built

theorem refused_iff {configPath : Text} {config : Config Settings} (loaded : load reload.disk configPath = .ok config) :
    reload.Refused configPath ↔ (reload.dryRun config.servers).reloadErrors ≠ [] := by
  rw [← not_iff_not, accepted_iff loaded, ne_eq, not_not, reloadErrors_eq_nil]

theorem lookup_builtStacks {name : Text}
    (found : (reload.dryRun servers).builtStacks.lookup name = some (server, stack)) :
    server ∈ servers ∧ server.enabled = true ∧ server.name = name ∧ reload.build server = .ok stack := by
  induction servers using List.reverseRecOn with
  | nil => cases found
  | append_singleton servers last ih =>
    have earlier (found : (reload.dryRun servers).builtStacks.lookup name = some (server, stack)) :
        server ∈ servers ++ [last] ∧ server.enabled = true ∧ server.name = name ∧ reload.build server = .ok stack := by
      obtain ⟨member, rest⟩ := ih found
      exact ⟨List.mem_append_left _ member, rest⟩
    rw [dryRun_concat, tryServer] at found
    split_ifs at found with enabled
    · split at found
      · rename_i built result
        by_cases own : name = last.name
        · subst own
          rw [AList.lookup_insert] at found
          cases found
          exact ⟨List.mem_append_right _ List.mem_cons_self, enabled, rfl, result⟩
        · rw [AList.lookup_insert_ne own] at found
          exact earlier found
      · exact earlier found
    · exact earlier found

theorem lookup_builtStacks_ne_none (member : server ∈ servers) (enabled : server.enabled = true)
    (built : reload.build server = .ok stack) : (reload.dryRun servers).builtStacks.lookup server.name ≠ none := by
  induction servers using List.reverseRecOn with
  | nil => cases member
  | append_singleton servers last ih =>
    rw [dryRun_concat]
    rcases List.mem_append.mp member with earlier | here
    · have before := ih earlier
      unfold tryServer
      split_ifs
      · split
        · by_cases own : server.name = last.name
          · simp [own]
          · rw [AList.lookup_insert_ne own]
            exact before
        · exact before
      · exact before
    · rw [List.mem_singleton] at here
      subst here
      simp [tryServer, enabled, built]

theorem exists_builtStack (distinct : ((servers.filter (·.enabled)).map (·.name)).Nodup) (member : server ∈ servers)
    (enabled : server.enabled = true) (built : reload.build server = .ok stack) :
    (reload.dryRun servers).builtStacks.lookup server.name = some (server, stack) := by
  obtain ⟨⟨other, result⟩, found⟩ := Option.ne_none_iff_exists'.mp (lookup_builtStacks_ne_none member enabled built)
  obtain ⟨listed, active, same, done⟩ := lookup_builtStacks found
  have one : other = server := enabled_unique distinct listed active member enabled same
  subst one
  cases built.symm.trans done
  exact found

end Sighup

/-! ### The apply pass -/

/-- A server has its place in the new table, with a task that the old one no longer lists. -/
structure Placed (world : World Settings Stack) (pending : Pending Settings Stack) (built : Built Settings Stack)
    (index : Nat) : Prop where
  named : built.2.1.name = built.1
  listed : pending.next.lookup built.1 = some ⟨index, built.2.1⟩
  serves : ∃ task, pending.tasks[index]? = some task ∧ task.Serves built.2.1 ∧ task.stack = built.2.2
  apart : ∀ entry, pending.active.lookup built.1 = some entry → entry.task ≠ index
  kept : ∀ entry, world.active.lookup built.1 = some entry → entry.config.listener = built.2.1.listener →
    entry.task = index

structure Managed (world : World Settings Stack) (done : List (Built Settings Stack))
    (pending : Pending Settings Stack) : Prop where
  former : ∀ name entry, pending.active.lookup name = some entry → world.active.lookup name = some entry
  waiting : ∀ name, name ∉ done.keys → pending.active.lookup name = world.active.lookup name
  carried : ∀ (index : Nat) task, world.tasks[index]? = some task →
    ∃ stack, pending.tasks[index]? = some { task with stack }
  placed : ∀ built ∈ done, ∃ index, Placed world pending built index
  only : ∀ name entry, pending.next.lookup name = some entry → name ∈ done.keys
  live : ∀ (index : Nat) task, pending.tasks[index]? = some task → task.cancelled = false →
    ∃ name entry, (pending.active.lookup name = some entry ∨ pending.next.lookup name = some entry) ∧ entry.task = index

namespace Managed

variable {world : World Settings Stack} {done : List (Built Settings Stack)} {pending : Pending Settings Stack}
  {built : Built Settings Stack}

variable {name : Text} {entry : Entry Settings}

theorem ne_of_mem_done (fresh : built.1 ∉ done.keys) {other : Built Settings Stack} (member : other ∈ done) :
    other.1 ≠ built.1 := by
  intro same
  exact fresh (same ▸ List.mem_keys_of_mem member)

theorem only_insert (managed : Managed world done pending) (value : Entry Settings)
    (found : (pending.next.insert built.1 value).lookup name = some entry) : name ∈ (built :: done).keys := by
  by_cases own : name = built.1
  · exact own ▸ List.mem_cons_self
  · exact List.mem_cons_of_mem _ (managed.only name entry ((AList.lookup_insert_ne own).symm.trans found))

theorem listed_insert (managed : Managed world done pending) (fresh : built.1 ∉ done.keys) (value : Entry Settings)
    (found : pending.next.lookup name = some entry) : (pending.next.insert built.1 value).lookup name = some entry := by
  have other : name ≠ built.1 := by
    rintro rfl
    exact fresh (managed.only _ entry found)
  exact (AList.lookup_insert_ne other).trans found

theorem tasks_keep (index : Nat) : (pending.keep built entry).tasks[index]? =
    pending.tasks[index]?.map fun task => if entry.task = index then { task with stack := built.2.2 } else task :=
  List.getElem?_modify _ _ _ _

theorem active_keep {name : Text} {left : Entry Settings} :
    (pending.keep built entry).active.lookup name = some left ↔
      name ≠ built.1 ∧ pending.active.lookup name = some left := by
  change (pending.active.erase built.1).lookup name = some left ↔ _
  by_cases own : name = built.1
  · subst own
    simp
  · simp [own, AList.lookup_erase_ne own]

section

variable (managed : Managed world done pending) (tracked : Tracked world)

include managed tracked

theorem former_task (found : pending.active.lookup name = some entry) :
    ∃ task, pending.tasks[entry.task]? = some task ∧ task.Serves entry.config ∧ entry.config.name = name := by
  obtain ⟨named, task, there, serves⟩ := tracked.listed name entry (managed.former name entry found)
  obtain ⟨stack, carried⟩ := managed.carried entry.task task there
  exact ⟨_, carried, ⟨serves.running, serves.named, serves.bound⟩, named⟩

theorem placed_restart (named : built.2.1.name = built.1)
    (changed : ∀ entry, world.active.lookup built.1 = some entry → entry.config.listener ≠ built.2.1.listener) :
    Placed world (pending.restart built) built pending.tasks.length where
  named := named
  listed := AList.lookup_insert _
  serves := ⟨_, List.getElem?_concat_length, ⟨rfl, rfl, rfl⟩, rfl⟩
  apart := by
    intro entry found same
    obtain ⟨task, there, _⟩ := managed.former_task tracked found
    have inside := (List.getElem?_eq_some_iff.mp there).1
    omega
  kept := by
    intro entry found same
    exact absurd same (changed entry found)

theorem restart (fresh : built.1 ∉ done.keys) (named : built.2.1.name = built.1)
    (changed : ∀ entry, world.active.lookup built.1 = some entry → entry.config.listener ≠ built.2.1.listener) :
    Managed world (built :: done) (pending.restart built) := by
  constructor
  · exact managed.former
  · intro name absent
    exact managed.waiting name fun member => absent (List.mem_cons_of_mem _ member)
  · intro index task there
    obtain ⟨stack, carried⟩ := managed.carried index task there
    exact ⟨stack, lookup_append_singleton carried⟩
  · intro other member
    rcases List.mem_cons.mp member with rfl | member
    · exact ⟨_, managed.placed_restart tracked named changed⟩
    · obtain ⟨index, owner, listed, ⟨task, there, serves⟩, apart, kept⟩ := managed.placed other member
      exact ⟨index, owner, managed.listed_insert fresh _ listed, ⟨task, lookup_append_singleton there, serves⟩, apart,
        kept⟩
  · intro name entry found
    exact managed.only_insert _ found
  · intro index task there running
    rcases of_lookup_append_singleton there with before | last
    · obtain ⟨name, entry, found, same⟩ := managed.live index task before running
      exact ⟨name, entry, found.imp_right (managed.listed_insert fresh _), same⟩
    · exact ⟨built.1, _, Or.inr (AList.lookup_insert _), last⟩

theorem placed_keep (fresh : built.1 ∉ done.keys) (named : built.2.1.name = built.1)
    (found : pending.active.lookup built.1 = some entry) (same : entry.config.listener = built.2.1.listener) :
    Placed world (pending.keep built entry) built entry.task where
  named := named
  listed := AList.lookup_insert _
  serves := by
    obtain ⟨old, there, serves, owner⟩ := managed.former_task tracked found
    refine ⟨{ old with stack := built.2.2 }, ?_, ?_, rfl⟩
    · rw [tasks_keep, there, Option.map_some, if_pos rfl]
    · exact ⟨serves.running, serves.named.trans (owner.trans named.symm), serves.bound.trans same⟩
  apart := by
    intro left still
    exact absurd rfl (active_keep.mp still).1
  kept := by
    intro before listed _
    rw [← managed.waiting built.1 fresh, found] at listed
    cases listed
    rfl

theorem placed_keep_other (fresh : built.1 ∉ done.keys) (found : pending.active.lookup built.1 = some entry)
    {other : Built Settings Stack} (member : other ∈ done) {index : Nat} (placed : Placed world pending other index) :
    Placed world (pending.keep built entry) other index := by
  obtain ⟨old, there, serves, owner⟩ := managed.former_task tracked found
  obtain ⟨task, here, served, stack⟩ := placed.serves
  have apart := ne_of_mem_done fresh member
  have elsewhere : entry.task ≠ index := by
    intro same
    rw [same, here] at there
    cases there
    exact apart (placed.named.symm.trans (served.named.symm.trans (serves.named.trans owner)))
  refine ⟨placed.named, managed.listed_insert fresh _ placed.listed, ⟨task, ?_, served, stack⟩, ?_, placed.kept⟩
  · rw [tasks_keep, here, Option.map_some, if_neg elsewhere]
  · intro left still
    exact placed.apart left (active_keep.mp still).2

theorem keep (fresh : built.1 ∉ done.keys) (named : built.2.1.name = built.1)
    (found : pending.active.lookup built.1 = some entry) (same : entry.config.listener = built.2.1.listener) :
    Managed world (built :: done) (pending.keep built entry) := by
  constructor
  · intro name left still
    exact managed.former name left (active_keep.mp still).2
  · intro name absent
    rw [List.keys_cons, List.mem_cons, not_or] at absent
    exact (AList.lookup_erase_ne absent.1).trans (managed.waiting name absent.2)
  · intro index task before
    obtain ⟨stack, carried⟩ := managed.carried index task before
    rw [tasks_keep, carried, Option.map_some]
    split_ifs
    · exact ⟨_, rfl⟩
    · exact ⟨_, rfl⟩
  · intro other member
    rcases List.mem_cons.mp member with rfl | member
    · exact ⟨_, managed.placed_keep tracked fresh named found same⟩
    · obtain ⟨index, placed⟩ := managed.placed other member
      exact ⟨index, managed.placed_keep_other tracked fresh found member placed⟩
  · intro name left listed
    exact managed.only_insert _ listed
  · intro index task after running
    rw [tasks_keep, Option.map_eq_some_iff] at after
    obtain ⟨earlier, before, rfl⟩ := after
    have unchanged : earlier.cancelled = false := by
      split_ifs at running
      · exact running
      · exact running
    obtain ⟨name, left, listed, place⟩ := managed.live index earlier before unchanged
    rcases listed with listed | listed
    · by_cases own : name = built.1
      · -- The entry has moved to the new table.
        subst own
        cases found.symm.trans listed
        exact ⟨built.1, _, Or.inr (AList.lookup_insert _), place⟩
      · exact ⟨name, left, Or.inl (active_keep.mpr ⟨own, listed⟩), place⟩
    · exact ⟨name, left, Or.inr (managed.listed_insert fresh _ listed), place⟩

theorem manage (fresh : built.1 ∉ done.keys) (named : built.2.1.name = built.1) :
    Managed world (built :: done) (pending.manage built) := by
  have same := managed.waiting built.1 fresh
  unfold Pending.manage
  cases found : pending.active.lookup built.1 with
  | none =>
    apply managed.restart tracked fresh named
    intro entry listed
    rw [← same, found] at listed
    cases listed
  | some entry =>
    dsimp only
    split_ifs with changed
    · apply managed.restart tracked fresh named
      intro other listed unchanged
      rw [← same, found] at listed
      cases listed
      rw [needsRestart_eq_false.mpr unchanged] at changed
      cases changed
    · exact managed.keep tracked fresh named found (needsRestart_eq_false.mp (Bool.eq_false_iff.mpr changed))

end

/-- The whole pass, over servers with different names. -/
theorem foldl_manage (tracked : Tracked world) (remaining : List (Built Settings Stack))
    (managed : Managed world done pending) (distinct : (remaining.keys ++ done.keys).Nodup)
    (named : ∀ built ∈ remaining, built.2.1.name = built.1) :
    Managed world (remaining.reverse ++ done) (remaining.foldl Pending.manage pending) := by
  induction remaining generalizing done pending with
  | nil => exact managed
  | cons built remaining ih =>
    rw [List.keys_cons, List.cons_append, List.nodup_cons] at distinct
    have fresh : built.1 ∉ done.keys := fun member => distinct.1 (List.mem_append_right _ member)
    have next := managed.manage tracked fresh (named built List.mem_cons_self)
    rw [List.reverse_cons, List.append_assoc, List.singleton_append]
    refine ih next ?_ fun other member => named other (List.mem_cons_of_mem _ member)
    rw [List.keys_cons, List.perm_middle.nodup_iff, List.nodup_cons]
    exact distinct

end Managed

theorem lookup_drain (entries : List ((_ : Text) × Entry Settings)) (tasks : List (Task Settings Stack)) (index : Nat) :
    (drain tasks entries)[index]? = tasks[index]?.map fun task =>
      if ∃ entry ∈ entries, entry.2.task = index then { task with cancelled := true } else task := by
  induction entries generalizing tasks with
  | nil => simp [drain]
  | cons entry entries ih =>
    change (drain (tasks.modify _ _) entries)[index]? = _
    rw [ih, List.getElem?_modify]
    cases tasks[index]? with
    | none => rfl
    | some task =>
      by_cases own : entry.2.task = index
      · simp [own]
      · have rest : (∃ later ∈ entry :: entries, later.2.task = index) ↔ ∃ later ∈ entries, later.2.task = index := by
          simp [own]
        simp only [Option.map_eq_map, Option.map_some, own, if_false]
        exact congrArg some (if_congr rest.symm rfl rfl)

namespace Managed

variable {world : World Settings Stack} {done : List (Built Settings Stack)} {pending : Pending Settings Stack}

theorem spared (managed : Managed world done pending) (tracked : Tracked world) {built : Built Settings Stack}
    {index : Nat} (placed : Placed world pending built index) :
    ∃ task, (drain pending.tasks pending.active.entries)[index]? = some task ∧ task.Serves built.2.1 ∧
      task.stack = built.2.2 := by
  obtain ⟨task, there, serves, stack⟩ := placed.serves
  refine ⟨task, ?_, serves, stack⟩
  rw [lookup_drain, there, Option.map_some, if_neg]
  rintro ⟨⟨name, entry⟩, member, same⟩
  have found : pending.active.lookup name = some entry := AList.mem_lookup_iff.mpr member
  by_cases own : name = built.1
  · subst own
    exact placed.apart entry found same
  · obtain ⟨other, here, serving, owner⟩ := managed.former_task tracked found
    rw [same, there] at here
    cases here
    exact own (owner.symm.trans (serving.named.symm.trans (serves.named.trans placed.named)))

theorem tracked (managed : Managed world done pending) (before : Tracked world) (config : Config Settings) :
    Tracked ⟨config, pending.next, drain pending.tasks pending.active.entries⟩ := by
  constructor
  · intro name entry found
    obtain ⟨built, member, rfl⟩ : ∃ built ∈ done, built.1 = name := by
      simpa [List.keys] using managed.only name entry found
    obtain ⟨index, placed⟩ := managed.placed built member
    cases placed.listed.symm.trans found
    obtain ⟨task, there, serves, _⟩ := managed.spared before placed
    exact ⟨placed.named, task, there, serves⟩
  · intro index task there running
    rw [lookup_drain, Option.map_eq_some_iff] at there
    obtain ⟨earlier, here, rfl⟩ := there
    split_ifs at running with cancelled
    obtain ⟨name, entry, listed, same⟩ := managed.live index earlier here running
    rcases listed with left | listed
    · exact absurd ⟨⟨name, entry⟩, AList.mem_lookup_iff.mp left, same⟩ cancelled
    · exact ⟨name, entry, listed, same⟩

theorem start (tracked : Tracked world) : Managed world [] ⟨world.active, ∅, world.tasks⟩ where
  former _ _ found := found
  waiting _ _ := rfl
  carried _ task there := ⟨task.stack, there⟩
  placed _ member := by cases member
  only _ _ found := by cases found
  live index task there running := by
    obtain ⟨name, entry, found, same⟩ := tracked.live index task there running
    exact ⟨name, entry, Or.inl found, same⟩

end Managed

/-! ### Runs -/

section

variable {configPath : Text} {world : World Settings Stack} {reload : Sighup Settings Stack}

theorem hangup_refused (refused : reload.Refused configPath) : hangup configPath world reload = world := by
  unfold hangup
  split
  · rfl
  · rename_i config loaded
    exact if_pos ((Sighup.refused_iff loaded).mp refused)

/-- An accepted reload manages the servers that the dry run has built, each once. -/
theorem hangup_accepted (tracked : Tracked world) (accepted : ¬reload.Refused configPath) :
    ∃ config pending done, load reload.disk configPath = .ok config ∧
      (∀ server ∈ config.servers, server.enabled = true → ∃ stack, reload.build server = .ok stack) ∧
      hangup configPath world reload = ⟨config, pending.next, drain pending.tasks pending.active.entries⟩ ∧
      Managed world done pending ∧
      ∀ built, built ∈ done ↔ (reload.dryRun config.servers).builtStacks.lookup built.1 = some built.2 := by
  unfold hangup
  cases loaded : load reload.disk configPath with
  | error e => simp [Sighup.Refused, loaded] at accepted
  | ok config =>
    have builds := (Sighup.accepted_iff loaded).mp accepted
    have clean : (reload.dryRun config.servers).reloadErrors = [] := (Sighup.reloadErrors_eq_nil _).mpr builds
    have same := reload.order.perm (reload.dryRun config.servers).builtStacks.entries
    have member (built : Built Settings Stack) : built ∈ reload.order.arrange _ ↔
        (reload.dryRun config.servers).builtStacks.lookup built.1 = some built.2 :=
      same.mem_iff.trans AList.mem_lookup_iff.symm
    have distinct : (reload.order.arrange (reload.dryRun config.servers).builtStacks.entries).keys.Nodup :=
      (same.map _).nodup_iff.mpr (reload.dryRun config.servers).builtStacks.nodupKeys
    have managed := (Managed.start tracked).foldl_manage tracked _ (by simpa using distinct)
      (fun built listed => (Sighup.lookup_builtStacks ((member built).mp listed)).2.2.1)
    refine ⟨config, _, _, rfl, builds, ?_, managed, ?_⟩
    · simp [clean]
    · intro built
      rw [List.append_nil, List.mem_reverse, member]

theorem tracked_hangup (tracked : Tracked world) (reload : Sighup Settings Stack) :
    Tracked (hangup configPath world reload) := by
  by_cases refused : reload.Refused configPath
  · rw [hangup_refused refused]
    exact tracked
  · obtain ⟨config, pending, done, _, _, result, managed, _⟩ := hangup_accepted tracked refused
    rw [result]
    exact managed.tracked tracked config

end

/-- After an accepted reload the running tasks are one for each enabled server, with its listener and its new stack, and
no other task serves it; a task whose listener is unchanged goes on. -/
structure InStep (reload : Sighup Settings Stack) (config : Config Settings) (before after : World Settings Stack) :
    Prop where
  global : after.config = config
  served : ∀ server ∈ config.servers, server.enabled = true →
    ∃ index : Nat, (∃ task, after.tasks[index]? = some task ∧ task.Serves server ∧
      reload.buildServiceStack server = .ok task.stack) ∧
      ∀ (other : Nat) task, after.tasks[other]? = some task → task.Serves server → other = index
  only : ∀ (index : Nat) task, after.tasks[index]? = some task → task.cancelled = false →
    ∃ server ∈ config.servers, server.enabled = true ∧ task.Serves server
  kept : ∀ server ∈ config.servers, server.enabled = true → ∀ (index : Nat) task, before.tasks[index]? = some task →
    task.Serves server → ∃ task, after.tasks[index]? = some task ∧ task.Serves server

theorem inStep_hangup {configPath : Text} {world : World Settings Stack} {reload : Sighup Settings Stack}
    {config : Config Settings} (tracked : Tracked world) (loaded : load reload.disk configPath = .ok config)
    (accepted : ¬reload.Refused configPath) (distinct : config.enabledNames.Nodup) :
    InStep reload config world (hangup configPath world reload) := by
  obtain ⟨same, pending, done, result, builds, after, managed, listed⟩ := hangup_accepted tracked accepted
  cases loaded.symm.trans result
  have next : Tracked (hangup configPath world reload) := tracked_hangup tracked reload
  rw [after] at next ⊢
  have placed (server : ServerConfig Settings) (member : server ∈ config.servers) (enabled : server.enabled = true) :
      ∃ stack index, reload.buildServiceStack server = .ok stack ∧
        Placed world pending ⟨server.name, (server, stack)⟩ index := by
    obtain ⟨stack, built⟩ := builds server member enabled
    obtain ⟨index, place⟩ := managed.placed ⟨server.name, (server, stack)⟩
      ((listed _).mpr (Sighup.exists_builtStack distinct member enabled built))
    exact ⟨stack, index, Sighup.build_ok built, place⟩
  refine ⟨rfl, ?_, ?_, ?_⟩
  · intro server member enabled
    obtain ⟨stack, index, built, place⟩ := placed server member enabled
    obtain ⟨task, there, serves, new⟩ := managed.spared tracked place
    refine ⟨index, ⟨task, there, serves, built.trans (congrArg _ new.symm)⟩, ?_⟩
    intro other running here serving
    obtain ⟨name, entry, found, rfl⟩ := next.live other running here serving.running
    have owner : name = server.name := (next.name_eq found here).symm.trans serving.named
    subst owner
    cases place.listed.symm.trans found
    rfl
  · intro index task there running
    obtain ⟨name, entry, found, rfl⟩ := next.live index task there running
    obtain ⟨built, member, rfl⟩ : ∃ built ∈ done, built.1 = name := by
      simpa [List.keys] using managed.only name entry found
    obtain ⟨place, placed⟩ := managed.placed built member
    cases placed.listed.symm.trans found
    obtain ⟨other, here, serves, _⟩ := managed.spared tracked placed
    cases there.symm.trans here
    obtain ⟨inside, enabled, _⟩ := Sighup.lookup_builtStacks ((listed built).mp member)
    exact ⟨built.2.1, inside, enabled, serves⟩
  · intro server member enabled index task there serves
    obtain ⟨stack, place, _, placed⟩ := placed server member enabled
    obtain ⟨name, entry, found, rfl⟩ := tracked.live index task there serves.running
    have owner : name = server.name := (tracked.name_eq found there).symm.trans serves.named
    subst owner
    obtain ⟨_, other, here, serving⟩ := tracked.listed _ entry found
    cases there.symm.trans here
    have stays := placed.kept entry found (serving.bound.symm.trans serves.bound)
    obtain ⟨final, running, served, _⟩ := managed.spared tracked placed
    exact ⟨final, stays ▸ running, served⟩

theorem tracked_run {configPath : Text} {buildServiceStack : ServerConfig Settings → Except Text Stack}
    {config : Config Settings} (distinct : config.enabledNames.Nodup) (reloads : List (Sighup Settings Stack)) :
    Tracked (run (hangup configPath) (start buildServiceStack config) reloads) := by
  induction reloads using List.reverseRecOn with
  | nil => exact tracked_start config distinct
  | append_singleton reloads reload ih =>
    rw [run_append]
    exact tracked_hangup ih reload

/-- Every reload after any others: one that fails changes nothing, and one that is accepted keeps the servers in step,
if no two enabled servers of it or of the initial configuration have one name. -/
theorem reload_in_step (configPath : Text) (buildServiceStack : ServerConfig Settings → Except Text Stack)
    (initial : Config Settings) (reloads : List (Sighup Settings Stack)) (reload : Sighup Settings Stack) :
    let world := run (hangup configPath) (start buildServiceStack initial) reloads
    (reload.Refused configPath → hangup configPath world reload = world) ∧
      (initial.enabledNames.Nodup → ∀ config, load reload.disk configPath = .ok config → config.enabledNames.Nodup →
        ¬reload.Refused configPath → InStep reload config world (hangup configPath world reload)) := by
  intro world
  refine ⟨hangup_refused, ?_⟩
  intro distinct config loaded names accepted
  exact inStep_hangup (tracked_run distinct reloads) loaded accepted names

def serverOf (name : Char) (port : Nat) : ServerConfig Unit := ⟨[name], none, some port, none, true, .http, ()⟩

def configOf (servers : List (ServerConfig Unit)) : Config Unit := ⟨[], none, none, servers⟩

def reloadOf (servers : List (ServerConfig Unit)) (stack : Nat) : Sighup Unit Nat where
  disk := ⟨fun _ => some [], fun _ => true, fun _ => some (configOf servers), id, fun _ => none, id, .ok⟩
  buildRustlsConfig _ := .ok ()
  buildServiceStack _ := .ok stack
  order := ⟨id, fun _ => .refl _⟩

theorem not_refused_reloadOf {servers : List (ServerConfig Unit)} {stack : Nat}
    (loaded : load (reloadOf servers stack).disk [] = .ok (configOf servers)) :
    ¬(reloadOf servers stack).Refused [] := by
  rw [Sighup.accepted_iff loaded]
  intro server _ _
  refine ⟨stack, ?_⟩
  unfold Sighup.build
  split_ifs <;> rfl

/-- One of two servers moves to another port. -/
theorem reload_in_step_move :
    let world := run (hangup []) (start (fun _ => .ok 0) (configOf [serverOf 'a' 1, serverOf 'b' 2])) []
    let reload := reloadOf [serverOf 'a' 1, serverOf 'b' 3] 1
    InStep reload (configOf [serverOf 'a' 1, serverOf 'b' 3]) world (hangup [] world reload) :=
  (reload_in_step [] (fun _ => .ok 0) (configOf [serverOf 'a' 1, serverOf 'b' 2]) []
    (reloadOf [serverOf 'a' 1, serverOf 'b' 3] 1)).2 (by decide +kernel) _ rfl (by decide +kernel)
    (not_refused_reloadOf rfl)

/-- Two servers of one name are started, and the reload that keeps the second leaves the first one running. -/
theorem duplicate_name_left_running :
    let servers := [serverOf 'a' 1, serverOf 'a' 2]
    let world := start (fun _ => .ok 0) (configOf servers)
    let reload := reloadOf [serverOf 'a' 2] 1
    let after := hangup [] world reload
    load (reloadOf servers 0).disk [] = .ok (configOf servers) ∧
      load reload.disk [] = .ok (configOf [serverOf 'a' 2]) ∧ ¬reload.Refused [] ∧
      after.tasks.map (fun task => (task.config.port, task.cancelled, task.stack)) =
        [(some 1, false, 0), (some 2, false, 1)] :=
  ⟨rfl, rfl, not_refused_reloadOf rfl, by decide +kernel⟩

end Praeco.Server.Reload
