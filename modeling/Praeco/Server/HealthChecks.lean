import Praeco.Server.Launches
import Praeco.Server.Finalize

/-! Active health checks over reloads. A load makes new upstream nodes, which the stacks built from it route to. The
checks are spawned with a task and report into the nodes of the configuration that the task was started with. -/

namespace Praeco.Server.HealthChecks
open Praeco.Strings Utf8 Praeco.Collections Fallible Praeco.Schedule.Runs Praeco.Http.Target Praeco.Router.Config
open Praeco.Router.Matching Praeco.Server.Middleware Praeco.Server.Reload Praeco.Server.Stack Praeco.Server.Tls
open Praeco.Server.Finalize Praeco.Server.Launches

/-- An upstream node, known by the load that made it and its place there. -/
structure Node where
  load : Nat
  server : Text
  pathPrefix : Text
  index : Nat
  deriving DecidableEq, Repr

def nodesOf (load : Nat) (server : Text) (routes : List ParsedRoute) : List Node :=
  routes.flatMap fun route =>
    (List.range route.target.upstreams.length).map fun index => ⟨load, server, route.pathPrefix, index⟩

theorem mem_nodesOf {load : Nat} {server : Text} {routes : List ParsedRoute} {node : Node} :
    node ∈ nodesOf load server routes ↔ node.load = load ∧ node.server = server ∧
      ∃ route ∈ routes, node.pathPrefix = route.pathPrefix ∧ node.index < route.target.upstreams.length := by
  unfold nodesOf
  rw [List.mem_flatMap]
  constructor
  · rintro ⟨route, member, inside⟩
    obtain ⟨index, bound, rfl⟩ := List.mem_map.mp inside
    exact ⟨rfl, rfl, route, member, rfl, List.mem_range.mp bound⟩
  · rintro ⟨rfl, rfl, route, member, same, bound⟩
    exact ⟨route, member, List.mem_map.mpr ⟨node.index, List.mem_range.mpr bound, same ▸ rfl⟩⟩

def activelyChecked (routes : List ParsedRoute) : List ParsedRoute :=
  routes.filter fun route => 0 < route.target.activeHealthCheckInterval

theorem mem_activelyChecked {routes : List ParsedRoute} {route : ParsedRoute} :
    route ∈ activelyChecked routes ↔ route ∈ routes ∧ 0 < route.target.activeHealthCheckInterval := by
  rw [activelyChecked, List.mem_filter, decide_eq_true_eq]

def routesOf {lib : Matchit ParsedRoute} : BaseService lib → List ParsedRoute
  | .router service => service.parsedRoutes
  | _ => []

structure LoadedStack (Key Regex : Type) (lib : Matchit ParsedRoute) where
  load : Nat
  server : Text
  stack : ServiceStack Key Regex lib

namespace LoadedStack

variable {Key Regex : Type} {lib : Matchit ParsedRoute} (stack : LoadedStack Key Regex lib)

def nodes : List Node := nodesOf stack.load stack.server (routesOf stack.stack.base)

def checkedNodes : List Node := nodesOf stack.load stack.server (activelyChecked (routesOf stack.stack.base))

variable {stack}

theorem mem_nodes_of_checked {node : Node} (checked : node ∈ stack.checkedNodes) : node ∈ stack.nodes := by
  obtain ⟨loaded, named, route, member, rest⟩ := mem_nodesOf.mp checked
  exact mem_nodesOf.mpr ⟨loaded, named, route, (mem_activelyChecked.mp member).1, rest⟩

end LoadedStack

structure Launch (pki : Pki) where
  load : Nat
  moment : Moment pki

variable {Key Regex : Type} {pki : Pki}

def spawnRouterHealthChecks (launch : Launch pki) (server : ServerConfig (Settings Regex pki)) : List Node :=
  match server.settings.routerParams with
  | none => []
  | some routerParams =>
    match upstreamTls launch.moment.files routerParams with
    | .error _ => []
    | .ok _ => nodesOf launch.load server.name (activelyChecked server.settings.computed.parsedRoutes)

/-- The checks that `start_single_server` spawns; they run until the token of the task is cancelled. -/
def checks (launch : Launch pki) (server : ServerConfig (Settings Regex pki)) : List Node :=
  if server.settings.service = .router then spawnRouterHealthChecks launch server else []

theorem mem_checks {launch : Launch pki} {server : ServerConfig (Settings Regex pki)} {node : Node}
    (spawned : node ∈ checks launch server) : node.load = launch.load ∧ node.server = server.name := by
  unfold checks spawnRouterHealthChecks at spawned
  split_ifs at spawned
  · split at spawned
    · cases spawned
    · split at spawned
      · cases spawned
      · obtain ⟨loaded, named, -⟩ := mem_nodesOf.mp spawned
        exact ⟨loaded, named⟩
  · cases spawned

def NeedsChecks (server : ServerConfig (Settings Regex pki)) : Prop :=
  server.settings.service = .router ∧ ∃ route ∈ server.settings.computed.parsedRoutes,
    0 < route.target.activeHealthCheckInterval ∧ route.target.upstreams ≠ []

section

variable (env : Environment Key Regex pki)

def buildLoadedStack (launch : Launch pki) (server : ServerConfig (Settings Regex pki)) :
    Except Text (LoadedStack Key Regex env.routers) :=
  (buildServiceStack (env.during launch.moment) server).map fun stack => ⟨launch.load, server.name, stack⟩

variable {env} {launch : Launch pki} {server : ServerConfig (Settings Regex pki)}

theorem newRouterService_ok {files : Files pki} {lib : Matchit ParsedRoute} {service : RouterService lib}
    (done : newRouterService files server lib = .ok service) :
    service.parsedRoutes = server.settings.computed.parsedRoutes ∧
      ∃ routerParams, server.settings.routerParams = some routerParams ∧ upstreamTls files routerParams = .ok () := by
  obtain ⟨routerParams, present, done⟩ := bind_ok done
  obtain ⟨⟨⟩, connects, done⟩ := bind_ok done
  cases done
  exact ⟨rfl, routerParams, required_ok present, connects⟩

theorem baseService_routes {staticName : Text} {base : BaseService env.routers}
    (done : baseService env server staticName = .ok base) :
    (server.settings.service ≠ .router → routesOf base = []) ∧
      (server.settings.service = .router → routesOf base = server.settings.computed.parsedRoutes ∧
        ∃ routerParams, server.settings.routerParams = some routerParams ∧ upstreamTls env.files routerParams = .ok ()) := by
  unfold baseService at done
  cases service : server.settings.service with
  | router =>
    rw [service] at done
    obtain ⟨router, made, rfl⟩ := map_ok done
    exact ⟨fun other => absurd rfl other, fun _ => newRouterService_ok made⟩
  | echo =>
    rw [service] at done
    cases done
    exact ⟨fun _ => rfl, fun router => by cases router⟩
  | admin =>
    rw [service] at done
    cases done
    exact ⟨fun _ => rfl, fun router => by cases router⟩
  | idp =>
    rw [service] at done
    obtain ⟨params, -, done⟩ := bind_ok done
    obtain ⟨⟨⟩, -, done⟩ := bind_ok done
    cases done
    exact ⟨fun _ => rfl, fun router => by cases router⟩
  | staticFiles =>
    rw [service] at done
    obtain ⟨params, -, done⟩ := bind_ok done
    cases done
    exact ⟨fun _ => rfl, fun router => by cases router⟩

theorem buildLoadedStack_ok {stack : LoadedStack Key Regex env.routers}
    (built : buildLoadedStack env launch server = .ok stack) :
    stack.load = launch.load ∧ stack.server = server.name ∧
      (server.settings.service ≠ .router → routesOf stack.stack.base = []) ∧
      (server.settings.service = .router → routesOf stack.stack.base = server.settings.computed.parsedRoutes ∧
        ∃ routerParams, server.settings.routerParams = some routerParams ∧
          upstreamTls launch.moment.files routerParams = .ok ()) := by
  obtain ⟨plain, done, rfl⟩ := map_ok built
  obtain ⟨layers, -, done⟩ := bind_ok done
  obtain ⟨allowed, -, done⟩ := bind_ok done
  obtain ⟨staticName, -, done⟩ := bind_ok done
  obtain ⟨base, based, done⟩ := bind_ok done
  obtain ⟨applied, -, done⟩ := bind_ok done
  cases done
  exact ⟨rfl, rfl, baseService_routes based⟩

theorem checks_built {stack : LoadedStack Key Regex env.routers}
    (built : buildLoadedStack env launch server = .ok stack) : checks launch server = stack.checkedNodes := by
  obtain ⟨loaded, named, other, router⟩ := buildLoadedStack_ok built
  unfold checks LoadedStack.checkedNodes
  rw [loaded, named]
  split_ifs with service
  · obtain ⟨routes, routerParams, present, connects⟩ := router service
    unfold spawnRouterHealthChecks
    rw [present]
    dsimp only
    rw [connects, routes]
  · rw [other service]
    rfl

theorem checkedNodes_eq_nil {stack : LoadedStack Key Regex env.routers}
    (built : buildLoadedStack env launch server = .ok stack) : stack.checkedNodes = [] ↔ ¬NeedsChecks server := by
  obtain ⟨-, -, other, router⟩ := buildLoadedStack_ok built
  rw [List.eq_nil_iff_forall_not_mem, ← not_exists, not_iff_not]
  unfold LoadedStack.checkedNodes NeedsChecks
  constructor
  · rintro ⟨node, inside⟩
    obtain ⟨-, -, route, member, -, bound⟩ := mem_nodesOf.mp inside
    obtain ⟨listed, active⟩ := mem_activelyChecked.mp member
    have service : server.settings.service = .router := by
      by_contra service
      rw [other service] at listed
      cases listed
    rw [(router service).1] at listed
    exact ⟨service, route, listed, active, List.ne_nil_of_length_pos (by omega)⟩
  · rintro ⟨service, route, listed, active, filled⟩
    rw [← (router service).1] at listed
    exact ⟨⟨stack.load, stack.server, route.pathPrefix, 0⟩, mem_nodesOf.mpr
      ⟨rfl, rfl, route, mem_activelyChecked.mpr ⟨listed, active⟩, rfl, List.length_pos_of_ne_nil filled⟩⟩

end

/-! ### Runs -/

section

variable (env : Environment Key Regex pki)

abbrev RouterSite := Site (Settings Regex pki) (LoadedStack Key Regex env.routers) (Launch pki)

def startup (moment : Moment pki) (config : Config (Settings Regex pki)) : RouterSite env :=
  Site.start (buildLoadedStack env ⟨0, moment⟩) ⟨0, moment⟩ config

def reloadEvent (load : Nat) (occasion : Occasion Regex pki (LoadedStack Key Regex env.routers)) :
    Event (Settings Regex pki) (LoadedStack Key Regex env.routers) (Launch pki) where
  reload := {
    disk := { occasion.disk with finalize := finalize (env.during occasion.moment) }
    buildRustlsConfig := fun server => (buildRustlsConfig occasion.moment.files server).map fun _ => ()
    buildServiceStack := buildLoadedStack env ⟨load, occasion.moment⟩
    order := occasion.order }
  time := ⟨load, occasion.moment⟩

def numbered (occasions : List (Occasion Regex pki (LoadedStack Key Regex env.routers))) :
    List (Event (Settings Regex pki) (LoadedStack Key Regex env.routers) (Launch pki)) :=
  occasions.mapIdx fun index occasion => reloadEvent env (index + 1) occasion

variable {env} (site : RouterSite env)

def Routed (node : Node) : Prop :=
  ∃ (index : Nat) (task : Task (Settings Regex pki) (LoadedStack Key Regex env.routers)),
    site.world.tasks[index]? = some task ∧ task.cancelled = false ∧ node ∈ task.stack.nodes

def Due (node : Node) : Prop :=
  ∃ (index : Nat) (task : Task (Settings Regex pki) (LoadedStack Key Regex env.routers)),
    site.world.tasks[index]? = some task ∧ task.cancelled = false ∧ node ∈ task.stack.checkedNodes

def Reported (node : Node) : Prop :=
  ∃ (index : Nat) (task : Task (Settings Regex pki) (LoadedStack Key Regex env.routers)) (launch : Launch pki),
    site.world.tasks[index]? = some task ∧ task.cancelled = false ∧ site.times[index]? = some launch ∧
      node ∈ checks launch task.config

structure ChecksFollow : Prop where
  due : ∀ node, Due site node → Reported site node
  routed : ∀ node, Reported site node → Routed site node

theorem checksFollow_startup (moment : Moment pki) (config : Config (Settings Regex pki)) :
    ChecksFollow (startup env moment config) := by
  have same {index : Nat} {task : Task (Settings Regex pki) (LoadedStack Key Regex env.routers)}
      (there : (startup env moment config).world.tasks[index]? = some task) :
      (startup env moment config).times[index]? = some ⟨0, moment⟩ ∧
        checks ⟨0, moment⟩ task.config = task.stack.checkedNodes := by
    constructor
    · change ((startup env moment config).world.tasks.map _)[index]? = _
      rw [List.getElem?_map, there]
      rfl
    · exact checks_built (start_stacks _ config task (List.mem_of_getElem? there))
  constructor
  · rintro node ⟨index, task, there, running, checked⟩
    exact ⟨index, task, _, there, running, (same there).1, (same there).2 ▸ checked⟩
  · rintro node ⟨index, task, launch, there, running, timed, spawned⟩
    cases (same there).1.symm.trans timed
    exact ⟨index, task, there, running, LoadedStack.mem_nodes_of_checked ((same there).2 ▸ spawned)⟩

theorem launched_checks {configPath : Text} {startMoment : Moment pki} {initial : Config (Settings Regex pki)}
    (named : initial.enabledNames.Nodup) (past : List (Occasion Regex pki (LoadedStack Key Regex env.routers)))
    {server launched : ServerConfig (Settings Regex pki)} {launch : Launch pki}
    (serving : (run (Site.hangup configPath) (startup env startMoment initial) (numbered env past)).Serving server
      launched launch) :
    launch.load ≤ past.length ∧ (checks launch launched = [] ↔ ¬NeedsChecks launched) := by
  have launches {since : Launch pki} {other : ServerConfig (Settings Regex pki)}
      {stack : LoadedStack Key Regex env.routers} (built : buildLoadedStack env since other = .ok stack) :
      checks since other = [] ↔ ¬NeedsChecks other := by
    rw [checks_built built]
    exact checkedNodes_eq_nil built
  obtain ⟨index, task, there, -, rfl, timed⟩ := serving
  refine Site.launched_run named (numbered env past)
    (fun server launch => launch.load ≤ past.length ∧ (checks launch server = [] ↔ ¬NeedsChecks server))
    ?_ ?_ index task launch there timed
  · intro other stack built
    exact ⟨Nat.zero_le _, launches built⟩
  · intro event member other stack built
    obtain ⟨place, inside, rfl⟩ := List.mem_mapIdx.mp member
    exact ⟨inside, launches built⟩

theorem numbered_concat (past : List (Occasion Regex pki (LoadedStack Key Regex env.routers)))
    (occasion : Occasion Regex pki (LoadedStack Key Regex env.routers)) :
    numbered env (past ++ [occasion]) = numbered env past ++ [reloadEvent env (past.length + 1) occasion] :=
  List.mapIdx_concat

section

variable {site} {configPath : Text} {load : Nat} {occasion : Occasion Regex pki (LoadedStack Key Regex env.routers)}
  {config : Config (Settings Regex pki)} (sound : site.Sound)
  (loaded : Reload.load (reloadEvent env load occasion).reload.disk configPath = .ok config)
  (accepted : ¬(reloadEvent env load occasion).reload.Refused configPath) (distinct : config.enabledNames.Nodup)

include sound loaded accepted distinct

/-- A task that runs after an accepted reload has a stack of this load. It was kept, or launched by the reload. -/
theorem running_reload {index : Nat} {task : Task (Settings Regex pki) (LoadedStack Key Regex env.routers)}
    (there : (site.hangup configPath (reloadEvent env load occasion)).world.tasks[index]? = some task)
    (running : task.cancelled = false) :
    ∃ server ∈ config.servers, server.enabled = true ∧ task.Serves server ∧
      buildLoadedStack env ⟨load, occasion.moment⟩ server = .ok task.stack ∧
      ∃ launch, (site.hangup configPath (reloadEvent env load occasion)).times[index]? = some launch ∧
        (site.Serving server task.config launch ∨ task.config = server ∧ launch = ⟨load, occasion.moment⟩) := by
  obtain ⟨server, member, enabled, serves, built⟩ := running_hangup sound.tracked loaded accepted distinct there running
  have next : (site.hangup configPath (reloadEvent env load occasion)).Sound := Site.sound_hangup sound
  obtain ⟨launch, timed⟩ := next.timed there
  refine ⟨server, member, enabled, serves, built, launch, timed, ?_⟩
  rcases Site.serving_origin sound loaded distinct member enabled there serves timed with kept | ⟨-, same, new⟩
  · exact Or.inl kept
  · exact Or.inr ⟨same, new⟩

theorem checksFollow_of_quiet
    (quiet : ∀ server ∈ config.servers, server.enabled = true → ∀ launched launch, site.Serving server launched launch →
      checks launch launched = [] ∧ ¬NeedsChecks server) :
    ChecksFollow (site.hangup configPath (reloadEvent env load occasion)) := by
  constructor
  · rintro node ⟨index, task, there, running, checked⟩
    obtain ⟨server, member, enabled, serves, built, launch, timed, origin⟩ :=
      running_reload sound loaded accepted distinct there running
    rcases origin with kept | ⟨rfl, rfl⟩
    · rw [(checkedNodes_eq_nil built).mpr (quiet server member enabled _ _ kept).2] at checked
      cases checked
    · exact ⟨index, task, _, there, running, timed, checks_built built ▸ checked⟩
  · rintro node ⟨index, task, launch, there, running, timed, spawned⟩
    obtain ⟨server, member, enabled, serves, built, since, known, origin⟩ :=
      running_reload sound loaded accepted distinct there running
    cases timed.symm.trans known
    rcases origin with kept | ⟨rfl, rfl⟩
    · rw [(quiet server member enabled _ _ kept).1] at spawned
      cases spawned
    · exact ⟨index, task, there, running, LoadedStack.mem_nodes_of_checked (checks_built built ▸ spawned)⟩

/-- The nodes of a load are new, so the checks of a kept task report into none of them. -/
theorem quiet_of_checksFollow (follow : ChecksFollow (site.hangup configPath (reloadEvent env load occasion)))
    {server launched : ServerConfig (Settings Regex pki)} {launch : Launch pki} (member : server ∈ config.servers)
    (enabled : server.enabled = true) (kept : site.Serving server launched launch) (earlier : launch.load < load) :
    checks launch launched = [] ∧ ¬NeedsChecks server := by
  have next : (site.hangup configPath (reloadEvent env load occasion)).Sound := Site.sound_hangup sound
  obtain ⟨index, task, there, serves, rfl, timed⟩ :=
    (Site.serving_hangup sound loaded accepted distinct member enabled launched launch).mpr (Or.inl kept)
  have fresh {place : Nat} {other : Task (Settings Regex pki) (LoadedStack Key Regex env.routers)} {node : Node}
      (here : (site.hangup configPath (reloadEvent env load occasion)).world.tasks[place]? = some other)
      (running : other.cancelled = false) (used : node ∈ other.stack.nodes) : node.load = load := by
    obtain ⟨_, -, -, -, built, -⟩ := running_reload sound loaded accepted distinct here running
    exact (mem_nodesOf.mp used).1.trans (buildLoadedStack_ok built).1
  constructor
  · rw [List.eq_nil_iff_forall_not_mem]
    intro node spawned
    obtain ⟨place, other, here, running, used⟩ :=
      follow.routed node ⟨index, task, launch, there, serves.running, timed, spawned⟩
    have new := fresh here running used
    have old := (mem_checks spawned).1
    omega
  · obtain ⟨same, listed, active, serving, built, -⟩ :=
      running_reload sound loaded accepted distinct there serves.running
    have one : same = server :=
      enabled_unique distinct listed active member enabled (serving.named.symm.trans serves.named)
    subst one
    rw [← checkedNodes_eq_nil built, List.eq_nil_iff_forall_not_mem]
    intro node checked
    obtain ⟨place, other, since, here, running, known, spawned⟩ :=
      follow.due node ⟨index, task, there, serves.running, checked⟩
    have own : node.server = task.config.name :=
      (mem_nodesOf.mp checked).2.1.trans ((buildLoadedStack_ok built).2.1.trans serves.named.symm)
    have only : place = index := tracked_unique next.tracked here there running serves.running
      ((mem_checks spawned).2.symm.trans own)
    subst only
    cases timed.symm.trans known
    have new := fresh there serves.running (LoadedStack.mem_nodes_of_checked checked)
    have old := (mem_checks spawned).1
    omega

end

/-- The checks follow the routes after the startup, and a refused reload changes nothing. After an accepted one they do
exactly if no server that keeps its task needs checks, neither as it was launched nor as it is now. -/
theorem checksFollow_iff (configPath : Text) (startMoment : Moment pki) (initial : Config (Settings Regex pki))
    (past : List (Occasion Regex pki (LoadedStack Key Regex env.routers)))
    (occasion : Occasion Regex pki (LoadedStack Key Regex env.routers)) (named : initial.enabledNames.Nodup) :
    let event := reloadEvent env (past.length + 1) occasion
    let before := run (Site.hangup configPath) (startup env startMoment initial) (numbered env past)
    let after := run (Site.hangup configPath) (startup env startMoment initial) (numbered env (past ++ [occasion]))
    ChecksFollow (startup env startMoment initial) ∧ (event.reload.Refused configPath → after = before) ∧
      ∀ config, load event.reload.disk configPath = .ok config → ¬event.reload.Refused configPath →
        config.enabledNames.Nodup →
          (ChecksFollow after ↔ ∀ server ∈ config.servers, server.enabled = true → ∀ launched launch,
            before.Serving server launched launch → ¬NeedsChecks launched ∧ ¬NeedsChecks server) := by
  intro event before after
  have last : after = before.hangup configPath event := by
    show run _ _ (numbered env (past ++ [occasion])) = _
    rw [numbered_concat, run_append]
    rfl
  have sound : before.Sound := Site.sound_run named _
  rw [last]
  refine ⟨checksFollow_startup startMoment initial, Site.hangup_refused, ?_⟩
  intro config loaded accepted distinct
  constructor
  · intro follow server member enabled launched launch kept
    obtain ⟨earlier, spawned⟩ := launched_checks named past kept
    obtain ⟨silent, unneeded⟩ :=
      quiet_of_checksFollow sound loaded accepted distinct follow member enabled kept (Nat.lt_succ_of_le earlier)
    exact ⟨spawned.mp silent, unneeded⟩
  · intro quiet
    apply checksFollow_of_quiet sound loaded accepted distinct
    intro server member enabled launched launch kept
    obtain ⟨unneeded, still⟩ := quiet server member enabled launched launch kept
    exact ⟨(launched_checks named past kept).2.mpr unneeded, still⟩

end

/-! A router with one route, whose files do not change. -/

def upstreamUri : Uri := ⟨some "http".toList, some ['b'], ['/'], none⟩

def routerEnvironment : Environment Unit Text plainPki := { plainEnvironment with parseUri := fun _ => some upstreamUri }

def routedServer (computed : Computed Text plainPki) : ServerConfig (Settings Text plainPki) where
  name := ['r']
  ip := some "10.0.0.1".toList
  port := some 80
  tunnel := none
  enabled := true
  protocol := .http
  settings := {
    echoSettings computed with
    service := .router
    revRoutes := some (.singleton ['/', 'a'] ⟨[['b']], .roundRobin, [], none, none, none, none, some 5, .rest⟩)
    routerParams := some ⟨.http, .none, none, none, none⟩ }

def routedFinal : ServerConfig (Settings Text plainPki) :=
  routedServer ⟨some ['r'], [⟨['/', 'a'], ⟨[upstreamUri], .roundRobin, 10, 2, 3, 65536, 5⟩, [], .rest⟩], some nothingAllowed,
    none, none⟩

def routedConfig : Config (Settings Text plainPki) := ⟨[], none, none, [routedFinal]⟩

def routedOccasion : Occasion Text plainPki (LoadedStack Unit Text routerEnvironment.routers) where
  moment := plainMoment
  disk := { echoDisk [] with
    parseConfig := fun _ => some ⟨[], none, none, [routedServer (Computed.default Text plainPki)]⟩ }
  order := ⟨id, fun _ => .refl _⟩

theorem routed_loaded (load : Nat) :
    Reload.load (reloadEvent routerEnvironment load routedOccasion).reload.disk [] = .ok routedConfig := rfl

theorem routed_accepted (load : Nat) : ¬(reloadEvent routerEnvironment load routedOccasion).reload.Refused [] := by
  rw [Sighup.accepted_iff (routed_loaded load)]
  intro server member _
  rw [List.mem_singleton.mp member]
  exact ⟨_, rfl⟩

theorem checksFollow_iff_routed :
    let before := startup routerEnvironment plainMoment routedConfig
    ChecksFollow (run (Site.hangup []) before (numbered routerEnvironment ([] ++ [routedOccasion]))) ↔
      ∀ server ∈ routedConfig.servers, server.enabled = true → ∀ launched launch, before.Serving server launched launch →
        ¬NeedsChecks launched ∧ ¬NeedsChecks server :=
  (checksFollow_iff [] plainMoment routedConfig [] routedOccasion (by decide +kernel)).2.2 routedConfig
    (routed_loaded 1) (routed_accepted 1) (by decide +kernel)

/-- After a reload of the same file the check still reports into the node of the startup, and the stack routes to a new
one that nothing reports into. -/
theorem checks_left_behind :
    let after := run (Site.hangup []) (startup routerEnvironment plainMoment routedConfig)
      (numbered routerEnvironment [routedOccasion])
    load (reloadEvent routerEnvironment 1 routedOccasion).reload.disk [] = .ok routedConfig ∧
    ¬(reloadEvent routerEnvironment 1 routedOccasion).reload.Refused [] ∧
    after.world.tasks.map (fun task => (task.cancelled, task.stack.checkedNodes)) =
      [(false, [⟨1, ['r'], ['/', 'a'], 0⟩])] ∧
    Reported after ⟨0, ['r'], ['/', 'a'], 0⟩ ∧ ¬Routed after ⟨0, ['r'], ['/', 'a'], 0⟩ ∧
    Due after ⟨1, ['r'], ['/', 'a'], 0⟩ ∧ ¬Reported after ⟨1, ['r'], ['/', 'a'], 0⟩ := by
  intro after
  have single : ∃ stack : LoadedStack Unit Text routerEnvironment.routers,
      after.world.tasks = [⟨routedFinal, false, stack⟩] ∧ stack.nodes = [⟨1, ['r'], ['/', 'a'], 0⟩] ∧
        stack.checkedNodes = [⟨1, ['r'], ['/', 'a'], 0⟩] := ⟨_, rfl, rfl, rfl⟩
  obtain ⟨stack, tasks, nodes, checked⟩ := single
  have times : after.times = [⟨0, plainMoment⟩] := rfl
  have spawned : checks ⟨0, plainMoment⟩ routedFinal = [⟨0, ['r'], ['/', 'a'], 0⟩] := rfl
  have only {index : Nat} {task : Task (Settings Text plainPki) (LoadedStack Unit Text routerEnvironment.routers)}
      (there : after.world.tasks[index]? = some task) : index = 0 ∧ task = ⟨routedFinal, false, stack⟩ := by
    rw [tasks, List.getElem?_singleton] at there
    split_ifs at there with first
    exact ⟨first, (Option.some.inj there).symm⟩
  refine ⟨routed_loaded 1, routed_accepted 1, ?_, ?_, ?_, ?_, ?_⟩
  · rw [tasks, List.map_singleton, checked]
  · exact ⟨0, _, _, by rw [tasks]; rfl, rfl, by rw [times]; rfl, by rw [spawned]; exact List.mem_singleton_self _⟩
  · rintro ⟨index, task, there, -, used⟩
    obtain ⟨-, rfl⟩ := only there
    rw [nodes] at used
    exact absurd (List.mem_singleton.mp used) (by decide)
  · exact ⟨0, _, by rw [tasks]; rfl, rfl, checked ▸ List.mem_singleton_self _⟩
  · rintro ⟨index, task, launch, there, -, timed, reported⟩
    obtain ⟨rfl, rfl⟩ := only there
    rw [times] at timed
    cases timed
    rw [spawned] at reported
    exact absurd (List.mem_singleton.mp reported) (by decide)

end Praeco.Server.HealthChecks
