import Praeco.Server.Finalize
import Praeco.Server.Handover

/-! The ports of the servers over reloads. A plain server binds its address for TCP, a server that speaks HTTPS for TCP
and for UDP, and one behind a tunnel binds nothing. -/

namespace Praeco.Server.Ports
open Praeco.Strings Utf8 Praeco.Net.Address Praeco.Schedule.Runs Praeco.Schedule.Exclusive Praeco.Server.Reload
open Praeco.Server.Stack Praeco.Server.Tls Praeco.Server.Finalize Praeco.Server.Handover

inductive Endpoint where
  | tcp (addr : SocketAddr)
  | udp (addr : SocketAddr)
  deriving DecidableEq, Repr

variable {Key Regex : Type} {pki : Pki}

def listeningAddr : Listening pki → Option SocketAddr
  | .tunnel _ _ => none
  | .dualStack addr _ => some addr
  | .plain addr => some addr

def listeningEndpoints : Listening pki → List Endpoint
  | .tunnel _ _ => []
  | .dualStack addr _ => [.tcp addr, .udp addr]
  | .plain addr => [.tcp addr]

def serverAddr (moment : Moment pki) (server : ServerConfig (Settings Regex pki)) : Option SocketAddr :=
  (startSingleServer moment.files moment.localIp server).toOption.bind listeningAddr

def endpoints (moment : Moment pki) (server : ServerConfig (Settings Regex pki)) : List Endpoint :=
  match startSingleServer moment.files moment.localIp server with
  | .ok listening => listeningEndpoints listening
  | .error _ => []

def DistinctAddresses (moment : Moment pki) (config : Config (Settings Regex pki)) : Prop :=
  ((config.servers.filter (·.enabled)).filterMap (serverAddr moment)).Nodup

instance (moment : Moment pki) (config : Config (Settings Regex pki)) : Decidable (DistinctAddresses moment config) :=
  inferInstanceAs (Decidable (List.Nodup _))

def Endpoint.addr : Endpoint → SocketAddr
  | .tcp addr => addr
  | .udp addr => addr

theorem mem_endpoints {moment : Moment pki} {server : ServerConfig (Settings Regex pki)} {endpoint : Endpoint}
    (member : endpoint ∈ endpoints moment server) : serverAddr moment server = some endpoint.addr := by
  unfold endpoints at member
  unfold serverAddr
  cases started : startSingleServer moment.files moment.localIp server with
  | error e =>
    rw [started] at member
    cases member
  | ok listening =>
    rw [started] at member
    change listeningAddr listening = some endpoint.addr
    cases listening with
    | tunnel tunnel tlsConfig => cases member
    | dualStack addr tlsConfig =>
      rcases List.mem_pair.mp member with rfl | rfl
      · rfl
      · rfl
    | plain addr =>
      cases List.mem_singleton.mp member
      rfl

theorem endpoints_nodup (moment : Moment pki) (server : ServerConfig (Settings Regex pki)) :
    (endpoints moment server).Nodup := by
  unfold endpoints
  split
  · rename_i listening started
    cases listening with
    | tunnel tunnel tlsConfig => exact List.nodup_nil
    | dualStack addr tlsConfig => simp [listeningEndpoints]
    | plain addr => exact List.nodup_singleton _
  · exact List.nodup_nil

theorem DistinctAddresses.apart {moment : Moment pki} {config : Config (Settings Regex pki)}
    (distinct : DistinctAddresses moment config) : Apart (endpoints moment) config := by
  apply List.nodup_flatMap.mpr
  refine ⟨fun server _ => endpoints_nodup moment server, ?_⟩
  refine (List.pairwise_filterMap.mp distinct).imp ?_
  intro first second different endpoint here there
  exact different _ (mem_endpoints here) _ (mem_endpoints there) rfl

section

variable (env : Environment Key Regex pki)

abbrev PortGateway := Gateway (Settings Regex pki) (ServiceStack Key Regex env.routers) Endpoint

/-- A signal that finds the files in some state, a step of the handler, or the turn of the task of a socket. -/
inductive Turn where
  | hangup (occasion : Occasion Regex pki (ServiceStack Key Regex env.routers))
  | handle
  | schedule (socket : Nat)

def portBoot (moment : Moment pki) (config : Config (Settings Regex pki)) : PortGateway env :=
  boot (buildServiceStack (env.during moment)) (endpoints moment) config

variable {env}

def Turn.label : Turn env → Label (Settings Regex pki) (ServiceStack Key Regex env.routers) Endpoint
  | .hangup occasion =>
    .hangup ⟨(env.during occasion.moment).sighup occasion.disk occasion.order, endpoints occasion.moment⟩
  | .handle => .handle
  | .schedule socket => .schedule socket

def portStep (configPath : Text) (gateway : PortGateway env) (turn : Turn env) : PortGateway env :=
  step configPath gateway turn.label

/-- An accepted reload is safe if its enabled servers have different addresses, and if it starts no server at an address
that an earlier task has not released. -/
def Safe (configPath : Text) (gateway : PortGateway env) : Turn env → Prop
  | .hangup occasion => gateway.handler = .idle → ∀ config,
    load ((env.during occasion.moment).sighup occasion.disk occasion.order).disk configPath = .ok config →
    ¬((env.during occasion.moment).sighup occasion.disk occasion.order).Refused configPath →
      DistinctAddresses occasion.moment config ∧ Unused gateway (endpoints occasion.moment) config
  | _ => True

/-- In every interleaving of the reload handler with the server tasks whose reloads are safe, no bind fails. -/
theorem binds_succeed (configPath : Text) (moment : Moment pki) (initial : Config (Settings Regex pki))
    (distinct : DistinctAddresses moment initial) (turns : List (Turn env))
    (safe : Always (portStep configPath) (Safe configPath) (portBoot env moment initial) turns) :
    ∀ socket ∈ (run (portStep configPath) (portBoot env moment initial) turns).sockets, socket.stage ≠ .refused := by
  have clear : Clear (run (portStep configPath) (portBoot env moment initial) turns) := by
    apply safe.invariant
    · intro gateway turn permitted clear
      apply clear_step clear
      cases turn with
      | hangup occasion =>
        intro idle config loaded accepted
        obtain ⟨different, unused⟩ := permitted idle config loaded accepted
        exact ⟨different.apart, unused⟩
      | handle => trivial
      | schedule socket => trivial
    · exact clear_boot _ _ initial distinct.apart
  exact clear.unrefused

end

/-! An echo server that moves to another address, and one that begins to speak HTTPS on its port. -/

def httpEcho : Echo := ⟨'s', some "10.0.0.1".toList, none, true, .http⟩

def movedEcho : Echo := ⟨'s', some "10.0.0.2".toList, none, true, .http⟩

def echoTurn (echo : Echo) : Turn plainEnvironment := .hangup ⟨plainMoment, echoDisk [echo], .asListed _⟩

def movedTurns : List (Turn plainEnvironment) :=
  [.schedule 0, echoTurn movedEcho, .handle, .schedule 1, .handle, .handle, .handle, .schedule 0]

theorem binds_succeed_moved :
    Always (portStep []) (Safe []) (portBoot plainEnvironment plainMoment (echoConfig [httpEcho])) movedTurns ∧
      ∀ socket ∈ (run (portStep []) (portBoot plainEnvironment plainMoment (echoConfig [httpEcho])) movedTurns).sockets,
        socket.stage ≠ .refused := by
  have safe : Always (portStep []) (Safe []) (portBoot plainEnvironment plainMoment (echoConfig [httpEcho]))
      movedTurns := by
    refine ⟨trivial, ?_, trivial, trivial, trivial, trivial, trivial, trivial, trivial⟩
    intro idle config loaded accepted
    have found : config = echoConfig [movedEcho] := (Except.ok.inj loaded).symm
    subst found
    refine ⟨by decide +kernel, ?_⟩
    intro server member enabled changed endpoint bound
    rw [List.mem_singleton.mp member] at bound
    revert endpoint
    decide +kernel
  exact ⟨safe, binds_succeed [] plainMoment (echoConfig [httpEcho]) (by decide +kernel) movedTurns safe⟩

/-- The new task is scheduled before the old one has closed its listener, and does not try again. -/
theorem https_bind_fails :
    let turns := [.schedule 0, echoTurn secureEcho, .handle, .schedule 1, .handle, .handle, .handle, .schedule 0,
      .schedule 1, .schedule 2]
    let after := run (portStep []) (portBoot plainEnvironment plainMoment (echoConfig [httpEcho])) turns
    load (plainEnvironment.sighup (echoDisk [secureEcho]) ⟨id, fun _ => .refl _⟩).disk [] = .ok (echoConfig [secureEcho]) ∧
    ¬(plainEnvironment.sighup (echoDisk [secureEcho]) ⟨id, fun _ => .refl _⟩).Refused [] ∧
    DistinctAddresses plainMoment (echoConfig [secureEcho]) ∧
    after.world.tasks.map (fun task => (task.config.protocol, task.cancelled)) = [(.http, true), (.https, false)] ∧
    after.sockets.map (fun socket => (socket.owner, socket.stage)) = [(0, .released), (1, .refused), (1, .held)] :=
  ⟨rfl, echo_accepted [secureEcho] rfl, by decide +kernel, by decide +kernel, by decide +kernel⟩

end Praeco.Server.Ports
