import Praeco.Collections.Descending
import Praeco.Collections.Fallible
import Praeco.Http.Message

/-! Route configuration. `initParsedRoutes` turns the configured map into routes sorted by descending
prefix length; the map is an association list, whose order is the iteration order of the hash map. -/

namespace Praeco.Router.Config
open Praeco.Strings Utf8 Praeco.Http.Target Praeco.Http.Message Praeco.Collections.Descending
open Praeco.Collections.Fallible

inductive RouteBackendType where
  | rest
  | grpcPassthrough
  | grpcTranscoding
  | admin
  deriving DecidableEq, Repr

inductive LbStrategy where
  | roundRobin
  | random
  | leastConnections
  | sticky
  | highestScore
  deriving DecidableEq, Repr

inductive Protocol where
  | http
  | https
  deriving DecidableEq, Repr

structure RouteConfig where
  upstreams : List Text
  strategy : LbStrategy
  allowedRoles : List UserRole
  cooldownSeconds : Option Nat
  maxRetries : Option Nat
  failureThreshold : Option Nat
  maxRetryBufferBytes : Option Nat
  activeHealthCheckInterval : Option Nat
  backendType : RouteBackendType
  deriving DecidableEq, Repr

structure RouteTarget where
  upstreams : List Uri
  strategy : LbStrategy
  cooldownSeconds : Nat
  maxRetries : Nat
  failureThreshold : Nat
  maxRetryBufferBytes : Nat
  activeHealthCheckInterval : Nat
  deriving DecidableEq, Repr

structure ParsedRoute where
  pathPrefix : Text
  target : RouteTarget
  allowedRoles : List UserRole
  backendType : RouteBackendType
  deriving DecidableEq, Repr

abbrev RevRoutes := AList (fun _ : Text => RouteConfig)

def Protocol.scheme : Protocol → Text
  | .http => "http".toList
  | .https => "https".toList

def upstreamText (proto : Protocol) (upstream : Text) : Text :=
  if "http://".toList <+: upstream ∨ "https://".toList <+: upstream then upstream
  else proto.scheme ++ "://".toList ++ upstream

def parseUpstream (parseUri : Text → Option Uri) (proto : Protocol) (upstream : Text) : Except Text Uri :=
  match parseUri (upstreamText proto upstream) with
  | some uri => .ok uri
  | none => .error ("Invalid upstream URI: ".toList ++ upstreamText proto upstream)

def parseUpstreams (parseUri : Text → Option Uri) (proto : Protocol) : List Text → Except Text (List Uri)
  | [] => .ok []
  | upstream :: rest => do
    let uri ← parseUpstream parseUri proto upstream
    let uris ← parseUpstreams parseUri proto rest
    .ok (uri :: uris)

def parseRoute (parseUri : Text → Option Uri) (proto : Protocol) (pathPrefix : Text) (cfg : RouteConfig) :
    Except Text ParsedRoute :=
  if cfg.upstreams = [] ∧ cfg.backendType ≠ .admin then
    .error ("Configuration error: Route '".toList ++ pathPrefix ++ "' has no upstreams defined.".toList)
  else do
    let upstreams ← parseUpstreams parseUri proto cfg.upstreams
    .ok {
      pathPrefix
      target := {
        upstreams
        strategy := cfg.strategy
        cooldownSeconds := cfg.cooldownSeconds.getD 10
        maxRetries := cfg.maxRetries.getD 2
        failureThreshold := max (cfg.failureThreshold.getD 3) 1
        maxRetryBufferBytes := cfg.maxRetryBufferBytes.getD 65536
        activeHealthCheckInterval := cfg.activeHealthCheckInterval.getD 0 }
      allowedRoles := cfg.allowedRoles
      backendType := cfg.backendType }

def parseRoutes (parseUri : Text → Option Uri) (proto : Protocol) :
    List (Sigma fun _ : Text => RouteConfig) → Except Text (List ParsedRoute)
  | [] => .ok []
  | ⟨pathPrefix, cfg⟩ :: rest => do
    let route ← parseRoute parseUri proto pathPrefix cfg
    let routes ← parseRoutes parseUri proto rest
    .ok (route :: routes)

def initParsedRoutes (parseUri : Text → Option Uri) (proto : Protocol) (revRoutes : Option RevRoutes) :
    Except Text (List ParsedRoute) :=
  let rules :=
    match revRoutes with
    | some map => parseRoutes parseUri proto map.entries
    | none => .ok []
  rules.map (sortDescending (fun route => (utf8 route.pathPrefix).length))

theorem parseRoute_prefix (parseUri : Text → Option Uri) (proto : Protocol) (pathPrefix : Text) (cfg : RouteConfig)
    (route : ParsedRoute) (parsed : parseRoute parseUri proto pathPrefix cfg = .ok route) :
    route.pathPrefix = pathPrefix := by
  unfold parseRoute at parsed
  split_ifs at parsed
  obtain ⟨upstreams, -, same⟩ := bind_ok parsed
  cases same
  rfl

theorem parseRoutes_forall (parseUri : Text → Option Uri) (proto : Protocol)
    (entries : List (Sigma fun _ : Text => RouteConfig)) (routes : List ParsedRoute)
    (parsed : parseRoutes parseUri proto entries = .ok routes) :
    List.Forall₂ (fun entry route => parseRoute parseUri proto entry.1 entry.2 = .ok route) entries routes := by
  induction entries generalizing routes with
  | nil =>
    cases parsed
    exact .nil
  | cons entry entries ih =>
    obtain ⟨pathPrefix, cfg⟩ := entry
    rw [parseRoutes] at parsed
    obtain ⟨route, first, parsed⟩ := bind_ok parsed
    obtain ⟨rest, others, same⟩ := bind_ok parsed
    cases same
    exact .cons first (ih rest others)

private theorem mapped_prefixes {parseUri : Text → Option Uri} {proto : Protocol}
    {entries : List (Sigma fun _ : Text => RouteConfig)} {routes : List ParsedRoute}
    (pairs : List.Forall₂ (fun entry route => parseRoute parseUri proto entry.1 entry.2 = .ok route) entries routes) :
    entries.keys = routes.map ParsedRoute.pathPrefix := by
  induction pairs with
  | nil => rfl
  | @cons entry route entries routes same _ ih =>
    rw [List.keys_cons, List.map_cons, ih, parseRoute_prefix _ _ _ _ route same]

private theorem parsed_entry {parseUri : Text → Option Uri} {proto : Protocol}
    {entries : List (Sigma fun _ : Text => RouteConfig)} {routes : List ParsedRoute}
    (pairs : List.Forall₂ (fun entry route => parseRoute parseUri proto entry.1 entry.2 = .ok route) entries routes)
    (route : ParsedRoute) (member : route ∈ routes) :
    ∃ entry ∈ entries, parseRoute parseUri proto entry.1 entry.2 = .ok route := by
  induction pairs with
  | nil => cases member
  | @cons entry first entries routes same _ ih =>
    rcases List.mem_cons.mp member with rfl | later
    · exact ⟨entry, List.mem_cons_self, same⟩
    · obtain ⟨other, listed, found⟩ := ih later
      exact ⟨other, List.mem_cons_of_mem _ listed, found⟩

/-- The parsed routes of a map: one for every entry, under its own prefix, longest prefix first. -/
structure ParsedFrom (parseUri : Text → Option Uri) (proto : Protocol) (map : RevRoutes)
    (routes : List ParsedRoute) : Prop where
  entry : ∀ route ∈ routes, ∃ cfg, map.lookup route.pathPrefix = some cfg ∧
    parseRoute parseUri proto route.pathPrefix cfg = .ok route
  keys : ∀ pathPrefix, pathPrefix ∈ map.keys ↔ ∃ route ∈ routes, route.pathPrefix = pathPrefix
  distinct : (routes.map ParsedRoute.pathPrefix).Nodup
  sorted : routes.Pairwise (fun a b => (utf8 b.pathPrefix).length ≤ (utf8 a.pathPrefix).length)

theorem initParsedRoutes_spec (parseUri : Text → Option Uri) (proto : Protocol) (map : RevRoutes)
    (routes : List ParsedRoute) (parsed : initParsedRoutes parseUri proto (some map) = .ok routes) :
    ParsedFrom parseUri proto map routes := by
  change (parseRoutes parseUri proto map.entries).map _ = .ok routes at parsed
  obtain ⟨rules, collected, rfl⟩ := map_ok parsed
  have pairs := parseRoutes_forall parseUri proto map.entries rules collected
  have prefixes : rules.map ParsedRoute.pathPrefix = map.keys := (mapped_prefixes pairs).symm
  have order := List.perm_insertionSort
    (fun a b : ParsedRoute => (utf8 b.pathPrefix).length ≤ (utf8 a.pathPrefix).length) rules
  refine ⟨?_, ?_, ?_, pairwise_sortDescending _ rules⟩
  · intro route member
    obtain ⟨entry, listed, same⟩ := parsed_entry pairs route ((mem_sortDescending _ _ _).mp member)
    have own := parseRoute_prefix parseUri proto entry.1 entry.2 route same
    refine ⟨entry.2, ?_, own ▸ same⟩
    rw [own]
    exact AList.mem_lookup_iff.mpr listed
  · intro pathPrefix
    rw [← prefixes, List.mem_map]
    simp only [mem_sortDescending]
  · apply (order.map ParsedRoute.pathPrefix).nodup_iff.mpr
    rw [prefixes]
    exact map.keys_nodup

end Praeco.Router.Config
