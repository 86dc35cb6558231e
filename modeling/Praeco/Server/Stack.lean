import Praeco.Inspection.Rules
import Praeco.Jwt.Auth
import Praeco.Path.Rounds
import Praeco.Router.Headers
import Praeco.Router.Routes
import Praeco.Server.Middleware

/-! The service stack of a router and the paths that are decided on in it. A request meets the layers from the outside;
the authentication reads the path as it has come so far, the inspection and the router sanitize it for themselves. -/

namespace Praeco.Server.Stack
open Praeco.Strings Utf8 Praeco.Collections Fallible Edits Positions Praeco.Http.Target Praeco.Http.Message
open Praeco.Jwt.Token Praeco.Jwt.Revocation Praeco.Jwt.Auth Praeco.Inspection.Rules Praeco.Limits.IpFilter
open Praeco.Path.Sanitizer Praeco.Path.Rounds Praeco.Router.Config Praeco.Router.Matching Praeco.Router.Routes
open Praeco.Router.Rbac Praeco.Router.Headers Praeco.Router.Upstreams Praeco.Server.Middleware

structure Libraries (Key Regex : Type) where
  files : KeyFiles Key
  jwt : JwtLibrary Key
  regex : RegexLibrary Regex
  uris : UriLibrary

/-- A layer as it stands in a stack; `other` are those that neither read nor change the path. -/
inductive LayerService (Key Regex : Type) where
  | pathSanitizer
  | inspection (service : InspectionService Regex)
  | jwtAuth (service : JwtAuthService Key)
  | other (layer : MiddlewareLayer)

variable {Key Regex : Type} (libraries : Libraries Key Regex)

section Build

variable (serverName : Text) (compiledAllowedPathes : CompiledAllowedPathes Regex) (oidMapping : List (Text × UserRole))

def applyLayer : MiddlewareLayer → Except Text (LayerService Key Regex)
  | .pathSanitizer => .ok .pathSanitizer
  | .inspection => .ok (.inspection ⟨compiledAllowedPathes, serverName⟩)
  | .jwtAuth config => do
    let decodingKeys ← loadDecodingKeys libraries.files config.jwtPublicKeys
    .ok (.jwtAuth {
      decodingKeys
      oidMapping
      cookieFallback := config.cookieFallback
      redirectOnFailure := config.redirectOnFailure
      expectedIssuer := config.expectedIssuer
      expectedAudience := config.expectedAudience
      revokeOnPaths := config.revokeOnPaths })
  | .rateLimiter (.simple config) =>
    if config.requestsPerSecond = 0 then
      .error (serverName ++ ": RateLimiter requests_per_second must be > 0".toList)
    else .ok (.other (.rateLimiter (.simple config)))
  | .rateLimiter (.tokenBucket config) =>
    if config.maxCapacity = 0 ∨ config.refill = 0 ∨ config.durationMicros = 0 then
      .error (serverName ++ ": TokenBucketRateLimiter parameters must all be > 0".toList)
    else .ok (.other (.rateLimiter (.tokenBucket config)))
  | .concurrencyLimit config =>
    if config.maxConcurrentRequests = 0 then
      .error (serverName ++ ": ConcurrencyLimit max_concurrent_requests must be > 0".toList)
    else .ok (.other (.concurrencyLimit config))
  | .cors config =>
    if config.allowCredentials ∧ ['*'] ∈ config.allowedOrigins then
      .error (serverName ++ ": CORS allow_credentials cannot be true when allowed_origins contains '*'".toList)
    else .ok (.other (.cors config))
  | .ipFilter config => do
    let _ ← IpFilterLayer.fromCidrStrings config.allowCidrs config.denyCidrs config.trustForwardedHeaders serverName
    .ok (.other (.ipFilter config))
  | layer => .ok (.other layer)

/-- The layers are applied from the innermost one on, so that the first of the list is the outermost. -/
def applyLayers (layers : List MiddlewareLayer) : Except Text (List (LayerService Key Regex)) :=
  (layers.reverse.mapM (applyLayer libraries serverName compiledAllowedPathes oidMapping)).map List.reverse

/-- The layers around the base service; a sanitizer is put around all of them if none is listed. -/
def sanitizedLayers (layers : List MiddlewareLayer) : Except Text (List (LayerService Key Regex)) := do
  let applied ← applyLayers libraries serverName compiledAllowedPathes oidMapping layers
  if .pathSanitizer ∈ layers then .ok applied else .ok (.pathSanitizer :: applied)

end Build

inductive Handed where
  | onward (parts : Parts)
  | answered (response : Response)
  | pending
  | panicked

/-- The circumstances of one service: the times and the revocation stores its authentication meets, and what a layer
does that has nothing to do with paths. -/
structure Meeting where
  early : List (Nat × JwtRevocationStore)
  verifiedAt : Nat
  polledAt : Nat
  store : JwtRevocationStore
  other : MiddlewareLayer → Parts → Handed
  keepsUri : ∀ layer parts handed, other layer parts = .onward handed → handed.uri = parts.uri

def buildBadRequestResponse (msg : Text) : Response :=
  ⟨400, [("content-type".toList, utf8 "text/plain; charset=utf-8".toList)], "Bad Request: ".toList ++ msg ++ ['\n']⟩

def sanitizeRequest (uris : UriLibrary) (parts : Parts) : Handed :=
  match sanitizeAndNormalizeUri uris parts.uri with
  | .ok uri => .onward { parts with uri }
  | .error (.err e) => .answered (buildBadRequestResponse e.message)
  | .error .panic => .panicked

namespace LayerService

def call (meeting : Meeting) (parts : Parts) : LayerService Key Regex → Handed
  | .pathSanitizer => sanitizeRequest libraries.uris parts
  | .inspection service =>
    match service.call libraries.regex parts with
    | .ok forwarded => .onward forwarded
    | .error response => .answered response
  | .jwtAuth service =>
    let future := (service.call parts).pollMany service meeting.early
    match ((future.finishTask libraries.jwt service meeting.verifiedAt).poll service meeting.polledAt meeting.store).1 with
    | .forwarded request => .onward request.parts
    | .ready response => .answered response
    | .pending => .pending
    | .panicked => .panicked
  | .other layer => meeting.other layer parts

/-- The path a service decides on: an authentication compares it with its logout paths, if it has any. -/
def reads (parts : Parts) : LayerService Key Regex → List Text
  | .jwtAuth service => if service.revokeOnPaths = [] then [] else [parts.uri.path]
  | .inspection _ => (sanitizeAndNormalizePath parts.uri.path).toOption.toList
  | _ => []

end LayerService

/-- The way of a request through the layers, with the paths that are decided on. -/
def travel : List (LayerService Key Regex × Meeting) → Parts → List Text × Handed
  | [], parts => ([], .onward parts)
  | (service, meeting) :: rest, parts =>
    match service.call libraries meeting parts with
    | .onward handed =>
      let (paths, outcome) := travel rest handed
      (service.reads parts ++ paths, outcome)
    | stopped => (service.reads parts, stopped)

/-! ### The router -/

structure RouterService (lib : Matchit ParsedRoute) where
  router : lib.Tree
  parsedRoutes : List ParsedRoute
  compiledRbac : Option CompiledRbac

def handleHealthCheck (parsedRoutes : List ParsedRoute) (anyAlive : Bool) : Response :=
  if parsedRoutes = [] then
    buildErrorResponse "\x7b\"score\": 100, \"message\": \"no routes configured\"\x7d".toList 200
  else if anyAlive then
    buildErrorResponse "\x7b\"score\": 100, \"message\": \"nodes available\"\x7d".toList 200
  else buildErrorResponse "\x7b\"score\": 0, \"message\": \"no upstream nodes available\"\x7d".toList 503

namespace RouterService

variable {lib : Matchit ParsedRoute} (service : RouterService lib) (extensions : PeerExtensions) (anyAlive : Bool)

/-- The first part of `RouterService::call`: health checks are answered, other requests get a canonical path. -/
def receive (parts : Parts) : Handed :=
  if parts.uri.path = "/health".toList ∧ parts.method = .get then
    .answered (handleHealthCheck service.parsedRoutes anyAlive)
  else
    let parts := { parts with headers := injectRealIp extensions parts.headers }
    match sanitizeAndNormalizeUri libraries.uris parts.uri with
    | .ok uri => .onward { parts with uri }
    | .error (.err e) => .answered (buildErrorResponse ("Bad Request: ".toList ++ e.message) 400)
    | .error .panic => .panicked

def decide (parts : Parts) : Except Response (ParsedRoute × Params) := do
  let (routeInfo, params) ← matchRoute lib service.router parts.uri.path
  enforceRbac parts routeInfo service.compiledRbac
  .ok (routeInfo, params)

def reads (parts : Parts) : List Text :=
  match service.receive libraries extensions anyAlive parts with
  | .onward admitted => [admitted.uri.path]
  | _ => []

end RouterService

/-! ### Where the paths are read -/

def effective (layers : List MiddlewareLayer) : List MiddlewareLayer :=
  if .pathSanitizer ∈ layers then layers else .pathSanitizer :: layers

/-- How many times the path has been sanitized where a layer reads it, if it has been `runs` times before. -/
def readsAt (runs : Nat) : MiddlewareLayer → List Nat
  | .inspection => [runs + 1]
  | .jwtAuth config => if config.revokeOnPaths = [] then [] else [runs]
  | _ => []

def runsAfter (runs : Nat) (layer : MiddlewareLayer) : Nat := if layer = .pathSanitizer then runs + 1 else runs

def stages (runs : Nat) : List MiddlewareLayer → List Nat
  | [] => []
  | layer :: rest => readsAt runs layer ++ stages (runsAfter runs layer) rest

def routerStage (layers : List MiddlewareLayer) : Nat := layers.foldl runsAfter 0 + 1

def Uniform (path : Text) (stages : List Nat) : Prop :=
  (∀ m ∈ stages, ∀ n ∈ stages, m = n) ∨ Ascii path ∧ (sanitizeAndNormalizePath path = .ok path ∨ 0 ∉ stages)

inductive Applied : MiddlewareLayer → LayerService Key Regex → Prop where
  | pathSanitizer : Applied .pathSanitizer .pathSanitizer
  | inspection (service : InspectionService Regex) : Applied .inspection (.inspection service)
  | jwtAuth (config : JwtAuthConfig) (service : JwtAuthService Key)
      (same : service.revokeOnPaths = config.revokeOnPaths) : Applied (.jwtAuth config) (.jwtAuth service)
  | other (layer : MiddlewareLayer) (plain : layer ≠ .pathSanitizer) (unread : ∀ runs, readsAt runs layer = []) :
      Applied layer (.other layer)

section

variable {libraries} {serverName : Text} {compiledAllowedPathes : CompiledAllowedPathes Regex}
  {oidMapping : List (Text × UserRole)}

theorem applyLayer_applied {layer : MiddlewareLayer} {service : LayerService Key Regex}
    (done : applyLayer libraries serverName compiledAllowedPathes oidMapping layer = .ok service) :
    Applied layer service := by
  cases layer with
  | pathSanitizer =>
    cases done
    exact .pathSanitizer
  | inspection =>
    cases done
    exact .inspection _
  | jwtAuth config =>
    obtain ⟨keys, -, done⟩ := bind_ok done
    cases done
    exact .jwtAuth config _ rfl
  | rateLimiter limiter =>
    cases limiter with
    | simple config | tokenBucket config =>
      obtain ⟨-, done⟩ := guard_ok done
      cases done
      exact .other _ nofun fun _ => rfl
  | concurrencyLimit config | cors config =>
    obtain ⟨-, done⟩ := guard_ok done
    cases done
    exact .other _ nofun fun _ => rfl
  | ipFilter config =>
    obtain ⟨filter, -, done⟩ := bind_ok done
    cases done
    exact .other _ nofun fun _ => rfl
  | traceId | timing | counter | logger | compression | decompression | delay | maxPayload | altSvc | securityHeaders =>
    cases done
    exact .other _ nofun fun _ => rfl

theorem sanitizedLayers_applied {layers : List MiddlewareLayer} {chain : List (LayerService Key Regex)}
    (done : sanitizedLayers libraries serverName compiledAllowedPathes oidMapping layers = .ok chain) :
    List.Forall₂ Applied (effective layers) chain := by
  obtain ⟨applied, all, done⟩ := bind_ok done
  obtain ⟨reversed, mapped, rfl⟩ := map_ok all
  have pairs : List.Forall₂ Applied layers reversed.reverse := by
    rw [← List.reverse_reverse layers, List.forall₂_reverse_iff]
    exact (mapM_ok mapped).imp fun layer service => applyLayer_applied
  unfold effective
  split_ifs at done ⊢
  · cases done
    exact pairs
  · cases done
    exact .cons .pathSanitizer pairs

end

def Standing (path : Text) : List Nat → List Text → Prop :=
  List.Forall₂ fun n text => sanitizeTimes n path = .ok text

theorem sanitizeRequest_path {uris : UriLibrary} (readsBack : ReadsBack uris) {parts handed : Parts}
    (delimited : Delimited parts.uri.path) (onward : sanitizeRequest uris parts = .onward handed) :
    sanitizeAndNormalizePath parts.uri.path = .ok handed.uri.path ∧ Delimited handed.uri.path := by
  unfold sanitizeRequest at onward
  split at onward
  · rename_i uri done
    cases onward
    exact sanitizeUri_path uris readsBack parts.uri uri delimited done
  · cases onward
  · cases onward

section

variable {libraries} {path : Text} {runs : Nat} {parts handed : Parts} {meeting : Meeting}

theorem inspection_onward {service : InspectionService Regex}
    (onward : (LayerService.inspection service : LayerService Key Regex).call libraries meeting parts = .onward handed) :
    handed = parts ∧ ∃ canonicalPath, sanitizeAndNormalizePath parts.uri.path = .ok canonicalPath := by
  simp only [LayerService.call] at onward
  split at onward
  · rename_i forwarded done
    cases onward
    obtain ⟨same, canonicalPath, sanitized, -⟩ := (inspection_forwards_iff libraries.regex service parts handed).mp done
    exact ⟨same, canonicalPath, sanitized⟩
  · cases onward

theorem jwtAuth_onward {service : JwtAuthService Key}
    (onward : (LayerService.jwtAuth service : LayerService Key Regex).call libraries meeting parts = .onward handed) :
    handed.uri = parts.uri := by
  simp only [LayerService.call] at onward
  split at onward
  · rename_i request forwarded
    cases onward
    exact forwarded_uri libraries.jwt service parts _ _ _ _ request forwarded
  all_goals cases onward

/-- One layer: the path it hands on has been sanitized once more or not at all, and what it reads stands at its stage. -/
theorem applied_step (readsBack : ReadsBack libraries.uris) {layer : MiddlewareLayer}
    {service : LayerService Key Regex} (applied : Applied layer service)
    (seen : sanitizeTimes runs path = .ok parts.uri.path) (delimited : Delimited parts.uri.path)
    (onward : service.call libraries meeting parts = .onward handed) :
    sanitizeTimes (runsAfter runs layer) path = .ok handed.uri.path ∧ Delimited handed.uri.path ∧
      Standing path (readsAt runs layer) (service.reads parts) := by
  have unchanged (plain : layer ≠ .pathSanitizer) (same : handed.uri = parts.uri) :
      sanitizeTimes (runsAfter runs layer) path = .ok handed.uri.path ∧ Delimited handed.uri.path := by
    rw [runsAfter, if_neg plain, same]
    exact ⟨seen, delimited⟩
  cases applied with
  | pathSanitizer =>
    obtain ⟨sanitized, later⟩ := sanitizeRequest_path readsBack delimited onward
    refine ⟨?_, later, .nil⟩
    rw [runsAfter, if_pos rfl, sanitizeTimes, seen]
    exact sanitized
  | inspection service =>
    obtain ⟨rfl, canonicalPath, sanitized⟩ := inspection_onward onward
    obtain ⟨reached, later⟩ := unchanged nofun rfl
    refine ⟨reached, later, ?_⟩
    have text : sanitizeTimes (runs + 1) path = .ok canonicalPath := by
      rw [sanitizeTimes, seen]
      exact sanitized
    rw [LayerService.reads, sanitized]
    exact .cons text .nil
  | jwtAuth config service same =>
    obtain ⟨reached, later⟩ := unchanged nofun (jwtAuth_onward onward)
    refine ⟨reached, later, ?_⟩
    rw [readsAt, LayerService.reads, same]
    split_ifs
    · exact .nil
    · exact .cons seen .nil
  | other layer plain unread =>
    obtain ⟨reached, later⟩ := unchanged plain (meeting.keepsUri layer parts handed onward)
    refine ⟨reached, later, ?_⟩
    rw [unread]
    exact .nil

theorem travel_standing (readsBack : ReadsBack libraries.uris) {layers : List MiddlewareLayer}
    {met : List (LayerService Key Regex × Meeting)} {paths : List Text}
    (applied : List.Forall₂ Applied layers (met.map Prod.fst)) (seen : sanitizeTimes runs path = .ok parts.uri.path)
    (delimited : Delimited parts.uri.path) (reached : travel libraries met parts = (paths, .onward handed)) :
    sanitizeTimes (layers.foldl runsAfter runs) path = .ok handed.uri.path ∧ Delimited handed.uri.path ∧
      Standing path (stages runs layers) paths := by
  induction met generalizing layers runs parts paths with
  | nil =>
    cases applied
    cases reached
    exact ⟨seen, delimited, .nil⟩
  | cons first rest ih =>
    obtain ⟨service, meeting⟩ := first
    cases applied with
    | cons here later =>
      rw [travel] at reached
      split at reached
      · rename_i next onward
        obtain ⟨step, clean, read⟩ := applied_step readsBack here seen delimited onward
        cases result : travel libraries rest next with
        | mk others outcome =>
          rw [result] at reached
          cases reached
          obtain ⟨final, cleanFinal, standing⟩ := ih later step clean result
          exact ⟨final, cleanFinal, List.rel_append read standing⟩
      · rename_i stopped
        exact absurd (Prod.mk.inj reached).2 (stopped handed)

theorem receive_path (readsBack : ReadsBack libraries.uris) {lib : Matchit ParsedRoute} (router : RouterService lib)
    (extensions : PeerExtensions) (anyAlive : Bool) (delimited : Delimited parts.uri.path)
    (onward : router.receive libraries extensions anyAlive parts = .onward handed) :
    sanitizeAndNormalizePath parts.uri.path = .ok handed.uri.path := by
  unfold RouterService.receive at onward
  split_ifs at onward
  dsimp only at onward
  split at onward
  · rename_i uri done
    cases onward
    exact (sanitizeUri_path libraries.uris readsBack parts.uri uri delimited done).1
  · cases onward
  · cases onward

end

def OneString (texts : List Text) : Prop := ∀ text ∈ texts, ∀ other ∈ texts, text = other

theorem uniform_iff (path : Text) (stages : List Nat) :
    (∀ m ∈ stages, ∀ n ∈ stages, m = n ∨ Ascii path ∧ (sanitizeAndNormalizePath path = .ok path ∨ 0 < m ∧ 0 < n)) ↔
      Uniform path stages := by
  unfold Uniform
  constructor
  · intro pairs
    by_cases fixed : Ascii path ∧ sanitizeAndNormalizePath path = .ok path
    · exact Or.inr ⟨fixed.1, Or.inl fixed.2⟩
    · by_cases raw : 0 ∈ stages
      · -- One reader sees the raw path, so that every other one has to.
        have zero : ∀ n ∈ stages, n = 0 := by
          intro n member
          rcases pairs 0 raw n member with same | ⟨ascii, settled | ⟨positive, -⟩⟩
          · exact same.symm
          · exact absurd ⟨ascii, settled⟩ fixed
          · omega
        exact Or.inl fun m first n second => (zero m first).trans (zero n second).symm
      · by_cases ascii : Ascii path
        · exact Or.inr ⟨ascii, Or.inr raw⟩
        · exact Or.inl fun m first n second => (pairs m first n second).resolve_right fun settled => ascii settled.1
  · intro uniform m first n second
    rcases uniform with same | ⟨ascii, fixed | raw⟩
    · exact Or.inl (same m first n second)
    · exact Or.inr ⟨ascii, Or.inl fixed⟩
    · have positive : ∀ k ∈ stages, 0 < k := fun k member => Nat.pos_of_ne_zero fun zero => raw (zero ▸ member)
      exact Or.inr ⟨ascii, Or.inr ⟨positive m first, positive n second⟩⟩

theorem oneString_iff {path : Text} {stages : List Nat} {texts : List Text} (standing : Standing path stages texts) :
    OneString texts ↔ Uniform path stages := by
  rw [← uniform_iff]
  symm
  apply forall₂_forall_iff standing
  intro m text first
  apply forall₂_forall_iff standing
  intro n other second
  exact (sanitizeTimes_eq_iff m n path text other first second).symm

/-- For every request that reaches the router: the paths it is decided on are one string exactly if they are read after
equally many runs of the sanitizer, or if the path is in ASCII and canonical already or never read as it came. -/
theorem decided_paths_iff (readsBack : ReadsBack libraries.uris) (serverName : Text)
    (compiledAllowedPathes : CompiledAllowedPathes Regex) (oidMapping : List (Text × UserRole))
    (layers : List MiddlewareLayer) (chain : List (LayerService Key Regex))
    (stacked : sanitizedLayers libraries serverName compiledAllowedPathes oidMapping layers = .ok chain)
    (met : List (LayerService Key Regex × Meeting)) (around : met.map Prod.fst = chain) (parts arrived : Parts)
    (delimited : Delimited parts.uri.path) (paths : List Text)
    (reached : travel libraries met parts = (paths, .onward arrived))
    (lib : Matchit ParsedRoute) (router : RouterService lib) (extensions : PeerExtensions) (anyAlive : Bool) :
    (∀ path, router.reads libraries extensions anyAlive arrived = [path] →
      (OneString (paths ++ [path]) ↔
        Uniform parts.uri.path (stages 0 (effective layers) ++ [routerStage (effective layers)]))) ∧
    (router.reads libraries extensions anyAlive arrived = [] →
      (OneString paths ↔ Uniform parts.uri.path (stages 0 (effective layers)))) := by
  have applied := sanitizedLayers_applied stacked
  rw [← around] at applied
  have start : sanitizeTimes 0 parts.uri.path = .ok parts.uri.path := rfl
  obtain ⟨final, clean, standing⟩ := travel_standing readsBack applied start delimited reached
  refine ⟨?_, fun _ => oneString_iff standing⟩
  intro path read
  have matched : sanitizeTimes (routerStage (effective layers)) parts.uri.path = .ok path := by
    unfold RouterService.reads at read
    split at read
    · rename_i admitted onward
      cases read
      rw [routerStage, sanitizeTimes, final]
      exact receive_path readsBack router extensions anyAlive clean onward
    · cases read
  exact oneString_iff (List.rel_append standing (.cons matched .nil))

/-! An authentication with the logout path `/out`, in front of a sanitizer. -/

def logoutConfig : JwtAuthConfig where
  jwtPublicKeys := [['k']]
  cookieFallback := none
  redirectOnFailure := none
  expectedIssuer := []
  expectedAudience := ['w', 'e', 'b']
  revokeOnPaths := [['/', 'o', 'u', 't']]

def logoutLayers : Layers :=
  { onlyEnabled ["JwtAuth".toList, "PathSanitizer".toList] with jwtConfig := some logoutConfig }

def logoutLibraries : Libraries Unit Text where
  files := ⟨some, fun _ => some ()⟩
  jwt := listedTokens [(['t'], claimsOf (some ['w', 'e', 'b']))]
  regex := literalRegex
  uris := permissive

def nothingAllowed : CompiledAllowedPathes Text :=
  ⟨Patterns.Rules.empty, Patterns.Rules.empty, Patterns.Rules.empty, Patterns.Rules.empty, Patterns.Rules.empty,
    Patterns.Rules.empty⟩

def logoutBuilt : List MiddlewareLayer :=
  [.securityHeaders SecurityHeadersConfig.default, .jwtAuth logoutConfig, .pathSanitizer]

def logoutChain : List (LayerService Unit Text) :=
  [.other (.securityHeaders SecurityHeadersConfig.default), .jwtAuth webService, .pathSanitizer]

def plainMeeting : Meeting where
  early := []
  verifiedAt := 900
  polledAt := 900
  store := JwtRevocationStore.new
  other _ parts := .onward parts
  keepsUri _ _ _ same := Handed.onward.inj same ▸ rfl

def noPeer : PeerExtensions := ⟨none, none, none, ⟨none, none, none⟩⟩

def emptyRouter : RouterService (reference ParsedRoute) := ⟨[], [], none⟩

def outArrived : Parts := (forwardedOf ['/', 'o', 'u', 't'] ['t'] (some ['w', 'e', 'b'])).parts

theorem decided_paths_iff_logout :
    (∀ path, emptyRouter.reads logoutLibraries noPeer false outArrived = [path] →
      (OneString ([['/', 'o', 'u', 't']] ++ [path]) ↔
        Uniform ['/', 'o', 'u', 't'] (stages 0 (effective logoutBuilt) ++ [routerStage (effective logoutBuilt)]))) ∧
    (emptyRouter.reads logoutLibraries noPeer false outArrived = [] →
      (OneString [['/', 'o', 'u', 't']] ↔ Uniform ['/', 'o', 'u', 't'] (stages 0 (effective logoutBuilt)))) :=
  decided_paths_iff logoutLibraries permissive_readsBack [] nothingAllowed [] logoutBuilt logoutChain rfl
    (logoutChain.map fun service => (service, plainMeeting)) rfl (bearerRequest ['/', 'o', 'u', 't'] ['t']) outArrived
    ⟨by decide, by decide⟩ _ rfl (reference ParsedRoute) emptyRouter noPeer false

/-- With a doubled slash the request goes past the logout path and arrives at it. -/
theorem logout_path_missed :
    logoutLayers.buildMiddlewareLayers logoutLibraries.files [] = .ok logoutBuilt ∧
    sanitizedLayers logoutLibraries [] nothingAllowed [] logoutBuilt = .ok logoutChain ∧
    travel logoutLibraries (logoutChain.map fun service => (service, plainMeeting))
      (bearerRequest ['/', '/', 'o', 'u', 't'] ['t']) = ([['/', '/', 'o', 'u', 't']], .onward outArrived) ∧
    emptyRouter.reads logoutLibraries noPeer false outArrived = [['/', 'o', 'u', 't']] ∧
    ¬OneString ([['/', '/', 'o', 'u', 't']] ++ [['/', 'o', 'u', 't']]) := by
  refine ⟨rfl, rfl, rfl, rfl, ?_⟩
  intro same
  exact absurd (same ['/', '/', 'o', 'u', 't'] (by decide) ['/', 'o', 'u', 't'] (by decide)) (by decide)

end Praeco.Server.Stack
