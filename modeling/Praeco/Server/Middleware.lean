import Praeco.Collections.Positions
import Praeco.Limits.IpFilter
import Praeco.Limits.TokenBucket

/-! The middleware layers of a server. The names of the enabled layers are checked for their order and turned into layers
with the settings of their sections; security headers are added if they are not among them. -/

namespace Praeco.Server.Middleware
open Praeco.Strings Utf8 Praeco.Collections Fallible Positions Praeco.Limits IpFilter TokenBucket

inductive RateLimitKeyStrategy where
  | identity
  | ip
  | global
  deriving DecidableEq, Repr

structure SimpleRateLimiterConfig where
  requestsPerSecond : Nat
  keyBy : RateLimitKeyStrategy
  maxEntries : Nat
  ttlSeconds : Nat
  trustForwardedHeaders : Bool
  deriving DecidableEq, Repr

structure TokenBucketSection extends TokenBucketRateLimiterConfig where
  keyBy : RateLimitKeyStrategy
  trustForwardedHeaders : Bool
  deriving DecidableEq, Repr

structure JwtAuthConfig where
  jwtPublicKeys : List Text
  cookieFallback : Option Text
  redirectOnFailure : Option Text
  expectedIssuer : Text
  expectedAudience : Text
  revokeOnPaths : List Text
  deriving DecidableEq, Repr

structure ConcurrencyLimitConfig where
  maxConcurrentRequests : Nat
  loadShed : Bool
  queueTimeoutMs : Option Nat
  deriving DecidableEq, Repr

structure CorsConfig where
  allowedOrigins : List Text
  allowedMethods : List Text
  allowedHeaders : List Text
  allowCredentials : Bool
  deriving DecidableEq, Repr

structure SecurityHeadersConfig where
  contentSecurityPolicy : Text
  strictTransportSecurity : Text
  xContentTypeOptions : Text
  xFrameOptions : Text
  referrerPolicy : Text
  deriving DecidableEq, Repr

def SecurityHeadersConfig.default : SecurityHeadersConfig where
  contentSecurityPolicy := ("default-src 'none'; script-src 'unsafe-inline'; style-src 'unsafe-inline'; " ++
    "connect-src 'self'; img-src 'self' data:").toList
  strictTransportSecurity := "max-age=63072000; includeSubDomains; preload".toList
  xContentTypeOptions := "nosniff".toList
  xFrameOptions := "DENY".toList
  referrerPolicy := "strict-origin-when-cross-origin".toList

structure IpFilterConfig where
  allowCidrs : List Text
  denyCidrs : List Text
  trustForwardedHeaders : Bool
  deriving DecidableEq, Repr

inductive RateLimiter where
  | simple (config : SimpleRateLimiterConfig)
  | tokenBucket (config : TokenBucketSection)
  deriving DecidableEq, Repr

inductive MiddlewareLayer where
  | traceId
  | timing
  | counter
  | logger
  | inspection
  | compression
  | decompression (maxDecompressedBytes : Nat)
  | rateLimiter (limiter : RateLimiter)
  | delay (delayMicros : Nat)
  | jwtAuth (config : JwtAuthConfig)
  | concurrencyLimit (config : ConcurrencyLimitConfig)
  | maxPayload (maxBytes : Nat)
  | altSvc
  | cors (config : CorsConfig)
  | securityHeaders (config : SecurityHeadersConfig)
  | pathSanitizer
  | ipFilter (config : IpFilterConfig)
  deriving DecidableEq, Repr

structure Layers where
  enabled : List Text
  maxPayloadConfig : Option Nat
  decompressionConfig : Option Nat
  rateLimiterConfig : Option SimpleRateLimiterConfig
  tokenBucketConfig : Option TokenBucketSection
  delayConfig : Option Nat
  jwtConfig : Option JwtAuthConfig
  concurrencyLimitConfig : Option ConcurrencyLimitConfig
  corsConfig : Option CorsConfig
  securityHeadersConfig : Option SecurityHeadersConfig
  ipFilterConfig : Option IpFilterConfig
  deriving DecidableEq, Repr

structure KeyFiles (Key : Type) where
  readToString : Text → Option Text
  fromEdPem : Text → Option Key

variable {Key : Type} (files : KeyFiles Key)

def loadDecodingKey (path : Text) : Except Text Key :=
  match files.readToString path with
  | none => .error ("Failed to read JWT public key file: '".toList ++ path ++ "'".toList)
  | some pem =>
    match files.fromEdPem pem with
    | none => .error ("Failed to parse JWT public key in '".toList ++ path ++ "'".toList)
    | some key => .ok key

def loadDecodingKeys (keyPaths : List Text) : Except Text (List Key) := keyPaths.mapM (loadDecodingKey files)

/-- The arms of the match on a layer's name; two layers have a second name. -/
inductive LayerKind where
  | maxPayload
  | traceId
  | timing
  | counter
  | logger
  | pathSanitizer
  | inspection
  | compression
  | decompression
  | delay
  | jwtAuth
  | concurrencyLimit
  | cors
  | securityHeaders
  | rateLimiterSimple
  | rateLimiterTokenBucket
  | altSvc
  | ipFilter
  deriving DecidableEq, Repr

def layerNames : List (Text × LayerKind) :=
  [("MaxPayload".toList, .maxPayload), ("TraceId".toList, .traceId), ("Timing".toList, .timing),
    ("Counter".toList, .counter), ("Logger".toList, .logger), ("PathSanitizer".toList, .pathSanitizer),
    ("NormalizePath".toList, .pathSanitizer), ("Inspection".toList, .inspection),
    ("Compression".toList, .compression), ("Decompression".toList, .decompression), ("Delay".toList, .delay),
    ("JwtAuth".toList, .jwtAuth), ("JWT".toList, .jwtAuth), ("ConcurrencyLimit".toList, .concurrencyLimit),
    ("Cors".toList, .cors), ("SecurityHeaders".toList, .securityHeaders),
    ("RateLimiter:Simple".toList, .rateLimiterSimple), ("RateLimiter:TokenBucket".toList, .rateLimiterTokenBucket),
    ("AltSvc".toList, .altSvc), ("IpFilter".toList, .ipFilter)]

def kindOf (name : Text) : Option LayerKind := layerNames.lookup name

def MiddlewareLayer.kind : MiddlewareLayer → LayerKind
  | .traceId => .traceId
  | .timing => .timing
  | .counter => .counter
  | .logger => .logger
  | .inspection => .inspection
  | .compression => .compression
  | .decompression _ => .decompression
  | .rateLimiter (.simple _) => .rateLimiterSimple
  | .rateLimiter (.tokenBucket _) => .rateLimiterTokenBucket
  | .delay _ => .delay
  | .jwtAuth _ => .jwtAuth
  | .concurrencyLimit _ => .concurrencyLimit
  | .maxPayload _ => .maxPayload
  | .altSvc => .altSvc
  | .cors _ => .cors
  | .securityHeaders _ => .securityHeaders
  | .pathSanitizer => .pathSanitizer
  | .ipFilter _ => .ipFilter

def required {α : Type} (config : Option α) (missing : Text) : Except Text α :=
  match config with
  | some config => .ok config
  | none => .error missing

theorem required_ok {α : Type} {config : Option α} {missing : Text} {result : α}
    (done : required config missing = .ok result) : config = some result := by
  cases config with
  | none => cases done
  | some config => exact congrArg some (Except.ok.inj done)

def checkCidrs (serverName list : Text) (entries : List Text) : Except Text Unit := do
  let _ ← entries.mapM fun entry => (IpCidr.parse entry).mapError fun e =>
    serverName ++ ": Layer 'IpFilter' invalid ".toList ++ list ++ " entry '".toList ++ entry ++ "': ".toList ++ e
  .ok ()

def Layers.layerOf (layers : Layers) (serverName : Text) : LayerKind → Except Text MiddlewareLayer
  | .maxPayload => (required layers.maxPayloadConfig
      "Layer 'MaxPayload' enabled but [Server.Layers.MaxPayload] section is missing".toList).map .maxPayload
  | .traceId => .ok .traceId
  | .timing => .ok .timing
  | .counter => .ok .counter
  | .logger => .ok .logger
  | .pathSanitizer => .ok .pathSanitizer
  | .inspection => .ok .inspection
  | .compression => .ok .compression
  | .decompression => (required layers.decompressionConfig
      "Layer 'Decompression' enabled but [Server.Layers.Decompression] section is missing".toList).map .decompression
  | .delay => (required layers.delayConfig "Missing [Layers.Delay]".toList).map .delay
  | .jwtAuth => do
    let config ← required layers.jwtConfig
      (serverName ++ ": Missing [Server.Layers.JWT] section for JwtAuth layer".toList)
    let _ ← loadDecodingKeys files config.jwtPublicKeys
    .ok (.jwtAuth config)
  | .concurrencyLimit => do
    let config ← required layers.concurrencyLimitConfig "Missing [Layers.ConcurrencyLimit]".toList
    if config.maxConcurrentRequests = 0 then
      .error (serverName ++ ": Layer 'ConcurrencyLimit': max_concurrent_requests must be greater than 0".toList)
    else .ok (.concurrencyLimit config)
  | .cors => do
    let config ← required layers.corsConfig "Missing [Layers.Cors]".toList
    if config.allowCredentials ∧ ['*'] ∈ config.allowedOrigins then
      .error (serverName ++ (": Layer 'Cors': allow_credentials cannot be true when allowed_origins contains wildcard " ++
        "'*' (violates CORS specification and causes panic in tower-http)").toList)
    else .ok (.cors config)
  | .securityHeaders => (required layers.securityHeadersConfig
      "Layer 'SecurityHeaders' enabled but [Server.Layers.SecurityHeaders] section is missing".toList).map
      .securityHeaders
  | .rateLimiterSimple => do
    let config ← required layers.rateLimiterConfig "Missing [Layers.RateLimiter]".toList
    if config.requestsPerSecond = 0 then
      .error (serverName ++ ": Layer 'RateLimiter:Simple': requests_per_second must be greater than 0".toList)
    else .ok (.rateLimiter (.simple config))
  | .rateLimiterTokenBucket => do
    let config ← required layers.tokenBucketConfig "Missing [Layers.TokenBucketRateLimiter]".toList
    if config.maxCapacity = 0 ∨ config.refill = 0 ∨ config.durationMicros = 0 then
      .error (serverName ++ (": Layer 'RateLimiter:TokenBucket': max_capacity, refill, and duration_micros must all " ++
        "be greater than 0").toList)
    else .ok (.rateLimiter (.tokenBucket config))
  | .altSvc => .ok .altSvc
  | .ipFilter => do
    let config ← required layers.ipFilterConfig
      "Layer 'IpFilter' enabled but [Server.Layers.IpFilter] section is missing".toList
    checkCidrs serverName "allow_cidrs".toList config.allowCidrs
    checkCidrs serverName "deny_cidrs".toList config.denyCidrs
    .ok (.ipFilter config)

def Layers.layerFor (layers : Layers) (serverName name : Text) : Except Text MiddlewareLayer :=
  match kindOf name with
  | some kind => layers.layerOf files serverName kind
  | none => .error ("Unknown layer type: ".toList ++ name)

def position (name : Text) (enabled : List Text) : Option Nat := enabled.findIdx? (· = name)

def Layers.validateMiddlewareOrder (layers : Layers) : Except Text Unit :=
  if (position "TraceId".toList layers.enabled).any (· ≠ 0) then
    .error ("TraceId layer must be FIRST (outermost) in [Server.Layers].enabled to capture all requests.").toList
  else
    match position "Inspection".toList layers.enabled, position "Decompression".toList layers.enabled with
    | some inspIdx, some decompIdx =>
      if inspIdx < decompIdx then
        .error ("Inspection (at index ".toList ++ (Nat.repr inspIdx).toList ++
          ") must come AFTER Decompression (at index ".toList ++ (Nat.repr decompIdx).toList ++
          "). Otherwise the WAF inspects compressed bytes!".toList)
      else .ok ()
    | _, _ => .ok ()

def outermost : List LayerKind := [.traceId, .logger, .timing, .counter]

def Layers.buildMiddlewareLayers (layers : Layers) (serverName : Text) : Except Text (List MiddlewareLayer) := do
  layers.validateMiddlewareOrder
  let built ← layers.enabled.mapM (layers.layerFor files serverName)
  if "SecurityHeaders".toList ∈ layers.enabled then .ok built
  else
    let insertIdx := (built.findIdx? fun layer => layer.kind ∉ outermost).getD 0
    .ok (built.insertIdx insertIdx
      (.securityHeaders (layers.securityHeadersConfig.getD SecurityHeadersConfig.default)))

/-! The order of the layers that are built. -/

variable {layers : Layers} {serverName : Text} {enabled : List Text}
  {each built : List MiddlewareLayer}

theorem layerOf_kind {kind : LayerKind} {layer : MiddlewareLayer}
    (done : layers.layerOf files serverName kind = .ok layer) : layer.kind = kind := by
  cases kind with
  | traceId | timing | counter | logger | pathSanitizer | inspection | compression | altSvc =>
    cases done
    rfl
  | maxPayload | decompression | delay | securityHeaders =>
    obtain ⟨config, -, rfl⟩ := map_ok done
    rfl
  | concurrencyLimit | cors | rateLimiterSimple | rateLimiterTokenBucket =>
    obtain ⟨config, -, done⟩ := bind_ok done
    obtain ⟨-, done⟩ := guard_ok done
    cases done
    rfl
  | jwtAuth =>
    obtain ⟨config, -, done⟩ := bind_ok done
    obtain ⟨keys, -, done⟩ := bind_ok done
    cases done
    rfl
  | ipFilter =>
    obtain ⟨config, -, done⟩ := bind_ok done
    obtain ⟨-, -, done⟩ := bind_ok done
    obtain ⟨-, -, done⟩ := bind_ok done
    cases done
    rfl

theorem layerFor_kind {name : Text} {layer : MiddlewareLayer}
    (done : layers.layerFor files serverName name = .ok layer) : kindOf name = some layer.kind := by
  unfold Layers.layerFor at done
  split at done
  · rename_i kind known
    rw [known, layerOf_kind files done]
  · cases done

theorem kindOf_eq_iff (name : Text) (kind : LayerKind) (only : Text)
    (listed : layerNames.filter (fun entry => entry.2 = kind) = [(only, kind)])
    (known : kindOf only = some kind) : kindOf name = some kind ↔ name = only := by
  constructor
  · intro found
    have member : (name, kind) ∈ layerNames := by
      obtain ⟨front, back, split, -⟩ := List.lookup_eq_some_iff.mp found
      exact split ▸ List.mem_append_right front List.mem_cons_self
    have filtered : (name, kind) ∈ layerNames.filter (fun entry => entry.2 = kind) :=
      List.mem_filter.mpr ⟨member, by simp⟩
    rw [listed] at filtered
    exact congrArg Prod.fst (List.mem_singleton.mp filtered)
  · rintro rfl
    exact known

theorem kindOf_traceId (name : Text) : kindOf name = some .traceId ↔ name = "TraceId".toList :=
  kindOf_eq_iff name _ _ (by decide) (by decide)

theorem kindOf_inspection (name : Text) : kindOf name = some .inspection ↔ name = "Inspection".toList :=
  kindOf_eq_iff name _ _ (by decide) (by decide)

theorem kindOf_decompression (name : Text) : kindOf name = some .decompression ↔ name = "Decompression".toList :=
  kindOf_eq_iff name _ _ (by decide) (by decide)

theorem kindOf_securityHeaders (name : Text) : kindOf name = some .securityHeaders ↔ name = "SecurityHeaders".toList :=
  kindOf_eq_iff name _ _ (by decide) (by decide)

def outermostNames : List Text := ["TraceId".toList, "Logger".toList, "Timing".toList, "Counter".toList]

theorem kindOf_outermost (name : Text) (kind : LayerKind) (known : kindOf name = some kind) :
    kind ∈ outermost ↔ name ∈ outermostNames := by
  have trace := kindOf_traceId name
  have logger := kindOf_eq_iff name .logger "Logger".toList (by decide) (by decide)
  have timing := kindOf_eq_iff name .timing "Timing".toList (by decide) (by decide)
  have counter := kindOf_eq_iff name .counter "Counter".toList (by decide) (by decide)
  rw [known, Option.some.injEq] at trace logger timing counter
  unfold outermost outermostNames
  rw [List.mem_cons, List.mem_cons, List.mem_cons, List.mem_singleton, List.mem_cons, List.mem_cons, List.mem_cons,
    List.mem_singleton, trace, logger, timing, counter]

def Made (enabled : List Text) (each : List MiddlewareLayer) : Prop :=
  enabled.map kindOf = each.map fun layer => some layer.kind

theorem Made.of_mapM (mapped : enabled.mapM (layers.layerFor files serverName) = .ok each) : Made enabled each := by
  have pairs := mapM_ok mapped
  clear mapped
  unfold Made
  induction pairs with
  | nil => rfl
  | cons head _ ih => rw [List.map_cons, List.map_cons, ih, layerFor_kind files head]

theorem Made.layer (made : Made enabled each) {name : Text} (member : name ∈ enabled) :
    ∃ layer ∈ each, kindOf name = some layer.kind := by
  have found : kindOf name ∈ each.map fun layer => some layer.kind := made ▸ List.mem_map_of_mem member
  obtain ⟨layer, present, same⟩ := List.mem_map.mp found
  exact ⟨layer, present, same.symm⟩

theorem Made.name (made : Made enabled each) {layer : MiddlewareLayer} (member : layer ∈ each) :
    ∃ name ∈ enabled, kindOf name = some layer.kind := by
  have found : some layer.kind ∈ enabled.map kindOf := by
    rw [made]
    exact List.mem_map_of_mem member
  exact List.mem_map.mp found

/-- What is promised about the order of the built layers. -/
structure WellOrdered (enabled : List Text) (built : List MiddlewareLayer) : Prop where
  inOrder : ∃ front back, Made enabled (front ++ back) ∧
    (built = front ++ back ∨ ∃ config, built = front ++ .securityHeaders config :: back)
  headers : ∃ config, .securityHeaders config ∈ built
  traceFirst : "TraceId".toList ∈ enabled → built.head? = some .traceId
  headersOutside : "SecurityHeaders".toList ∉ enabled → ∀ front layer back, built = front ++ layer :: back →
    layer.kind ∉ outermost → ∃ config, layer = .securityHeaders config ∨ .securityHeaders config ∈ front
  decompressed : ¬[LayerKind.inspection, .decompression].Sublist (built.map MiddlewareLayer.kind)

inductive Placed (enabled : List Text) (each built : List MiddlewareLayer) : Prop where
  | listed (present : "SecurityHeaders".toList ∈ enabled) (same : built = each)
  | inFront (absent : "SecurityHeaders".toList ∉ enabled) (config : SecurityHeadersConfig)
      (all : ∀ layer ∈ each, layer.kind ∈ outermost) (same : built = .securityHeaders config :: each)
  | inside (absent : "SecurityHeaders".toList ∉ enabled) (config : SecurityHeadersConfig)
      (front : List MiddlewareLayer) (layer : MiddlewareLayer) (back : List MiddlewareLayer)
      (whole : each = front ++ layer :: back) (before : ∀ other ∈ front, other.kind ∈ outermost)
      (here : layer.kind ∉ outermost) (same : built = front ++ .securityHeaders config :: layer :: back)

theorem built_placed (done : layers.buildMiddlewareLayers files serverName = .ok built) :
    layers.validateMiddlewareOrder = .ok () ∧ ∃ each, Made layers.enabled each ∧ Placed layers.enabled each built := by
  obtain ⟨⟨⟩, ordered, done⟩ := bind_ok done
  obtain ⟨each, mapped, done⟩ := bind_ok done
  refine ⟨ordered, each, Made.of_mapM files mapped, ?_⟩
  split_ifs at done with present
  · cases done
    exact .listed present rfl
  · cases done
    cases found : each.findIdx? fun layer => layer.kind ∉ outermost with
    | none =>
      have all : ∀ layer ∈ each, layer.kind ∈ outermost := by
        intro layer member
        simpa using List.findIdx?_eq_none_iff.mp found layer member
      exact .inFront present _ all rfl
    | some index =>
      obtain ⟨front, layer, back, rfl, rfl, here, before⟩ := findIdx?_split _ _ _ found
      refine .inside present _ front layer back rfl ?_ (by simpa using here) (insertIdx_length front _ _)
      intro other member
      simpa using before other member

theorem validate_ok (ordered : layers.validateMiddlewareOrder = .ok ()) :
    ("TraceId".toList ∈ layers.enabled → layers.enabled.head? = some "TraceId".toList) ∧
    ∀ i j, layers.enabled.findIdx? (· = "Inspection".toList) = some i →
      layers.enabled.findIdx? (· = "Decompression".toList) = some j → ¬i < j := by
  unfold Layers.validateMiddlewareOrder at ordered
  obtain ⟨first, ordered⟩ := guard_ok ordered
  constructor
  · intro enabled
    cases found : position "TraceId".toList layers.enabled with
    | none => exact absurd (List.findIdx?_eq_none_iff.mp found _ enabled) (by decide)
    | some index =>
      obtain ⟨front, x, back, whole, size, here, -⟩ := findIdx?_split _ _ _ found
      rw [found] at first
      obtain rfl : index = 0 := by simpa using first
      obtain rfl : x = "TraceId".toList := of_decide_eq_true here
      rw [whole, List.length_eq_zero_iff.mp size]
      rfl
  · intro i j inspection decompression late
    simp only [position, inspection, decompression, if_pos late, reduceCtorEq] at ordered

theorem Made.inspection_iff (made : Made enabled each) :
    [LayerKind.inspection, .decompression].Sublist (each.map MiddlewareLayer.kind) ↔
      ["Inspection".toList, "Decompression".toList].Sublist enabled := by
  have kinds : enabled.map kindOf = (each.map MiddlewareLayer.kind).map some := by
    rw [List.map_map]
    exact made
  constructor
  · intro pair
    have mapped := pair.map some
    rw [← kinds] at mapped
    obtain ⟨names, within, same⟩ := List.sublist_map_iff.mp mapped
    simp only [List.map_cons, List.map_nil, List.map_eq_cons_iff, List.map_eq_nil_iff, eq_comm] at same
    obtain ⟨first, _, rfl, inspection, second, _, rfl, decompression, rfl⟩ := same
    rw [(kindOf_inspection first).mp inspection.symm, (kindOf_decompression second).mp decompression.symm] at within
    exact within
  · intro pair
    have mapped := pair.map kindOf
    rw [kinds] at mapped
    obtain ⟨part, within, same⟩ := List.sublist_map_iff.mp mapped
    have injective := List.map_injective_iff.mpr (Option.some_injective LayerKind)
    exact injective (same.symm.trans (by decide : _ = [LayerKind.inspection, .decompression].map some)) ▸ within

theorem Placed.inspection_iff (placed : Placed enabled each built) :
    [LayerKind.inspection, .decompression].Sublist (built.map MiddlewareLayer.kind) ↔
      [LayerKind.inspection, .decompression].Sublist (each.map MiddlewareLayer.kind) := by
  cases placed with
  | listed _ same => rw [same]
  | inFront _ config _ same =>
    rw [same, List.map_cons]
    exact pair_sublist_insert _ _ LayerKind.securityHeaders [] _ (by decide) (by decide)
  | inside _ config front layer back whole _ _ same =>
    rw [same, whole, List.map_append, List.map_cons, List.map_append]
    exact pair_sublist_insert _ _ LayerKind.securityHeaders _ _ (by decide) (by decide)

theorem eq_securityHeaders (layer : MiddlewareLayer) (same : layer.kind = .securityHeaders) :
    ∃ config, layer = .securityHeaders config := by
  cases layer with
  | securityHeaders config => exact ⟨config, rfl⟩
  | rateLimiter limiter => cases limiter <;> cases same
  | _ => cases same

theorem eq_traceId (layer : MiddlewareLayer) (same : layer.kind = .traceId) : layer = .traceId := by
  cases layer with
  | traceId => rfl
  | rateLimiter limiter => cases limiter <;> cases same
  | _ => cases same

theorem Made.head_traceId (made : Made enabled each) (first : enabled.head? = some "TraceId".toList) :
    each.head? = some .traceId := by
  have heads := congrArg List.head? made
  rw [List.head?_map, List.head?_map, first] at heads
  obtain ⟨layer, head, same⟩ := Option.map_eq_some_iff.mp heads.symm
  have known := (kindOf_traceId _).mpr rfl
  rw [head, eq_traceId layer (Option.some.inj (same.trans known))]

theorem Placed.keeps (made : Made enabled each) (placed : Placed enabled each built) :
    (∃ front back, Made enabled (front ++ back) ∧
      (built = front ++ back ∨ ∃ config, built = front ++ .securityHeaders config :: back)) ∧
    (∃ config, .securityHeaders config ∈ built) ∧
    ("SecurityHeaders".toList ∉ enabled → ∀ front layer back, built = front ++ layer :: back →
      layer.kind ∉ outermost → ∃ config, layer = .securityHeaders config ∨ .securityHeaders config ∈ front) := by
  cases placed with
  | listed present same =>
    obtain ⟨layer, member, known⟩ := made.layer present
    rw [(kindOf_securityHeaders _).mpr rfl] at known
    obtain ⟨config, rfl⟩ := eq_securityHeaders layer (Option.some.inj known).symm
    refine ⟨⟨each, [], by simpa using made, .inl (by simpa using same)⟩, ⟨config, same ▸ member⟩, ?_⟩
    exact fun absent => absurd present absent
  | inFront _ config all same =>
    refine ⟨⟨[], each, made, .inr ⟨config, same⟩⟩, ⟨config, same ▸ List.mem_cons_self⟩, ?_⟩
    intro _ front layer back split _
    rw [same] at split
    cases front with
    | nil => exact ⟨config, .inl (List.cons.inj split).1.symm⟩
    | cons first front => exact ⟨config, .inr ((List.cons.inj split).1 ▸ List.mem_cons_self)⟩
  | inside _ config outer inner rest whole before _ same =>
    refine ⟨⟨outer, inner :: rest, whole ▸ made, .inr ⟨config, same⟩⟩, ⟨config, same ▸ by simp⟩, ?_⟩
    intro _ front layer back split late
    refine ⟨config, ?_⟩
    rw [same] at split
    rcases List.append_eq_append_iff.mp split with ⟨more, rfl, tail⟩ | ⟨more, cut, tail⟩
    · cases more with
      | nil => exact .inl (List.cons.inj tail).1.symm
      | cons x more => exact .inr (List.mem_append_right outer ((List.cons.inj tail).1 ▸ List.mem_cons_self))
    · cases more with
      | nil => exact .inl (List.cons.inj tail).1
      | cons x more =>
        have member : layer ∈ outer := by
          rw [cut, (List.cons.inj tail).1]
          exact List.mem_append_right front List.mem_cons_self
        exact absurd (before layer member) late

theorem Placed.traceFirst_iff (made : Made enabled each)
    (first : "TraceId".toList ∈ enabled → enabled.head? = some "TraceId".toList) (placed : Placed enabled each built) :
    ("TraceId".toList ∈ enabled → built.head? = some .traceId) ↔ "TraceId".toList ∉ enabled ∨
      "SecurityHeaders".toList ∈ enabled ∨ ∃ name ∈ enabled, name ∉ outermostNames := by
  by_cases trace : "TraceId".toList ∈ enabled
  · have head := made.head_traceId (first trace)
    simp only [trace, true_implies, not_true_eq_false, false_or]
    cases placed with
    | listed present same => simp only [same, head, present, true_or]
    | inFront absent config all same =>
      have known : ∀ name ∈ enabled, name ∈ outermostNames := by
        intro name member
        obtain ⟨layer, inside, kind⟩ := made.layer member
        exact (kindOf_outermost name _ kind).mp (all layer inside)
      apply iff_of_false
      · rw [same]
        simp
      · rintro (present | ⟨name, member, late⟩)
        · exact absent present
        · exact late (known name member)
    | inside absent config outer inner rest whole before here same =>
      obtain ⟨name, member, kind⟩ := made.name (whole ▸ List.mem_append_right outer List.mem_cons_self : inner ∈ each)
      refine iff_of_true ?_ (.inr ⟨name, member, fun early => here ((kindOf_outermost name _ kind).mpr early)⟩)
      cases outer with
      | nil =>
        rw [whole] at head
        obtain rfl : inner = .traceId := Option.some.inj head
        exact absurd (by decide) here
      | cons layer outer =>
        rw [whole] at head
        rw [same]
        exact head
  · exact iff_of_true (fun found => absurd found trace) (.inl trace)

/-- The layers come out in the promised order exactly when the security headers have a layer to stand in front of, or
need none, and no decompression follows an inspection that follows another one. -/
theorem built_wellOrdered_iff (layers : Layers) (serverName : Text) (built : List MiddlewareLayer)
    (done : layers.buildMiddlewareLayers files serverName = .ok built) :
    WellOrdered layers.enabled built ↔
      ("TraceId".toList ∉ layers.enabled ∨ "SecurityHeaders".toList ∈ layers.enabled ∨
        ∃ name ∈ layers.enabled, name ∉ outermostNames) ∧
      ¬["Decompression".toList, "Inspection".toList, "Decompression".toList].Sublist layers.enabled := by
  obtain ⟨ordered, each, made, placed⟩ := built_placed files done
  obtain ⟨first, positions⟩ := validate_ok ordered
  obtain ⟨inOrder, headers, headersOutside⟩ := placed.keeps made
  rw [← placed.traceFirst_iff made first, ← pair_sublist_iff _ _ _ (by decide) positions, ← made.inspection_iff,
    ← placed.inspection_iff]
  constructor
  · intro kept
    exact ⟨kept.traceFirst, kept.decompressed⟩
  · rintro ⟨traceFirst, decompressed⟩
    exact ⟨inOrder, headers, traceFirst, headersOutside, decompressed⟩

def noFiles : KeyFiles Unit := ⟨fun _ => none, fun _ => none⟩

def onlyEnabled (enabled : List Text) : Layers :=
  ⟨enabled, none, some 1024, none, none, none, none, none, none, none, none⟩

theorem built_wellOrdered_iff_traced : ∃ built,
    (onlyEnabled ["TraceId".toList, "AltSvc".toList]).buildMiddlewareLayers noFiles [] = .ok built ∧
    (WellOrdered ["TraceId".toList, "AltSvc".toList] built ↔
      ("TraceId".toList ∉ ["TraceId".toList, "AltSvc".toList] ∨
        "SecurityHeaders".toList ∈ ["TraceId".toList, "AltSvc".toList] ∨
        ∃ name ∈ ["TraceId".toList, "AltSvc".toList], name ∉ outermostNames) ∧
      ¬["Decompression".toList, "Inspection".toList, "Decompression".toList].Sublist
        ["TraceId".toList, "AltSvc".toList]) :=
  ⟨_, rfl, built_wellOrdered_iff noFiles (onlyEnabled ["TraceId".toList, "AltSvc".toList]) [] _ rfl⟩

/-- With trace layers only the headers are put in front of them, and a second decompression may follow the inspection. -/
theorem built_out_of_order :
    (onlyEnabled ["TraceId".toList]).buildMiddlewareLayers noFiles [] =
      .ok [.securityHeaders SecurityHeadersConfig.default, .traceId] ∧
    (onlyEnabled ["Decompression".toList, "Inspection".toList, "Decompression".toList]).buildMiddlewareLayers noFiles [] =
      .ok [.securityHeaders SecurityHeadersConfig.default, .decompression 1024, .inspection, .decompression 1024] ∧
    ¬WellOrdered ["TraceId".toList] [.securityHeaders SecurityHeadersConfig.default, .traceId] ∧
    ¬WellOrdered ["Decompression".toList, "Inspection".toList, "Decompression".toList]
      [.securityHeaders SecurityHeadersConfig.default, .decompression 1024, .inspection, .decompression 1024] := by
  refine ⟨rfl, rfl, fun ordered => ?_, fun ordered => ?_⟩
  · exact absurd (ordered.traceFirst (by decide)) (by decide)
  · exact ordered.decompressed (by decide)

end Praeco.Server.Middleware
