import Praeco.Idp.Params
import Praeco.Net.Parse
import Praeco.Server.Reload
import Praeco.Server.Stack
import Praeco.Server.Tls

/-! What a loaded configuration guarantees for the start of its servers. `finalize` checks a server and fills in what is
computed from its configuration; the dry run of a reload builds its TLS configuration and its stack; the start then
computes the socket address, and the certificate is looked up under the server's name. -/

namespace Praeco.Server.Finalize
open Praeco.Strings Utf8 Fields Praeco.Collections Fallible Positions Praeco.Http.Target Praeco.Http.Message
open Praeco.Net.Address Praeco.Net.Parse Praeco.Inspection.Rules Praeco.Idp.Params Praeco.Tunnel.Register
open Praeco.Router.Config Praeco.Router.Matching Praeco.Router.Routes Praeco.Router.Rbac
open Praeco.Server.Middleware Praeco.Server.Reload Praeco.Server.Stack Praeco.Server.Tls

inductive ServiceType where
  | echo
  | router
  | idp
  | staticFiles
  | admin
  deriving DecidableEq, Repr

structure ConnectionLimitsConfig where
  maxConnections : Nat
  maxConnectionsPerIp : Nat
  deriving DecidableEq, Repr

structure RouterParams where
  protocol : Protocol
  authentication : AuthenticationMethod
  sslRootCertificate : Option Text
  sslClientCertificate : Option Text
  sslClientKey : Option Text
  deriving DecidableEq, Repr

structure IdpSection extends IdpParams where
  jwtPrivateKey : Text

structure StaticFilesParams where
  root : Text
  fallbackToIndex : Bool
  deriving DecidableEq, Repr

structure Computed (Regex : Type) (pki : Pki) where
  staticName : Option Text
  parsedRoutes : List ParsedRoute
  compiledAllowedPathes : Option (CompiledAllowedPathes Regex)
  compiledRbac : Option CompiledRbac
  certifiedKey : Option (CertifiedKey pki)

def Computed.default (Regex : Type) (pki : Pki) : Computed Regex pki := ⟨none, [], none, none, none⟩

structure Settings (Regex : Type) (pki : Pki) where
  service : ServiceType
  authentication : AuthenticationMethod
  oidMapping : List (Text × UserRole)
  serverCerts : Option ServerCertConfig
  clientCerts : Option (List ClientCertConfig)
  connectionLimits : ConnectionLimitsConfig
  layers : Layers
  allowedPathes : Option AllowedPathes
  revRoutes : Option RevRoutes
  rbac : Option RawRbac
  routerParams : Option RouterParams
  idpParams : Option IdpSection
  staticFilesParams : Option StaticFilesParams
  computed : Computed Regex pki

/-- The libraries and the files around a configuration; building an identity provider is not looked into. -/
structure Environment (Key Regex : Type) (pki : Pki) where
  files : Files pki
  libraries : Libraries Key Regex
  routers : Matchit ParsedRoute
  parseUri : Text → Option Uri
  encodingKeyFromEdPem : Text → Bool
  localIp : Except Text Text
  newIdpService : IdpSection → Text → Except Text Unit

inductive BaseService (lib : Matchit ParsedRoute) where
  | echo
  | router (service : RouterService lib)
  | admin
  | idp (params : IdpSection)
  | staticFiles (params : StaticFilesParams)

structure ServiceStack (Key Regex : Type) (lib : Matchit ParsedRoute) where
  layers : List (LayerService Key Regex)
  base : BaseService lib

def configurationError (name detail : Text) : Text :=
  "Configuration error in Server '".toList ++ name ++ "': ".toList ++ detail

variable {Key Regex : Type} {pki : Pki} (env : Environment Key Regex pki) (files : Files pki) (localIp : Except Text Text)

section

variable (server : ServerConfig (Settings Regex pki))

/-! ### The checks of `finalize` -/

def missingServerCerts : Text :=
  "Protocol is 'https' but [Server.server_certs] (ssl_certificate/key) is missing.".toList

def loadServerKey : Except Text (Option (CertifiedKey pki)) :=
  if server.protocol = .https then
    match server.settings.serverCerts with
    | some certConfig => (loadCertifiedKey files server.name certConfig).map some
    | none => .error (configurationError server.name missingServerCerts)
  else .ok server.settings.computed.certifiedKey

def checkBinding : Except Text Unit :=
  if server.tunnel.isSome then .ok ()
  else if server.ip = none then
    .error (configurationError server.name "'ip' is required when no [Server.tunnel] is configured.".toList)
  else if server.port = none then
    .error (configurationError server.name "'port' is required when no [Server.tunnel] is configured.".toList)
  else .ok ()

def checkLimits : Except Text Unit :=
  if server.settings.connectionLimits.maxConnections = 0 then
    .error (configurationError server.name
      "connection_limits.max_connections must be strictly greater than 0.".toList)
  else if server.settings.connectionLimits.maxConnectionsPerIp = 0 then
    .error (configurationError server.name
      "connection_limits.max_connections_per_ip must be strictly greater than 0.".toList)
  else .ok ()

def checkHttps : Except Text Unit :=
  if server.protocol = .https ∧ server.settings.serverCerts = none then
    .error (configurationError server.name missingServerCerts)
  else .ok ()

def checkClientCerts (method : Text) : Except Text Unit :=
  if server.settings.clientCerts = none then
    .error (configurationError server.name ("Authentication is '".toList ++ method ++
      "' (mTLS), but [[Server.client_certs]] is missing.".toList))
  else .ok ()

def checkJwt : Except Text Unit := do
  let jwtCfg ← required server.settings.layers.jwtConfig (configurationError server.name
    "Authentication is 'JWT', but [Server.Layers.JWT] config section is missing.".toList)
  if jwtCfg.jwtPublicKeys = [] then
    .error (configurationError server.name
      "Authentication is 'JWT', but 'jwt_public_keys' list is empty.".toList)
  else if ¬server.settings.layers.enabled.any
      (fun name => eqIgnoreAsciiCase name "JwtAuth".toList || eqIgnoreAsciiCase name "JWT".toList) then
    .error (configurationError server.name ("Authentication is 'JWT', but the 'JwtAuth' layer is NOT in " ++
      "[Server.Layers.enabled]. You must enable the layer to perform the check.").toList)
  else .ok ()

def checkAuthentication : Except Text Unit :=
  match server.settings.authentication with
  | .clientCert => checkClientCerts server "ClientCert".toList
  | .jwt => checkJwt server
  | .optionalClientCert => checkClientCerts server "OptionalClientCert".toList
  | .none => .ok ()

def checkEncodingKey (path : Text) : Except Text Unit :=
  match env.libraries.files.readToString path with
  | some pem => if env.encodingKeyFromEdPem pem then .ok () else .error (server.name ++ failed)
  | none => .error (server.name ++ failed)
where
  failed : Text := ": Failed to load IdP private key".toList

def checkService : Except Text Unit :=
  match server.settings.service with
  | .idp => do
    let idpParams ← required server.settings.idpParams
      (configurationError server.name "Service is 'Idp', but [Server.IdpParams] section is missing.".toList)
    checkEncodingKey env server idpParams.jwtPrivateKey
    if "__Host-".toList <+: idpParams.cookieName ∧ server.protocol ≠ .https then
      .error (configurationError server.name ("Service is 'Idp' using '__Host-' cookie, but Protocol is not 'Https'. " ++
        "This will be rejected by browsers.").toList)
    else .ok ()
  | .staticFiles => do
    let _ ← required server.settings.staticFilesParams (configurationError server.name
      "Service is 'StaticFiles', but [Server.StaticFilesParams] section is missing.".toList)
    .ok ()
  | _ => .ok ()

/-- The order of the checks is the source's, so that the first one that fails names the error. -/
def finalize : Except Text (ServerConfig (Settings Regex pki)) := do
  let certifiedKey ← loadServerKey env.files server
  checkBinding server
  checkLimits server
  let parsedRoutes ← initParsedRoutes env.parseUri ((server.settings.routerParams.map (·.protocol)).getD .http)
    server.settings.revRoutes
  let compiledAllowedPathes ← initCompiledAllowedPathes env.libraries.regex server.settings.allowedPathes
  let _ ← (server.settings.layers.buildMiddlewareLayers env.libraries.files server.name).mapError fun _ =>
    "Configuration error in Server '".toList ++ server.name ++ ['\'']
  checkHttps server
  checkAuthentication server
  checkService env server
  let computed := {
    staticName := some server.name
    parsedRoutes
    compiledAllowedPathes := some compiledAllowedPathes
    compiledRbac := initCompiledRbac server.settings.rbac
    certifiedKey }
  .ok { server with settings := { server.settings with computed } }

/-! ### The dry run and the start -/

/-- Without `finalize` the name is missing, and the source panics there. -/
def buildRustlsConfig : Except Text (RustlsServerConfig pki) := do
  let _ ← required server.settings.serverCerts (server.name ++ ": HTTPS enabled but no server_certs".toList)
  let clientCerts ←
    if server.settings.authentication.requiresClientAuth then
      (required server.settings.clientCerts "mTLS enabled but no client_certs".toList).map some
    else .ok none
  let staticName ← required server.settings.computed.staticName "static_name missing".toList
  tlsConfig files staticName clientCerts server.settings.authentication

def upstreamTls (routerParams : RouterParams) : Except Text Unit := do
  buildRootStore files routerParams.sslRootCertificate
  if routerParams.authentication = .clientCert then
    buildTlsClientConfig files routerParams.sslClientCertificate routerParams.sslClientKey
  else buildTlsClientConfig files none none

def newRouterService (lib : Matchit ParsedRoute) : Except Text (RouterService lib) := do
  let routerParams ← required server.settings.routerParams (server.name ++ ": Router params missing".toList)
  upstreamTls files routerParams
  .ok ⟨buildRouter lib server.settings.computed.parsedRoutes, server.settings.computed.parsedRoutes,
    server.settings.computed.compiledRbac⟩

def baseService (staticName : Text) : Except Text (BaseService env.routers) :=
  match server.settings.service with
  | .echo => .ok .echo
  | .router => (newRouterService env.files server env.routers).map .router
  | .admin => .ok .admin
  | .idp => do
    let params ← required server.settings.idpParams (server.name ++ ": IdpParams missing".toList)
    env.newIdpService params staticName
    .ok (.idp params)
  | .staticFiles => do
    let params ← required server.settings.staticFilesParams (server.name ++ ": StaticFilesParams missing".toList)
    .ok (.staticFiles params)

def buildServiceStack : Except Text (ServiceStack Key Regex env.routers) := do
  let layers ← server.settings.layers.buildMiddlewareLayers env.libraries.files server.name
  let compiledAllowedPathes ← required server.settings.computed.compiledAllowedPathes
    ("Server '".toList ++ server.name ++ "': Compiled paths missing".toList)
  let staticName ← required server.settings.computed.staticName (server.name ++ ": static_name missing".toList)
  let base ← baseService env server staticName
  let applied ← sanitizedLayers env.libraries staticName compiledAllowedPathes server.settings.oidMapping layers
  .ok ⟨applied, base⟩

def ipText (ip : Text) : Except Text Text := if ip = "local".toList then localIp else .ok ip

def socketAddress (ipStr : Text) (port : Nat) : Except Text SocketAddr :=
  let address := ipStr ++ ':' :: (Nat.repr port).toList
  match parseSocketAddr address with
  | some addr => .ok addr
  | none => .error ("Invalid address: ".toList ++ address)

def getServerIp : Except Text SocketAddr := do
  let ip ← required server.ip (configurationError server.name "'ip' is not configured".toList)
  let port ← required server.port (configurationError server.name "'port' is not configured".toList)
  let ipStr ← ipText localIp ip
  socketAddress ipStr port

inductive Listening (pki : Pki) where
  | tunnel (tunnel : TunnelConfig) (tlsConfig : RustlsServerConfig pki)
  | dualStack (addr : SocketAddr) (tlsConfig : RustlsServerConfig pki)
  | plain (addr : SocketAddr)

/-- The part of `start_single_server` in front of its listeners, where it gives up with an error. -/
def startSingleServer : Except Text (Listening pki) :=
  match server.tunnel with
  | some tunnel => (buildRustlsConfig files server).map (.tunnel tunnel)
  | none => do
    let serverAddr ← getServerIp localIp server
    if server.protocol = .https then (buildRustlsConfig files server).map (.dualStack serverAddr)
    else .ok (.plain serverAddr)

end

def resolve (config : Config (Settings Regex pki)) (serverName : Text) : Option (CertifiedKey pki) :=
  (config.servers.find? fun server => server.settings.computed.staticName = some serverName).bind
    fun server => server.settings.computed.certifiedKey

/-! ### What `finalize` leaves -/

/-- A finalized server keeps what was read and has a key exactly if it speaks HTTPS. -/
structure Finalized (raw server : ServerConfig (Settings Regex pki)) : Prop where
  name : server.name = raw.name
  staticName : server.settings.computed.staticName = some raw.name
  key : server.settings.computed.certifiedKey.isSome ↔
    server.protocol = .https ∨ raw.settings.computed.certifiedKey.isSome
  bound : server.tunnel = none → ∃ port, server.port = some port

variable {server : ServerConfig (Settings Regex pki)}

theorem loadServerKey_isSome {certifiedKey : Option (CertifiedKey pki)}
    (done : loadServerKey files server = .ok certifiedKey) :
    certifiedKey.isSome ↔ server.protocol = .https ∨ server.settings.computed.certifiedKey.isSome := by
  unfold loadServerKey at done
  split_ifs at done with https
  · refine iff_of_true ?_ (Or.inl https)
    split at done
    · obtain ⟨key, -, rfl⟩ := map_ok done
      rfl
    · cases done
  · cases done
    simp [https]

theorem checkBinding_port (done : checkBinding server = .ok ()) (direct : server.tunnel = none) :
    ∃ port, server.port = some port := by
  unfold checkBinding at done
  rw [direct] at done
  obtain ⟨-, done⟩ := guard_ok (show (if server.ip = none then _ else _) = _ from done)
  obtain ⟨present, -⟩ := guard_ok done
  exact Option.ne_none_iff_exists'.mp present

theorem finalize_ok {raw : ServerConfig (Settings Regex pki)} (done : finalize env raw = .ok server) :
    Finalized raw server := by
  obtain ⟨certifiedKey, key, done⟩ := bind_ok done
  obtain ⟨⟨⟩, binding, done⟩ := bind_ok done
  obtain ⟨-, -, done⟩ := bind_ok done
  obtain ⟨parsedRoutes, -, done⟩ := bind_ok done
  obtain ⟨compiledAllowedPathes, -, done⟩ := bind_ok done
  obtain ⟨-, -, done⟩ := bind_ok done
  obtain ⟨-, -, done⟩ := bind_ok done
  obtain ⟨-, -, done⟩ := bind_ok done
  obtain ⟨-, -, done⟩ := bind_ok done
  cases done
  exact ⟨rfl, rfl, loadServerKey_isSome env.files key, checkBinding_port binding⟩

/-! ### What a load leaves -/

section Load

variable {Settings : Type} (disk : Disk Settings)

def Written (server : ServerConfig Settings) : Prop :=
  ∃ text config, disk.parseConfig text = some config ∧ server ∈ config.servers

theorem orError_ok {α : Type} {value : Option α} {context : Text} {result : α}
    (done : orError value context = .ok result) : value = some result := by
  cases value with
  | none => cases done
  | some value => exact congrArg some (Except.ok.inj done)

variable {servers : List (ServerConfig Settings)}

theorem loadFragment_written {path : Text} (done : disk.loadFragment path = .ok servers) :
    ∀ server ∈ servers, Written disk server := by
  obtain ⟨text, -, done⟩ := bind_ok done
  obtain ⟨-, done⟩ := guard_ok done
  obtain ⟨fragment, parsed, done⟩ := bind_ok done
  cases done
  exact fun server member => ⟨text, fragment, orError_ok parsed, member⟩

theorem loadFragments_written {paths : List (Option Text)} (done : disk.loadFragments paths = .ok servers) :
    ∀ server ∈ servers, Written disk server := by
  induction paths generalizing servers with
  | nil =>
    cases done
    exact List.forall_mem_nil _
  | cons path paths ih =>
    cases path with
    | none => exact ih done
    | some path =>
      obtain ⟨first, here, done⟩ := bind_ok done
      obtain ⟨others, later, done⟩ := bind_ok done
      cases done
      exact List.forall_mem_append.mpr ⟨loadFragment_written disk here, ih later⟩

theorem loadIncludes_written {patterns : List Text} (done : disk.loadIncludes patterns = .ok servers) :
    ∀ server ∈ servers, Written disk server := by
  induction patterns generalizing servers with
  | nil =>
    cases done
    exact List.forall_mem_nil _
  | cons pattern patterns ih =>
    obtain ⟨paths, -, done⟩ := bind_ok done
    obtain ⟨first, here, done⟩ := bind_ok done
    obtain ⟨others, later, done⟩ := bind_ok done
    cases done
    exact List.forall_mem_append.mpr ⟨loadFragments_written disk here, ih later⟩

theorem finalizeAll_ok {raw : List (ServerConfig Settings)} (done : finalizeAll disk raw = .ok servers) :
    ∀ server ∈ servers, ∃ before ∈ raw, disk.finalize before = .ok server := by
  induction raw generalizing servers with
  | nil =>
    cases done
    exact List.forall_mem_nil _
  | cons before raw ih =>
    obtain ⟨first, here, done⟩ := bind_ok done
    obtain ⟨others, later, done⟩ := bind_ok done
    cases done
    intro server member
    rcases List.mem_cons.mp member with rfl | member
    · exact ⟨before, List.mem_cons_self, here⟩
    · obtain ⟨other, listed, done⟩ := ih later server member
      exact ⟨other, List.mem_cons_of_mem _ listed, done⟩

theorem load_ok {configFile : Text} {config : Config Settings} (loaded : load disk configFile = .ok config) :
    ∀ server ∈ config.servers, ∃ raw, Written disk raw ∧ disk.finalize raw = .ok server := by
  obtain ⟨text, -, done⟩ := bind_ok loaded
  obtain ⟨parsed, read, done⟩ := bind_ok done
  obtain ⟨included, fragments, done⟩ := bind_ok done
  have finish {oid : Option (List Nat)} (done : (finalizeAll disk (parsed.servers ++ included) >>= fun servers =>
      Except.ok { parsed with parsedPkiBaseOid := oid, servers }) = .ok config) :
      ∀ server ∈ config.servers, ∃ raw, Written disk raw ∧ disk.finalize raw = .ok server := by
    obtain ⟨servers, all, done⟩ := bind_ok done
    cases done
    intro server member
    obtain ⟨raw, listed, finalized⟩ := finalizeAll_ok disk all server member
    refine ⟨raw, ?_, finalized⟩
    rcases List.mem_append.mp listed with own | other
    · exact ⟨text, parsed, orError_ok read, own⟩
    · exact loadIncludes_written disk fragments raw other
  dsimp only at done
  split at done
  · obtain ⟨oid, -, done⟩ := bind_ok done
    exact finish done
  · exact finish done

end Load

/-! ### The start of an accepted server -/

def Environment.sighup (disk : Disk (Settings Regex pki))
    (order : Map.Iteration (Built (Settings Regex pki) (ServiceStack Key Regex env.routers))) :
    Sighup (Settings Regex pki) (ServiceStack Key Regex env.routers) where
  disk := { disk with finalize := finalize env }
  buildRustlsConfig server := (buildRustlsConfig env.files server).map fun _ => ()
  buildServiceStack := buildServiceStack env
  order := order

structure Moment (pki : Pki) where
  files : Files pki
  readToString : Text → Option Text
  localIp : Except Text Text
  newIdpService : IdpSection → Text → Except Text Unit

def Environment.during (moment : Moment pki) : Environment Key Regex pki :=
  { env with
    files := moment.files
    libraries := { env.libraries with files := { env.libraries.files with readToString := moment.readToString } }
    localIp := moment.localIp
    newIdpService := moment.newIdpService }

structure Occasion (Regex : Type) (pki : Pki) (Stack : Type) where
  moment : Moment pki
  disk : Disk (Settings Regex pki)
  order : Map.Iteration (Built (Settings Regex pki) Stack)

def TerminatesTls (server : ServerConfig (Settings Regex pki)) : Prop :=
  server.protocol = .https ∨ server.tunnel.isSome

/-- The start does not fail for a reason that lies in the configuration. -/
structure StartsUp (config : Config (Settings Regex pki)) (server : ServerConfig (Settings Regex pki)) : Prop where
  address : server.tunnel = none → ∀ text ip, server.ip = some text → parseIpAddr text = some ip →
    ∃ addr, getServerIp env.localIp server = .ok addr
  certificate : TerminatesTls server → ∃ key, resolve config server.name = some key
  started : (server.tunnel = none → ∃ addr, getServerIp env.localIp server = .ok addr) →
    ∃ listening, startSingleServer env.files env.localIp server = .ok listening

theorem getServerIp_literal {text : Text} {ip : IpAddr} {port : Nat} (configured : server.ip = some text)
    (literal : parseIpAddr text = some ip) (bound : server.port = some port) (ranged : port < 2 ^ 16) :
    (∃ addr, getServerIp localIp server = .ok addr) ↔ ∃ addr, ip = .v4 addr := by
  have other : text ≠ "local".toList := by
    rintro rfl
    have unread : parseIpAddr "local".toList = none := by decide
    rw [unread] at literal
    cases literal
  have value : (UInt16.ofNat port).toNat = port := UInt16.toNat_ofNat_of_lt' ranged
  rw [← parseSocketAddr_literal text ip (UInt16.ofNat port) literal, value]
  have run : getServerIp localIp server = socketAddress text port := by
    rw [getServerIp, configured, bound]
    change (ipText localIp text >>= fun ipStr => socketAddress ipStr port) = _
    rw [ipText, if_neg other]
    rfl
  rw [run, socketAddress]
  cases parseSocketAddr (text ++ ':' :: (Nat.repr port).toList) with
  | none => simp
  | some addr => simp

theorem resolve_isSome {config : Config (Settings Regex pki)}
    (finalized : ∀ other ∈ config.servers, other.settings.computed.staticName = some other.name ∧
      (other.settings.computed.certifiedKey.isSome ↔ other.protocol = .https)) (member : server ∈ config.servers) :
    (∃ key, resolve config server.name = some key) ↔
      ∀ first, config.servers.find? (fun other => other.name = server.name) = some first → first.protocol = .https := by
  have lookup : config.servers.find? (fun other => other.settings.computed.staticName = some server.name) =
      config.servers.find? fun other => other.name = server.name := by
    apply List.find?_congr
    intro other listed
    rw [decide_eq_decide, (finalized other listed).1, Option.some.injEq]
  unfold resolve
  rw [lookup]
  cases found : config.servers.find? fun other => other.name = server.name with
  | none => exact absurd (decide_eq_true rfl) (List.find?_eq_none.mp found server member)
  | some first =>
    have https := (finalized first (List.mem_of_find?_eq_some found)).2
    simp only [Option.bind_some, Option.some.injEq, forall_eq', ← https]
    exact Option.isSome_iff_exists.symm

theorem started_of_accepted {disk : Disk (Settings Regex pki)}
    {order : Map.Iteration (Built (Settings Regex pki) (ServiceStack Key Regex env.routers))}
    {stack : ServiceStack Key Regex env.routers} (built : (env.sighup disk order).build server = .ok stack)
    (address : server.tunnel = none → ∃ addr, getServerIp env.localIp server = .ok addr) :
    ∃ listening, startSingleServer env.files env.localIp server = .ok listening := by
  have tls (terminates : TerminatesTls server) : ∃ config, buildRustlsConfig env.files server = .ok config := by
    unfold Sighup.build at built
    rw [if_pos (show server.protocol = .https ∨ _ from terminates)] at built
    cases result : buildRustlsConfig env.files server with
    | ok config => exact ⟨config, rfl⟩
    | error e =>
      have failed : (env.sighup disk order).buildRustlsConfig server = .error e := by
        change (buildRustlsConfig env.files server).map _ = _
        rw [result]
        rfl
      rw [failed] at built
      cases built
  unfold startSingleServer
  cases tunnel : server.tunnel with
  | some config =>
    obtain ⟨tlsConfig, done⟩ := tls (Or.inr (by rw [tunnel]; rfl))
    rw [done]
    exact ⟨_, rfl⟩
  | none =>
    obtain ⟨addr, resolved⟩ := address tunnel
    dsimp only
    rw [resolved]
    by_cases https : server.protocol = .https
    · obtain ⟨tlsConfig, done⟩ := tls (Or.inl https)
      refine ⟨.dualStack addr tlsConfig, ?_⟩
      rw [done]
      exact if_pos https
    · exact ⟨.plain addr, if_neg https⟩

/-- A server of an accepted configuration starts up exactly if its address, given as a literal, is not an IPv6 one, and
if the first server of its name speaks HTTPS, where it terminates TLS. -/
theorem startsUp_iff (disk : Disk (Settings Regex pki))
    (order : Map.Iteration (Built (Settings Regex pki) (ServiceStack Key Regex env.routers))) (configPath : Text)
    (config : Config (Settings Regex pki))
    (unset : ∀ server, Written disk server → server.settings.computed = Computed.default Regex pki)
    (loaded : load (env.sighup disk order).disk configPath = .ok config)
    (accepted : ¬(env.sighup disk order).Refused configPath) (server : ServerConfig (Settings Regex pki))
    (member : server ∈ config.servers) (enabled : server.enabled = true)
    (ranged : ∀ port, server.port = some port → port < 2 ^ 16) :
    StartsUp env config server ↔
      (server.tunnel = none → ∀ text ip, server.ip = some text → parseIpAddr text = some ip →
        ∃ addr, ip = .v4 addr) ∧
      (TerminatesTls server → ∀ first, config.servers.find? (fun other => other.name = server.name) = some first →
        first.protocol = .https) := by
  have origin : ∀ other ∈ config.servers, ∃ raw, Finalized raw other ∧
      raw.settings.computed = Computed.default Regex pki := by
    intro other listed
    obtain ⟨raw, written, done⟩ := load_ok _ loaded other listed
    exact ⟨raw, finalize_ok env done, unset raw written⟩
  have finalized : ∀ other ∈ config.servers, other.settings.computed.staticName = some other.name ∧
      (other.settings.computed.certifiedKey.isSome ↔ other.protocol = .https) := by
    intro other listed
    obtain ⟨raw, final, plain⟩ := origin other listed
    have key := final.key
    rw [plain] at key
    exact ⟨final.name ▸ final.staticName, key.trans (or_iff_left Bool.false_ne_true)⟩
  have started : (server.tunnel = none → ∃ addr, getServerIp env.localIp server = .ok addr) →
      ∃ listening, startSingleServer env.files env.localIp server = .ok listening := by
    obtain ⟨stack, built⟩ := (Sighup.accepted_iff loaded).mp accepted server member enabled
    exact started_of_accepted env built
  have address (direct : server.tunnel = none) (text : Text) (ip : IpAddr) (configured : server.ip = some text)
      (literal : parseIpAddr text = some ip) :
      (∃ addr, getServerIp env.localIp server = .ok addr) ↔ ∃ addr, ip = .v4 addr := by
    obtain ⟨raw, final, -⟩ := origin server member
    obtain ⟨port, bound⟩ := final.bound direct
    exact getServerIp_literal env.localIp configured literal bound (ranged port bound)
  have certificate := resolve_isSome finalized member
  constructor
  · intro starts
    refine ⟨?_, fun terminates => certificate.mp (starts.certificate terminates)⟩
    intro direct text ip configured literal
    exact (address direct text ip configured literal).mp (starts.address direct text ip configured literal)
  · intro condition
    refine ⟨?_, fun terminates => certificate.mpr (condition.2 terminates), started⟩
    intro direct text ip configured literal
    exact (address direct text ip configured literal).mpr (condition.1 direct text ip configured literal)

/-! Echo servers, whose certificates can always be loaded. -/

def plainPki : Pki where
  Cert := Unit
  PrivateKey := Unit
  SigningKey := Unit
  Crl := Unit
  pemCerts _ := some [()]
  pemItems _ := [some (.key ())]
  loadPrivateKey := some fun _ => .ok ()
  addRoot _ := .ok ()
  buildVerifier _ _ := .ok ()
  clientAuthCert _ _ := .ok ()

def plainEnvironment : Environment Unit Text plainPki where
  files := ⟨fun _ => some [], fun _ => .ok ()⟩
  libraries := logoutLibraries
  routers := reference ParsedRoute
  parseUri _ := none
  encodingKeyFromEdPem _ := true
  localIp := .error []
  newIdpService _ _ := .ok ()

def plainMoment : Moment plainPki :=
  ⟨plainEnvironment.files, plainEnvironment.libraries.files.readToString, plainEnvironment.localIp,
    plainEnvironment.newIdpService⟩

def echoSettings (computed : Computed Text plainPki) : Settings Text plainPki where
  service := .echo
  authentication := .none
  oidMapping := []
  serverCerts := some ⟨['c'], ['k']⟩
  clientCerts := none
  connectionLimits := ⟨1, 1⟩
  layers := onlyEnabled []
  allowedPathes := none
  revRoutes := none
  rbac := none
  routerParams := none
  idpParams := none
  staticFilesParams := none
  computed := computed

structure Echo where
  name : Char
  ip : Option Text
  tunnel : Option TunnelConfig
  enabled : Bool
  protocol : Protocol

namespace Echo

variable (echo : Echo)

def written (computed : Computed Text plainPki) : ServerConfig (Settings Text plainPki) :=
  ⟨[echo.name], echo.ip, some 443, echo.tunnel, echo.enabled, echo.protocol, echoSettings computed⟩

def raw : ServerConfig (Settings Text plainPki) := echo.written (Computed.default Text plainPki)

def final : ServerConfig (Settings Text plainPki) := echo.written
  ⟨some [echo.name], [], some nothingAllowed, none, if echo.protocol = .https then some ⟨[()], ()⟩ else none⟩

end Echo

def echoDisk (echoes : List Echo) : Disk (Settings Text plainPki) where
  readToString _ := some []
  isToml _ := true
  parseConfig _ := some ⟨[], none, none, echoes.map Echo.raw⟩
  resolve := id
  glob _ := none
  debugPath := id
  finalize := .ok

def echoReload (echoes : List Echo) :
    Sighup (Settings Text plainPki) (ServiceStack Unit Text plainEnvironment.routers) :=
  plainEnvironment.sighup (echoDisk echoes) ⟨id, fun _ => .refl _⟩

def echoConfig (echoes : List Echo) : Config (Settings Text plainPki) := ⟨[], none, none, echoes.map Echo.final⟩

theorem echo_unset (echoes : List Echo) (server : ServerConfig (Settings Text plainPki))
    (written : Written (echoDisk echoes) server) : server.settings.computed = Computed.default Text plainPki := by
  obtain ⟨text, config, parsed, member⟩ := written
  cases parsed
  obtain ⟨echo, -, rfl⟩ := List.mem_map.mp member
  rfl

theorem echo_accepted (echoes : List Echo) (loaded : load (echoReload echoes).disk [] = .ok (echoConfig echoes)) :
    ¬(echoReload echoes).Refused [] := by
  rw [Sighup.accepted_iff loaded]
  intro server member _
  obtain ⟨echo, -, rfl⟩ := List.mem_map.mp member
  unfold Sighup.build
  split_ifs
  · exact ⟨_, rfl⟩
  · exact ⟨_, rfl⟩

def secureEcho : Echo := ⟨'s', some "10.0.0.1".toList, none, true, .https⟩

theorem startsUp_iff_secure : StartsUp plainEnvironment (echoConfig [secureEcho]) secureEcho.final ↔
    (secureEcho.final.tunnel = none → ∀ text ip, secureEcho.final.ip = some text → parseIpAddr text = some ip →
      ∃ addr, ip = .v4 addr) ∧
    (TerminatesTls secureEcho.final → ∀ first,
      (echoConfig [secureEcho]).servers.find? (fun other => other.name = secureEcho.final.name) = some first →
        first.protocol = .https) :=
  startsUp_iff plainEnvironment (echoDisk [secureEcho]) ⟨id, fun _ => .refl _⟩ [] (echoConfig [secureEcho])
    (echo_unset [secureEcho]) rfl (echo_accepted [secureEcho] rfl) secureEcho.final List.mem_cons_self rfl
    fun port bound => by cases bound; decide

def loopbackEcho : Echo := ⟨'l', some "::1".toList, none, true, .http⟩

def tunnelEcho : Echo := ⟨'t', none, some ⟨[], [], [], [], [], none, false⟩, true, .http⟩

def shadowEcho : Echo := ⟨'d', some "10.0.0.1".toList, none, false, .http⟩

def shadowedEcho : Echo := ⟨'d', some "10.0.0.1".toList, none, true, .https⟩

def troubledEchoes : List Echo := [loopbackEcho, tunnelEcho, shadowEcho, shadowedEcho]

theorem accepted_servers_give_up :
    load (echoReload troubledEchoes).disk [] = .ok (echoConfig troubledEchoes) ∧
    ¬(echoReload troubledEchoes).Refused [] ∧
    ¬StartsUp plainEnvironment (echoConfig troubledEchoes) loopbackEcho.final ∧
    ¬StartsUp plainEnvironment (echoConfig troubledEchoes) tunnelEcho.final ∧
    ¬StartsUp plainEnvironment (echoConfig troubledEchoes) shadowedEcho.final := by
  refine ⟨rfl, echo_accepted troubledEchoes rfl, ?_, ?_, ?_⟩
  · intro starts
    have refused : getServerIp plainEnvironment.localIp loopbackEcho.final = .error "Invalid address: ::1:443".toList := rfl
    obtain ⟨addr, found⟩ := starts.address rfl "::1".toList (.v6 0 0 0 0 0 0 0 1) rfl (by decide)
    cases refused.symm.trans found
  · intro starts
    obtain ⟨key, found⟩ := starts.certificate (Or.inr rfl)
    cases found
  · intro starts
    obtain ⟨key, found⟩ := starts.certificate (Or.inl rfl)
    cases found

end Praeco.Server.Finalize
