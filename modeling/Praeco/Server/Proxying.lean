import Praeco.Router.ClientFaults
import Praeco.Router.GrpcWeb
import Praeco.Router.Spoofing
import Praeco.Server.Stack

/-! `RouterService::call` as a whole: the path is made canonical, a route is matched, access is decided, the headers are
prepared, the body is held or streamed, and the handler of the route sends the request on. -/

namespace Praeco.Server.Proxying
open Praeco.Strings Utf8 Fields Praeco.Http.Target Praeco.Http.Message Praeco.Collections.Edits
open Praeco.Collections.Fallible Praeco.Streams.Polling Praeco.Net.Address
open Praeco.Path Sanitizer CanonicalForm Rounds
open Praeco.Router.Config Praeco.Router.Matching Praeco.Router.Routes Praeco.Router.Rbac
open Praeco.Router.Headers Praeco.Router.Upstreams Praeco.Router.Balancing Praeco.Router.Spoofing
open Praeco.Router.Buffering (SrvBody bufferBodyUpTo collect collect_ok_iff frameData bufferFrom_fits
  bufferFrom_exceeds)
open Praeco.Router.ClientFaults (BodyError)
open Praeco.Router.Failover (Version RequestBody UpstreamRequest isIdempotent handleHttpProxy handleGrpcPassthrough)
open Praeco.Compression.Decompression (contentLength display)
open Praeco.Server.Stack (Libraries RouterService)

/-- What `RouterService` holds besides its routes; an admin route reads the `Accept` header. -/
structure Gateway (lib : Matchit ParsedRoute) extends RouterService lib where
  config : ServerConfig
  jwtToken : Option Bytes
  urlEncode : Text → Text
  displayStatus : Nat → Text
  handleAdminRequest : Uri → Method → Option Bytes → Response

structure Request where
  method : Method
  uri : Uri
  version : Version
  headers : HeaderMap
  extensions : PeerExtensions
  clientHash : Option Nat
  body : SrvBody BodyError

def Request.parts (request : Request) : Parts :=
  ⟨request.method, request.uri, request.headers, request.extensions.roles⟩

def Request.admitted (request : Request) (uri : Uri) : Parts :=
  ⟨request.method, uri, injectRealIp request.extensions request.headers, request.extensions.roles⟩

/-- What the call meets: whether a node is available to a health check, and the attempts of the handlers. -/
structure Meeting where
  anyAlive : Bool
  proxied : List Router.Failover.Surroundings
  transcoded : List Router.GrpcWeb.Surroundings

structure Handled where
  sent : List UpstreamRequest
  answer : Option (Except SrvError Response)

def Handled.locally (response : Response) : Handled := ⟨[], some (.ok response)⟩

def fillHost (headers : HeaderMap) (uri : Uri) : HeaderMap :=
  if (headers.get host).isSome then headers else applyAll headers (uri.authority.toList.flatMap (insertText host))

def contentLengthExceeds (headers : HeaderMap) (maxRetryBufferBytes : Nat) : Bool :=
  (((headers.get contentLength).bind headerToStr).bind parseUsize).any (maxRetryBufferBytes < ·)

def canStream (route : ParsedRoute) (method : Method) (headers : HeaderMap) : Bool :=
  (!isMultiNode route.target || route.target.maxRetries = 0 ||
      (route.backendType ≠ .grpcPassthrough && !isIdempotent method) ||
      contentLengthExceeds headers route.target.maxRetryBufferBytes) &&
    route.backendType ≠ .grpcTranscoding

def readBody (route : ParsedRoute) (method : Method) (headers : HeaderMap) (body : SrvBody BodyError) :
    Except BodyError RequestBody :=
  if canStream route method headers then .ok (.stream (delivered frameData body.items).1)
  else if route.backendType = .grpcTranscoding then (collect body).map .buffered
  else
    match bufferBodyUpTo body route.target.maxRetryBufferBytes with
    | .error error => .error error
    | .ok (.buffered bytes) => .ok (.buffered bytes)
    | .ok (.stream stream) => .ok (.stream (delivered frameData stream.asSource.items).1)

def bodyErrorResponse (error : BodyError) : Response :=
  if "Payload Limit Exceeded".toList <:+: display error ∨
      "Decompressed payload".toList <:+: display error then
    buildErrorResponse "Payload Too Large".toList 413
  else buildErrorResponse "Bad Request".toList 400

def transcodingBody : RequestBody → Router.Transcoding.RequestBody
  | .stream _ => .stream
  | .buffered bytes => .buffered bytes

/-- HTTP/3 is spoken to clients only. -/
def upstreamVersion : Version → Version
  | .http3 => .http2
  | version => version

namespace Gateway

variable {lib : Matchit ParsedRoute} {Key Regex : Type} (libraries : Libraries Key Regex) (gateway : Gateway lib)
  (meeting : Meeting) (request : Request)

def incoming (uri : Uri) (route : ParsedRoute) (params : Params) (preparedHeaders : HeaderMap) (body : RequestBody) :
    Router.Failover.Incoming where
  target := route.target
  library := libraries.uris
  body
  method := request.method
  version := upstreamVersion request.version
  preparedHeaders
  uri
  matchedParams := params
  clientHash := request.clientHash

def transcoding (uri : Uri) (route : ParsedRoute) (preparedHeaders : HeaderMap) (body : RequestBody) :
    Router.GrpcWeb.Request where
  target := route.target
  library := libraries.uris
  displayStatus := gateway.displayStatus
  requestBody := transcodingBody body
  originalMethod := request.method
  preparedHeaders
  originalUri := uri
  clientHash := request.clientHash

def dispatch (admitted : Parts) (route : ParsedRoute) (params : Params) (preparedHeaders : HeaderMap)
    (body : RequestBody) : Handled :=
  match route.backendType with
  | .grpcTranscoding =>
    let trace := Router.GrpcWeb.handleGrpcWeb
      (gateway.transcoding libraries request admitted.uri route preparedHeaders body) meeting.transcoded
    ⟨trace.sent, trace.answer.map .ok⟩
  | .grpcPassthrough =>
    let trace := handleGrpcPassthrough (incoming libraries request admitted.uri route params preparedHeaders body)
      meeting.proxied
    ⟨trace.sent, trace.answer⟩
  | .rest =>
    let trace := handleHttpProxy (incoming libraries request admitted.uri route params preparedHeaders body)
      meeting.proxied
    ⟨trace.sent, trace.answer⟩
  | .admin =>
    .locally (gateway.handleAdminRequest admitted.uri request.method (preparedHeaders.get "accept".toList))

def proxy (admitted : Parts) (route : ParsedRoute) (params : Params) : Handled :=
  if route.backendType = .admin then
    .locally (gateway.handleAdminRequest admitted.uri admitted.method (admitted.headers.get "accept".toList))
  else
    match prepareProxyHeaders gateway.urlEncode gateway.jwtToken request.extensions gateway.config
      (fillHost admitted.headers admitted.uri) with
    | .error response => .locally response
    | .ok preparedHeaders =>
      match readBody route request.method preparedHeaders request.body with
      | .error error => .locally (bodyErrorResponse error)
      | .ok body => gateway.dispatch libraries meeting request admitted route params preparedHeaders body

/-- Without a result the call panics. -/
def call : Option Handled :=
  match gateway.receive libraries request.extensions meeting.anyAlive request.parts with
  | .onward admitted =>
    match gateway.decide admitted with
    | .error response => some (.locally response)
    | .ok (route, params) => some (gateway.proxy libraries meeting request admitted route params)
  | .answered response => some (.locally response)
  | _ => none

end Gateway

/-! ### What is sent -/

namespace Gateway

variable {lib : Matchit ParsedRoute} {Key Regex : Type} (libraries : Libraries Key Regex) (gateway : Gateway lib)
  (meeting : Meeting) (request : Request)

/-- What has come before anything is sent: the path is canonical, the route is the one that is matched by it, access to
it is granted, and the headers are prepared. -/
structure Admitted (admitted : Parts) (route : ParsedRoute) (params : Params) (prepared : HeaderMap) : Prop where
  path : sanitizeAndNormalizePath request.uri.path = .ok admitted.uri.path
  canonical : Canonical admitted.uri.path
  parts : admitted = request.admitted admitted.uri
  matched : matchRoute lib gateway.router admitted.uri.path = .ok (route, params)
  granted : enforceRbac admitted route gateway.compiledRbac = .ok ()
  prepared : prepareProxyHeaders gateway.urlEncode gateway.jwtToken request.extensions gateway.config
    (fillHost admitted.headers admitted.uri) = .ok prepared

theorem call_eq : gateway.call libraries meeting request =
    if request.uri.path = "/health".toList ∧ request.method = .get then
      some (.locally (Stack.handleHealthCheck gateway.parsedRoutes meeting.anyAlive))
    else
      match sanitizeAndNormalizeUri libraries.uris request.uri with
      | .error .panic => none
      | .error (.err e) => some (.locally (buildErrorResponse ("Bad Request: ".toList ++ e.message) 400))
      | .ok uri =>
        match gateway.decide (request.admitted uri) with
        | .error response => some (.locally response)
        | .ok (route, params) =>
          some (gateway.proxy libraries meeting request (request.admitted uri) route params) := by
  unfold call RouterService.receive
  by_cases health : request.uri.path = "/health".toList ∧ request.method = .get
  · rw [if_pos health, if_pos (show request.parts.uri.path = _ ∧ request.parts.method = _ from health)]
  · rw [if_neg health, if_neg (show ¬(request.parts.uri.path = _ ∧ request.parts.method = _) from health)]
    dsimp only [Request.parts]
    cases sanitizeAndNormalizeUri libraries.uris request.uri with
    | error stop =>
      cases stop with
      | err e => rfl
      | panic => rfl
    | ok uri => rfl

variable {gateway meeting request}

end Gateway

section

variable {lib : Matchit ParsedRoute} {Key Regex : Type}

end

def smallGateway : Gateway (reference ParsedRoute) where
  router := buildRouter (reference ParsedRoute) [apiRoute]
  parsedRoutes := [apiRoute]
  compiledRbac := none
  config := ⟨.http, none, none⟩
  jwtToken := none
  urlEncode := id
  displayStatus _ := []
  handleAdminRequest _ _ _ := buildErrorResponse [] 200

def smallRequest (headers : HeaderMap) : Request where
  method := .post
  uri := ⟨none, none, "/api/./v".toList, none⟩
  version := .http11
  headers
  extensions := Stack.noPeer
  clientHash := none
  body := [.ready (.ok (.data [1, 2])), .pending, .ready (.ok (.data [3]))]

def smallMeeting : Meeting where
  anyAlive := true
  proxied := [⟨fun _ => .new, 0, ⟨fun _ => 0, 0⟩, [], .response ⟨200, [], []⟩⟩]
  transcoded := []

def hiddenNames (config : ServerConfig) : List Text :=
  identityHeadersDenylist.filterMap headerName ++ configuredNames config ++ forwardingHeaders

def readNames : List Text := [connection, host, maxForwards, "accept".toList]

def Unread (config : ServerConfig) : Prop := ∀ name ∈ readNames, name ∉ configuredNames config

section

variable {config : ServerConfig} {headers others : HeaderMap}

theorem Unread.shown (unread : Unread config) {name : Text} (member : name ∈ readNames) :
    name ∉ hiddenNames config := by
  have identity : ∀ name ∈ readNames, name ∉ identityHeadersDenylist ++ forwardingHeaders := by decide +kernel
  unfold hiddenNames
  rw [denylist_names, List.append_assoc, List.mem_append, List.mem_append]
  have apart := identity name member
  rw [List.mem_append] at apart
  rintro (listed | configured | forwarding)
  · exact apart (Or.inl listed)
  · exact unread name member configured
  · exact apart (Or.inr forwarding)

theorem get_visible {hidden : List Text} {name : Text} (shown : name ∉ hidden)
    (same : visible hidden headers = visible hidden others) : headers.get name = others.get name := by
  rw [get_eq_head, get_eq_head, ← values_visible hidden headers shown, ← values_visible hidden others shown, same]

theorem stripHops_visible (unread : Unread config)
    (same : visible (hiddenNames config) headers = visible (hiddenNames config) others) :
    stripHops headers = stripHops others := by
  unfold stripHops customHops
  rw [get_visible (unread.shown (by decide)) same]

section

variable (urlEncode : Text → Text) (jwtToken : Option Bytes) (extensions : PeerExtensions)

def finish (config : ServerConfig) (fields : HeaderMap) : HeaderMap :=
  let forwarding := applyAll (applyAll fields (stripIdentity config)) (setForwarding config extensions)
  applyAll forwarding (performed [setForwardedHost config, fun _ => jwtToken.toList.map (.insert authorization),
    fun _ => injectIdentity urlEncode config extensions] forwarding)

theorem applyAll_proxyEdits (hops : Nat) (headers : HeaderMap) :
    applyAll headers (proxyEdits urlEncode jwtToken extensions config hops headers) =
      let counted := applyAll headers [.insert maxForwards (utf8 (Nat.repr hops).toList)]
      finish urlEncode jwtToken extensions config (applyAll counted (stripHops counted)) := by
  unfold proxyEdits proxyPhases
  rw [applyAll_performed, applyAll_performed, applyAll_performed, applyAll_performed]
  rfl

theorem finish_visible
    (same : visible (hiddenNames config) headers = visible (hiddenNames config) others) :
    finish urlEncode jwtToken extensions config headers = finish urlEncode jwtToken extensions config others := by
  -- the names are taken out one after the other, without a look at the fields
  have removed (fields : HeaderMap) :
      applyAll (applyAll fields (stripIdentity config)) (setForwarding config extensions) =
        applyAll (visible (hiddenNames config) fields)
          (clientIpHeaders extensions ++ [.insert xForwardedProto (utf8 config.protocol.scheme)]) := by
    rw [← applyAll_removes, ← applyAll_append, ← applyAll_append, setForwarding, stripIdentity, hiddenNames]
    simp only [List.map_append, List.append_assoc]
  unfold finish
  rw [removed, removed, same]

theorem prepareProxyHeaders_visible (unread : Unread config)
    (same : visible (hiddenNames config) headers = visible (hiddenNames config) others) :
    prepareProxyHeaders urlEncode jwtToken extensions config headers =
      prepareProxyHeaders urlEncode jwtToken extensions config others := by
  have counts : nextMaxForwards headers = nextMaxForwards others := by
    unfold nextMaxForwards
    rw [get_visible (unread.shown (by decide)) same]
  cases passed : nextMaxForwards others with
  | error response =>
    unfold prepareProxyHeaders
    rw [counts, passed]
    rfl
  | ok hops =>
    have counted := visible_applyAll _ same [.insert maxForwards (utf8 (Nat.repr hops).toList)]
    rw [prepareProxyHeaders_eq urlEncode jwtToken extensions config passed,
      prepareProxyHeaders_eq urlEncode jwtToken extensions config (counts.trans passed), applyAll_proxyEdits,
      applyAll_proxyEdits]
    dsimp only
    rw [stripHops_visible unread counted, finish_visible urlEncode jwtToken extensions (visible_applyAll _ counted _)]

end

theorem fillHost_visible (unread : Unread config) (uri : Uri)
    (same : visible (hiddenNames config) headers = visible (hiddenNames config) others) :
    visible (hiddenNames config) (fillHost headers uri) = visible (hiddenNames config) (fillHost others uri) := by
  unfold fillHost
  rw [get_visible (unread.shown (by decide)) same]
  split_ifs
  · exact same
  · exact visible_applyAll _ same _

end

namespace Gateway

variable {lib : Matchit ParsedRoute} {Key Regex : Type} (libraries : Libraries Key Regex)

variable (gateway : Gateway lib) (meeting : Meeting) (request : Request)

theorem proxy_visible (unread : Unread gateway.config) (parts : Parts) (headers : HeaderMap) (route : ParsedRoute)
    (params : Params) (same : visible (hiddenNames gateway.config) parts.headers =
      visible (hiddenNames gateway.config) headers) (kept : HeaderMap) :
    gateway.proxy libraries meeting { request with headers := kept } { parts with headers } route params =
      gateway.proxy libraries meeting request parts route params := by
  have shown : "accept".toList ∉ hiddenNames gateway.config := unread.shown (by decide)
  have accept := get_visible shown same
  have prepared := prepareProxyHeaders_visible gateway.urlEncode gateway.jwtToken request.extensions unread
    (fillHost_visible unread parts.uri same)
  unfold proxy
  dsimp only
  rw [accept, prepared]
  rfl

end Gateway

/-- A client says nothing by the headers that speak of its identity or of its way: whatever it sends under these names,
the same is sent to the upstreams and the same is answered. -/
theorem hidden_headers_ignored {lib : Matchit ParsedRoute} {Key Regex : Type} (libraries : Libraries Key Regex)
    (gateway : Gateway lib) (unread : Unread gateway.config) (meeting : Meeting) (request : Request)
    (headers : HeaderMap) (same : visible (hiddenNames gateway.config) request.headers =
      visible (hiddenNames gateway.config) headers) :
    gateway.call libraries meeting { request with headers } = gateway.call libraries meeting request := by
  have injected := visible_applyAll _ same
    (request.extensions.socketIp.toList.flatMap fun ip => insertText xRealIp ip.toText)
  rw [Gateway.call_eq, Gateway.call_eq]
  dsimp only
  split_ifs
  · rfl
  · cases sanitizeAndNormalizeUri libraries.uris request.uri with
    | error stop =>
      cases stop with
      | err e => rfl
      | panic => rfl
    | ok uri =>
      dsimp only
      have decides : gateway.decide (Request.admitted { request with headers } uri) =
          gateway.decide (request.admitted uri) := rfl
      rw [decides]
      split
      · rfl
      · next route params decided =>
        exact congrArg some (gateway.proxy_visible libraries meeting request unread (request.admitted uri)
          (injectRealIp request.extensions headers) route params injected headers)

/-- A client that claims an address and a role. -/
theorem hidden_headers_ignored_claimed :
    let claimed : HeaderMap := [(xForwardedFor, [49]), ("x-user-role".toList, [65])]
    smallGateway.call Stack.logoutLibraries smallMeeting (smallRequest claimed) =
        smallGateway.call Stack.logoutLibraries smallMeeting (smallRequest []) ∧
      (smallGateway.call Stack.logoutLibraries smallMeeting (smallRequest [])).map (·.sent.length) = some 1 := by
  intro claimed
  have unread : Unread smallGateway.config := fun _ _ => nofun
  refine ⟨?_, by decide +kernel⟩
  exact hidden_headers_ignored Stack.logoutLibraries smallGateway unread smallMeeting (smallRequest []) claimed
    (by decide +kernel)

end Praeco.Server.Proxying
