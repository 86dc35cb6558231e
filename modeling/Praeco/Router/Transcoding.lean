import Praeco.Router.Routes
import Praeco.Router.Rbac

/-! Transcoded gRPC calls. The handler keeps the last two segments of the request path, while access
control reads the whole of it, so two spellings of one call can be decided differently. -/

namespace Praeco.Router.Transcoding
open Praeco.Strings Utf8 Split Praeco.Http.Target Praeco.Http.Message Praeco.Path.CanonicalForm
open Praeco.Router.Config Praeco.Router.Matching Praeco.Router.Routes Praeco.Router.Rbac Praeco.Collections.Fallible

inductive RequestBody where
  | stream
  | buffered (bytes : Bytes)
  deriving DecidableEq, Repr

inductive TranscodeError where
  | payload (detail : Text)
  | encode (detail : Text)
  deriving DecidableEq, Repr

/-- What the handler asks of the reflected schema: the methods of a service, and a message from JSON to
its wire form. -/
structure DescriptorPool where
  getServiceByName : Text → Option (List Text)
  transcode : Text → Text → Bytes → Except TranscodeError Bytes

structure GrpcCall where
  targetPath : Text
  uri : Uri
  frame : Bytes
  deriving DecidableEq, Repr

def bigEndian32 (n : Nat) : Bytes :=
  [UInt8.ofNat (n / 2 ^ 24), UInt8.ofNat (n / 2 ^ 16), UInt8.ofNat (n / 2 ^ 8), UInt8.ofNat n]

def grpcFrame (payload : Bytes) : Bytes := 0 :: bigEndian32 payload.length ++ payload

def uriParts (path : Text) : List Text := (path.dropWhile (· = '/')).splitOn '/'

def grpcTargetPath (serviceName methodName : Text) : Text := '/' :: (serviceName ++ '/' :: methodName)

def encodeCall (pool : DescriptorPool) (serviceName methodName : Text) (requestBody : RequestBody) :
    Except Response Bytes :=
  match pool.getServiceByName serviceName with
  | none => .error (buildErrorResponse "gRPC Service Not Found".toList 404)
  | some methods =>
    if methodName ∉ methods then .error (buildErrorResponse "gRPC Method Not Found".toList 404)
    else
      match requestBody with
      | .stream => .error (buildErrorResponse "Streaming not supported for gRPC transcoding yet".toList 500)
      | .buffered bytes =>
        match pool.transcode serviceName methodName bytes with
        | .error (.payload e) => .error (buildErrorResponse ("Invalid JSON payload: ".toList ++ e) 400)
        | .error (.encode e) => .error (buildErrorResponse ("Encode error: ".toList ++ e) 500)
        | .ok payload => .ok (grpcFrame payload)

def targetUri (library : UriLibrary) (backendBaseUri : Uri) (path : Text) : Except Response Uri :=
  match library.parsePathAndQuery path with
  | .error e => .error (buildErrorResponse ("Invalid gRPC target path: ".toList ++ e) 400)
  | .ok pathAndQuery =>
    match library.fromParts backendBaseUri.scheme backendBaseUri.authority pathAndQuery with
    | .error e => .error (buildErrorResponse ("Invalid gRPC target URI: ".toList ++ e) 400)
    | .ok uri => .ok uri

/-- One attempt of `handle_grpc_web` on the chosen node, up to the call it sends; `pool` is the cached or
fetched schema, if there is one. -/
def handleGrpcWeb (library : UriLibrary) (pool : Option DescriptorPool) (backendBaseUri : Uri)
    (requestBody : RequestBody) (originalMethod : Method) (originalUri : Uri) : Except Response GrpcCall :=
  match pool with
  | none => .error (buildErrorResponse "Failed to fetch gRPC schema".toList 502)
  | some pool =>
    match originalMethod, (uriParts originalUri.path).reverse with
    | .post, methodName :: serviceName :: _ => do
      let frame ← encodeCall pool serviceName methodName requestBody
      let uri ← targetUri library backendBaseUri (grpcTargetPath serviceName methodName)
      .ok ⟨grpcTargetPath serviceName methodName, uri, frame⟩
    | _, _ =>
      .error (buildErrorResponse "Please use POST /Fully.Qualified.Service/Method for gRPC".toList 400)

def leadingSegments (path : Text) : List Text := (uriParts path).dropLast.dropLast

theorem handleGrpcWeb_target (library : UriLibrary) (pool : Option DescriptorPool) (backendBaseUri : Uri)
    (requestBody : RequestBody) (originalMethod : Method) (originalUri : Uri) (call : GrpcCall)
    (sent : handleGrpcWeb library pool backendBaseUri requestBody originalMethod originalUri = .ok call) :
    ∃ serviceName methodName, call.targetPath = grpcTargetPath serviceName methodName ∧
      uriParts originalUri.path = leadingSegments originalUri.path ++ [serviceName, methodName] := by
  unfold handleGrpcWeb at sent
  split at sent
  · cases sent
  · split at sent
    · next methodName serviceName front reversed =>
      obtain ⟨frame, -, sent⟩ := bind_ok sent
      obtain ⟨uri, -, sent⟩ := bind_ok sent
      cases sent
      have parts : uriParts originalUri.path = front.reverse ++ [serviceName, methodName] := by
        have back := congrArg List.reverse reversed
        simpa using back
      have lead : leadingSegments originalUri.path = front.reverse := by
        unfold leadingSegments
        rw [parts]
        simp
      exact ⟨serviceName, methodName, rfl, by rw [lead, parts]⟩
    · cases sent

section

variable (library : UriLibrary) (lib : Matchit ParsedRoute) (router : lib.Tree)

structure Transcoded (route : ParsedRoute) (path target : Text) : Prop where
  canonical : Canonical path
  transcoding : route.backendType = .grpcTranscoding
  matched : ∃ params, matchRoute lib router path = .ok (route, params)
  dispatched : ∃ pool backendBaseUri requestBody originalMethod originalUri call,
    originalUri.path = path ∧
    handleGrpcWeb library pool backendBaseUri requestBody originalMethod originalUri = .ok call ∧
    call.targetPath = target

theorem Transcoded.parts {route : ParsedRoute} {path target : Text}
    (transcoded : Transcoded library lib router route path target) :
    ∃ serviceName methodName, target = grpcTargetPath serviceName methodName ∧ '/' ∉ serviceName ∧
      uriParts path = leadingSegments path ++ [serviceName, methodName] := by
  obtain ⟨pool, backendBaseUri, requestBody, originalMethod, originalUri, call, rfl, sent, rfl⟩ := transcoded.dispatched
  obtain ⟨serviceName, methodName, target, parts⟩ := handleGrpcWeb_target _ _ _ _ _ _ _ sent
  refine ⟨serviceName, methodName, target, ?_, parts⟩
  apply not_mem_of_mem_splitOn '/' (originalUri.path.dropWhile (· = '/')) serviceName
  change serviceName ∈ uriParts originalUri.path
  rw [parts]
  simp

end

def callPool : DescriptorPool where
  getServiceByName name := if name = ['s'] then some [['D']] else none
  transcode _ _ body := .ok body

end Praeco.Router.Transcoding
