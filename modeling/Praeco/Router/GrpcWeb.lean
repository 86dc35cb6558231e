import Praeco.Compression.Decompression
import Praeco.Router.Buffering
import Praeco.Router.Failover
import Praeco.Router.Transcoding
import Praeco.Server.TraceId

/-! Transcoded calls as a whole. The JSON of the client becomes a framed message, the call is sent to one upstream after
the other until one can be reached, and the framed reply becomes JSON again. -/

namespace Praeco.Router.GrpcWeb
open Praeco.Strings Utf8 Praeco.Http.Target Praeco.Http.Message Praeco.Collections.Edits Praeco.Collections.Fallible
open Praeco.Streams Praeco.Streams.Polling Praeco.Limits.Payload Praeco.Router.Buffering
open Praeco.Router.Config Praeco.Router.Headers Praeco.Router.Upstreams Praeco.Router.Balancing
open Praeco.Router.Transcoding
open Praeco.Router.Failover (Version UpstreamRequest Fresh fresh_nil fresh_cons key_outgoing)
open Praeco.Compression.Decompression (contentLength)
open Praeco.Server.TraceId (traceparent xTraceId)

inductive ReplyError where
  | parse (detail : Text)
  | encode (detail : Text)
  deriving DecidableEq, Repr

/-- What becomes of a call. A reply without a body is one whose body does not come in time. -/
inductive Outcome where
  | timedOut
  | failed
  | response (status : Nat) (body : Option (SrvBody Text))

structure Request where
  target : RouteTarget
  library : UriLibrary
  displayStatus : Nat → Text
  requestBody : RequestBody
  originalMethod : Method
  preparedHeaders : HeaderMap
  originalUri : Uri
  clientHash : Option Nat

/-- What an attempt meets: the nodes as it finds them, the schema that it finds or fetches, the headers of the trace
context, and the outcome. The schema is given by the way to the wire, `pool`, and the way back: the JSON of a message
that the method under a path replies with. -/
structure Surroundings where
  nodes : Nodes
  rrCounter : Nat
  around : Circumstances
  pool : Option DescriptorPool
  reply : Text → Bytes → Except ReplyError Text
  traceContext : List (Text × Bytes)
  outcome : Outcome

def prepare (request : Request) (now : Surroundings) (backendBaseUri : Uri) : Except Response GrpcCall :=
  Transcoding.handleGrpcWeb request.library now.pool backendBaseUri request.requestBody request.originalMethod
    request.originalUri

def wireEdits : List HeaderEdit :=
  [.remove contentLength, .remove connection, .remove transferEncoding, .remove upgrade,
    .insert "content-type".toList (utf8 "application/grpc".toList), .insert te (utf8 "trailers".toList)]

def mirrorEdits (headers : HeaderMap) : List HeaderEdit :=
  match headers.get traceparent, headers.get xTraceId with
  | some traceId, none => [.insert xTraceId traceId]
  | _, _ => []

def callEdits (backendBaseUri : Uri) (traceContext : List (Text × Bytes)) : List HeaderEdit :=
  backendBaseUri.authority.toList.flatMap (insertText host) ++ wireEdits ++
    traceContext.map fun field => .insert field.1 field.2

def callHeaders (headers : HeaderMap) (backendBaseUri : Uri) (traceContext : List (Text × Bytes)) : HeaderMap :=
  let injected := applyAll headers (callEdits backendBaseUri traceContext)
  applyAll injected (mirrorEdits injected)

def maxGrpcWebResponseBytes : Nat := 16 * 1024 * 1024

/-- The first message of a reply; what follows it is not looked at. -/
def replyPayload (bytes : Bytes) : Except Response Bytes :=
  if bytes.length < 5 then .error (buildErrorResponse "Invalid gRPC Response".toList 502)
  else if bytes.length < 5 + payloadLen bytes then .error (buildErrorResponse "Truncated gRPC Response".toList 502)
  else .ok (payloadOf bytes)

def displayLimited : LimitedError Text → Text
  | .lengthLimitExceeded => "length limit exceeded".toList
  | .inner error => error

def jsonResponse (json : Text) : Response :=
  ⟨200, [("content-type".toList, utf8 "application/json".toList)], json⟩

def decodeReply (reply : Bytes → Except ReplyError Text) (bytes : Bytes) : Response :=
  match replyPayload bytes with
  | .error response => response
  | .ok payload =>
    match reply payload with
    | .error (.parse e) => buildErrorResponse ("Parse error: ".toList ++ e) 502
    | .error (.encode e) => buildErrorResponse ("JSON encode error: ".toList ++ e) 500
    | .ok json => jsonResponse json

def answer (request : Request) (reply : Bytes → Except ReplyError Text) (status : Nat)
    (body : Option (SrvBody Text)) : Response :=
  if status ≠ 200 then buildErrorResponse ("Backend Error: ".toList ++ request.displayStatus status) status
  else
    match body.map fun body => collect (limited maxGrpcWebResponseBytes body) with
    | none => buildErrorResponse "Gateway Timeout reading gRPC response body".toList 504
    | some (.error e) => buildErrorResponse ("Failed to read gRPC body: ".toList ++ displayLimited e) 502
    | some (.ok bytes) => decodeReply reply bytes

structure Progress where
  attempts : Nat
  failedNodes : List Uri
  preparedHeaders : HeaderMap
  deriving DecidableEq, Repr

structure Trace where
  sent : List UpstreamRequest
  answer : Option Response

def start (request : Request) : Progress := ⟨0, [], request.preparedHeaders⟩

def upstreamRequest (progress : Progress) (backend : Uri) (call : GrpcCall) (traceContext : List (Text × Bytes)) :
    UpstreamRequest where
  backend
  method := .post
  uri := call.uri
  version := .http2
  headers := callHeaders progress.preparedHeaders backend traceContext
  body := call.frame

def Progress.next (progress : Progress) (request : Request) (backend : Uri) : Progress where
  attempts := progress.attempts + 1
  failedNodes := progress.failedNodes ++ [backend]
  preparedHeaders := if progress.attempts = request.target.maxRetries then [] else progress.preparedHeaders

def attempt (request : Request) : Progress → List Surroundings → Trace
  | _, [] => ⟨[], none⟩
  | progress, now :: later =>
    let selected := nextUpstream request.target now.nodes request.clientHash now.rrCounter now.around
      progress.failedNodes
    match selected.1.bind (request.target.upstreams[·]?) with
    | none => ⟨[], none⟩
    | some backend =>
      match prepare request now backend with
      | .error response => ⟨[], some response⟩
      | .ok call =>
        let sent := upstreamRequest progress backend call now.traceContext
        match now.outcome with
        | .timedOut => ⟨[sent], some (buildErrorResponse "Gateway Timeout".toList 504)⟩
        | .response status body => ⟨[sent], some (answer request (now.reply call.targetPath) status body)⟩
        | .failed =>
          if progress.attempts + 1 ≤ request.target.maxRetries then
            let rest := attempt request (progress.next request backend) later
            ⟨sent :: rest.sent, rest.answer⟩
          else ⟨[sent], some (buildErrorResponse "Bad Gateway".toList 502)⟩

def handleGrpcWeb (request : Request) (surroundings : List Surroundings) : Trace :=
  attempt request (start request) surroundings

/-! ### The reply -/

def Framed (bytes payload : Bytes) : Prop :=
  ∃ flag length rest, bytes = flag :: (length ++ (payload ++ rest)) ∧ length.length = 4 ∧
    BigEndian.decode length = payload.length

theorem framed_grpcFrame (payload : Bytes) (short : payload.length < 2 ^ 32) : Framed (grpcFrame payload) payload := by
  have encoded : bigEndian32 payload.length = BigEndian.encode 4 payload.length := by
    simp [bigEndian32, BigEndian.encode]
  refine ⟨0, bigEndian32 payload.length, [], ?_, rfl, ?_⟩
  · rw [List.append_nil]
    rfl
  · rw [encoded]
    exact BigEndian.decode_encode_of_lt 4 payload.length short

theorem replyPayload_ok_iff {bytes payload : Bytes} : replyPayload bytes = .ok payload ↔ Framed bytes payload := by
  constructor
  · intro read
    unfold replyPayload at read
    split_ifs at read with short truncated
    cases read
    cases bytes with
    | nil => exact absurd (Nat.zero_lt_succ 4) short
    | cons flag tail =>
      rw [List.length_cons] at short truncated
      refine ⟨flag, tail.take 4, (tail.drop 4).drop (payloadLen (flag :: tail)), ?_, ?_, ?_⟩
      · rw [payloadOf, List.drop_succ_cons, List.take_append_drop, List.take_append_drop]
      · rw [List.length_take]
        omega
      · rw [payloadOf, List.drop_succ_cons, List.length_take, List.length_drop, Nat.min_eq_left (by omega)]
        rfl
  · rintro ⟨flag, length, rest, rfl, four, declared⟩
    have size : payloadLen (flag :: (length ++ (payload ++ rest))) = payload.length := by
      rw [payloadLen, List.drop_succ_cons, List.drop_zero, ← four, List.take_left', declared]
      rfl
    have behind : (flag :: (length ++ (payload ++ rest))).drop 5 = payload ++ rest := by
      rw [List.drop_succ_cons, ← four, List.drop_left']
      rfl
    have total : (flag :: (length ++ (payload ++ rest))).length = 5 + payload.length + rest.length := by
      rw [List.length_cons, List.length_append, List.length_append, four]
      omega
    rw [replyPayload, payloadOf, size, behind, total, if_neg (by omega), if_neg (by omega), List.take_left']
    rfl

/-- A body that is read in full, with the JSON of its first message. However it is cut into frames, and whatever its
trailers say. -/
def Replies (reply : Bytes → Except ReplyError Text) (source : SrvBody Text) (json : Text) : Prop :=
  ∃ bytes payload, delivered frameData source.items = (bytes, none) ∧ bytes.length ≤ maxGrpcWebResponseBytes ∧
    Framed bytes payload ∧ reply payload = .ok json

section

variable {request : Request} {reply : Bytes → Except ReplyError Text} {status : Nat} {body : Option (SrvBody Text)}

theorem decodeReply_ok {bytes : Bytes} (fine : (decodeReply reply bytes).status = 200) :
    ∃ payload json, Framed bytes payload ∧ reply payload = .ok json ∧ decodeReply reply bytes = jsonResponse json := by
  unfold decodeReply at fine ⊢
  split at fine
  · next response refused =>
    unfold replyPayload at refused
    split_ifs at refused
    · cases refused
      cases fine
    · cases refused
      cases fine
  · next payload read =>
    split at fine
    · cases fine
    · cases fine
    · next json replied => exact ⟨payload, json, replyPayload_ok_iff.mp read, replied, rfl⟩

theorem answer_ok (fine : (answer request reply status body).status = 200) :
    ∃ source json, status = 200 ∧ body = some source ∧ Replies reply source json ∧
      answer request reply status body = jsonResponse json := by
  unfold answer at fine ⊢
  split_ifs at fine ⊢ with other
  · exact absurd fine other
  · cases body with
    | none => cases fine
    | some source =>
      dsimp only [Option.map_some] at fine ⊢
      cases collected : collect (limited maxGrpcWebResponseBytes source) with
      | error error =>
        rw [collected] at fine
        cases fine
      | ok bytes =>
        rw [collected] at fine
        obtain ⟨payload, json, framed, replied, same⟩ := decodeReply_ok fine
        obtain ⟨complete, fits⟩ := collect_limited_ok_iff.mp collected
        exact ⟨source, json, not_not.mp other, rfl, ⟨bytes, payload, complete, fits, framed, replied⟩, same⟩

theorem Replies.answer_eq {source : SrvBody Text} {json : Text} (replies : Replies reply source json)
    (request : Request) : answer request reply 200 (some source) = jsonResponse json := by
  obtain ⟨bytes, payload, complete, fits, framed, replied⟩ := replies
  unfold answer decodeReply
  rw [if_neg (not_not.mpr rfl), Option.map_some, collect_limited_ok_iff.mpr ⟨complete, fits⟩]
  dsimp only
  rw [replyPayload_ok_iff.mpr framed]
  dsimp only
  rw [replied]

end

/-! ### The loop -/

theorem encodeCall_error {pool : DescriptorPool} {serviceName methodName : Text} {body : RequestBody}
    {response : Response} (refused : encodeCall pool serviceName methodName body = .error response) :
    response.status ≠ 200 := by
  unfold encodeCall at refused
  repeat' split at refused
  all_goals
    cases refused
    try exact nofun

theorem targetUri_error {library : UriLibrary} {backendBaseUri : Uri} {path : Text} {response : Response}
    (refused : targetUri library backendBaseUri path = .error response) : response.status ≠ 200 := by
  unfold targetUri at refused
  repeat' split at refused
  all_goals
    cases refused
    try exact nofun

section

variable {request : Request} {progress : Progress} {surroundings : List Surroundings} {now : Surroundings}
  {backend : Uri} {call : GrpcCall}

theorem prepare_error {response : Response} (refused : prepare request now backend = .error response) :
    response.status ≠ 200 := by
  unfold prepare Transcoding.handleGrpcWeb at refused
  split at refused
  · cases refused
    exact nofun
  · next pool =>
    split at refused
    · next methodName serviceName front method parts =>
      rcases bind_error refused with encoding | ⟨frame, -, refused⟩
      · exact encodeCall_error encoding
      · rcases bind_error refused with target | ⟨uri, -, done⟩
        · exact targetUri_error target
        · cases done
    · cases refused
      exact nofun

def Selects (request : Request) (progress : Progress) (now : Surroundings) (backend : Uri) : Prop :=
  ∃ index, (nextUpstream request.target now.nodes request.clientHash now.rrCounter now.around
    progress.failedNodes).1 = some index ∧ request.target.upstreams[index]? = some backend

def Replied (request : Request) (now : Surroundings) (response : Response) : Prop :=
  ∃ backend call status body, prepare request now backend = .ok call ∧ now.outcome = .response status body ∧
    response = answer request (now.reply call.targetPath) status body

inductive Attempted (request : Request) (progress : Progress) (now : Surroundings) (later : List Surroundings) :
    Trace → Prop where
  | unsent (answer : Option Response) (refused : ∀ response ∈ answer, response.status ≠ 200) :
    Attempted request progress now later ⟨[], answer⟩
  | answered (backend : Uri) (call : GrpcCall) (response : Response) (selects : Selects request progress now backend)
    (ready : prepare request now backend = .ok call) (replied : response.status = 200 → Replied request now response) :
    Attempted request progress now later ⟨[upstreamRequest progress backend call now.traceContext], some response⟩
  | repeated (backend : Uri) (call : GrpcCall) (selects : Selects request progress now backend)
    (ready : prepare request now backend = .ok call) (unreached : now.outcome = .failed)
    (allowed : progress.attempts + 1 ≤ request.target.maxRetries) :
    Attempted request progress now later
      ⟨upstreamRequest progress backend call now.traceContext ::
          (attempt request (progress.next request backend) later).sent,
        (attempt request (progress.next request backend) later).answer⟩

theorem attempt_cases (request : Request) (progress : Progress) (now : Surroundings) (later : List Surroundings) :
    Attempted request progress now later (attempt request progress (now :: later)) := by
  unfold attempt
  dsimp only
  split
  · exact .unsent none nofun
  · next backend selected =>
    obtain ⟨index, found, here⟩ := Option.bind_eq_some_iff.mp selected
    split
    · next response refused =>
      refine .unsent _ ?_
      rintro _ ⟨⟩
      exact prepare_error refused
    · next call ready =>
      split
      · exact .answered backend call _ ⟨index, found, here⟩ ready nofun
      · next status body reply =>
        exact .answered backend call _ ⟨index, found, here⟩ ready
          fun _ => ⟨backend, call, status, body, ready, reply, rfl⟩
      · next unreached =>
        split_ifs with allowed
        · exact .repeated backend call ⟨index, found, here⟩ ready unreached allowed
        · exact .answered backend call _ ⟨index, found, here⟩ ready nofun

structure Intact (request : Request) (progress : Progress) : Prop where
  allowed : progress.attempts ≤ request.target.maxRetries
  headers : progress.preparedHeaders = request.preparedHeaders

theorem Intact.next (intact : Intact request progress) (allowed : progress.attempts + 1 ≤ request.target.maxRetries)
    (backend : Uri) : Intact request (progress.next request backend) := by
  refine ⟨allowed, ?_⟩
  have early : progress.attempts ≠ request.target.maxRetries := by omega
  rw [Progress.next, if_neg early, intact.headers]

def ownNames : List Text := host :: xTraceId :: wireEdits.map Edit.key

theorem getAll_callHeaders (headers : HeaderMap) (backend : Uri) (traceContext : List (Text × Bytes)) {name : Text}
    (other : name ∉ ownNames ++ traceContext.map Prod.fst) :
    (callHeaders headers backend traceContext).getAll name = headers.getAll name := by
  refine (values_of_unedited _ _ _ ?_).trans (values_of_unedited _ _ _ ?_)
  · intro edit member
    unfold mirrorEdits at member
    split at member
    · rw [List.mem_singleton.mp member]
      rintro rfl
      exact other (List.mem_cons_of_mem _ List.mem_cons_self)
    · cases member
  · intro edit member same
    have named := key_outgoing member
    rw [same] at named
    apply other
    simp only [ownNames, List.cons_append, List.mem_cons] at named ⊢
    tauto

/-- A call as it goes to its upstream: the message of the client under the schema of the attempt, and all headers of the
request but those that the handler or the trace context sets. -/
structure Conveys (request : Request) (now : Surroundings) (sent : UpstreamRequest) : Prop where
  listed : sent.backend ∈ request.target.upstreams
  wire : sent.method = .post ∧ sent.version = .http2
  message : ∃ call, prepare request now sent.backend = .ok call ∧ sent.uri = call.uri ∧ sent.body = call.frame
  headers : ∀ name, name ∉ ownNames ++ now.traceContext.map Prod.fst →
    sent.headers.getAll name = request.preparedHeaders.getAll name

theorem Intact.conveys (intact : Intact request progress) (selects : Selects request progress now backend)
    (ready : prepare request now backend = .ok call) :
    Conveys request now (upstreamRequest progress backend call now.traceContext) := by
  obtain ⟨index, -, here⟩ := selects
  refine ⟨List.mem_of_getElem? here, ⟨rfl, rfl⟩, ⟨call, ready, rfl, rfl⟩, ?_⟩
  intro name other
  rw [upstreamRequest, getAll_callHeaders _ _ _ other, intact.headers]

theorem Selects.fresh (several : 1 < request.target.upstreams.length) (selects : Selects request progress now backend) :
    (∃ upstream ∈ request.target.upstreams, upstream ∉ progress.failedNodes) → backend ∉ progress.failedNodes := by
  obtain ⟨index, found, here⟩ := selects
  exact selected_fresh several found here

/-- What the rest of the loop does: every attempt sends one call that conveys the client's message, every call but the
last did not reach its node, no call goes to a node that has failed while there is another, and 200 is answered only to
the reply to the last call. -/
structure Loops (request : Request) (progress : Progress) (surroundings : List Surroundings) (trace : Trace) :
    Prop where
  bounded : trace.sent.length ≤ request.target.maxRetries + 1 - progress.attempts
  conveyed : ∀ (index : Nat) (sent : UpstreamRequest), trace.sent[index]? = some sent →
    ∃ now, surroundings[index]? = some now ∧ Conveys request now sent
  unreached : ∀ index : Nat, index + 1 < trace.sent.length →
    ∃ now, surroundings[index]? = some now ∧ now.outcome = .failed
  fresh : 1 < request.target.upstreams.length → Fresh request.target progress.failedNodes trace.sent
  replied : ∀ response, trace.answer = some response → response.status = 200 →
    ∃ (index : Nat) (now : Surroundings), index + 1 = trace.sent.length ∧ surroundings[index]? = some now ∧
      Replied request now response

theorem Loops.unsent {answer : Option Response} (refused : ∀ response ∈ answer, response.status ≠ 200) :
    Loops request progress surroundings ⟨[], answer⟩ where
  bounded := Nat.zero_le _
  conveyed _ _ place := by cases place
  unreached _ early := absurd early (Nat.not_lt_zero _)
  fresh _ := fresh_nil _ _
  replied response answered fine := absurd fine (refused response answered)

theorem attempt_loops (intact : Intact request progress) :
    Loops request progress surroundings (attempt request progress surroundings) := by
  induction surroundings generalizing progress with
  | nil => exact .unsent fun _ answered => by cases answered
  | cons now later ih =>
    have allowed := intact.allowed
    have spec := attempt_cases request progress now later
    generalize attempt request progress (now :: later) = trace at spec ⊢
    cases spec with
    | unsent answer refused => exact .unsent refused
    | answered backend call response selects ready replied =>
      refine ⟨?_, ?_, ?_, ?_, ?_⟩
      · rw [List.length_singleton]
        omega
      · intro index sent place
        cases index with
        | zero =>
          cases place
          exact ⟨now, rfl, intact.conveys selects ready⟩
        | succ index => cases place
      · intro index early
        rw [List.length_singleton] at early
        omega
      · intro several
        exact fresh_cons (selects.fresh several) (fresh_nil _ _)
      · rintro _ ⟨⟩ fine
        exact ⟨0, now, rfl, rfl, replied fine⟩
    | repeated backend call selects ready unreached again =>
      have rest := ih (intact.next again backend)
      have counted : (progress.next request backend).attempts = progress.attempts + 1 := rfl
      refine ⟨?_, ?_, ?_, ?_, ?_⟩
      · have bounded := rest.bounded
        rw [List.length_cons]
        omega
      · intro index sent place
        cases index with
        | zero =>
          cases place
          exact ⟨now, rfl, intact.conveys selects ready⟩
        | succ index => exact rest.conveyed index sent place
      · intro index early
        cases index with
        | zero => exact ⟨now, rfl, unreached⟩
        | succ index => exact rest.unreached index (Nat.lt_of_succ_lt_succ early)
      · intro several
        exact fresh_cons (selects.fresh several) (rest.fresh several)
      · intro response answered fine
        obtain ⟨index, met, last, there, replied⟩ := rest.replied response answered fine
        exact ⟨index + 1, met, congrArg Nat.succ last, there, replied⟩

end

/-- A transcoded call is sent at most once for every retry and once more, each time to a node that was not tried before
if there is one; all but the last call did not reach their node, every call conveys the client's message, and 200 is
answered only to the reply to the last call. -/
theorem calls_sound (request : Request) (surroundings : List Surroundings) :
    Loops request (start request) surroundings (handleGrpcWeb request surroundings) :=
  attempt_loops ⟨Nat.zero_le _, rfl⟩

/-- A client that is answered with 200 gets the JSON of a message that an upstream has sent in full: the last call was
answered with 200, the whole reply was read, and its first message has the length that it declares. -/
theorem json_justified (request : Request) (surroundings : List Surroundings) {response : Response}
    (answered : (handleGrpcWeb request surroundings).answer = some response) (fine : response.status = 200) :
    ∃ (index : Nat) (now : Surroundings) (backend : Uri) (call : GrpcCall) (source : SrvBody Text) (json : Text),
      index + 1 = (handleGrpcWeb request surroundings).sent.length ∧ surroundings[index]? = some now ∧
      prepare request now backend = .ok call ∧ now.outcome = .response 200 (some source) ∧
      Replies (now.reply call.targetPath) source json ∧ response = jsonResponse json := by
  have loops : Loops request (start request) surroundings (handleGrpcWeb request surroundings) :=
    attempt_loops ⟨Nat.zero_le _, rfl⟩
  obtain ⟨index, now, last, here, backend, call, status, body, ready, outcome, rfl⟩ :=
    loops.replied response answered fine
  obtain ⟨source, json, rfl, rfl, replies, same⟩ := answer_ok fine
  exact ⟨index, now, backend, call, source, json, last, here, ready, outcome, replies, same⟩

def echoRequest : Request where
  target := ⟨[⟨none, some ['a'], ['/'], none⟩], .random, 10, 1, 3, 0, 0⟩
  library := permissive
  displayStatus _ := []
  requestBody := .buffered [97, 98]
  originalMethod := .post
  preparedHeaders := []
  originalUri := ⟨none, none, ['/', 's', '/', 'D'], none⟩
  clientHash := none

def meets (outcome : Outcome) : Surroundings :=
  ⟨fun _ => .new, 0, ⟨fun _ => 0, 0⟩, some callPool, fun _ payload => .ok (latin1 payload), [], outcome⟩

def reversedReply : SrvBody Text :=
  [.ready (.ok (.data [0, 0, 0, 0, 2])), .pending, .ready (.ok (.data [98, 97])),
    .ready (.ok (.trailers [("grpc-status".toList, [49, 51])]))]

theorem json_justified_reversed :
    let surroundings := [meets .failed, meets (.response 200 (some reversedReply))]
    (handleGrpcWeb echoRequest surroundings).answer = some (jsonResponse ['b', 'a']) ∧
      ∃ (index : Nat) (now : Surroundings) (source : SrvBody Text),
        index + 1 = (handleGrpcWeb echoRequest surroundings).sent.length ∧ surroundings[index]? = some now ∧
        now.outcome = .response 200 (some source) := by
  intro surroundings
  have answered : (handleGrpcWeb echoRequest surroundings).answer = some (jsonResponse ['b', 'a']) := by decide +kernel
  obtain ⟨index, now, -, -, source, -, last, here, -, outcome, -⟩ :=
    json_justified echoRequest surroundings answered rfl
  exact ⟨answered, index, now, source, last, here, outcome⟩

/-! ### There and back -/

/-- A call that the schema describes, to servers that answer messages with a function on messages, and the JSON of the
value of that function. -/
structure Described (request : Request) (pool : DescriptorPool) (reply : Text → Bytes → Except ReplyError Text)
    (server : Bytes → Bytes) (serviceName methodName : Text) (payload : Bytes) (json : Text) : Prop where
  method : request.originalMethod = .post
  path : ∃ front, (uriParts request.originalUri.path).reverse = methodName :: serviceName :: front
  listed : ∃ methods, pool.getServiceByName serviceName = some methods ∧ methodName ∈ methods
  encoded : ∃ bytes, request.requestBody = .buffered bytes ∧ pool.transcode serviceName methodName bytes = .ok payload
  short : payload.length < 2 ^ 32
  upstreams : request.target.upstreams ≠ []
  targets : ∀ upstream ∈ request.target.upstreams,
    ∃ uri, targetUri request.library upstream (grpcTargetPath serviceName methodName) = .ok uri
  replied : reply (grpcTargetPath serviceName methodName) (server payload) = .ok json
  fits : 5 + (server payload).length ≤ maxGrpcWebResponseBytes

/-- The attempt has the schema. Its upstream is not reached, or reads the message out of the frame and frames its reply,
in any number of pieces and with any trailers. -/
structure Speaks (pool : DescriptorPool) (reply : Text → Bytes → Except ReplyError Text) (server : Bytes → Bytes)
    (frame : Bytes) (now : Surroundings) : Prop where
  schema : now.pool = some pool ∧ now.reply = reply
  outcome : now.outcome = .failed ∨ ∃ source message, now.outcome = .response 200 (some source) ∧
    Framed frame message ∧ delivered frameData source.items = (grpcFrame (server message), none)

section

variable {request : Request} {progress : Progress} {pool : DescriptorPool}
  {reply : Text → Bytes → Except ReplyError Text} {server : Bytes → Bytes} {serviceName methodName json : Text}
  {payload : Bytes} (described : Described request pool reply server serviceName methodName payload json)

include described

theorem Described.prepare_eq {now : Surroundings} (schema : now.pool = some pool) {backend : Uri}
    (member : backend ∈ request.target.upstreams) :
    ∃ uri, prepare request now backend = .ok ⟨grpcTargetPath serviceName methodName, uri, grpcFrame payload⟩ := by
  obtain ⟨front, parts⟩ := described.path
  obtain ⟨methods, known, listed⟩ := described.listed
  obtain ⟨bytes, held, encoded⟩ := described.encoded
  obtain ⟨uri, target⟩ := described.targets backend member
  have frame : encodeCall pool serviceName methodName request.requestBody = .ok (grpcFrame payload) := by
    simp only [encodeCall, known, listed, held, encoded, not_true_eq_false, if_false]
  refine ⟨uri, ?_⟩
  simp only [prepare, Transcoding.handleGrpcWeb, schema, described.method, parts, frame, target]
  rfl

theorem Described.attempt_eq (surroundings : List Surroundings)
    (speaks : ∀ now ∈ surroundings, Speaks pool reply server (grpcFrame payload) now)
    (reached : ∃ now ∈ surroundings.take (request.target.maxRetries + 1 - progress.attempts), now.outcome ≠ .failed) :
    (attempt request progress surroundings).answer = some (jsonResponse json) := by
  induction surroundings generalizing progress with
  | nil =>
    obtain ⟨now, member, -⟩ := reached
    rw [List.take_nil] at member
    cases member
  | cons now later ih =>
    obtain ⟨index, inside, selected⟩ :=
      exists_selected now.nodes request.clientHash now.rrCounter now.around progress.failedNodes
        described.upstreams
    obtain ⟨⟨schema, back⟩, spoken⟩ := speaks now List.mem_cons_self
    obtain ⟨uri, ready⟩ := described.prepare_eq schema (List.getElem_mem inside)
    rw [attempt]
    dsimp only
    rw [selected, Option.bind_some, List.getElem?_eq_getElem inside]
    dsimp only
    rw [ready]
    dsimp only
    rcases spoken with unreached | ⟨source, message, outcome, framed, complete⟩
    · rw [unreached]
      dsimp only
      -- one of the later attempts is the one that reaches its node
      obtain ⟨met, member, reaches⟩ := reached
      have again : progress.attempts + 1 ≤ request.target.maxRetries ∧
          met ∈ later.take (request.target.maxRetries - progress.attempts) := by
        cases count : request.target.maxRetries + 1 - progress.attempts with
        | zero =>
          rw [count, List.take_zero] at member
          cases member
        | succ left =>
          rw [count, List.take_succ_cons, List.mem_cons] at member
          have rest := member.resolve_left fun same => reaches (same ▸ unreached)
          obtain rfl : left = request.target.maxRetries - progress.attempts := by omega
          have some := List.length_pos_of_mem rest
          rw [List.length_take] at some
          exact ⟨by omega, rest⟩
      rw [if_pos again.1]
      apply ih fun other member => speaks other (List.mem_cons_of_mem _ member)
      refine ⟨met, ?_, reaches⟩
      rw [Progress.next, Nat.add_sub_add_right]
      exact again.2
    · have read := replyPayload_ok_iff.mpr (framed_grpcFrame payload described.short)
      obtain rfl := Except.ok.inj (read.symm.trans (replyPayload_ok_iff.mpr framed))
      have size : (grpcFrame (server payload)).length = 5 + (server payload).length := by
        rw [grpcFrame, List.length_append]
        rfl
      have fits := described.fits
      have short : (server payload).length < 2 ^ 32 := by
        unfold maxGrpcWebResponseBytes at fits
        omega
      have replies : Replies (now.reply (grpcTargetPath serviceName methodName)) source json :=
        ⟨_, _, complete, size.trans_le fits, framed_grpcFrame _ short, back ▸ described.replied⟩
      rw [outcome]
      dsimp only
      rw [replies.answer_eq]

end

/-- Transcoding keeps the meaning of a call: if the upstreams that can be reached answer messages with a function on
messages, the client gets the JSON of that function's value at the message of its JSON, as soon as one of the attempts
reaches its node. -/
theorem transcoding_round_trip (request : Request) (pool : DescriptorPool)
    (reply : Text → Bytes → Except ReplyError Text) (server : Bytes → Bytes) (serviceName methodName : Text)
    (payload : Bytes) (json : Text)
    (described : Described request pool reply server serviceName methodName payload json)
    (surroundings : List Surroundings)
    (speaks : ∀ now ∈ surroundings, Speaks pool reply server (grpcFrame payload) now)
    (reached : ∃ now ∈ surroundings.take (request.target.maxRetries + 1), now.outcome ≠ .failed) :
    (handleGrpcWeb request surroundings).answer = some (jsonResponse json) :=
  described.attempt_eq surroundings speaks reached

/-- The first attempt does not reach the node; the second one is answered with `ba`. -/
theorem transcoding_round_trip_reversed :
    (handleGrpcWeb echoRequest [meets .failed, meets (.response 200 (some reversedReply))]).answer =
      some (jsonResponse ['b', 'a']) := by
  have described : Described echoRequest callPool (fun _ payload => .ok (latin1 payload)) List.reverse ['s'] ['D']
      [97, 98] ['b', 'a'] := by
    refine ⟨rfl, ⟨[], rfl⟩, ⟨[['D']], rfl, List.mem_singleton_self _⟩, ⟨[97, 98], rfl, rfl⟩, by decide, by decide, ?_,
      rfl, by decide⟩
    intro upstream member
    rw [List.mem_singleton.mp member]
    exact ⟨_, rfl⟩
  refine transcoding_round_trip _ _ _ _ _ _ _ _ described _ ?_
    ⟨meets (.response 200 (some reversedReply)), by simp [echoRequest], nofun⟩
  intro now member
  rcases List.mem_pair.mp member with rfl | rfl
  · exact ⟨⟨rfl, rfl⟩, Or.inl rfl⟩
  · exact ⟨⟨rfl, rfl⟩, Or.inr ⟨reversedReply, [97, 98], rfl, framed_grpcFrame _ (by decide), rfl⟩⟩

end Praeco.Router.GrpcWeb
