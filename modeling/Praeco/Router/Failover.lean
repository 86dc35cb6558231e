import Praeco.Router.Balancing
import Praeco.Router.Headers
import Praeco.Router.Upstreams

/-! The failover loop of the two proxying handlers. An attempt selects an upstream, sends the request and either
answers the client or goes on to the next attempt; headers are moved out on the last attempt and a streamed body is
moved out on the first. -/

namespace Praeco.Router.Failover
open Praeco.Strings Utf8 Fields Praeco.Http.Target Praeco.Http.Message Praeco.Collections.Edits
open Praeco.Router.Config Praeco.Router.Headers Praeco.Router.Upstreams Praeco.Router.Balancing

inductive Version where
  | http09
  | http10
  | http11
  | http2
  | http3
  deriving DecidableEq, Repr

inductive RequestBody where
  | stream (content : Bytes)
  | buffered (bytes : Bytes)
  deriving DecidableEq, Repr

namespace RequestBody

def isStream : RequestBody → Bool
  | .stream _ => true
  | .buffered _ => false

def content : RequestBody → Bytes
  | .stream content => content
  | .buffered bytes => bytes

/-- What stays for another attempt: a stream is swapped for an empty buffer. -/
def remaining : RequestBody → RequestBody
  | .stream _ => .buffered []
  | .buffered bytes => .buffered bytes

end RequestBody

inductive ProxyErrorKind where
  | payloadTooLarge
  | decompressionLimitExceeded
  | clientAborted (reason : Text)
  | upstreamFailure
  deriving DecidableEq, Repr

inductive Outcome where
  | timedOut
  | response (response : Response)
  | failed (kind : ProxyErrorKind)
  deriving DecidableEq, Repr

structure UpstreamRequest where
  backend : Uri
  method : Method
  uri : Uri
  version : Version
  headers : HeaderMap
  body : Bytes
  deriving DecidableEq, Repr

/-- What an attempt tells the circuit breaker; faults of the client say nothing about the node. -/
inductive Report where
  | success
  | outlier
  | dead
  | silent
  deriving DecidableEq, Repr

def Report.isFailure : Report → Bool
  | .outlier => true
  | .dead => true
  | _ => false

structure Handler where
  version : Version → Version
  wireEdits : List HeaderEdit
  isOutlier : Response → Bool
  mayRepeat : Method → Bool
  errorResponse : Text → Nat → Text → Response

def isOutlierStatus (status : Nat) : Bool := status ∈ [502, 503, 504]

def grpcStatus : Text := "grpc-status".toList

def isGrpcOutlierResponse (response : Response) : Bool :=
  isOutlierStatus response.status ||
    ((response.headers.get grpcStatus).bind headerToStr).any fun text => trim text = ['1', '4']

def isIdempotent (method : Method) : Bool := method ∈ [.get, .head, .put, .delete, .options]

def buildGrpcErrorResponse (msg : Text) (httpStatus : Nat) (grpcStatusCode : Text) : Response :=
  ⟨httpStatus, [("content-type".toList, utf8 "application/grpc".toList), (grpcStatus, utf8 grpcStatusCode),
    ("grpc-message".toList, utf8 msg)], []⟩

/-- The headers that an HTTP/2 client refuses are taken out, and `TE` may only say `trailers`. -/
def passthroughEdits : List HeaderEdit :=
  [.remove connection, .remove transferEncoding, .remove upgrade, .remove te, .insert te (utf8 "trailers".toList)]

def httpProxy : Handler where
  version := id
  wireEdits := []
  isOutlier response := isOutlierStatus response.status
  mayRepeat := isIdempotent
  errorResponse msg status _ := buildErrorResponse msg status

def grpcPassthrough : Handler where
  version _ := .http2
  wireEdits := passthroughEdits
  isOutlier := isGrpcOutlierResponse
  mayRepeat _ := true
  errorResponse := buildGrpcErrorResponse

def cleanResponseHeaders (headers : HeaderMap) : HeaderMap :=
  applyAll headers (stripHops headers ++ [.remove "server".toList])

def verdict (handler : Handler) : Outcome → Report × Response
  | .timedOut => (.dead, handler.errorResponse "Gateway Timeout".toList 504 ['4'])
  | .response response =>
    (if handler.isOutlier response then .outlier else .success,
      { response with headers := cleanResponseHeaders response.headers })
  | .failed .payloadTooLarge => (.silent, handler.errorResponse "Payload Too Large".toList 413 ['8'])
  | .failed .decompressionLimitExceeded => (.silent, handler.errorResponse "Payload Too Large".toList 413 ['8'])
  | .failed (.clientAborted _) => (.silent, handler.errorResponse "Client Closed Request".toList 400 ['1'])
  | .failed .upstreamFailure => (.dead, handler.errorResponse "Bad Gateway".toList 502 ['1', '4'])

structure Incoming where
  target : RouteTarget
  library : UriLibrary
  body : RequestBody
  method : Method
  version : Version
  preparedHeaders : HeaderMap
  uri : Uri
  matchedParams : Params
  clientHash : Option Nat

/-- What an attempt meets: the nodes as it finds them, the headers of the trace context, and the outcome. -/
structure Surroundings where
  nodes : Nodes
  rrCounter : Nat
  around : Circumstances
  traceContext : List (Text × Bytes)
  outcome : Outcome

structure Progress where
  attempts : Nat
  failedNodes : List Uri
  preparedHeaders : HeaderMap
  body : RequestBody
  deriving DecidableEq, Repr

structure Trace where
  sent : List UpstreamRequest
  answer : Option (Except SrvError Response)

def start (incoming : Incoming) : Progress := ⟨0, [], incoming.preparedHeaders, incoming.body⟩

def sendEdits (handler : Handler) (uri : Uri) (traceContext : List (Text × Bytes)) : List HeaderEdit :=
  uri.authority.toList.flatMap (insertText host) ++ handler.wireEdits ++
    traceContext.map fun field => .insert field.1 field.2

def upstreamRequest (handler : Handler) (incoming : Incoming) (progress : Progress) (backend uri : Uri)
    (traceContext : List (Text × Bytes)) : UpstreamRequest where
  backend
  method := incoming.method
  uri
  version := handler.version incoming.version
  headers := applyAll progress.preparedHeaders (sendEdits handler uri traceContext)
  body := progress.body.content

def Progress.next (progress : Progress) (target : RouteTarget) (backend : Uri) (report : Report) : Progress where
  attempts := progress.attempts + 1
  failedNodes :=
    if report = .dead ∨ isMultiNode target then progress.failedNodes ++ [backend] else progress.failedNodes
  preparedHeaders := if progress.attempts = maxRetries target then [] else progress.preparedHeaders
  body := progress.body.remaining

def retries (handler : Handler) (incoming : Incoming) (attempts : Nat) : Bool :=
  !incoming.body.isStream && handler.mayRepeat incoming.method && attempts ≤ maxRetries incoming.target

def failover (handler : Handler) (incoming : Incoming) : Progress → List Surroundings → Trace
  | _, [] => ⟨[], none⟩
  | progress, now :: later =>
    let selected := nextUpstream incoming.target now.nodes incoming.clientHash now.rrCounter now.around
      progress.failedNodes
    match selected.1.bind (incoming.target.upstreams[·]?) with
    | none => ⟨[], none⟩
    | some backend =>
      match buildUpstreamUri incoming.library backend incoming.matchedParams incoming.uri with
      | .error error => ⟨[], some (.error error)⟩
      | .ok uri =>
        let request := upstreamRequest handler incoming progress backend uri now.traceContext
        let (report, response) := verdict handler now.outcome
        let next := progress.next incoming.target backend report
        if report.isFailure && retries handler incoming next.attempts then
          let rest := failover handler incoming next later
          ⟨request :: rest.sent, rest.answer⟩
        else ⟨[request], some (.ok response)⟩

def handleHttpProxy (incoming : Incoming) (surroundings : List Surroundings) : Trace :=
  failover httpProxy incoming (start incoming) surroundings

def handleGrpcPassthrough (incoming : Incoming) (surroundings : List Surroundings) : Trace :=
  failover grpcPassthrough incoming (start incoming) surroundings

section

variable {handler : Handler} {incoming : Incoming} {progress : Progress} {surroundings : List Surroundings}

inductive Attempted (handler : Handler) (incoming : Incoming) (progress : Progress) (now : Surroundings)
    (later : List Surroundings) : Trace → Prop where
  | unsent (answer : Option (Except SrvError Response)) : Attempted handler incoming progress now later ⟨[], answer⟩
  | answered (index : Nat) (backend uri : Uri) (response : Response) :
    (nextUpstream incoming.target now.nodes incoming.clientHash now.rrCounter now.around progress.failedNodes).1 =
      some index → incoming.target.upstreams[index]? = some backend →
    buildUpstreamUri incoming.library backend incoming.matchedParams incoming.uri = .ok uri →
    Attempted handler incoming progress now later
      ⟨[upstreamRequest handler incoming progress backend uri now.traceContext], some (.ok response)⟩
  | repeated (index : Nat) (backend uri : Uri) (report : Report) :
    (nextUpstream incoming.target now.nodes incoming.clientHash now.rrCounter now.around progress.failedNodes).1 =
      some index → incoming.target.upstreams[index]? = some backend →
    buildUpstreamUri incoming.library backend incoming.matchedParams incoming.uri = .ok uri →
    retries handler incoming (progress.attempts + 1) = true →
    Attempted handler incoming progress now later
      ⟨upstreamRequest handler incoming progress backend uri now.traceContext ::
          (failover handler incoming (progress.next incoming.target backend report) later).sent,
        (failover handler incoming (progress.next incoming.target backend report) later).answer⟩

theorem failover_cases (handler : Handler) (incoming : Incoming) (progress : Progress) (now : Surroundings)
    (later : List Surroundings) :
    Attempted handler incoming progress now later (failover handler incoming progress (now :: later)) := by
  unfold failover
  dsimp only
  split
  · exact .unsent none
  · next backend selected =>
    obtain ⟨index, found, here⟩ := Option.bind_eq_some_iff.mp selected
    split
    · exact .unsent _
    · next uri built =>
      split_ifs with again
      · rw [Bool.and_eq_true] at again
        exact .repeated index backend uri _ found here built again.2
      · exact .answered index backend uri _ found here built

structure Intact (incoming : Incoming) (progress : Progress) : Prop where
  allowed : progress.attempts ≤ maxRetries incoming.target
  headers : progress.preparedHeaders = incoming.preparedHeaders
  body : progress.body = incoming.body

theorem intact_start (incoming : Incoming) : Intact incoming (start incoming) := ⟨Nat.zero_le _, rfl, rfl⟩

theorem retries_iff (attempts : Nat) : retries handler incoming attempts = true ↔
    incoming.body.isStream = false ∧ handler.mayRepeat incoming.method = true ∧
      attempts ≤ maxRetries incoming.target := by
  simp [retries, and_assoc]

/-- Headers are moved out on the attempt that no other follows, and only streams are moved out before it. -/
theorem intact_next (intact : Intact incoming progress)
    (again : retries handler incoming (progress.attempts + 1) = true) (backend : Uri) (report : Report) :
    Intact incoming (progress.next incoming.target backend report) := by
  obtain ⟨held, -, allowed⟩ := (retries_iff _).mp again
  refine ⟨allowed, ?_, ?_⟩
  · have early : progress.attempts ≠ maxRetries incoming.target := by omega
    rw [Progress.next, if_neg early, intact.headers]
  · rw [Progress.next, intact.body]
    cases kind : incoming.body with
    | stream content =>
      rw [kind] at held
      cases held
    | buffered bytes => rfl

theorem sent_length (intact : Intact incoming progress) :
    (failover handler incoming progress surroundings).sent.length ≤ maxRetries incoming.target + 1 - progress.attempts := by
  induction surroundings generalizing progress with
  | nil => exact Nat.zero_le _
  | cons now later ih =>
    have allowed := intact.allowed
    have spec := failover_cases handler incoming progress now later
    generalize failover handler incoming progress (now :: later) = trace at spec ⊢
    cases spec with
    | unsent answer => exact Nat.zero_le _
    | answered index backend uri response found here built =>
      rw [List.length_singleton]
      omega
    | repeated index backend uri report found here built again =>
      have rest := ih (intact_next intact again backend report)
      have counted : (progress.next incoming.target backend report).attempts = progress.attempts + 1 := rfl
      have left := (intact_next intact again backend report).allowed
      rw [List.length_cons]
      omega

theorem sent_once (single : ∀ attempts, retries handler incoming attempts = false) :
    (failover handler incoming progress surroundings).sent.length ≤ 1 := by
  cases surroundings with
  | nil => exact Nat.zero_le _
  | cons now later =>
    have spec := failover_cases handler incoming progress now later
    generalize failover handler incoming progress (now :: later) = trace at spec ⊢
    cases spec with
    | unsent answer => exact Nat.zero_le _
    | answered index backend uri response found here built => exact le_rfl
    | repeated index backend uri report found here built again =>
      rw [single] at again
      cases again

/-- Whatever is sent has been made by an attempt that still has the whole request. -/
theorem sent_forall {property : UpstreamRequest → Prop} (intact : Intact incoming progress)
    (made : ∀ progress, Intact incoming progress → ∀ now ∈ surroundings, ∀ backend ∈ incoming.target.upstreams,
      ∀ uri, buildUpstreamUri incoming.library backend incoming.matchedParams incoming.uri = .ok uri →
        property (upstreamRequest handler incoming progress backend uri now.traceContext)) :
    ∀ request ∈ (failover handler incoming progress surroundings).sent, property request := by
  induction surroundings generalizing progress with
  | nil => exact List.forall_mem_nil _
  | cons now later ih =>
    have first := made progress intact now List.mem_cons_self
    have spec := failover_cases handler incoming progress now later
    generalize failover handler incoming progress (now :: later) = trace at spec ⊢
    cases spec with
    | unsent answer => exact List.forall_mem_nil _
    | answered index backend uri response found here built =>
      exact List.forall_mem_singleton.mpr (first backend (List.mem_of_getElem? here) uri built)
    | repeated index backend uri report found here built again =>
      refine List.forall_mem_cons.mpr ⟨first backend (List.mem_of_getElem? here) uri built, ?_⟩
      apply ih (intact_next intact again backend report)
      exact fun progress intact now member => made progress intact now (List.mem_cons_of_mem _ member)

def ownNames (handler : Handler) : List Text := host :: handler.wireEdits.map Edit.key

/-- Outgoing requests are edited under the names of the handler and of the trace context only. -/
theorem key_outgoing {wireEdits : List HeaderEdit} {uri : Uri} {traceContext : List (Text × Bytes)} {edit : HeaderEdit}
    (member : edit ∈ uri.authority.toList.flatMap (insertText host) ++ wireEdits ++
      traceContext.map fun field => .insert field.1 field.2) :
    edit.key ∈ host :: wireEdits.map Edit.key ++ traceContext.map Prod.fst := by
  rw [List.mem_append, List.mem_append] at member
  rcases member with (hosted | wired) | traced
  · obtain ⟨authority, -, inserted⟩ := List.mem_flatMap.mp hosted
    obtain ⟨value, -, rfl⟩ := List.mem_map.mp inserted
    exact List.mem_cons_self
  · exact List.mem_append_left _ (List.mem_cons_of_mem _ (List.mem_map_of_mem wired))
  · obtain ⟨field, member, rfl⟩ := List.mem_map.mp traced
    exact List.mem_append_right _ (List.mem_map_of_mem member)

def Carries (incoming : Incoming) (excepted : List Text) (request : UpstreamRequest) : Prop :=
  request.method = incoming.method ∧ request.body = incoming.body.content ∧
    ∀ name, name ∉ excepted → request.headers.getAll name = incoming.preparedHeaders.getAll name

theorem carries_upstreamRequest (intact : Intact incoming progress) (backend uri : Uri)
    (traceContext : List (Text × Bytes)) :
    Carries incoming (ownNames handler ++ traceContext.map Prod.fst)
      (upstreamRequest handler incoming progress backend uri traceContext) := by
  refine ⟨rfl, ?_, ?_⟩
  · rw [upstreamRequest, intact.body]
  · intro name other
    rw [upstreamRequest, intact.headers]
    exact values_of_unedited _ _ _ fun edit member same => other (same ▸ key_outgoing member)

/-- No request goes to an address that has failed while there is one that has not. -/
def Fresh (target : RouteTarget) (failed : List Uri) (sent : List UpstreamRequest) : Prop :=
  ∀ before request after, sent = before ++ request :: after →
    (∃ upstream ∈ target.upstreams, upstream ∉ failed ++ before.map UpstreamRequest.backend) →
    request.backend ∉ failed ++ before.map UpstreamRequest.backend

theorem fresh_nil (target : RouteTarget) (failed : List Uri) : Fresh target failed [] := by
  intro before request after same
  simp at same

theorem fresh_cons {target : RouteTarget} {failed : List Uri} {request : UpstreamRequest} {sent : List UpstreamRequest}
    (first : (∃ upstream ∈ target.upstreams, upstream ∉ failed) → request.backend ∉ failed)
    (rest : Fresh target (failed ++ [request.backend]) sent) : Fresh target failed (request :: sent) := by
  intro before other after same
  cases before with
  | nil =>
    cases same
    simpa using first
  | cons earlier before =>
    cases same
    simpa [List.append_assoc] using rest before other after rfl

theorem sent_fresh (several : 1 < incoming.target.upstreams.length) :
    Fresh incoming.target progress.failedNodes (failover handler incoming progress surroundings).sent := by
  induction surroundings generalizing progress with
  | nil => exact fresh_nil _ _
  | cons now later ih =>
    have spec := failover_cases handler incoming progress now later
    generalize failover handler incoming progress (now :: later) = trace at spec ⊢
    cases spec with
    | unsent answer => exact fresh_nil _ _
    | answered index backend uri response found here built =>
      exact fresh_cons (selected_fresh several found here) (fresh_nil _ _)
    | repeated index backend uri report found here built again =>
      apply fresh_cons (selected_fresh several found here)
      have pushed : (progress.next incoming.target backend report).failedNodes = progress.failedNodes ++ [backend] :=
        if_pos (.inr (by simpa [isMultiNode] using several))
      rw [upstreamRequest, ← pushed]
      exact ih

/-- How the loop ends: the response is that of the last attempt, after attempts that have all failed; or there is none
because the address for an upstream cannot be built. -/
inductive Ends (handler : Handler) (incoming : Incoming) (surroundings : List Surroundings) (trace : Trace) : Prop where
  | answered (failed : List Surroundings) (last : Surroundings) (further : List Surroundings)
    (attempts : surroundings = failed ++ last :: further) (sent : trace.sent.length = failed.length + 1)
    (failures : ∀ now ∈ failed, (verdict handler now.outcome).1.isFailure = true)
    (answer : trace.answer = some (.ok (verdict handler last.outcome).2))
  | refused (backend : Uri) (error : SrvError) (configured : backend ∈ incoming.target.upstreams)
    (refused : buildUpstreamUri incoming.library backend incoming.matchedParams incoming.uri = .error error)
    (answer : trace.answer = some (.error error))

theorem Ends.later {now : Surroundings} {later : List Surroundings} {rest : Trace} (request : UpstreamRequest)
    (failed : (verdict handler now.outcome).1.isFailure = true) (ends : Ends handler incoming later rest) :
    Ends handler incoming (now :: later) ⟨request :: rest.sent, rest.answer⟩ := by
  cases ends with
  | answered before last further attempts sent failures answer =>
    refine .answered (now :: before) last further (by rw [attempts, List.cons_append]) ?_ ?_ answer
    · rw [List.length_cons, List.length_cons, sent]
    · exact List.forall_mem_cons.mpr ⟨failed, failures⟩
  | refused backend error configured refused answer => exact .refused backend error configured refused answer

/-- With as many outcomes as there may be attempts, the loop comes to its end. -/
theorem failover_answers (upstreams : incoming.target.upstreams ≠ []) (intact : Intact incoming progress)
    (enough : maxRetries incoming.target < progress.attempts + surroundings.length) :
    Ends handler incoming surroundings (failover handler incoming progress surroundings) := by
  induction surroundings generalizing progress with
  | nil =>
    have := intact.allowed
    simp only [List.length_nil] at enough
    omega
  | cons now later ih =>
    obtain ⟨index, inside, selected⟩ :=
      exists_selected now.nodes incoming.clientHash now.rrCounter now.around progress.failedNodes upstreams
    unfold failover
    dsimp only
    rw [selected, Option.bind_some, List.getElem?_eq_getElem inside]
    dsimp only
    split
    · next error refused => exact .refused _ error (List.getElem_mem inside) refused rfl
    · split_ifs with again
      · rw [Bool.and_eq_true] at again
        apply Ends.later _ again.1
        apply ih (intact_next intact again.2 _ _)
        rw [List.length_cons] at enough
        change maxRetries incoming.target < progress.attempts + 1 + later.length
        omega
      · exact .answered [] now later rfl rfl nofun rfl

end

theorem Carries.mono {incoming : Incoming} {excepted more : List Text} {request : UpstreamRequest}
    (carries : Carries incoming excepted request) (fewer : excepted ⊆ more) : Carries incoming more request :=
  ⟨carries.1, carries.2.1, fun name other => carries.2.2 name fun member => other (fewer member)⟩

/-- What the loop promises about the requests that it sends: how many they are, that each carries the client's
request but for the excepted headers and those of the trace context, that streams are sent once, and that addresses
which have failed are left alone. -/
structure Sound (excepted : List Text) (incoming : Incoming) (surroundings : List Surroundings)
    (sent : List UpstreamRequest) : Prop where
  bounded : sent.length ≤ 1 + min incoming.target.maxRetries (incoming.target.upstreams.length - 1)
  carried : ∀ request ∈ sent, ∃ now ∈ surroundings,
    Carries incoming (excepted ++ now.traceContext.map Prod.fst) request
  streamedOnce : incoming.body.isStream = true → sent.length ≤ 1
  fresh : Fresh incoming.target [] sent

theorem fresh_single {target : RouteTarget} {sent : List UpstreamRequest} (single : sent.length ≤ 1) :
    Fresh target [] sent := by
  intro before request after same
  have first : before = [] := by
    rw [same, List.length_append, List.length_cons] at single
    apply List.eq_nil_of_length_eq_zero
    omega
  simp [first]

theorem failover_sound (handler : Handler) (incoming : Incoming) (surroundings : List Surroundings)
    {excepted : List Text} (own : ownNames handler ⊆ excepted) :
    Sound excepted incoming surroundings (failover handler incoming (start incoming) surroundings).sent := by
  have intact := intact_start incoming
  have limit : maxRetries incoming.target = min incoming.target.maxRetries (incoming.target.upstreams.length - 1) := by
    unfold maxRetries isMultiNode
    split_ifs with several
    · rfl
    · simp only [decide_eq_true_eq] at several
      omega
  have length : (failover handler incoming (start incoming) surroundings).sent.length ≤
      1 + min incoming.target.maxRetries (incoming.target.upstreams.length - 1) := by
    have bounded : (failover handler incoming (start incoming) surroundings).sent.length ≤
        maxRetries incoming.target + 1 - 0 := sent_length intact
    omega
  constructor
  · exact length
  · refine sent_forall intact ?_
    intro progress intact now member backend _ uri _
    refine ⟨now, member, (carries_upstreamRequest intact backend uri now.traceContext).mono ?_⟩
    exact List.append_subset.mpr ⟨List.Subset.trans own (List.subset_append_left _ _), List.subset_append_right _ _⟩
  · intro streamed
    apply sent_once
    intro attempts
    simp [retries, streamed]
  · by_cases several : 1 < incoming.target.upstreams.length
    · exact sent_fresh several
    · apply fresh_single
      omega

/-- Both handlers send within the limit, carry the request whole but for headers of their own, send what cannot be
repeated once, and turn to addresses that have not failed. -/
theorem handlers_sound (incoming : Incoming) (surroundings : List Surroundings) :
    Sound [host] incoming surroundings (handleHttpProxy incoming surroundings).sent ∧
    (incoming.method ∉ [.get, .head, .put, .delete, .options] →
      (handleHttpProxy incoming surroundings).sent.length ≤ 1) ∧
    Sound [host, te, connection, transferEncoding, upgrade] incoming surroundings
      (handleGrpcPassthrough incoming surroundings).sent := by
  refine ⟨failover_sound httpProxy incoming surroundings (by decide), ?_,
    failover_sound grpcPassthrough incoming surroundings (by decide)⟩
  intro unrepeatable
  apply sent_once
  intro attempts
  simp only [retries, httpProxy, isIdempotent, unrepeatable, decide_false, Bool.and_false, Bool.false_and]

def upgradeForwarding : ServerConfig := ⟨.https, none, some ⟨none, some upgrade, none, none⟩⟩

def certifiedPeer : PeerExtensions := ⟨none, none, some ['s'], ⟨none, none, none⟩⟩

def upgradedCall : Incoming where
  target := ⟨[⟨none, some ['a'], ['/'], none⟩], .random, 10, 1, 3, 0, 0⟩
  library := permissive
  body := .buffered []
  method := .post
  version := .http2
  preparedHeaders := applyAll [] (proxyEdits id none certifiedPeer upgradeForwarding 10 [])
  uri := ⟨none, none, ['/'], none⟩
  matchedParams := []
  clientHash := none

/-- The node of the first attempt cannot be reached, and the second one answers. -/
theorem failover_answers_late :
    let call : Incoming := { upgradedCall with
      target := ⟨[⟨none, some ['a'], ['/'], none⟩, ⟨none, some ['b'], ['/'], none⟩], .random, 10, 1, 3, 0, 0⟩ }
    let down : Surroundings := ⟨fun _ => .new, 0, ⟨fun _ => 0, 0⟩, [], .failed .upstreamFailure⟩
    let up : Surroundings := ⟨fun _ => .new, 0, ⟨fun _ => 0, 0⟩, [], .response ⟨200, [], []⟩⟩
    (failover grpcPassthrough call (start call) [down, up]).sent.map (·.backend) = call.target.upstreams ∧
      (failover grpcPassthrough call (start call) [down, up]).answer = some (.ok ⟨200, [], []⟩) ∧
      Ends grpcPassthrough call [down, up] (failover grpcPassthrough call (start call) [down, up]) := by
  intro call down up
  exact ⟨by decide +kernel, by decide +kernel, failover_answers (by decide) (intact_start call) (by decide)⟩

/-- The prepared headers hold an `Upgrade` that the passthrough handler does not send. -/
theorem passthrough_drops_upgrade :
    let answered : Surroundings := ⟨fun _ => .new, 0, ⟨fun _ => 0, 0⟩, [], .response ⟨200, [], []⟩⟩
    prepareProxyHeaders id none certifiedPeer upgradeForwarding [] = .ok upgradedCall.preparedHeaders ∧
      upgradedCall.preparedHeaders.getAll upgrade = [utf8 ['s']] ∧
      (handleGrpcPassthrough upgradedCall [answered]).sent.map (fun request => request.headers.getAll upgrade) = [[]] ∧
      upgrade ∉ [host, te] ++ answered.traceContext.map Prod.fst := by
  have passed : nextMaxForwards [] = .ok 10 := rfl
  refine ⟨?_, ?_, ?_, ?_⟩
  · rw [prepareProxyHeaders_eq id none certifiedPeer upgradeForwarding passed]
    dsimp only [upgradedCall]
  · decide +kernel
  · decide +kernel
  · decide

end Praeco.Router.Failover
