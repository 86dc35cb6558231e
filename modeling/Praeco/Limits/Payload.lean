import Praeco.Http.Message
import Praeco.Streams.BigEndian
import Praeco.Strings.Fields

/-! The payload limit on request bodies. A plain body is limited as a whole. A gRPC body is limited message by message:
every message begins with five bytes that declare its length. -/

namespace Praeco.Limits.Payload
open Praeco.Strings Utf8 Fields Praeco.Http.Message Praeco.Streams

/-- What the body yields: data, or trailers, which the limit does not look at. -/
inductive Frame where
  | data (bytes : Bytes)
  | trailers (headers : HeaderMap)
  deriving DecidableEq, Repr

inductive SrvError where
  | payloadTooLarge (current max : Nat)
  | other (message : Text)
  deriving DecidableEq, Repr

/-- `buf` holds the bytes of the prefix that have arrived. -/
inductive GrpcFramingState where
  | header (buf : Bytes) (fits : buf.length ≤ 5)
  | payload (remaining : Nat)
  deriving DecidableEq, Repr

structure LimitedBody where
  maxBytes : Nat
  currentBytes : Nat
  grpcState : Option GrpcFramingState
  deriving DecidableEq, Repr

def msgLen (buf : Bytes) : Nat := BigEndian.decode (buf.drop 1)

namespace GrpcFramingState

def start : GrpcFramingState := .header [] (Nat.zero_le 5)

/-- A bound on the turns of the loop that take no byte. -/
def idleTurns : GrpcFramingState → Nat
  | .header buf _ => if buf.length = 5 then 2 else 0
  | .payload _ => 1

end GrpcFramingState

open GrpcFramingState in
/-- The loop over the bytes of one data frame, with the declared length that exceeds the limit if it meets one. -/
def parseFrame (maxBytes : Nat) (state : GrpcFramingState) (data : Bytes) : GrpcFramingState × Option Nat :=
  if data.length = 0 then (state, none)
  else
    match state with
    | .header buf fits =>
      let toCopy := min (5 - buf.length) data.length
      let filled := buf ++ data.take toCopy
      have within : filled.length ≤ 5 := by
        rw [List.length_append, List.length_take]
        omega
      if filled.length = 5 then
        if maxBytes < msgLen filled then (.header filled within, some (msgLen filled))
        else parseFrame maxBytes (.payload (msgLen filled)) (data.drop toCopy)
      else parseFrame maxBytes (.header filled within) (data.drop toCopy)
    | .payload remaining =>
      let consumed := min data.length remaining
      if remaining - consumed = 0 then parseFrame maxBytes start (data.drop consumed)
      else parseFrame maxBytes (.payload (remaining - consumed)) (data.drop consumed)
termination_by 3 * data.length + state.idleTurns
decreasing_by
  · simp only [List.length_drop, idleTurns]
    split_ifs <;> omega
  · have part : buf.length + min (5 - buf.length) data.length ≠ 5 := by
      simpa [filled, toCopy, List.length_append, List.length_take] using ‹¬filled.length = 5›
    simp only [List.length_drop, idleTurns]
    split_ifs <;> omega
  · simp only [List.length_drop, idleTurns, start, List.length_nil]
    rw [if_neg (by decide)]
    omega
  · simp only [List.length_drop, idleTurns]
    omega

namespace LimitedBody

def pollFrame (body : LimitedBody) : Except SrvError Frame → LimitedBody × Except SrvError Frame
  | .ok (.data bytes) =>
    match body.grpcState with
    | some state =>
      let (state, oversized) := parseFrame body.maxBytes state bytes
      ({ body with grpcState := some state },
        match oversized with
        | some size => .error (.payloadTooLarge size body.maxBytes)
        | none => .ok (.data bytes))
    | none =>
      let currentBytes := body.currentBytes + bytes.length
      ({ body with currentBytes := currentBytes },
        if body.maxBytes < currentBytes then .error (.payloadTooLarge currentBytes body.maxBytes)
        else .ok (.data bytes))
  | polled => (body, polled)

def new (maxBytes : Nat) (isGrpc : Bool) : LimitedBody := ⟨maxBytes, 0, if isGrpc then some .start else none⟩

def after (body : LimitedBody) (frames : List Frame) : LimitedBody :=
  frames.foldl (fun body frame => (body.pollFrame (.ok frame)).1) body

end LimitedBody

def answer (maxBytes : Nat) (isGrpc : Bool) (earlier : List Frame) (frame : Frame) : Except SrvError Frame :=
  (((LimitedBody.new maxBytes isGrpc).after earlier).pollFrame (.ok frame)).2

def Rejected (maxBytes : Nat) (isGrpc : Bool) (frames : List Frame) : Prop :=
  ∃ earlier frame later error, frames = earlier ++ frame :: later ∧ answer maxBytes isGrpc earlier frame = .error error

def call (maxBytes : Nat) (headers : HeaderMap) : Except Response LimitedBody :=
  let contentLength := (headers.get "content-length".toList).bind fun value => parseUsize ((headerToStr value).getD [])
  let isGrpc := ((headers.get "content-type".toList).bind headerToStr).any fun value =>
    "application/grpc".toList <+: toAsciiLowercase (trim value)
  match contentLength with
  | some length =>
    if maxBytes < length then .error (buildErrorResponse "Payload too large (Header check)".toList 413)
    else .ok (.new maxBytes isGrpc)
  | none => .ok (.new maxBytes isGrpc)

def stream (frames : List Frame) : Bytes :=
  frames.flatMap fun frame =>
    match frame with
    | .data bytes => bytes
    | .trailers _ => []

def declaredLengths (bytes : Bytes) : List Nat :=
  if bytes.length < 5 then []
  else msgLen (bytes.take 5) :: declaredLengths (bytes.drop (5 + msgLen (bytes.take 5)))
termination_by bytes.length
decreasing_by
  rw [List.length_drop]
  omega

namespace GrpcFramingState

variable (maxBytes : Nat)

def push (buf : Bytes) (b : UInt8) (room : buf.length < 5) : GrpcFramingState :=
  if buf.length = 4 ∧ msgLen (buf ++ [b]) ≤ maxBytes then .payload (msgLen (buf ++ [b]))
  else .header (buf ++ [b]) (by rw [List.length_append, List.length_singleton]; omega)

def feed : GrpcFramingState → UInt8 → GrpcFramingState
  | .header buf fits, b => if room : buf.length < 5 then push maxBytes buf b room else .header buf fits
  | .payload 0, b => push maxBytes [] b (by decide)
  | .payload 1, _ => start
  | .payload (remaining + 2), _ => .payload (remaining + 1)

def feedAll (state : GrpcFramingState) (data : Bytes) : GrpcFramingState := data.foldl (feed maxBytes) state

/-- A complete prefix is kept only if it declares too much. -/
def oversized : GrpcFramingState → Option Nat
  | .header buf _ => if buf.length = 5 then some (msgLen buf) else none
  | .payload _ => none

def Sound (state : GrpcFramingState) : Prop := ∀ size ∈ state.oversized, maxBytes < size

variable {maxBytes}

variable (buf : Bytes)

theorem sound_push (b : UInt8) (room : buf.length < 5) : (push maxBytes buf b room).Sound maxBytes := by
  unfold push
  split_ifs with small
  · intro size found
    cases found
  · intro size found
    simp only [oversized, List.length_append, List.length_singleton, Option.mem_def, Option.ite_none_right_eq_some,
      Option.some.injEq] at found
    omega

theorem Sound.feed {state : GrpcFramingState} (sound : state.Sound maxBytes) (b : UInt8) :
    (state.feed maxBytes b).Sound maxBytes := by
  fun_cases GrpcFramingState.feed maxBytes state b with
  | case1 buf fits b room => exact sound_push buf b room
  | case2 buf fits b full => exact sound
  | case3 b => exact sound_push [] b _
  | case4 b =>
    intro size found
    cases found
  | case5 remaining b =>
    intro size found
    cases found

theorem Sound.feedAll {state : GrpcFramingState} (sound : state.Sound maxBytes) (data : Bytes) :
    (state.feedAll maxBytes data).Sound maxBytes := by
  induction data generalizing state with
  | nil => exact sound
  | cons b data ih => exact ih (sound.feed b)

theorem feedAll_append (state : GrpcFramingState) (first second : Bytes) :
    feedAll maxBytes state (first ++ second) = feedAll maxBytes (feedAll maxBytes state first) second :=
  List.foldl_append

theorem feedAll_split (state : GrpcFramingState) (data : Bytes) (k : Nat) :
    feedAll maxBytes state data = feedAll maxBytes (feedAll maxBytes state (data.take k)) (data.drop k) := by
  rw [← feedAll_append, List.take_append_drop]

theorem feedAll_full (fits : buf.length ≤ 5) (full : buf.length = 5) (data : Bytes) :
    feedAll maxBytes (.header buf fits) data = .header buf fits := by
  induction data with
  | nil => rfl
  | cons b data ih =>
    have stays : feed maxBytes (.header buf fits) b = .header buf fits := by
      rw [feed, dif_neg (by omega)]
    rw [feedAll, List.foldl_cons, stays]
    exact ih

theorem feedAll_part (fits : buf.length ≤ 5) (data : Bytes) (short : buf.length + data.length < 5) :
    feedAll maxBytes (.header buf fits) data =
      .header (buf ++ data) (by rw [List.length_append]; omega) := by
  induction data generalizing buf with
  | nil => simp [feedAll]
  | cons b data ih =>
    rw [List.length_cons] at short
    have room : buf.length < 5 := by omega
    have grows : feed maxBytes (.header buf fits) b =
        .header (buf ++ [b]) (by rw [List.length_append, List.length_singleton]; omega) := by
      rw [feed, dif_pos room, push, if_neg (by omega)]
    have size : (buf ++ [b]).length + data.length < 5 := by
      rw [List.length_append, List.length_singleton]
      omega
    rw [feedAll, List.foldl_cons, grows]
    refine (ih (buf ++ [b]) _ size).trans ?_
    simp

theorem feedAll_complete (data : Bytes) (fits : buf.length ≤ 5) (more : data ≠ [])
    (size : buf.length + data.length = 5) :
    feedAll maxBytes (.header buf fits) data =
      if maxBytes < msgLen (buf ++ data) then .header (buf ++ data) (by rw [List.length_append, size])
      else .payload (msgLen (buf ++ data)) := by
  obtain ⟨front, last, rfl⟩ : ∃ front last, data = front ++ [last] :=
    ⟨data.dropLast, data.getLast more, (List.dropLast_concat_getLast more).symm⟩
  rw [List.length_append, List.length_singleton] at size
  have four : (buf ++ front).length = 4 := by
    rw [List.length_append]
    omega
  rw [feedAll_append, feedAll_part buf fits front (by omega), feedAll, List.foldl_cons, List.foldl_nil, feed,
    dif_pos (by omega), push]
  simp only [List.append_assoc] at four ⊢
  by_cases small : msgLen (buf ++ (front ++ [last])) ≤ maxBytes
  · rw [if_pos ⟨four, small⟩, if_neg (by omega)]
  · rw [if_neg (fun both => small both.2), if_pos (by omega)]

theorem feedAll_filled (data : Bytes) (fits : buf.length ≤ 5) (sound : (header buf fits).Sound maxBytes)
    (size : buf.length + data.length = 5) :
    feedAll maxBytes (.header buf fits) data =
      if maxBytes < msgLen (buf ++ data) then .header (buf ++ data) (by rw [List.length_append, size])
      else .payload (msgLen (buf ++ data)) := by
  by_cases more : data = []
  · subst more
    have large : maxBytes < msgLen buf := by
      apply sound
      rw [oversized, if_pos (by simpa using size)]
      rfl
    simp [feedAll, large]
  · exact feedAll_complete buf data fits more size

theorem feedAll_payload_part (remaining : Nat) (data : Bytes) (short : data.length < remaining) :
    feedAll maxBytes (.payload remaining) data = .payload (remaining - data.length) := by
  induction data generalizing remaining with
  | nil => rfl
  | cons b data ih =>
    rw [List.length_cons] at short
    obtain ⟨less, rfl⟩ : ∃ less, remaining = less + 2 := ⟨remaining - 2, by omega⟩
    rw [feedAll, List.foldl_cons, feed]
    refine (ih (less + 1) (by omega)).trans ?_
    rw [List.length_cons]
    congr 1
    omega

theorem feedAll_payload_done (remaining : Nat) (data : Bytes) (positive : 0 < remaining)
    (size : data.length = remaining) : feedAll maxBytes (.payload remaining) data = start := by
  have more : data ≠ [] := by
    rintro rfl
    rw [List.length_nil] at size
    omega
  obtain ⟨front, last, rfl⟩ : ∃ front last, data = front ++ [last] :=
    ⟨data.dropLast, data.getLast more, (List.dropLast_concat_getLast more).symm⟩
  rw [List.length_append, List.length_singleton] at size
  have one : remaining - front.length = 1 := by omega
  rw [feedAll_append, feedAll_payload_part remaining front (by omega), one]
  rfl

theorem feedAll_payload_zero (data : Bytes) (more : data ≠ []) :
    feedAll maxBytes (.payload 0) data = feedAll maxBytes start data := by
  cases data with
  | nil => exact absurd rfl more
  | cons b data => rfl

end GrpcFramingState

open GrpcFramingState

theorem feedAll_result {maxBytes : Nat} {state next : GrpcFramingState} {data rest : Bytes} (more : data ≠ [])
    (moved : state.feedAll maxBytes data = next.feedAll maxBytes rest) (clear : next.oversized = none) :
    (next.feedAll maxBytes rest, if rest = [] then none else (next.feedAll maxBytes rest).oversized) =
      (state.feedAll maxBytes data, if data = [] then none else (state.feedAll maxBytes data).oversized) := by
  rw [if_neg more, moved]
  by_cases done : rest = []
  · subst done
    rw [if_pos rfl]
    exact congrArg _ clear.symm
  · rw [if_neg done]

variable (maxBytes : Nat)

/-- The loop over a frame feeds its bytes, and fails exactly in the states that keep a complete prefix. -/
theorem parseFrame_eq (state : GrpcFramingState) (data : Bytes) (sound : state.Sound maxBytes) :
    parseFrame maxBytes state data =
      (state.feedAll maxBytes data, if data = [] then none else (state.feedAll maxBytes data).oversized) := by
  fun_induction parseFrame maxBytes state data with
  | case1 state data empty =>
    rw [List.length_eq_zero_iff.mp empty]
    rfl
  | case2 data present buf fits toCopy filled within full large =>
    have size : buf.length + (data.take toCopy).length = 5 := by rw [← List.length_append, ← full]
    have moved : feedAll maxBytes (.header buf fits) data = .header filled within := by
      rw [feedAll_split _ data toCopy, feedAll_filled buf _ fits sound size, if_pos large, feedAll_full _ _ full]
    rw [moved, if_neg (fun empty => present (List.length_eq_zero_iff.mpr empty)), oversized, if_pos full]
  | case3 data present buf fits toCopy filled within full small ih =>
    have size : buf.length + (data.take toCopy).length = 5 := by rw [← List.length_append, ← full]
    rw [ih (fun _ found => by cases found)]
    apply feedAll_result (fun empty => present (List.length_eq_zero_iff.mpr empty)) _ rfl
    rw [feedAll_split _ data toCopy, feedAll_filled buf _ fits sound size, if_neg small]
  | case4 data present buf fits toCopy filled within part ih =>
    have size : buf.length + (data.take toCopy).length < 5 := by
      rw [← List.length_append]
      exact lt_of_le_of_ne within part
    have clear : (header filled within).oversized = none := by rw [oversized, if_neg part]
    rw [ih (fun _ found => by rw [clear] at found; cases found)]
    apply feedAll_result (fun empty => present (List.length_eq_zero_iff.mpr empty)) _ clear
    rw [feedAll_split _ data toCopy, feedAll_part buf fits _ size]
  | case5 data present remaining consumed done ih =>
    have more : data ≠ [] := fun empty => present (List.length_eq_zero_iff.mpr empty)
    rw [ih (fun _ found => by cases found)]
    apply feedAll_result more _ rfl
    by_cases empty : remaining = 0
    · subst empty
      rw [feedAll_payload_zero data more, show consumed = 0 from Nat.min_zero _, List.drop_zero]
    · have size : (data.take consumed).length = remaining := by
        rw [List.length_take]
        omega
      rw [feedAll_split _ data consumed, feedAll_payload_done remaining _ (by omega) size]
  | case6 data present remaining consumed more ih =>
    have size : (data.take consumed).length = consumed := by
      rw [List.length_take]
      omega
    rw [ih (fun _ found => by cases found)]
    apply feedAll_result (fun empty => present (List.length_eq_zero_iff.mpr empty)) _ rfl
    rw [feedAll_split _ data consumed, feedAll_payload_part remaining _ (by omega), size]

theorem sound_start : start.Sound maxBytes := by
  intro size found
  cases found

theorem oversized_payload (remaining : Nat) (data : Bytes) :
    (feedAll maxBytes (.payload remaining) data).oversized =
      (feedAll maxBytes start (data.drop remaining)).oversized := by
  by_cases short : data.length < remaining
  · rw [feedAll_payload_part remaining data short, List.drop_eq_nil_of_le (by omega)]
    rfl
  · by_cases zero : remaining = 0
    · subst zero
      by_cases more : data = []
      · rw [more]
        rfl
      · rw [feedAll_payload_zero data more, List.drop_zero]
    · have size : (data.take remaining).length = remaining := by
        rw [List.length_take]
        omega
      rw [feedAll_split _ data remaining, feedAll_payload_done remaining _ (by omega) size]

theorem oversized_feedAll (bytes : Bytes) :
    (feedAll maxBytes start bytes).oversized = (declaredLengths bytes).find? (fun size => maxBytes < size) := by
  fun_induction declaredLengths bytes with
  | case1 bytes short =>
    have state : feedAll maxBytes start bytes = .header bytes (by omega) :=
      feedAll_part [] (by decide) bytes (by rw [List.length_nil]; omega)
    rw [state, oversized, if_neg (by omega)]
    rfl
  | case2 bytes long ih =>
    have size : ([] : Bytes).length + (bytes.take 5).length = 5 := by
      rw [List.length_nil, List.length_take]
      omega
    have state : feedAll maxBytes start bytes = feedAll maxBytes
        (if maxBytes < msgLen (bytes.take 5) then .header (bytes.take 5) (by rw [List.length_take]; omega)
          else .payload (msgLen (bytes.take 5))) (bytes.drop 5) := by
      rw [feedAll_split _ bytes 5, start, feedAll_filled [] _ _ (sound_start maxBytes) size]
      rfl
    rw [state, List.find?_cons]
    by_cases large : maxBytes < msgLen (bytes.take 5)
    · have full : (bytes.take 5).length = 5 := by
        rw [List.length_take]
        omega
      rw [if_pos large, feedAll_full _ _ full, oversized, if_pos full, decide_eq_true large]
    · rw [if_neg large, oversized_payload, List.drop_drop, ih, decide_eq_false large]

theorem oversized_append (state : GrpcFramingState) (data : Bytes) (size : Nat) (found : state.oversized = some size) :
    (feedAll maxBytes state data).oversized = some size := by
  cases state with
  | header buf fits =>
    rw [oversized] at found
    split_ifs at found with full
    rw [feedAll_full buf fits full, oversized, if_pos full, found]
  | payload remaining => cases found

@[simp] theorem stream_nil : stream [] = [] := rfl

@[simp] theorem stream_trailers (headers : HeaderMap) : stream [.trailers headers] = [] := rfl

theorem stream_append (first second : List Frame) : stream (first ++ second) = stream first ++ stream second :=
  List.flatMap_append

theorem stream_data (earlier later : List Frame) (bytes : Bytes) :
    stream (earlier ++ .data bytes :: later) = stream earlier ++ bytes ++ stream later := by
  rw [stream_append, List.append_assoc]
  rfl

variable (frames : List Frame)

theorem after_grpc :
    (LimitedBody.new maxBytes true).after frames = ⟨maxBytes, 0, some (feedAll maxBytes start (stream frames))⟩ := by
  induction frames using List.reverseRecOn with
  | nil => rfl
  | append_singleton frames frame ih =>
    rw [stream_append, feedAll_append, LimitedBody.after, List.foldl_append]
    change ((LimitedBody.after _ frames).pollFrame (.ok frame)).1 = _
    rw [ih]
    cases frame with
    | data bytes =>
      rw [LimitedBody.pollFrame]
      dsimp only
      rw [parseFrame_eq maxBytes _ bytes ((sound_start maxBytes).feedAll _)]
      simp [stream]
    | trailers headers => simp [LimitedBody.pollFrame, stream, feedAll]

theorem after_plain : (LimitedBody.new maxBytes false).after frames = ⟨maxBytes, (stream frames).length, none⟩ := by
  induction frames using List.reverseRecOn with
  | nil => rfl
  | append_singleton frames frame ih =>
    rw [stream_append, LimitedBody.after, List.foldl_append]
    change ((LimitedBody.after _ frames).pollFrame (.ok frame)).1 = _
    rw [ih]
    cases frame with
    | data bytes => simp [LimitedBody.pollFrame, stream]
    | trailers headers => simp [LimitedBody.pollFrame, stream]

def firstOversized (maxBytes : Nat) (bytes : Bytes) : Option Nat :=
  (declaredLengths bytes).find? fun size => maxBytes < size

theorem firstOversized_append (first second : Bytes) (size : Nat) (found : firstOversized maxBytes first = some size) :
    firstOversized maxBytes (first ++ second) = some size := by
  rw [firstOversized, ← oversized_feedAll] at found ⊢
  rw [feedAll_append, oversized_append maxBytes _ second size found]

theorem answer_grpc (earlier : List Frame) (bytes : Bytes) :
    answer maxBytes true earlier (.data bytes) =
      match firstOversized maxBytes (stream earlier ++ bytes) with
      | some size => if bytes = [] then .ok (.data bytes) else .error (.payloadTooLarge size maxBytes)
      | none => .ok (.data bytes) := by
  rw [firstOversized, ← oversized_feedAll, feedAll_append, answer, after_grpc, LimitedBody.pollFrame]
  dsimp only
  rw [parseFrame_eq maxBytes _ bytes ((sound_start maxBytes).feedAll _)]
  by_cases empty : bytes = []
  · simp only [empty, if_true]
    split <;> rfl
  · simp only [empty, if_false]

theorem answer_plain (earlier : List Frame) (bytes : Bytes) :
    answer maxBytes false earlier (.data bytes) =
      if maxBytes < (stream earlier ++ bytes).length then
        .error (.payloadTooLarge (stream earlier ++ bytes).length maxBytes)
      else .ok (.data bytes) := by
  rw [answer, after_plain, LimitedBody.pollFrame, List.length_append]

theorem answer_grpc_large {maxBytes : Nat} (earlier : List Frame) (bytes : Bytes) (size : Nat)
    (found : firstOversized maxBytes (stream earlier ++ bytes) = some size) (more : bytes ≠ []) :
    answer maxBytes true earlier (.data bytes) = .error (.payloadTooLarge size maxBytes) := by
  rw [answer_grpc, found]
  exact if_neg more

theorem Rejected.append {maxBytes : Nat} {isGrpc : Bool} {frames : List Frame} (more : List Frame)
    (rejected : Rejected maxBytes isGrpc frames) : Rejected maxBytes isGrpc (frames ++ more) := by
  obtain ⟨earlier, frame, later, error, rfl, failed⟩ := rejected
  exact ⟨earlier, frame, later ++ more, error, by rw [List.append_assoc, List.cons_append], failed⟩

/-- A stream is rejected exactly if it meets a condition that it cannot lose again, when the data frames that fail are
those whose bytes meet it. -/
theorem rejected_iff {maxBytes : Nat} {isGrpc : Bool} (exceeds : Bytes → Prop) (fresh : ¬exceeds [])
    (monotone : ∀ first second, exceeds first → exceeds (first ++ second))
    (fails : ∀ earlier bytes, exceeds (stream earlier ++ bytes) → bytes ≠ [] →
      ∃ error, answer maxBytes isGrpc earlier (.data bytes) = .error error)
    (failed : ∀ earlier bytes error, answer maxBytes isGrpc earlier (.data bytes) = .error error →
      exceeds (stream earlier ++ bytes)) (frames : List Frame) :
    Rejected maxBytes isGrpc frames ↔ exceeds (stream frames) := by
  constructor
  · rintro ⟨earlier, frame, later, error, rfl, wrong⟩
    cases frame with
    | data bytes =>
      rw [stream_data]
      exact monotone _ _ (failed earlier bytes error wrong)
    | trailers headers => cases wrong
  · intro excess
    induction frames using List.reverseRecOn with
    | nil => exact absurd excess fresh
    | append_singleton frames frame ih =>
      by_cases before : exceeds (stream frames)
      · exact (ih before).append [frame]
      · -- The last frame brings the excess about, so it has bytes.
        cases frame with
        | data bytes =>
          rw [stream_data, stream_nil, List.append_nil] at excess
          have more : bytes ≠ [] := by
            rintro rfl
            rw [List.append_nil] at excess
            exact before excess
          obtain ⟨error, wrong⟩ := fails frames bytes excess more
          exact ⟨frames, .data bytes, [], error, rfl, wrong⟩
        | trailers headers =>
          rw [stream_append, stream_trailers, List.append_nil] at excess
          exact absurd excess before

theorem rejected_grpc :
    Rejected maxBytes true frames ↔ ∃ size, firstOversized maxBytes (stream frames) = some size := by
  apply rejected_iff fun bytes => ∃ size, firstOversized maxBytes bytes = some size
  · rintro ⟨size, found⟩
    rw [firstOversized, declaredLengths, if_pos (by decide)] at found
    cases found
  · rintro first second ⟨size, found⟩
    exact ⟨size, firstOversized_append maxBytes first second size found⟩
  · rintro earlier bytes ⟨size, found⟩ more
    exact ⟨_, answer_grpc_large earlier bytes size found more⟩
  · intro earlier bytes error wrong
    rw [answer_grpc] at wrong
    split at wrong
    · exact ⟨_, ‹_›⟩
    · cases wrong

theorem rejected_plain : Rejected maxBytes false frames ↔ maxBytes < (stream frames).length := by
  apply rejected_iff fun bytes => maxBytes < bytes.length
  · exact Nat.not_lt_zero maxBytes
  · intro first second excess
    rw [List.length_append]
    omega
  · intro earlier bytes excess _
    exact ⟨_, by rw [answer_plain, if_pos excess]⟩
  · intro earlier bytes error wrong
    rw [answer_plain] at wrong
    split_ifs at wrong with excess
    exact excess

theorem firstOversized_eq_none (bytes : Bytes) :
    firstOversized maxBytes bytes = none ↔ ∀ size ∈ declaredLengths bytes, size ≤ maxBytes := by
  simp [firstOversized]

theorem firstOversized_none_of_append {maxBytes : Nat} {first second : Bytes}
    (none : firstOversized maxBytes (first ++ second) = none) : firstOversized maxBytes first = .none := by
  by_contra large
  obtain ⟨size, found⟩ := Option.ne_none_iff_exists'.mp large
  rw [firstOversized_append maxBytes first second size found] at none
  cases none

theorem answer_grpc_small {maxBytes : Nat} (earlier : List Frame) (frame : Frame)
    (small : firstOversized maxBytes (stream (earlier ++ [frame])) = none) :
    answer maxBytes true earlier frame = .ok frame := by
  cases frame with
  | data bytes =>
    rw [stream_data, stream_nil, List.append_nil] at small
    rw [answer_grpc, small]
  | trailers headers => rfl

/-- What the limiter promises for a limit: which streams it rejects, at which frame, and what becomes of the others. -/
structure PayloadLimit (maxBytes : Nat) : Prop where
  grpcRejects : ∀ frames, Rejected maxBytes true frames ↔ ∃ size ∈ declaredLengths (stream frames), maxBytes < size
  /-- The frame that completes the first prefix with too great a length fails; the frames before it are passed on,
  and no data after it is. -/
  grpcFrame : ∀ earlier bytes size, (∀ other ∈ declaredLengths (stream earlier), other ≤ maxBytes) →
    firstOversized maxBytes (stream earlier ++ bytes) = some size →
    (∀ before frame after, earlier = before ++ frame :: after → answer maxBytes true before frame = .ok frame) ∧
    answer maxBytes true earlier (.data bytes) = .error (.payloadTooLarge size maxBytes) ∧
    ∀ later next, next ≠ [] → answer maxBytes true (earlier ++ .data bytes :: later) (.data next) =
      .error (.payloadTooLarge size maxBytes)
  grpcPasses : ∀ earlier frame, (∀ size ∈ declaredLengths (stream (earlier ++ [frame])), size ≤ maxBytes) →
    answer maxBytes true earlier frame = .ok frame
  plainFrame : ∀ earlier bytes, answer maxBytes false earlier (.data bytes) =
    if maxBytes < (stream earlier ++ bytes).length then
      .error (.payloadTooLarge (stream earlier ++ bytes).length maxBytes)
    else .ok (.data bytes)
  plainRejects : ∀ frames, Rejected maxBytes false frames ↔ maxBytes < (stream frames).length
  splitFree : ∀ isGrpc frames others, stream frames = stream others →
    (Rejected maxBytes isGrpc frames ↔ Rejected maxBytes isGrpc others)

/-- For every limit, byte stream and split into frames. -/
theorem payload_limit (maxBytes : Nat) : PayloadLimit maxBytes := by
  constructor
  · intro frames
    rw [rejected_grpc, ← Option.ne_none_iff_exists', ne_eq, firstOversized_eq_none]
    push Not
    rfl
  · intro earlier bytes size small found
    rw [← firstOversized_eq_none] at small
    refine ⟨?_, ?_, ?_⟩
    · rintro before frame after rfl
      rw [List.append_cons, stream_append] at small
      exact answer_grpc_small before frame (firstOversized_none_of_append small)
    · have more : bytes ≠ [] := by
        rintro rfl
        rw [List.append_nil, small] at found
        cases found
      exact answer_grpc_large earlier bytes size found more
    · intro later next more
      apply answer_grpc_large _ next size _ more
      rw [stream_data, List.append_assoc]
      exact firstOversized_append maxBytes _ _ size found
  · intro earlier frame small
    exact answer_grpc_small earlier frame ((firstOversized_eq_none _ _).mpr small)
  · exact answer_plain maxBytes
  · exact rejected_plain maxBytes
  · intro isGrpc frames others same
    cases isGrpc with
    | false => rw [rejected_plain, rejected_plain, same]
    | true => rw [rejected_grpc, rejected_grpc, same]

end Praeco.Limits.Payload
