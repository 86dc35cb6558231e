import Praeco.Limits.Payload
import Praeco.Streams.BigEndian
import Praeco.Streams.Polling

/-! How bodies are collected, and the request body that is held for retries. It is read up to a limit; a larger body is
passed on as a stream that replays what has been read and goes on with the rest. -/

namespace Praeco.Router.Buffering
open Praeco.Strings.Utf8 Praeco.Streams Polling
open Praeco.Limits.Payload (Frame)

variable {E : Type}

abbrev SrvBody (E : Type) := Source (Except E Frame)

structure PrefixedStreamBody (E : Type) where
  prefixBytes : Option Bytes
  remaining : SrvBody E

def PrefixedStreamBody.pollFrame (body : PrefixedStreamBody E) :
    Poll (Option (Except E Frame)) × PrefixedStreamBody E :=
  let passOn : Poll (Option (Except E Frame)) × PrefixedStreamBody E :=
    let (found, remaining) := body.remaining.poll
    (found, ⟨none, remaining⟩)
  match body.prefixBytes with
  | some bytes => if bytes ≠ [] then (.ready (some (.ok (.data bytes))), ⟨none, body.remaining⟩) else passOn
  | none => passOn

inductive RequestBody (E : Type) where
  | buffered (bytes : Bytes)
  | stream (body : PrefixedStreamBody E)

def bufferFrom (maxBufferBytes : Nat) (accumulated : Bytes) : SrvBody E → Except E (RequestBody E)
  | [] => .ok (.buffered accumulated)
  | .pending :: body => bufferFrom maxBufferBytes accumulated body
  | .ready (.error error) :: _ => .error error
  | .ready (.ok (.data data)) :: body =>
    -- Two lengths of buffers in memory, whose sum stays below the bound of `saturating_add`.
    if maxBufferBytes < accumulated.length + data.length then .ok (.stream ⟨some (accumulated ++ data), body⟩)
    else bufferFrom maxBufferBytes (accumulated ++ data) body
  | .ready (.ok (.trailers _)) :: body => bufferFrom maxBufferBytes accumulated body

def bufferBodyUpTo (body : SrvBody E) (maxBufferBytes : Nat) : Except E (RequestBody E) :=
  bufferFrom maxBufferBytes [] body

def frameData : Frame → Bytes
  | .data data => data
  | .trailers _ => []

theorem delivered_data (data : Bytes) (later : List (Except E Frame)) :
    delivered frameData (.ok (.data data) :: later) =
      (data ++ (delivered frameData later).1, (delivered frameData later).2) :=
  rfl

def collect (body : SrvBody E) : Except E Bytes :=
  match delivered frameData body.items with
  | (bytes, none) => .ok bytes
  | (_, some error) => .error error

inductive LimitedError (E : Type) where
  | lengthLimitExceeded
  | inner (error : E)
  deriving DecidableEq, Repr

def limited (remaining : Nat) : SrvBody E → SrvBody (LimitedError E)
  | [] => []
  | .pending :: body => .pending :: limited remaining body
  | .ready (.error error) :: body => .ready (.error (.inner error)) :: limited remaining body
  | .ready (.ok (.data data)) :: body =>
    if remaining < data.length then .ready (.error .lengthLimitExceeded) :: limited 0 body
    else .ready (.ok (.data data)) :: limited (remaining - data.length) body
  | .ready (.ok (.trailers headers)) :: body => .ready (.ok (.trailers headers)) :: limited remaining body

def payloadLen (bytes : Bytes) : Nat := BigEndian.decode ((bytes.drop 1).take 4)

def payloadOf (bytes : Bytes) : Bytes := (bytes.drop 5).take (payloadLen bytes)

theorem collect_ok_iff {body : SrvBody E} {bytes : Bytes} :
    collect body = .ok bytes ↔ delivered frameData body.items = (bytes, none) := by
  unfold collect
  rcases delivered frameData body.items with ⟨read, _ | error⟩
  · simp
  · simp

theorem collect_limited_ok_iff {remaining : Nat} {body : SrvBody E} {bytes : Bytes} :
    collect (limited remaining body) = .ok bytes ↔
      delivered frameData body.items = (bytes, none) ∧ bytes.length ≤ remaining := by
  rw [collect_ok_iff]
  induction body generalizing remaining bytes with
  | nil =>
    constructor
    · intro read
      cases read
      exact ⟨rfl, Nat.zero_le _⟩
    · rintro ⟨read, -⟩
      cases read
      rfl
  | cons found body ih =>
    rcases found with _ | error | data | headers
    · exact ih
    · exact ⟨nofun, fun read => absurd (congrArg Prod.snd read.1) nofun⟩
    · rw [Source.items_ready, delivered_data, limited]
      split_ifs with large
      · refine ⟨nofun, ?_⟩
        rintro ⟨read, fits⟩
        rw [← (Prod.mk.inj read).1, List.length_append] at fits
        omega
      · rw [Source.items_ready, delivered_data]
        constructor
        · rcases shown : delivered frameData (limited (remaining - data.length) body).items with ⟨rest, ended⟩
          rintro ⟨⟩
          obtain ⟨all, fits⟩ := ih.mp shown
          refine ⟨by rw [all], ?_⟩
          rw [List.length_append]
          dsimp only
          omega
        · rcases shown : delivered frameData (Source.items body) with ⟨rest, ended⟩
          rintro ⟨⟨⟩, fits⟩
          rw [List.length_append] at fits
          rw [ih.mpr ⟨shown, Nat.le_sub_of_add_le' fits⟩]
    · exact ih

namespace PrefixedStreamBody

def asSource (body : PrefixedStreamBody E) : SrvBody E :=
  match body.prefixBytes with
  | some bytes => if bytes ≠ [] then .ready (.ok (.data bytes)) :: body.remaining else body.remaining
  | none => body.remaining

theorem pollFrame_simulates (body : PrefixedStreamBody E) :
    body.pollFrame.1 = body.asSource.poll.1 ∧ body.pollFrame.2.asSource = body.asSource.poll.2 := by
  obtain ⟨prefixBytes, remaining⟩ := body
  cases prefixBytes with
  | none => exact ⟨rfl, rfl⟩
  | some bytes =>
    unfold pollFrame asSource
    dsimp only
    split_ifs with filled
    · exact ⟨rfl, rfl⟩
    · exact ⟨rfl, rfl⟩

theorem yields_replayed (bytes : Bytes) (remaining : SrvBody E) (filled : bytes ≠ []) :
    Yields pollFrame (⟨some bytes, remaining⟩ : PrefixedStreamBody E) (.ok (.data bytes) :: remaining.items) := by
  have shape : asSource ⟨some bytes, remaining⟩ = .ready (.ok (.data bytes)) :: remaining := if_pos filled
  have yielded := yields_of_simulates asSource pollFrame_simulates (⟨some bytes, remaining⟩ : PrefixedStreamBody E)
  rwa [shape, Source.items_ready] at yielded

end PrefixedStreamBody

/-- The reading has stopped at the first frame that is too much: all in front of it is held and all behind it unread. -/
structure StopsAt (maxBufferBytes : Nat) (accumulated : Bytes) (body : SrvBody E) (stream : PrefixedStreamBody E)
    (front : SrvBody E) (data : Bytes) : Prop where
  shape : body = front ++ .ready (.ok (.data data)) :: stream.remaining
  clean : (delivered frameData front.items).2 = none
  fits : accumulated.length + (delivered frameData front.items).1.length ≤ maxBufferBytes
  exceeds : maxBufferBytes < accumulated.length + (delivered frameData front.items).1.length + data.length
  replays : stream.prefixBytes = some (accumulated ++ (delivered frameData front.items).1 ++ data)

section

variable {maxBufferBytes : Nat} {accumulated : Bytes} {body : SrvBody E}

theorem bufferFrom_fits (fits : accumulated.length + (delivered frameData body.items).1.length ≤ maxBufferBytes) :
    bufferFrom maxBufferBytes accumulated body =
      match (delivered frameData body.items).2 with
      | none => .ok (.buffered (accumulated ++ (delivered frameData body.items).1))
      | some error => .error error := by
  induction body generalizing accumulated with
  | nil =>
    change Except.ok (RequestBody.buffered accumulated) = .ok (.buffered (accumulated ++ []))
    rw [List.append_nil]
  | cons found body ih =>
    match found with
    | .pending => exact ih fits
    | .ready (.error error) => rfl
    | .ready (.ok (.trailers headers)) => exact ih fits
    | .ready (.ok (.data data)) =>
      rw [Source.items_ready, delivered_data, List.length_append] at fits
      rw [bufferFrom, if_neg (by omega), ih (by rw [List.length_append]; omega), Source.items_ready,
        delivered_data, List.append_assoc]

theorem bufferFrom_exceeds (held : accumulated.length ≤ maxBufferBytes)
    (exceeds : maxBufferBytes < accumulated.length + (delivered frameData body.items).1.length) :
    ∃ stream front data, bufferFrom maxBufferBytes accumulated body = .ok (.stream stream) ∧
      StopsAt maxBufferBytes accumulated body stream front data := by
  induction body generalizing accumulated with
  | nil =>
    change maxBufferBytes < accumulated.length + 0 at exceeds
    omega
  | cons found body ih =>
    match found with
    | .pending =>
      obtain ⟨stream, front, data, read, stops⟩ := ih held exceeds
      exact ⟨stream, .pending :: front, data, read, congrArg (.pending :: ·) stops.shape, stops.clean, stops.fits,
        stops.exceeds, stops.replays⟩
    | .ready (.error error) =>
      change maxBufferBytes < accumulated.length + 0 at exceeds
      omega
    | .ready (.ok (.trailers headers)) =>
      obtain ⟨stream, front, data, read, stops⟩ := ih held exceeds
      exact ⟨stream, .ready (.ok (.trailers headers)) :: front, data, read,
        congrArg (.ready (.ok (.trailers headers)) :: ·) stops.shape, stops.clean, stops.fits, stops.exceeds,
        stops.replays⟩
    | .ready (.ok (.data first)) =>
      by_cases large : maxBufferBytes < accumulated.length + first.length
      · exact ⟨⟨some (accumulated ++ first), body⟩, [], first, by rw [bufferFrom, if_pos large], rfl, rfl, held, large,
          by rw [Source.items_nil, delivered, List.append_nil]⟩
      · rw [Source.items_ready, delivered_data, List.length_append] at exceeds
        have room : (accumulated ++ first).length ≤ maxBufferBytes := by
          rw [List.length_append]
          omega
        obtain ⟨stream, front, data, read, stops⟩ := ih room (by
          rw [List.length_append]
          omega)
        have fits := stops.fits
        have more := stops.exceeds
        rw [List.length_append] at fits more
        refine ⟨stream, .ready (.ok (.data first)) :: front, data, ?_,
          congrArg (.ready (.ok (.data first)) :: ·) stops.shape, stops.clean, ?_, ?_, ?_⟩
        · rw [bufferFrom, if_neg large, read]
        · rw [Source.items_ready, delivered_data, List.length_append]
          omega
        · rw [Source.items_ready, delivered_data, List.length_append]
          omega
        · rw [stops.replays, Source.items_ready, delivered_data, List.append_assoc accumulated first]

theorem StopsAt.lossless {stream : PrefixedStreamBody E} {front : SrvBody E} {data : Bytes}
    (stops : StopsAt maxBufferBytes [] body stream front data) {yielded : List (Except E Frame)}
    (yields : Yields PrefixedStreamBody.pollFrame stream yielded) :
    delivered frameData yielded = delivered frameData body.items := by
  have filled : [] ++ (delivered frameData front.items).1 ++ data ≠ [] := by
    have more := stops.exceeds
    apply List.ne_nil_of_length_pos
    rw [List.length_append, List.nil_append]
    rw [List.length_nil] at more
    omega
  obtain ⟨prefixBytes, remaining⟩ := stream
  obtain rfl : prefixBytes = some ([] ++ (delivered frameData front.items).1 ++ data) := stops.replays
  rw [yields.unique (PrefixedStreamBody.yields_replayed _ remaining filled), stops.shape, Source.items_append,
    delivered_append _ stops.clean, Source.items_ready, delivered_data, delivered_data, List.nil_append,
    List.append_assoc]

end

/-- Buffering loses nothing: a body that fits is held as a whole, an error is passed on, and a larger body becomes a
stream of the same data and the same error, of which nothing behind the first frame too much has been read. -/
theorem bufferBodyUpTo_lossless (body : SrvBody E) (maxBufferBytes : Nat) :
    let (data, error) := delivered frameData body.items
    (∀ bytes, bufferBodyUpTo body maxBufferBytes = .ok (.buffered bytes) ↔
      error = none ∧ data.length ≤ maxBufferBytes ∧ bytes = data) ∧
    (maxBufferBytes < data.length → ∃ stream front frame,
      bufferBodyUpTo body maxBufferBytes = .ok (.stream stream) ∧
        StopsAt maxBufferBytes [] body stream front frame ∧
        (∃ yielded, Yields PrefixedStreamBody.pollFrame stream yielded) ∧
        ∀ yielded, Yields PrefixedStreamBody.pollFrame stream yielded → delivered frameData yielded = (data, error)) ∧
    (∀ failure, error = some failure → data.length ≤ maxBufferBytes →
      bufferBodyUpTo body maxBufferBytes = .error failure) := by
  change (∀ bytes, bufferBodyUpTo body maxBufferBytes = .ok (.buffered bytes) ↔
    (delivered frameData body.items).2 = none ∧ (delivered frameData body.items).1.length ≤ maxBufferBytes ∧
      bytes = (delivered frameData body.items).1) ∧ _
  have small (fits : (delivered frameData body.items).1.length ≤ maxBufferBytes) := bufferFrom_fits (E := E)
    (show ([] : Bytes).length + (delivered frameData body.items).1.length ≤ maxBufferBytes by
      rwa [List.length_nil, Nat.zero_add])
  have large (exceeds : maxBufferBytes < (delivered frameData body.items).1.length) :=
    bufferFrom_exceeds (E := E) (Nat.zero_le _)
      (show maxBufferBytes < ([] : Bytes).length + (delivered frameData body.items).1.length by
        rwa [List.length_nil, Nat.zero_add])
  refine ⟨?_, ?_, ?_⟩
  · intro bytes
    by_cases fits : (delivered frameData body.items).1.length ≤ maxBufferBytes
    · rw [bufferBodyUpTo, small fits]
      cases (delivered frameData body.items).2 with
      | none => simp [fits, eq_comm]
      | some error => simp
    · obtain ⟨stream, front, frame, read, -⟩ := large (Nat.lt_of_not_le fits)
      rw [bufferBodyUpTo, read]
      simp [fits]
  · intro exceeds
    obtain ⟨stream, front, frame, read, stops⟩ := large exceeds
    exact ⟨stream, front, frame, read, stops,
      ⟨_, yields_of_simulates PrefixedStreamBody.asSource PrefixedStreamBody.pollFrame_simulates stream⟩,
      fun yielded yields => stops.lossless yields⟩
  · intro failure failed fits
    rw [bufferBodyUpTo, small fits, failed]

end Praeco.Router.Buffering
