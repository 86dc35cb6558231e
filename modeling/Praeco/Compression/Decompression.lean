import Praeco.Router.Buffering
import Praeco.Router.ClientFaults

/-! Compressed request bodies, which are decoded on their way, and the limit on what they may expand to. -/

namespace Praeco.Compression.Decompression
open Praeco.Strings.Utf8 Praeco.Streams.Polling Praeco.Http.Message Praeco.Collections.Edits
open Praeco.Limits.Payload (Frame)
open Praeco.Router.Buffering (SrvBody frameData)
open Praeco.Router.ClientFaults (BodyError)

abbrev Decoder := Source (Except Text Bytes)

def limitMessage : Text := "Decompressed payload exceeds maximum allowed size".toList

structure LimitedReader where
  inner : Decoder
  remaining : Nat

namespace LimitedReader

def new (inner : Decoder) (maxBytes : Nat) : LimitedReader := ⟨inner, maxBytes⟩

def pollRead (reader : LimitedReader) : Poll (Except Text Bytes) × LimitedReader :=
  if reader.remaining = 0 then (.ready (.error limitMessage), reader)
  else
    match reader.inner.pollRead with
    | (.ready (.ok bytes), inner) =>
      if reader.remaining < bytes.length then (.ready (.error limitMessage), ⟨inner, 0⟩)
      else (.ready (.ok bytes), ⟨inner, reader.remaining - bytes.length⟩)
    | (other, inner) => (other, ⟨inner, reader.remaining⟩)

end LimitedReader

def pollNext : Option LimitedReader → Poll (Option (Except Text Bytes)) × Option LimitedReader :=
  readerStream LimitedReader.pollRead

def mapErr (maxBytes : Nat) (msg : Text) : BodyError :=
  if limitMessage <:+: msg then .decompressionLimitExceeded maxBytes else .other ("Internal Error: ".toList ++ msg)

def toFrame (mapErr : Text → BodyError) : Except Text Bytes → Except BodyError Frame
  | .ok bytes => .ok (.data bytes)
  | .error msg => .error (mapErr msg)

def pollFrame (maxBytes : Nat) : Option LimitedReader → Poll (Option (Except BodyError Frame)) × Option LimitedReader :=
  mapped (toFrame (mapErr maxBytes)) pollNext

def display : BodyError → Text
  | .payloadTooLarge current max =>
    "Payload Limit Exceeded: ".toList ++ (Nat.repr current).toList ++ " > ".toList ++ (Nat.repr max).toList
  | .decompressionLimitExceeded max =>
    "Decompressed payload exceeds maximum allowed size: limit ".toList ++ (Nat.repr max).toList
  | .clientAborted message => "Client Aborted: ".toList ++ message
  | .other message => message

def dataStream : SrvBody BodyError → Source (Except Text Bytes) := List.filterMap fun
  | .pending => some .pending
  | .ready (.ok (.data data)) => some (.ready (.ok data))
  | .ready (.ok (.trailers _)) => none
  | .ready (.error error) => some (.ready (.error (display error)))

/-- The decoders of the compression library, over the data of a body. -/
structure Decoders where
  gzip : Source (Except Text Bytes) → Decoder
  brotli : Source (Except Text Bytes) → Decoder

def contentEncoding : Text := "content-encoding".toList
def contentLength : Text := "content-length".toList

inductive ForwardedBody where
  | unchanged (body : SrvBody BodyError)
  | decompressed (reader : LimitedReader)

def call (decoders : Decoders) (maxDecompressedBytes : Nat) (headers : HeaderMap) (body : SrvBody BodyError) :
    HeaderMap × ForwardedBody :=
  let encoding := ((headers.get contentEncoding).bind headerToStr).getD []
  let stripped : HeaderMap := applyAll headers [.remove contentEncoding, .remove contentLength]
  if encoding = "gzip".toList then
    (stripped, .decompressed (.new (decoders.gzip (dataStream body)) maxDecompressedBytes))
  else if encoding = "br".toList then
    (stripped, .decompressed (.new (decoders.brotli (dataStream body)) maxDecompressedBytes))
  else (headers, .unchanged body)

/-- Below the limit nothing is changed; otherwise some of the output is delivered, and then the error of the limit. -/
def Bounded (limit : Nat) (output delivered : Bytes × Option Text) : Prop :=
  if output.1.length < limit then delivered = output
  else ∃ front, front <+: output.1 ∧ front.length ≤ limit ∧ delivered = (front, some limitMessage)

theorem Bounded.read {limit : Nat} {output delivered : Bytes × Option Text} (bytes : Bytes)
    (fits : bytes.length ≤ limit) (bounded : Bounded (limit - bytes.length) output delivered) :
    Bounded limit (bytes ++ output.1, output.2) (bytes ++ delivered.1, delivered.2) := by
  unfold Bounded at bounded ⊢
  rw [List.length_append]
  by_cases below : output.1.length < limit - bytes.length
  · rw [if_pos below] at bounded
    rw [if_pos (by omega), bounded]
  · rw [if_neg below] at bounded
    obtain ⟨front, part, short, rfl⟩ := bounded
    rw [if_neg (by omega)]
    exact ⟨bytes ++ front, (List.prefix_append_right_inj bytes).mpr part, by rw [List.length_append]; omega, rfl⟩

theorem yields_exhausted (decoder : Decoder) : Yields pollNext (some ⟨decoder, 0⟩) [.error limitMessage] :=
  .item rfl (.finished rfl)

theorem pollNext_read {remaining : Nat} {bytes : Bytes} (decoder : Decoder) (filled : bytes ≠ [])
    (fits : bytes.length ≤ remaining) :
    pollNext (some ⟨.ready (.ok bytes) :: decoder, remaining⟩) =
      (.ready (some (.ok bytes)), some ⟨decoder, remaining - bytes.length⟩) := by
  have some := List.length_pos_iff.mpr filled
  have read : LimitedReader.pollRead ⟨.ready (.ok bytes) :: decoder, remaining⟩ =
      (.ready (.ok bytes), ⟨decoder, remaining - bytes.length⟩) := by
    rw [LimitedReader.pollRead, if_neg (by dsimp only; omega)]
    exact if_neg (Nat.not_lt.mpr fits)
  cases bytes with
  | nil => exact absurd rfl filled
  | cons b bytes => rw [pollNext, readerStream, read]

theorem pollNext_excess {remaining : Nat} {bytes : Bytes} (decoder : Decoder) (large : remaining < bytes.length) :
    pollNext (some ⟨.ready (.ok bytes) :: decoder, remaining⟩) = (.ready (some (.error limitMessage)), none) := by
  obtain ⟨next, read⟩ : ∃ next, LimitedReader.pollRead ⟨.ready (.ok bytes) :: decoder, remaining⟩ =
      (.ready (.error limitMessage), next) := by
    unfold LimitedReader.pollRead
    split_ifs with exhausted
    · exact ⟨_, rfl⟩
    · exact ⟨_, if_pos large⟩
  rw [pollNext, readerStream, read]

/-- Whatever the sizes of the reads are, the reading comes to an end, within the limit. -/
theorem yields_bounded (decoder : Decoder) (remaining : Nat) :
    ∃ items, Yields pollNext (some ⟨decoder, remaining⟩) items ∧
      Bounded remaining decoder.output (delivered id items) := by
  induction decoder generalizing remaining with
  | nil =>
    cases remaining with
    | zero => exact ⟨_, yields_exhausted _, [], List.nil_prefix, Nat.le_refl 0, rfl⟩
    | succ remaining => exact ⟨[], .finished rfl, rfl⟩
  | cons found decoder ih =>
    cases remaining with
    | zero => exact ⟨_, yields_exhausted _, [], List.nil_prefix, Nat.le_refl 0, rfl⟩
    | succ remaining =>
      match found with
      | .pending =>
        obtain ⟨items, yields, bounded⟩ := ih (remaining + 1)
        exact ⟨items, .pending rfl yields, bounded⟩
      | .ready (.error error) => exact ⟨[.error error], .item rfl (.finished rfl), rfl⟩
      | .ready (.ok []) => exact ⟨[], .finished rfl, rfl⟩
      | .ready (.ok (b :: bytes)) =>
        by_cases fits : (b :: bytes).length ≤ remaining + 1
        · obtain ⟨items, yields, bounded⟩ := ih (remaining + 1 - (b :: bytes).length)
          exact ⟨_, .item (pollNext_read decoder (List.cons_ne_nil b bytes) fits) yields, bounded.read _ fits⟩
        · have large := Nat.lt_of_not_le fits
          refine ⟨_, .item (pollNext_excess decoder large) (.finished rfl), ?_⟩
          unfold Bounded
          rw [if_neg (by rw [Source.output, List.length_append]; omega)]
          exact ⟨[], List.nil_prefix, Nat.zero_le _, rfl⟩

/-- The limit as it is meant: it is an error to exceed it, and none to reach it. -/
structure Exact (limit : Nat) (total : Bytes) (delivered : Bytes × Option Text) : Prop where
  within : total.length ≤ limit → delivered = (total, none)
  beyond : limit < total.length →
    ∃ front, front <+: total ∧ front.length ≤ limit ∧ delivered = (front, some limitMessage)

/-- The limit is exact but for an output that just reaches it. -/
theorem limitedReader_exact_iff (decoder : Decoder) (maxBytes : Nat) (finishes : decoder.output.2 = none) :
    (∃ items, Yields pollNext (some (.new decoder maxBytes)) items) ∧
    ∀ items, Yields pollNext (some (.new decoder maxBytes)) items →
      (Exact maxBytes decoder.output.1 (delivered id items) ↔ decoder.output.1.length ≠ maxBytes) := by
  obtain ⟨read, yields, bounded⟩ := yields_bounded decoder maxBytes
  refine ⟨⟨read, yields⟩, ?_⟩
  intro items again
  obtain rfl := again.unique yields
  unfold Bounded at bounded
  by_cases below : decoder.output.1.length < maxBytes
  · rw [if_pos below] at bounded
    have exact : Exact maxBytes decoder.output.1 (delivered id items) :=
      ⟨fun _ => bounded.trans (Prod.ext rfl finishes), fun beyond => absurd beyond (Nat.lt_asymm below)⟩
    exact iff_of_true exact (Nat.ne_of_lt below)
  · rw [if_neg below] at bounded
    constructor
    · intro exact same
      obtain ⟨front, -, -, failed⟩ := bounded
      cases failed.symm.trans (exact.within (Nat.le_of_eq same))
    · intro differs
      exact ⟨fun within => absurd (Nat.lt_of_le_of_ne within differs) below, fun _ => bounded⟩

def twoReads : Decoder := [.ready (.ok [1, 2]), .pending, .ready (.ok [3])]

theorem limitedReader_exact_iff_two : twoReads.output = ([1, 2, 3], none) ∧
    Yields pollNext (some (.new twoReads 4)) [.ok [1, 2], .ok [3]] ∧
    Exact 4 [1, 2, 3] (delivered id [.ok [1, 2], .ok [3]]) := by
  have yields : Yields pollNext (some (.new twoReads 4)) [.ok [1, 2], .ok [3]] :=
    .item rfl (.pending rfl (.item rfl (.finished rfl)))
  exact ⟨rfl, yields, ((limitedReader_exact_iff twoReads 4 rfl).2 _ yields).mpr (by decide)⟩

/-- An output of three bytes does not pass a limit of three bytes. -/
theorem reached_limit_fails : twoReads.output = ([1, 2, 3], none) ∧
    Yields pollNext (some (.new twoReads 3)) [.ok [1, 2], .ok [3], .error limitMessage] ∧
    ¬Exact 3 [1, 2, 3] (delivered id [.ok [1, 2], .ok [3], .error limitMessage]) := by
  refine ⟨rfl, .item rfl (.pending rfl (.item rfl (yields_exhausted []))), ?_⟩
  intro exact
  cases exact.within (Nat.le_refl 3)

theorem delivered_toFrame (mapErr : Text → BodyError) (items : List (Except Text Bytes)) :
    delivered frameData (items.map (toFrame mapErr)) =
      ((delivered id items).1, (delivered id items).2.map mapErr) := by
  induction items with
  | nil => rfl
  | cons item items ih =>
    cases item with
    | error msg => rfl
    | ok bytes =>
      rw [List.map_cons, toFrame, delivered, ih]
      rfl

/-- The body that is forwarded ends as the decoder does while its output stays below the limit, and otherwise as the
limit has it, for every encoded request. -/
theorem call_decompressed (decoders : Decoders) (maxBytes : Nat) (headers forwarded : HeaderMap)
    (body : SrvBody BodyError) (reader : LimitedReader)
    (called : call decoders maxBytes headers body = (forwarded, .decompressed reader)) :
    forwarded.getAll contentEncoding = [] ∧ forwarded.getAll contentLength = [] ∧
    (reader.inner = decoders.gzip (dataStream body) ∨ reader.inner = decoders.brotli (dataStream body)) ∧
    ∃ items, Yields (pollFrame maxBytes) (some reader) items ∧
      if reader.inner.output.1.length < maxBytes then
        delivered frameData items = (reader.inner.output.1, reader.inner.output.2.map (mapErr maxBytes))
      else ∃ front, front <+: reader.inner.output.1 ∧ front.length ≤ maxBytes ∧
        delivered frameData items = (front, some (.decompressionLimitExceeded maxBytes)) := by
  obtain ⟨rfl, decoder, rfl, decodes⟩ : forwarded = applyAll headers [.remove contentEncoding, .remove contentLength] ∧
      ∃ decoder, reader = .new decoder maxBytes ∧
        (decoder = decoders.gzip (dataStream body) ∨ decoder = decoders.brotli (dataStream body)) := by
    unfold call at called
    dsimp only at called
    split_ifs at called
    · cases called
      exact ⟨rfl, _, rfl, Or.inl rfl⟩
    · cases called
      exact ⟨rfl, _, rfl, Or.inr rfl⟩
    · cases called
  obtain ⟨items, yields, bounded⟩ := yields_bounded decoder maxBytes
  refine ⟨?_, ?_, decodes, items.map (toFrame (mapErr maxBytes)), yields.map _, ?_⟩
  · exact values_applyAll headers _ contentEncoding
  · exact values_applyAll headers _ contentLength
  · rw [delivered_toFrame]
    unfold Bounded at bounded
    change if decoder.output.1.length < maxBytes then _ else _
    split_ifs with below
    · rw [if_pos below] at bounded
      rw [bounded]
      rfl
    · rw [if_neg below] at bounded
      obtain ⟨front, part, short, found⟩ := bounded
      refine ⟨front, part, short, ?_⟩
      rw [found, Option.map_some, mapErr, if_pos List.infix_rfl]

/-- The limit is one byte above the output. -/
theorem call_decompressed_two :
    ∃ items, Yields (pollFrame 4) (some (.new twoReads 4)) items ∧ delivered frameData items = ([1, 2, 3], none) := by
  have called : call ⟨fun _ => twoReads, id⟩ 4 [(contentEncoding, utf8 "gzip".toList)] [] =
      ([], .decompressed (.new twoReads 4)) := rfl
  obtain ⟨-, -, -, items, yields, within⟩ := call_decompressed _ 4 _ [] [] _ called
  exact ⟨items, yields, within⟩

end Praeco.Compression.Decompression
