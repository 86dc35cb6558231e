import Praeco.Net.Display
import Praeco.Router.Headers

/-! The trace identity of a request. It is taken from the first source that has one, stored beside the request, and
written into the headers that are not there yet. No source is checked for the form that the header should have. -/

namespace Praeco.Server.TraceId
open Praeco.Strings Utf8 Percent Praeco.Http.Message Praeco.Collections.Edits Praeco.Net.Parse Praeco.Net.Display
  Praeco.Router.Headers

def traceparent : Text := "traceparent".toList

def xTraceId : Text := "x-trace-id".toList

structure SpanContext where
  traceId : BitVec 128
  spanId : BitVec 64
  traceFlags : UInt8
  deriving DecidableEq, Repr

def SpanContext.isValid (context : SpanContext) : Bool := context.traceId ≠ 0 && context.spanId ≠ 0

/-- What the middleware reads and writes of a request: its headers, and the `String` among its extensions. -/
structure Request where
  headers : HeaderMap
  traceId : Option Text
  deriving DecidableEq, Repr

def lowerHex (width n : Nat) : Text := (Nat.toDigits 16 n).leftpad width '0'

def formatted (trace span flags : Text) : Text := "00-".toList ++ trace ++ '-' :: span ++ '-' :: flags

/-- The current span if it is valid, or else one made of two random UUIDs. -/
def synthesize (current : SpanContext) (trace span : BitVec 128) : Text :=
  if current.isValid then
    formatted (lowerHex 32 current.traceId.toNat) (lowerHex 16 current.spanId.toNat)
      (lowerHex 2 current.traceFlags.toNat)
  else formatted (lowerHex 32 trace.toNat) ((lowerHex 32 span.toNat).take 16) "01".toList

def resolve (current : SpanContext) (trace span : BitVec 128) (headers : HeaderMap) : Text :=
  (((headers.get traceparent).bind headerToStr).or ((headers.get xTraceId).bind headerToStr)).getD
    (synthesize current trace span)

def insertAbsent (name text : Text) (headers : HeaderMap) : HeaderMap :=
  if (headers.get name).isSome then headers else applyAll headers (insertText name text)

def call (current : SpanContext) (trace span : BitVec 128) (request : Request) : Request :=
  let traceId := resolve current trace span request.headers
  ⟨insertAbsent xTraceId traceId (insertAbsent traceparent traceId request.headers), some traceId⟩

def isLowerHex (c : Char) : Bool := ('0' ≤ c && c ≤ '9') || ('a' ≤ c && c ≤ 'f')

def Traceparent (value : Text) : Prop :=
  ∃ trace span flags : Text, value = formatted trace span flags ∧
    (trace.length = 32 ∧ trace.all isLowerHex = true) ∧ (span.length = 16 ∧ span.all isLowerHex = true) ∧
      flags.length = 2 ∧ flags.all (isDigitIn 16) = true

def Request.Identified (request : Request) : Prop :=
  ∃ value, Traceparent value ∧ request.headers.get traceparent = some (utf8 value) ∧ request.traceId = some value

/-! What is synthesized is well formed. -/

theorem digit_range {c : Char} (digit : isDigitIn 16 c = true) : 32 ≤ c.toNat ∧ c.toNat < 127 := by
  unfold isDigitIn digitValue at digit
  split_ifs at digit with number lower upper
  · exact ⟨le_trans (by decide) number.1, lt_of_le_of_lt number.2 (by decide)⟩
  · exact ⟨le_trans (by decide) lower.1, lt_of_le_of_lt lower.2 (by decide)⟩
  · exact ⟨le_trans (by decide) upper.1, lt_of_le_of_lt upper.2 (by decide)⟩
  · cases digit

theorem lowerHex_range {c : Char} (lower : isLowerHex c = true) : 32 ≤ c.toNat ∧ c.toNat < 127 := by
  simp only [isLowerHex, Bool.or_eq_true, Bool.and_eq_true, decide_eq_true_eq] at lower
  rcases lower with number | letter
  · exact ⟨le_trans (by decide) number.1, lt_of_le_of_lt number.2 (by decide)⟩
  · exact ⟨le_trans (by decide) letter.1, lt_of_le_of_lt letter.2 (by decide)⟩

theorem digitChar_forms : ∀ n < 16, isLowerHex (Nat.digitChar n) = true ∧ isDigitIn 16 (Nat.digitChar n) = true := by
  decide

theorem mem_lowerHex {width n : Nat} {c : Char} (member : c ∈ lowerHex width n) :
    isLowerHex c = true ∧ isDigitIn 16 c = true := by
  rcases List.mem_append.mp member with zero | written
  · rw [(List.mem_replicate.mp zero).2]
    decide
  · obtain ⟨digit, bound, rfl⟩ := mem_toDigits (by decide) written
    exact digitChar_forms digit bound

theorem lowerHex_length {width n : Nat} (positive : 0 < width) (fits : n < 16 ^ width) :
    (lowerHex width n).length = width := by
  rw [lowerHex, List.length_leftpad]
  exact Nat.max_eq_left (Nat.toDigits_length 16 n width positive fits)

theorem Traceparent.length {value : Text} (formed : Traceparent value) : value.length = 55 := by
  obtain ⟨trace, span, flags, rfl, ⟨traceSize, -⟩, ⟨spanSize, -⟩, flagsSize, -⟩ := formed
  simp [formatted, traceSize, spanSize, flagsSize]

theorem Traceparent.visible {value : Text} (formed : Traceparent value) : Visible value := by
  obtain ⟨trace, span, flags, rfl, ⟨-, traceDigits⟩, ⟨-, spanDigits⟩, -, flagDigits⟩ := formed
  apply visible_of_range
  intro c member
  simp only [formatted, List.mem_append, List.mem_cons] at member
  rcases member with ((version | inTrace) | rfl | inSpan) | rfl | inFlags
  · have marks : c = '0' ∨ c = '-' := by simpa using version
    rcases marks with rfl | rfl
    · decide
    · decide
  · exact lowerHex_range (List.all_eq_true.mp traceDigits c inTrace)
  · decide
  · exact lowerHex_range (List.all_eq_true.mp spanDigits c inSpan)
  · decide
  · exact digit_range (List.all_eq_true.mp flagDigits c inFlags)

theorem synthesize_traceparent (current : SpanContext) (trace span : BitVec 128) :
    Traceparent (synthesize current trace span) := by
  have lower (width n : Nat) : (lowerHex width n).all isLowerHex = true :=
    List.all_eq_true.mpr fun c member => (mem_lowerHex member).1
  have digits (width n : Nat) : (lowerHex width n).all (isDigitIn 16) = true :=
    List.all_eq_true.mpr fun c member => (mem_lowerHex member).2
  unfold synthesize
  split_ifs with valid
  · exact ⟨_, _, _, rfl, ⟨lowerHex_length (by decide) current.traceId.isLt, lower _ _⟩,
      ⟨lowerHex_length (by decide) current.spanId.isLt, lower _ _⟩,
      lowerHex_length (by decide) current.traceFlags.toNat_lt, digits _ _⟩
  · refine ⟨_, _, _, rfl, ⟨lowerHex_length (by decide) trace.isLt, lower _ _⟩, ⟨?_, ?_⟩, rfl, by decide⟩
    · rw [List.length_take, lowerHex_length (by decide) span.isLt]
      rfl
    · exact List.all_eq_true.mpr fun c member => (mem_lowerHex (List.mem_of_mem_take member)).1

/-! The headers that are passed on. -/

theorem get_insertAbsent {name text : Text} (headers : HeaderMap) (visible : Visible text) :
    (insertAbsent name text headers).get name = some ((headers.get name).getD (utf8 text)) := by
  unfold insertAbsent
  cases found : headers.get name with
  | some value =>
    rw [if_pos Option.isSome_some, found]
    rfl
  | none =>
    rw [if_neg (by decide), insertText, headerFromStr_visible visible, get_eq_head]
    change (values ((Edit.insert name (utf8 text)).apply headers) name).head? = _
    rw [values_apply, if_pos (show (Edit.insert name (utf8 text)).key = name from rfl)]
    rfl

theorem get_insertAbsent_other {name other text : Text} (headers : HeaderMap) (apart : name ≠ other) :
    (insertAbsent name text headers).get other = headers.get other := by
  unfold insertAbsent
  split_ifs with present
  · rfl
  · have unedited : lastEdit (insertText name text) other = none := by
      rw [lastEdit_eq_none_iff]
      intro edit member
      obtain ⟨value, -, rfl⟩ := List.mem_map.mp member
      exact apart
    rw [get_eq_head, get_eq_head, values_applyAll, unedited]
    rfl

section

variable (current : SpanContext) (trace span : BitVec 128) (request : Request)

theorem resolve_visible : Visible (resolve current trace span request.headers) := by
  have read {value : Option Bytes} {text : Text} (found : value.bind headerToStr = some text) : Visible text := by
    obtain ⟨value, -, written⟩ := Option.bind_eq_some_iff.mp found
    exact (headerToStr_eq_some written).1
  unfold resolve
  cases first : (request.headers.get traceparent).bind headerToStr with
  | some text => exact read first
  | none =>
    cases second : (request.headers.get xTraceId).bind headerToStr with
    | some text => exact read second
    | none => exact (synthesize_traceparent current trace span).visible

theorem get_call : (call current trace span request).headers.get traceparent =
    some ((request.headers.get traceparent).getD (utf8 (resolve current trace span request.headers))) := by
  rw [call, get_insertAbsent_other _ (by decide), get_insertAbsent _ (resolve_visible current trace span request)]

theorem identified_iff_stored : (call current trace span request).Identified ↔
    Traceparent (resolve current trace span request.headers) ∧
      (request.headers.get traceparent).getD (utf8 (resolve current trace span request.headers)) =
        utf8 (resolve current trace span request.headers) := by
  constructor
  · rintro ⟨value, formed, header, same⟩
    rw [get_call] at header
    cases Option.some.inj same
    exact ⟨formed, Option.some.inj header⟩
  · rintro ⟨formed, header⟩
    exact ⟨_, formed, by rw [get_call, header], rfl⟩

/-- A request is passed on with a well-formed header that is its stored identity exactly if its first `traceparent` is
well formed, or if it has none and its first `x-trace-id`, if there is one that is text, is well formed. -/
theorem identified_iff : (call current trace span request).Identified ↔
    (∃ value, Traceparent value ∧ request.headers.get traceparent = some (utf8 value)) ∨
      request.headers.get traceparent = none ∧
        ∀ value, (request.headers.get xTraceId).bind headerToStr = some value → Traceparent value := by
  rw [identified_iff_stored]
  cases found : request.headers.get traceparent with
  | some first =>
    constructor
    · rintro ⟨formed, same⟩
      exact .inl ⟨_, formed, congrArg some same⟩
    · rintro (⟨value, formed, same⟩ | ⟨absent, -⟩)
      · -- a well-formed value is text, so it is the one that is read
        have taken : resolve current trace span request.headers = value := by
          rw [resolve, found, same, Option.bind_some, headerToStr_utf8 formed.visible]
          rfl
        rw [taken]
        exact ⟨formed, Option.some.inj same⟩
      · cases absent
  | none =>
    constructor
    · rintro ⟨formed, -⟩
      refine .inr ⟨rfl, fun value legacy => ?_⟩
      rw [resolve, found, legacy] at formed
      exact formed
    · rintro (⟨value, -, same⟩ | ⟨-, legacy⟩)
      · cases same
      · refine ⟨?_, rfl⟩
        rw [resolve, found]
        cases second : (request.headers.get xTraceId).bind headerToStr with
        | some value => exact legacy value second
        | none => exact synthesize_traceparent current trace span

end

/-- A legacy identity of any form becomes the `traceparent` that is passed on. -/
theorem legacy_identity_passed_on :
    let request := call ⟨0, 0, 0⟩ 1 2 ⟨[(xTraceId, utf8 "abc".toList)], none⟩
    request.headers.get traceparent = some (utf8 "abc".toList) ∧ ¬request.Identified := by
  intro request
  have stored : resolve ⟨0, 0, 0⟩ 1 2 [(xTraceId, utf8 "abc".toList)] = "abc".toList := by decide
  refine ⟨by rw [get_call, stored]; rfl, ?_⟩
  rw [identified_iff_stored, stored]
  rintro ⟨formed, -⟩
  exact absurd formed.length (by decide)

end Praeco.Server.TraceId
