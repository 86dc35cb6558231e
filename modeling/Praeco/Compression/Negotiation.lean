import Praeco.Compression.Decompression
import Praeco.Strings.Split

/-! The compression of responses, and what a request has to say for it. -/

namespace Praeco.Compression.Negotiation
open Praeco.Strings Utf8 Split Fields Praeco.Streams.Polling Praeco.Http.Message Praeco.Collections.Edits
open Praeco.Limits.Payload (Frame)
open Praeco.Router.Buffering (SrvBody frameData)
open Praeco.Router.ClientFaults (BodyError)
open Praeco.Compression.Decompression

inductive Encoding where
  | gzip
  | br
  deriving DecidableEq, Repr

def Encoding.name : Encoding → Text
  | .gzip => "gzip".toList
  | .br => "br".toList

def acceptEncoding : Text := "accept-encoding".toList
def contentType : Text := "content-type".toList

def acceptHeader (request : HeaderMap) : Text := ((request.get acceptEncoding).bind headerToStr).getD []

def isGrpc (response : HeaderMap) : Bool :=
  ((response.get contentType).bind headerToStr).any ("application/grpc".toList).isPrefixOf

def algo (acceptHeader : Text) (response : HeaderMap) : Option Encoding :=
  if (response.get contentEncoding).isSome || isGrpc response then none
  else if Encoding.gzip.name <:+: acceptHeader then some .gzip
  else if Encoding.br.name <:+: acceptHeader then some .br
  else none

structure Encoders where
  gzip : Source (Except Text Bytes) → Source (Except Text Bytes)
  br : Source (Except Text Bytes) → Source (Except Text Bytes)

def Encoders.encoder (encoders : Encoders) : Encoding → Source (Except Text Bytes) → Source (Except Text Bytes)
  | .gzip => encoders.gzip
  | .br => encoders.br

inductive ResponseBody where
  | unchanged (body : SrvBody BodyError)
  | encoded (encoding : Encoding) (encoder : Source (Except Text Bytes))

/-- `SrvCompressionFuture::poll`, once the inner service has answered a request with these headers. -/
def compress (encoders : Encoders) (request response : HeaderMap) (body : SrvBody BodyError) :
    HeaderMap × ResponseBody :=
  match algo (acceptHeader request) response with
  | some encoding =>
    (applyAll response [.remove contentLength, .insert contentEncoding (utf8 encoding.name)],
      .encoded encoding (encoders.encoder encoding (dataStream body)))
  | none => (response, .unchanged body)

def mapErr (msg : Text) : BodyError := .other ("Internal Error: ".toList ++ msg)

def pollFrame : Option (Source (Except Text Bytes)) →
    Poll (Option (Except BodyError Frame)) × Option (Source (Except Text Bytes)) :=
  mapped (toFrame mapErr) (readerStream Source.pollRead)

/-! ### What clients make of a response -/

def Received : ResponseBody → Bytes × Option BodyError → Prop
  | .unchanged body, read => ∃ items, Yields Source.poll body items ∧ read = delivered frameData items
  | .encoded _ encoder, read => ∃ items, Yields pollFrame (some encoder) items ∧ read = delivered frameData items

abbrev Decode := Encoding → Bytes → Option Bytes

/-- The content of a response: its data, without the one encoding that it names. -/
def content (decode : Decode) (headers : HeaderMap) (data : Bytes) : Option Bytes :=
  match headers.getAll contentEncoding with
  | [] => some data
  | [value] =>
    if value = utf8 Encoding.gzip.name then decode .gzip data
    else if value = utf8 Encoding.br.name then decode .br data
    else none
  | _ => none

/-- What is expected of the library: clients can undo the encoding of data that is complete, and an encoder whose data
ends with an error does so, too. -/
structure Lawful (encoders : Encoders) (decode : Decode) : Prop where
  complete : ∀ encoding source, (delivered id source.items).2 = none →
    ∃ coded, (encoders.encoder encoding source).output = (coded, none) ∧
      decode encoding coded = some (delivered id source.items).1
  broken : ∀ encoding source, (delivered id source.items).2.isSome = true →
    (encoders.encoder encoding source).output.2.isSome = true

theorem delivered_dataStream (body : SrvBody BodyError) : delivered id (dataStream body).items =
    ((delivered frameData body.items).1, (delivered frameData body.items).2.map display) := by
  induction body with
  | nil => rfl
  | cons found body ih =>
    rcases found with _ | ⟨error | ⟨data | trailers⟩⟩
    · exact ih
    · rfl
    · have rest := congrArg (fun read => (data ++ read.1, read.2)) ih
      exact rest
    · exact ih

theorem yields_body (body : SrvBody BodyError) : Yields Source.poll body body.items :=
  yields_of_simulates id (fun _ => ⟨rfl, rfl⟩) body

theorem compress_cases (encoders : Encoders) (request response : HeaderMap) (body : SrvBody BodyError) :
    compress encoders request response body = (response, .unchanged body) ∨
    response.getAll contentEncoding = [] ∧ ∃ encoding, compress encoders request response body =
      (applyAll response [.remove contentLength, .insert contentEncoding (utf8 encoding.name)],
        .encoded encoding (encoders.encoder encoding (dataStream body))) := by
  unfold compress
  cases chosen : algo (acceptHeader request) response with
  | none => exact .inl rfl
  | some encoding =>
    refine .inr ⟨?_, encoding, rfl⟩
    cases named : values response contentEncoding with
    | nil => exact named
    | cons value others =>
      have present : (response.get contentEncoding).isSome = true := by
        rw [get_eq_head, named]
        rfl
      rw [algo, present, Bool.true_or, if_pos rfl] at chosen
      cases chosen

/-- The layer keeps the content of every response, with any library that can be relied on: a client reads a complete body
just if the inner service has sent one, and undoing the encoding that the headers name gives what undoing that of the
original would give; an encoded response has lost the length of the original. -/
theorem compress_keeps_content (encoders : Encoders) (decode : Decode) (lawful : Lawful encoders decode)
    (request response : HeaderMap) (body : SrvBody BodyError) :
    ∃ read, Received (compress encoders request response body).2 read ∧
      (∀ other, Received (compress encoders request response body).2 other → other = read) ∧
      (read.2 = none ↔ (delivered frameData body.items).2 = none) ∧
      (read.2 = none → content decode (compress encoders request response body).1 read.1 =
        content decode response (delivered frameData body.items).1) ∧
      ((compress encoders request response body).2 = .unchanged body ∨
        (compress encoders request response body).1.getAll contentLength = []) := by
  rcases compress_cases encoders request response body with same | ⟨plain, encoding, encoded⟩
  · rw [same]
    refine ⟨_, ⟨_, yields_body body, rfl⟩, ?_, Iff.rfl, fun _ => rfl, .inl rfl⟩
    rintro other ⟨items, yields, rfl⟩
    rw [yields.unique (yields_body body)]
  rw [encoded]
  obtain ⟨items, yields, all⟩ := yields_output (encoders.encoder encoding (dataStream body))
  have read := delivered_toFrame mapErr items
  rw [all] at read
  have data := delivered_dataStream body
  refine ⟨_, ⟨_, yields.map _, rfl⟩, ?_, ?_, ?_, .inr (values_applyAll response _ contentLength)⟩
  · rintro other ⟨found, again, rfl⟩
    rw [again.unique (yields.map _)]
  · rw [read]
    cases ends : (delivered frameData body.items).2 with
    | none =>
      obtain ⟨coded, output, -⟩ := lawful.complete encoding (dataStream body) (by rw [data, ends]; rfl)
      rw [output]
      exact iff_of_true rfl rfl
    | some error =>
      have failed := lawful.broken encoding (dataStream body) (by rw [data, ends]; rfl)
      refine iff_of_false (fun clean => ?_) nofun
      rw [Option.map_eq_none_iff] at clean
      rw [clean] at failed
      cases failed
  · intro clean
    rw [read] at clean ⊢
    have ends : (delivered id (dataStream body).items).2 = none := by
      by_contra failing
      have failed := lawful.broken encoding (dataStream body) (Option.isSome_iff_ne_none.mpr failing)
      rw [Option.map_eq_none_iff.mp clean] at failed
      cases failed
    obtain ⟨coded, output, undone⟩ := lawful.complete encoding (dataStream body) ends
    have named : HeaderMap.getAll (applyAll response [.remove contentLength, .insert contentEncoding
        (utf8 encoding.name)]) contentEncoding = [utf8 encoding.name] := values_applyAll response _ contentEncoding
    rw [content, content, named, plain, output]
    have shown := undone.trans (congrArg (fun read => some read.1) data)
    cases encoding with
    | gzip => exact (if_pos rfl).trans shown
    | br => exact (if_neg (by decide)).trans ((if_pos rfl).trans shown)

def sample : SrvBody BodyError := [.ready (.ok (.data [1]))]

def mark (b : UInt8) (source : Source (Except Text Bytes)) : Source (Except Text Bytes) :=
  match delivered id source.items with
  | (data, none) => [.ready (.ok (b :: data))]
  | (_, some error) => [.ready (.error error)]

def marking : Encoders := ⟨mark 31, mark 206⟩

def unmark (encoding : Encoding) : Bytes → Option Bytes
  | [] => none
  | b :: data => if b = (match encoding with | .gzip => 31 | .br => 206) then some data else none

def accepting (line : String) : HeaderMap := [(acceptEncoding, utf8 line.toList)]

theorem marking_lawful : Lawful marking unmark := by
  have marks (encoding : Encoding) : ∃ b, marking.encoder encoding = mark b ∧
      ∀ data, unmark encoding (b :: data) = some data := by
    cases encoding with
    | gzip => exact ⟨31, rfl, fun _ => rfl⟩
    | br => exact ⟨206, rfl, fun _ => rfl⟩
  constructor
  · intro encoding source ends
    obtain ⟨b, same, undone⟩ := marks encoding
    refine ⟨b :: (delivered id source.items).1, ?_, undone _⟩
    rw [same, mark]
    cases read : delivered id source.items with
    | mk data error =>
      rw [read] at ends
      cases ends
      simp [Source.output]
  · intro encoding source fails
    obtain ⟨b, same, -⟩ := marks encoding
    rw [same, mark]
    cases read : delivered id source.items with
    | mk data error =>
      rw [read] at fails
      cases error with
      | none => cases fails
      | some error => rfl

/-- One byte goes out marked, and without its length. -/
theorem compress_keeps_content_br :
    let lengthy : HeaderMap := [(contentLength, utf8 ['1'])]
    compress marking (accepting "br") lengthy sample =
        ([(contentEncoding, utf8 ['b', 'r'])], .encoded .br [.ready (.ok [206, 1])]) ∧
      ∃ read, Received (.encoded .br [.ready (.ok [206, 1])]) read ∧
        (read.2 = none → content unmark [(contentEncoding, utf8 ['b', 'r'])] read.1 = some [1]) := by
  intro lengthy
  have encoded : compress marking (accepting "br") lengthy sample =
      ([(contentEncoding, utf8 ['b', 'r'])], .encoded .br [.ready (.ok [206, 1])]) := by rfl
  obtain ⟨read, received, -, -, same, -⟩ :=
    compress_keeps_content marking unmark marking_lawful (accepting "br") lengthy sample
  rw [encoded] at received same
  exact ⟨encoded, read, received, same⟩

def isQvalue (text : Text) : Bool :=
  match text with
  | ['0'] | ['1'] => true
  | '0' :: '.' :: decimals => decimals.length ≤ 3 && decimals.all Char.isDigit
  | '1' :: '.' :: decimals => decimals.length ≤ 3 && decimals.all (· = '0')
  | _ => false

def positive (text : Text) : Bool := isQvalue text && text.any (fun c => c.isDigit && c ≠ '0')

def weight (parameter : Text) : Option Text :=
  let (name, value) := parameter.span (· ≠ '=')
  if eqIgnoreAsciiCase (trimOws name) ['q'] then some (trimOws value.tail) else none

/-- An element of the list names the coding, or any, and gives it no weight or a positive one. -/
def accepts (coding element : Text) : Bool :=
  match element.splitOn ';' with
  | [] => false
  | token :: parameters =>
    (eqIgnoreAsciiCase (trimOws token) coding || trimOws token = ['*']) && (parameters.filterMap weight).all positive

example : accepts "gzip".toList " GZip ; Q=0.5".toList = true ∧ accepts "gzip".toList "gzip;q=0.000".toList = false ∧
    accepts "gzip".toList "x-gzip".toList = false ∧ accepts "br".toList "*".toList = true := by decide

def elements (line : Bytes) : List Text := (latin1 line).splitOn ','

def Accepted (request : HeaderMap) (encoding : Encoding) : Prop :=
  ∃ line ∈ request.getAll acceptEncoding, ∃ element ∈ elements line, accepts encoding.name element = true

instance (request : HeaderMap) (encoding : Encoding) : Decidable (Accepted request encoding) :=
  inferInstanceAs (Decidable (∃ line ∈ request.getAll acceptEncoding, ∃ element ∈ elements line,
    accepts encoding.name element = true))

/-- The name stands somewhere in an element of the first line, alone or in other text. -/
def Occurs (request : HeaderMap) (encoding : Encoding) : Prop :=
  ∃ line, request.get acceptEncoding = some line ∧ line.all isVisibleAscii = true ∧
    ∃ element ∈ elements line, encoding.name <:+: element

theorem infix_acceptHeader_iff (request : HeaderMap) (encoding : Encoding) :
    encoding.name <:+: acceptHeader request ↔ Occurs request encoding := by
  have clean : ',' ∉ encoding.name := by
    cases encoding
    · decide
    · decide
  have filled : ¬encoding.name <:+: [] := by
    cases encoding
    · decide
    · decide
  unfold acceptHeader Occurs
  cases request.get acceptEncoding with
  | none => exact iff_of_false filled nofun
  | some line =>
    by_cases visible : line.all isVisibleAscii = true
    · have read : headerToStr line = some (latin1 line) := if_pos visible
      rw [Option.bind_some, read, Option.getD_some, infix_iff_splitOn ',' _ _ clean]
      constructor
      · intro occurs
        exact ⟨line, rfl, visible, occurs⟩
      · rintro ⟨_, same, -, occurs⟩
        cases same
        exact occurs
    · have unread : headerToStr line = none := if_neg visible
      rw [Option.bind_some, unread, Option.getD_none]
      refine iff_of_false filled ?_
      rintro ⟨_, same, again, -⟩
      cases same
      exact visible again

theorem algo_eq_some_iff {request response : HeaderMap} (plain : response.get contentEncoding = none)
    (notGrpc : isGrpc response = false) (encoding : Encoding) :
    algo (acceptHeader request) response = some encoding ↔
      Occurs request encoding ∧ (encoding = .br → ¬Occurs request .gzip) := by
  unfold algo
  rw [plain, notGrpc, Option.isSome_none, Bool.or_false, if_neg Bool.false_ne_true, ← infix_acceptHeader_iff,
    ← infix_acceptHeader_iff]
  cases encoding with
  | gzip =>
    split_ifs with gzip br
    all_goals simp [gzip]
  | br =>
    split_ifs with gzip br
    · simp [gzip]
    · simp [gzip, br]
    · simp [br]

/-- A response is only encoded as the request accepts it if the letters of an encoding stand in the request for the
encoding itself: for gzip wherever they occur, and for br where those of gzip do not. -/
theorem compress_negotiated_iff (encoders : Encoders) (request response : HeaderMap) (body : SrvBody BodyError)
    (plain : response.get contentEncoding = none) (notGrpc : isGrpc response = false) :
    (∀ encoding encoder, (compress encoders request response body).2 = .encoded encoding encoder →
      Accepted request encoding) ↔
    (Occurs request .gzip → Accepted request .gzip) ∧
      (Occurs request .br → ¬Occurs request .gzip → Accepted request .br) := by
  have encodes (encoding : Encoding) :
      (∃ encoder, (compress encoders request response body).2 = .encoded encoding encoder) ↔
        Occurs request encoding ∧ (encoding = .br → ¬Occurs request .gzip) := by
    rw [← algo_eq_some_iff plain notGrpc]
    unfold compress
    cases algo (acceptHeader request) response with
    | none => simp
    | some chosen => simp
  constructor
  · intro negotiated
    constructor
    · intro occurs
      obtain ⟨encoder, encoded⟩ := (encodes .gzip).mpr ⟨occurs, nofun⟩
      exact negotiated .gzip encoder encoded
    · intro occurs other
      obtain ⟨encoder, encoded⟩ := (encodes .br).mpr ⟨occurs, fun _ => other⟩
      exact negotiated .br encoder encoded
  · rintro ⟨gzip, br⟩ encoding encoder encoded
    obtain ⟨occurs, other⟩ := (encodes encoding).mp ⟨encoder, encoded⟩
    cases encoding with
    | gzip => exact gzip occurs
    | br => exact br occurs (other rfl)

theorem compress_negotiated_iff_br :
    (∀ encoding encoder, (compress marking (accepting "deflate, br;q=0.5") [] sample).2 = .encoded encoding encoder →
      Accepted (accepting "deflate, br;q=0.5") encoding) ↔
    (Occurs (accepting "deflate, br;q=0.5") .gzip → Accepted (accepting "deflate, br;q=0.5") .gzip) ∧
      (Occurs (accepting "deflate, br;q=0.5") .br → ¬Occurs (accepting "deflate, br;q=0.5") .gzip →
        Accepted (accepting "deflate, br;q=0.5") .br) :=
  compress_negotiated_iff marking (accepting "deflate, br;q=0.5") [] sample rfl rfl

/-- A request that refuses gzip is answered with gzip. -/
theorem refused_encoding_used :
    (compress marking (accepting "gzip;q=0") [] sample).2 = .encoded .gzip [.ready (.ok [31, 1])] ∧
      ¬Accepted (accepting "gzip;q=0") .gzip :=
  ⟨rfl, by decide⟩

end Praeco.Compression.Negotiation
