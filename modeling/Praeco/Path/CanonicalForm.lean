import Praeco.Path.Sanitizer
import Praeco.Router.Upstreams

/-! Canonical paths. Every escape the segment loop keeps was an escape of the raw path, so the scan of
the raw path also speaks for the output. The segments of the output are read back from its slashes. -/

namespace Praeco.Path.CanonicalForm
open Praeco.Strings Utf8 Percent Split Praeco.Path.Sanitizer Praeco.Http.Target Praeco.Router.Upstreams

/-- The form the sanitizer promises for its results. -/
structure Canonical (path : Text) : Prop where
  rooted : ['/'] <+: path
  noDoubleSlash : ¬['/', '/'] <:+: path
  noNull : '\x00' ∉ path
  noBackslash : '\\' ∉ path
  noForbidden : ∀ word ∈ forbiddenEscapes, ¬word <:+: path.map Char.toLower
  escapes : ∀ before after, path = before ++ '%' :: after →
    ∃ hi lo rest, hi < 16 ∧ lo < 16 ∧ unreserved (16 * hi + lo) = false ∧
      after = upperDigit hi :: upperDigit lo :: rest
  noDots : ∀ segment ∈ path.splitOn '/',
    percentDecode (utf8 segment) ≠ [0x2E] ∧ percentDecode (utf8 segment) ≠ [0x2E, 0x2E]

/-- The bytes whose escapes survive: reserved ones other than NUL, slash and backslash. -/
def Keep (n : Nat) : Prop := unreserved n = false ∧ n ≠ 0x00 ∧ n ≠ 0x2F ∧ n ≠ 0x5C

structure RawSegment (bytes : Bytes) : Prop where
  plain : ∀ b ∈ bytes, b ≠ 0x00 ∧ b ≠ 0x2F ∧ b ≠ 0x5C
  escapes : ∀ high low hi lo, [0x25, high, low] <:+: bytes → digitValue (byteChar high) = some hi →
    digitValue (byteChar low) = some lo → 16 * hi + lo ≠ 0x00 ∧ 16 * hi + lo ≠ 0x2F ∧ 16 * hi + lo ≠ 0x5C

structure CleanSegment (text : Text) : Prop where
  escaped : Escaped Keep text
  chars : ∀ c ∈ text, c ≠ '\x00' ∧ c ≠ '/' ∧ c ≠ '\\'

private theorem RawSegment.of_suffix (front : Bytes) {rest : Bytes} (raw : RawSegment (front ++ rest)) :
    RawSegment rest where
  plain b member := raw.plain b (List.mem_append_right front member)
  escapes high low hi lo found :=
    raw.escapes high low hi lo (found.trans (List.suffix_append front rest).isInfix)

theorem CleanSegment.append {left right : Text} (first : CleanSegment left) (second : CleanSegment right) :
    CleanSegment (left ++ right) where
  escaped := first.escaped.append second.escaped
  chars c member := (List.mem_append.mp member).elim (first.chars c) (second.chars c)

theorem unreserved_char (n : Nat) (free : unreserved n = true) :
    n < 128 ∧ (Char.ofNat n).toNat = n ∧ Char.ofNat n ≠ '%' ∧ Char.ofNat n ≠ '\x00' ∧ Char.ofNat n ≠ '/' ∧
      Char.ofNat n ≠ '\\' := by
  have bound : n < 128 := by
    simp only [unreserved, Bool.or_eq_true, Bool.decide_and, Bool.and_eq_true, decide_eq_true_eq] at free
    omega
  have table : ∀ m : Fin 128, unreserved m = true → (Char.ofNat m).toNat = m ∧ Char.ofNat m ≠ '%' ∧
      Char.ofNat m ≠ '\x00' ∧ Char.ofNat m ≠ '/' ∧ Char.ofNat m ≠ '\\' := by decide
  exact ⟨bound, table ⟨n, bound⟩ free⟩

private theorem upperDigit_chars (n : Nat) (bound : n < 16) :
    upperDigit n ≠ '\x00' ∧ upperDigit n ≠ '/' ∧ upperDigit n ≠ '\\' := by
  interval_cases n <;> decide

theorem renderEscape_clean (hi lo : Nat) (hiBound : hi < 16) (loBound : lo < 16)
    (legal : 16 * hi + lo ≠ 0x00 ∧ 16 * hi + lo ≠ 0x2F ∧ 16 * hi + lo ≠ 0x5C) : CleanSegment (renderEscape hi lo) := by
  unfold renderEscape
  split_ifs with free
  · obtain ⟨-, -, percent, others⟩ := unreserved_char _ free
    refine ⟨.plain percent .nil, ?_⟩
    simpa only [List.mem_singleton, forall_eq] using others
  · refine ⟨.escape hiBound loBound ⟨Bool.eq_false_of_not_eq_true free, legal⟩ .nil, ?_⟩
    intro c member
    simp only [List.mem_cons, List.not_mem_nil, or_false] at member
    rcases member with rfl | rfl | rfl
    · decide
    · exact upperDigit_chars hi hiBound
    · exact upperDigit_chars lo loBound

theorem normalizes_clean (bytes : Bytes) (text : Text) (normal : Normalizes bytes text)
    (raw : RawSegment bytes) : CleanSegment text := by
  induction normal with
  | nil => exact ⟨.nil, by simp⟩
  | @plain b rest text literal _ ih =>
    have here := raw.plain b List.mem_cons_self
    have code : ∀ x : UInt8, byteChar b = byteChar x → b = x := fun x same => byteChar_injective same
    have head : CleanSegment [byteChar b] := by
      refine ⟨.plain (fun same => literal (code 0x25 same)) .nil, ?_⟩
      simp only [List.mem_singleton, forall_eq]
      exact ⟨fun same => here.1 (code 0x00 same), fun same => here.2.1 (code 0x2F same),
        fun same => here.2.2 (code 0x5C same)⟩
    exact head.append (ih (raw.of_suffix [b]))
  | @escape high low hi lo rest text highValue lowValue _ ih =>
    have legal := raw.escapes high low hi lo (List.prefix_append [0x25, high, low] rest).isInfix highValue lowValue
    have head := renderEscape_clean hi lo (digit_lt _ _ highValue) (digit_lt _ _ lowValue) legal
    exact head.append (ih (raw.of_suffix [0x25, high, low]))

private theorem forbidden_value (text : Text) (hi lo : Nat) (hiBound : hi < 16) (loBound : lo < 16)
    (found : ['%', lowerDigit hi, lowerDigit lo] <:+: text)
    (free : ∀ word ∈ forbiddenEscapes, ¬word <:+: text) :
    16 * hi + lo ≠ 0x00 ∧ 16 * hi + lo ≠ 0x2F ∧ 16 * hi + lo ≠ 0x5C := by
  refine ⟨fun value => ?_, fun value => ?_, fun value => ?_⟩
  · obtain ⟨rfl, rfl⟩ : hi = 0 ∧ lo = 0 := by omega
    exact free _ (by decide) found
  · obtain ⟨rfl, rfl⟩ : hi = 2 ∧ lo = 15 := by omega
    exact free _ (by decide) found
  · obtain ⟨rfl, rfl⟩ : hi = 5 ∧ lo = 12 := by omega
    exact free _ (by decide) found

theorem checked_raw (rawPath segment : Text) (checked : Checked rawPath)
    (member : segment ∈ rawPath.splitOn '/') : RawSegment (utf8 segment) where
  plain b present := by
    have within := infix_of_mem_splitOn '/' rawPath segment member
    have absent : ∀ x : UInt8, x.toNat < 128 → byteChar x ∉ segment → b ≠ x := by
      rintro x low clean rfl
      exact clean (mem_of_low_mem segment b low present)
    exact ⟨absent 0x00 (by decide) (fun found => checked.noNull (within.subset found)),
      absent 0x2F (by decide) (not_mem_of_mem_splitOn '/' rawPath segment member),
      absent 0x5C (by decide) (fun found => checked.noBackslash (within.subset found))⟩
  escapes high low hi lo found highValue lowValue := by
    have within := infix_of_mem_splitOn '/' rawPath segment member
    have ascii : ∀ b ∈ [0x25, high, low], b.toNat < 128 := by
      simp only [List.forall_mem_cons, ← byteChar_toNat]
      exact ⟨by decide, digit_ascii _ _ highValue, digit_ascii _ _ lowValue, by simp⟩
    have spelled := ((infix_of_utf8 _ segment ascii found).trans within).map Char.toLower
    apply forbidden_value (rawPath.map Char.toLower) hi lo (digit_lt _ _ highValue) (digit_lt _ _ lowValue) _
      checked.noForbidden
    rw [← digit_toLower _ _ highValue, ← digit_toLower _ _ lowValue]
    exact spelled

theorem collected_origin {raw segments : List Text} (collected : Collects raw segments) (text : Text)
    (member : text ∈ segments) : ∃ segment ∈ raw, Normalizes (utf8 segment) text ∧
      ¬(text = [] ∨ text = ['.']) ∧ text ≠ ['.', '.'] := by
  induction collected with
  | nil => cases member
  | drop _ _ _ ih =>
    obtain ⟨segment, present, facts⟩ := ih member
    exact ⟨segment, List.mem_cons_of_mem _ present, facts⟩
  | keep normal kept noTraversal _ ih =>
    rcases List.mem_cons.mp member with rfl | later
    · exact ⟨_, List.mem_cons_self, normal, kept, noTraversal⟩
    · obtain ⟨segment, present, facts⟩ := ih later
      exact ⟨segment, List.mem_cons_of_mem _ present, facts⟩

structure OutputSegments (segments : List Text) : Prop where
  clean : ∀ segment ∈ segments, CleanSegment segment
  proper : ∀ segment ∈ segments, segment ≠ [] ∧ segment ≠ ['.'] ∧ segment ≠ ['.', '.']

theorem collected_output (rawPath : Text) (segments : List Text) (checked : Checked rawPath)
    (collected : Collects (rawPath.splitOn '/') segments) : OutputSegments segments where
  clean text member := by
    obtain ⟨segment, present, normal, -, -⟩ := collected_origin collected text member
    exact normalizes_clean _ text normal (checked_raw rawPath segment checked present)
  proper text member := by
    obtain ⟨segment, -, -, kept, noTraversal⟩ := collected_origin collected text member
    exact ⟨fun same => kept (Or.inl same), fun same => kept (Or.inr same), noTraversal⟩

def trailingParts (hasTrailingSlash : Bool) : List Text := if hasTrailingSlash then [[]] else []

theorem joinSegments_cons (segment : Text) (segments : List Text) (trailing : Bool) :
    joinSegments (segment :: segments) trailing = '/' :: (segment ++ joinSegments segments trailing) := by
  simp only [joinSegments, List.flatMap_cons, List.cons_append, List.append_assoc]

variable (segments : List Text)

private theorem splitOn_joined (front : Text) (trailing : Bool) (clean : '/' ∉ front)
    (all : ∀ segment ∈ segments, '/' ∉ segment) :
    (front ++ joinSegments segments trailing).splitOn '/' = front :: (segments ++ trailingParts trailing) := by
  induction segments generalizing front with
  | nil =>
    cases trailing with
    | true => exact splitOn_cons_part '/' front [] clean
    | false =>
      change (front ++ []).splitOn '/' = [front]
      rw [List.append_nil, splitOn_clean '/' front clean]
  | cons segment segments ih =>
    rw [joinSegments_cons, splitOn_cons_part '/' front _ clean, ih segment (all segment List.mem_cons_self)
      fun part member => all part (List.mem_cons_of_mem segment member)]
    rfl

variable (trailing : Bool)

theorem splitOn_joinSegments (output : OutputSegments segments) :
    (joinSegments segments trailing).splitOn '/' = [] :: (segments ++ trailingParts trailing) :=
  splitOn_joined segments [] trailing (by simp) fun segment member found =>
    ((output.clean segment member).chars '/' found).2.1 rfl

theorem OutputSegments.tail {segment : Text} {segments : List Text}
    (output : OutputSegments (segment :: segments)) : OutputSegments segments where
  clean part member := output.clean part (List.mem_cons_of_mem segment member)
  proper part member := output.proper part (List.mem_cons_of_mem segment member)

theorem joinSegments_escaped (output : OutputSegments segments) : Escaped Keep (joinSegments segments trailing) := by
  induction segments with
  | nil =>
    cases trailing with
    | true => exact .plain (by decide) .nil
    | false => exact .nil
  | cons segment segments ih =>
    rw [joinSegments_cons]
    exact .plain (by decide) ((output.clean segment List.mem_cons_self).escaped.append (ih output.tail))

theorem joinSegments_chars (output : OutputSegments segments) :
    ∀ c ∈ joinSegments segments trailing, c ≠ '\x00' ∧ c ≠ '\\' := by
  induction segments with
  | nil =>
    cases trailing with
    | true => exact fun c member => List.mem_singleton.mp member ▸ by decide
    | false => exact fun c member => absurd member List.not_mem_nil
  | cons segment segments ih =>
    intro c member
    rw [joinSegments_cons, List.mem_cons, List.mem_append] at member
    rcases member with rfl | inside | later
    · decide
    · have facts := (output.clean segment List.mem_cons_self).chars c inside
      exact ⟨facts.1, facts.2.2⟩
    · exact ih output.tail c later

theorem empty_part_of_doubleSlash (text : Text) (found : ['/', '/'] <:+: text) :
    ∃ front back, text.splitOn '/' = front ++ [] :: back ∧ front ≠ [] ∧ back ≠ [] := by
  obtain ⟨before, after, rfl⟩ := found
  refine ⟨before.splitOn '/', after.splitOn '/', ?_, List.splitOn_ne_nil _ _, List.splitOn_ne_nil _ _⟩
  rw [List.append_assoc]
  change (before ++ '/' :: ([] ++ '/' :: after)).splitOn '/' = _
  rw [List.splitOn_append_cons_self, splitOn_cons_part '/' [] after (by simp)]

theorem joinSegments_noDoubleSlash (output : OutputSegments segments) :
    ¬['/', '/'] <:+: joinSegments segments trailing := by
  intro found
  obtain ⟨front, back, parts, frontFull, backFull⟩ := empty_part_of_doubleSlash _ found
  rw [splitOn_joinSegments segments trailing output] at parts
  obtain ⟨first, front, rfl⟩ := List.exists_cons_of_ne_nil frontFull
  have inner : segments ++ trailingParts trailing = front ++ [] :: back := (List.cons.inj parts).2
  have member : [] ∈ segments := by
    cases trailing with
    | false =>
      rw [trailingParts, if_neg (by decide), List.append_nil] at inner
      rw [inner]
      exact List.mem_append_right _ List.mem_cons_self
    | true =>
      have shorter := congrArg List.dropLast inner
      rw [trailingParts, if_pos rfl, List.dropLast_concat, List.dropLast_append_cons,
        List.dropLast_cons_of_ne_nil backFull] at shorter
      rw [shorter]
      exact List.mem_append_right _ List.mem_cons_self
  exact (output.proper [] member).1 rfl

private theorem forbidden_table (hi lo : Nat) (hiBound : hi < 16) (loBound : lo < 16)
    (listed : ['%', lowerDigit hi, lowerDigit lo] ∈ forbiddenEscapes) :
    16 * hi + lo = 0x00 ∨ 16 * hi + lo = 0x2F ∨ 16 * hi + lo = 0x5C := by
  have table : ∀ m n : Fin 16, ['%', lowerDigit m, lowerDigit n] ∈ forbiddenEscapes →
      16 * m.val + n.val = 0x00 ∨ 16 * m.val + n.val = 0x2F ∨ 16 * m.val + n.val = 0x5C := by decide
  exact table ⟨hi, hiBound⟩ ⟨lo, loBound⟩ listed

/-- An escape that a case-insensitive search finds is an escape of a kept byte. -/
theorem escaped_noForbidden (text : Text) (escaped : Escaped Keep text) :
    ∀ word ∈ forbiddenEscapes, ¬word <:+: text.map Char.toLower := by
  intro word listed found
  obtain ⟨part, within, lowered⟩ := (infix_map_iff Char.toLower word text).mp found
  have shape : ∃ x y, word = ['%', x, y] := by
    simp only [forbiddenEscapes, List.mem_cons, List.not_mem_nil, or_false] at listed
    rcases listed with rfl | rfl | rfl <;> exact ⟨_, _, rfl⟩
  obtain ⟨x, y, rfl⟩ := shape
  have size : part.length = 3 := by simpa using congrArg List.length lowered
  obtain ⟨a, b, c, rfl⟩ := List.length_eq_three.mp size
  simp only [List.map_cons, List.map_nil, List.cons.injEq, and_true] at lowered
  have percent := eq_of_toLower a '%' (by decide) lowered.1
  obtain ⟨before, after, rfl⟩ := within
  obtain ⟨hi, lo, rest, hiBound, loBound, kept, spelled⟩ :=
    escaped.at_percent before (b :: c :: after) (by rw [percent, List.append_assoc]; rfl)
  simp only [List.cons.injEq] at spelled
  rw [← lowered.2.1, ← lowered.2.2, spelled.1, spelled.2.1, toLower_upperDigit hi hiBound,
    toLower_upperDigit lo loBound] at listed
  rcases forbidden_table hi lo hiBound loBound listed with value | value | value
  · exact kept.2.1 value
  · exact kept.2.2.1 value
  · exact kept.2.2.2 value

theorem clean_noDots (segment : Text) (clean : CleanSegment segment) (noDot : segment ≠ ['.'])
    (noDots : segment ≠ ['.', '.']) :
    percentDecode (utf8 segment) ≠ [0x2E] ∧ percentDecode (utf8 segment) ≠ [0x2E, 0x2E] := by
  have spelled := clean.escaped.decode_unreserved (fun n kept => kept.1)
  have dot : unreserved (0x2E : UInt8).toNat = true := by decide
  constructor
  · intro decoded
    rw [decoded] at spelled
    exact noDot (spelled (by simpa using dot))
  · intro decoded
    rw [decoded] at spelled
    exact noDots (spelled (by simpa using dot))

theorem root_canonical : Canonical ['/'] where
  rooted := List.prefix_rfl
  noDoubleSlash := by decide
  noNull := by decide
  noBackslash := by decide
  noForbidden := by decide
  escapes before after same := by
    have member : '%' ∈ ['/'] := same ▸ List.mem_append_right before List.mem_cons_self
    exact absurd member (by decide)
  noDots := by
    intro segment member
    have parts : ['/'].splitOn '/' = [[], []] := by decide
    have empty : segment = [] := by simpa [parts] using member
    rw [empty]
    decide

theorem joinSegments_canonical (nonempty : segments ≠ []) (output : OutputSegments segments) :
    Canonical (joinSegments segments trailing) where
  rooted := by
    obtain ⟨segment, rest, rfl⟩ := List.exists_cons_of_ne_nil nonempty
    rw [joinSegments_cons]
    exact List.prefix_append ['/'] _
  noDoubleSlash := joinSegments_noDoubleSlash segments trailing output
  noNull found := (joinSegments_chars segments trailing output _ found).1 rfl
  noBackslash found := (joinSegments_chars segments trailing output _ found).2 rfl
  noForbidden := escaped_noForbidden _ (joinSegments_escaped segments trailing output)
  escapes before after same := by
    obtain ⟨hi, lo, rest, hiBound, loBound, kept, spelled⟩ :=
      (joinSegments_escaped segments trailing output).at_percent before after same
    exact ⟨hi, lo, rest, hiBound, loBound, kept.1, spelled⟩
  noDots := by
    intro segment member
    rw [splitOn_joinSegments segments trailing output, List.mem_cons, List.mem_append] at member
    have inner : segment = [] ∨ segment ∈ segments := by
      rcases member with first | inside | last
      · exact Or.inl first
      · exact Or.inr inside
      · unfold trailingParts at last
        split_ifs at last
        · exact Or.inl (List.mem_singleton.mp last)
        · cases last
    rcases inner with rfl | inside
    · decide
    · have facts := output.proper segment inside
      exact clean_noDots segment (output.clean segment inside) facts.2.1 facts.2.2

theorem sanitize_canonical (p q : Text) (done : sanitizeAndNormalizePath p = .ok q) : Canonical q := by
  rcases (sanitize_ok_iff p q).mp done with ⟨-, rfl⟩ | ⟨checked, segments, collected, rfl⟩
  · exact root_canonical
  · unfold rebuild
    split_ifs with empty
    · exact root_canonical
    · exact joinSegments_canonical segments _ empty (collected_output p segments checked collected)

theorem Canonical.rest_not_suspicious {path : Text} (canonical : Canonical path) (before rest : Text)
    (split : path = before ++ '/' :: rest) : suspicious rest = false := by
  have within : rest <:+: path := by
    rw [split]
    exact ⟨before ++ ['/'], [], by simp⟩
  apply suspicious_eq_false
  · intro segment member same
    have part : segment ∈ path.splitOn '/' := split ▸ splitOn_suffix '/' before rest segment member
    exact (canonical.noDots segment part).2 (same ▸ by decide)
  · exact fun found => canonical.noNull (within.subset found)
  · exact fun found => canonical.noBackslash (within.subset found)
  · intro word listed found
    exact canonical.noForbidden _ listed ((found.trans within).map Char.toLower)

/-- A sanitized path is canonical, and no sub-path a route can capture from it is refused upstream. -/
theorem sanitized_path_safe (p q : Text) (done : sanitizeAndNormalizePath p = .ok q) :
    Canonical q ∧ ∀ before rest, q = before ++ '/' :: rest →
      ∀ (library : UriLibrary) (backendBaseUri originalUri : Uri) (matchedParams : Params),
        matchedParams.lookup restKey = some rest →
        buildUpstreamUri library backendBaseUri matchedParams originalUri ≠ .error (.other suspiciousDetail) := by
  have canonical := sanitize_canonical p q done
  refine ⟨canonical, ?_⟩
  intro before rest split library backendBaseUri originalUri matchedParams captured
  apply buildUpstreamUri_ne_suspicious
  intro other found
  obtain rfl : rest = other := Option.some.inj (captured.symm.trans found)
  exact canonical.rest_not_suspicious before rest split

theorem sanitized_path_safe_dotted :
    sanitizeAndNormalizePath ['/', 'a', '/', '%', '2', 'e', '/', 'b', '%', 'c', '3', '%', '7', 'E', '/'] =
      .ok ['/', 'a', '/', 'b', '%', 'C', '3', '~', '/'] ∧
    Canonical ['/', 'a', '/', 'b', '%', 'C', '3', '~', '/'] ∧
    buildUpstreamUri permissive ⟨none, none, ['/'], none⟩ [(restKey, ['b', '%', 'C', '3', '~', '/'])]
      ⟨none, none, ['/', 'a', '/', 'b', '%', 'C', '3', '~', '/'], none⟩ ≠ .error (.other suspiciousDetail) := by
  have done : sanitizeAndNormalizePath
      ['/', 'a', '/', '%', '2', 'e', '/', 'b', '%', 'c', '3', '%', '7', 'E', '/'] =
      .ok ['/', 'a', '/', 'b', '%', 'C', '3', '~', '/'] := by rfl
  have safe := sanitized_path_safe _ _ done
  exact ⟨done, safe.1, safe.2 ['/', 'a'] ['b', '%', 'C', '3', '~', '/'] rfl permissive _ _ _ rfl⟩

end Praeco.Path.CanonicalForm
