import Praeco.Collections.Access
import Praeco.Path.Sanitizer

/-! The segment loop by index. The validation runs over the whole path and the segment loop over its parts; a slash
is no hex digit, so no escape reaches over one, and in each part the loop finds the escapes that were validated. -/

namespace Praeco.Path.Segments
open Praeco.Strings Utf8 Percent Split Praeco.Collections Fallible Access Praeco.Path.Sanitizer

def byteAt (bytes : Bytes) (index : Nat) : Except Stop UInt8 := item .panic bytes index

def normalizeFrom (bytes : Bytes) (i : Nat) : Except Stop Text :=
  if i < bytes.length then do
    let b ← byteAt bytes i
    if b = 0x25 then
      let h1 ← byteAt bytes (i + 1)
      let h2 ← byteAt bytes (i + 2)
      let high ← hexDigitToVal h1
      let low ← hexDigitToVal h2
      let hexVal := (high <<< 4) ||| low
      let tail ← normalizeFrom bytes (i + 3)
      if isUnreserved hexVal then .ok (byteChar hexVal :: tail)
      else .ok ('%' :: (byteChar h1).toUpper :: (byteChar h2).toUpper :: tail)
    else
      let tail ← normalizeFrom bytes (i + 1)
      .ok (byteChar b :: tail)
  else .ok []
termination_by bytes.length - i

/-- Where the loop stands: three bytes further after a percent sign, one after any other byte. -/
inductive Visits (bytes : Bytes) : Nat → Prop where
  | start : Visits bytes 0
  | plain {i : Nat} {b : UInt8} (before : Visits bytes i) (byte : bytes[i]? = some b) (literal : b ≠ 0x25) :
      Visits bytes (i + 1)
  | escape {i : Nat} (before : Visits bytes i) (byte : bytes[i]? = some 0x25) : Visits bytes (i + 3)

theorem byteAt_drop (bytes : Bytes) (i offset : Nat) : byteAt bytes (i + offset) = byteAt (bytes.drop i) offset :=
  item_drop _ _ _ _

/-- The loop by index is the loop on the bytes from its index on. -/
theorem normalizeFrom_eq (bytes : Bytes) (i : Nat) : normalizeFrom bytes i = normalizeSegment (bytes.drop i) := by
  induction gap : bytes.length - i using Nat.strong_induction_on generalizing i with
  | _ n ih =>
    cases rest : bytes.drop i with
    | nil =>
      have outside : ¬i < bytes.length := Nat.not_lt.mpr (List.drop_eq_nil_iff.mp rest)
      rw [normalizeFrom, if_neg outside]
      rfl
    | cons b tail =>
      have inside : i < bytes.length := by
        by_contra outside
        rw [List.drop_eq_nil_of_le (Nat.not_lt.mp outside)] at rest
        cases rest
      have later (k : Nat) : normalizeFrom bytes (i + (k + 1)) = normalizeSegment (tail.drop k) := by
        rw [ih _ (by omega) (i + (k + 1)) rfl, ← List.drop_drop, rest, List.drop_succ_cons]
      have first : byteAt bytes i = .ok b := by
        have here := byteAt_drop bytes i 0
        rwa [rest] at here
      rw [normalizeFrom, if_pos inside, first]
      by_cases percent : b = 0x25
      · have digit (k : Nat) : byteAt bytes (i + (k + 1)) = byteAt tail k := by
          rw [byteAt_drop, rest]
          rfl
        have next := later 2
        rw [normalizeSegment.eq_def]
        simp only [percent, if_true, bind, Except.bind, digit 0, digit 1, next]
        rcases tail with - | ⟨h1, - | ⟨h2, after⟩⟩
        · rfl
        · rfl
        · rfl
      · have next : normalizeFrom bytes (i + 1) = normalizeSegment tail := later 0
        rw [normalizeSegment.eq_def]
        simp only [if_neg percent, bind, Except.bind, next]

theorem escapesValid_slash (front back : Bytes) (valid : escapesValid (front ++ 0x2F :: back) = true) :
    escapesValid front = true ∧ escapesValid back = true := by
  fun_induction escapesValid front with
  | case1 => exact ⟨rfl, by rwa [List.nil_append, escapesValid_plain _ _ (by decide)] at valid⟩
  | case2 h1 h2 after ih =>
    obtain ⟨_, _, _, same, highHex, lowHex, tail⟩ := escapesValid_escape _ valid
    obtain ⟨rfl, rfl, rfl⟩ : h1 = _ ∧ h2 = _ ∧ after ++ 0x2F :: back = _ := by simpa using same
    obtain ⟨first, second⟩ := ih tail
    rw [highHex, lowHex, first]
    exact ⟨rfl, second⟩
  | case3 rest short =>
    -- with fewer than two bytes behind the percent sign, a digit of the escape would be the slash
    obtain ⟨h1, h2, after, same, highHex, lowHex, _⟩ := escapesValid_escape _ valid
    rcases rest with - | ⟨x, - | ⟨y, others⟩⟩
    · rw [← (List.cons.inj same).1] at highHex
      cases highHex
    · rw [← (List.cons.inj (List.cons.inj same).2).1] at lowHex
      cases lowHex
    · exact absurd rfl (short x y others)
  | case4 b rest literal ih =>
    rw [List.cons_append, escapesValid_plain b _ literal] at valid
    exact ih valid

theorem escapesValid_segment (rawPath segment : Text) (valid : escapesValid (utf8 rawPath) = true)
    (part : segment ∈ rawPath.splitOn '/') : escapesValid (utf8 segment) = true := by
  induction rawPath using split_induction '/' with
  | last whole clean =>
    rw [splitOn_clean '/' whole clean, List.mem_singleton] at part
    rwa [part]
  | more front rest clean ih =>
    have bytes : utf8 (front ++ '/' :: rest) = utf8 front ++ 0x2F :: utf8 rest := by
      rw [utf8_append]
      rfl
    rw [bytes] at valid
    obtain ⟨first, second⟩ := escapesValid_slash _ _ valid
    rw [splitOn_cons_part '/' front rest clean] at part
    rcases List.mem_cons.mp part with rfl | later
    · exact first
    · exact ih second later

/-- What the validation has accepted, the segment loop reads without a panic and without an error. -/
theorem normalizeSegment_of_valid (bytes : Bytes) (valid : escapesValid bytes = true) :
    ∃ text, normalizeSegment bytes = .ok text := by
  suffices normal : ∃ text, Normalizes bytes text by
    obtain ⟨text, normal⟩ := normal
    exact ⟨text, normal.computed⟩
  fun_induction escapesValid bytes with
  | case1 => exact ⟨[], .nil⟩
  | case2 h1 h2 after ih =>
    simp only [Bool.and_eq_true, isAsciiHexdigit_iff] at valid
    obtain ⟨⟨⟨hi, highValue⟩, lo, lowValue⟩, tail⟩ := valid
    obtain ⟨text, normal⟩ := ih tail
    exact ⟨_, .escape highValue lowValue normal⟩
  | case3 => cases valid
  | case4 b rest literal ih =>
    obtain ⟨text, normal⟩ := ih valid
    exact ⟨_, .plain literal normal⟩

theorem Visits.valid {bytes : Bytes} {i : Nat} (visited : Visits bytes i) (valid : escapesValid bytes = true) :
    escapesValid (bytes.drop i) = true := by
  induction visited with
  | start => exact valid
  | @plain i b _ byte literal ih =>
    obtain ⟨inside, rfl⟩ := List.getElem?_eq_some_iff.mp byte
    rwa [List.drop_eq_getElem_cons inside, escapesValid_plain _ _ literal] at ih
  | @escape i _ byte ih =>
    obtain ⟨inside, percent⟩ := List.getElem?_eq_some_iff.mp byte
    rw [List.drop_eq_getElem_cons inside, percent] at ih
    obtain ⟨h1, h2, after, same, _, _, tail⟩ := escapesValid_escape _ ih
    have rest : bytes.drop (i + 3) = after := by
      rw [show i + 3 = i + 1 + 2 from rfl, ← List.drop_drop, same]
      rfl
    rwa [rest]

theorem Visits.digits {bytes : Bytes} {i : Nat} (visited : Visits bytes i) (valid : escapesValid bytes = true)
    (percent : bytes[i]? = some 0x25) :
    ∃ h1 h2, bytes[i + 1]? = some h1 ∧ bytes[i + 2]? = some h2 ∧ isAsciiHexdigit h1 = true ∧
      isAsciiHexdigit h2 = true := by
  have here := visited.valid valid
  obtain ⟨inside, byte⟩ := List.getElem?_eq_some_iff.mp percent
  rw [List.drop_eq_getElem_cons inside, byte] at here
  obtain ⟨h1, h2, after, same, highHex, lowHex, _⟩ := escapesValid_escape _ here
  refine ⟨h1, h2, ?_, ?_, highHex, lowHex⟩
  · rw [← Nat.add_zero (i + 1), ← List.getElem?_drop, same]
    rfl
  · rw [show i + 2 = i + 1 + 1 from rfl, ← List.getElem?_drop, same]
    rfl

/-- In every segment of a path that has passed the checks, each percent sign that the loop comes to has two hex
digits behind it, and the loop returns a text. -/
theorem segments_normalize (rawPath : Text) (checked : Checked rawPath) (segment : Text)
    (part : segment ∈ rawPath.splitOn '/') :
    (∀ i, Visits (utf8 segment) i → (utf8 segment)[i]? = some 0x25 →
      ∃ h1 h2, (utf8 segment)[i + 1]? = some h1 ∧ (utf8 segment)[i + 2]? = some h2 ∧ isAsciiHexdigit h1 = true ∧
        isAsciiHexdigit h2 = true) ∧
    ∃ text, normalizeFrom (utf8 segment) 0 = .ok text := by
  have valid := escapesValid_segment rawPath segment checked.escapes part
  constructor
  · intro i visited percent
    exact visited.digits valid percent
  · rw [normalizeFrom_eq, List.drop_zero]
    exact normalizeSegment_of_valid _ valid

theorem segments_normalize_letter :
    Checked ['/', 'b', '/', '%', '4', '1'] ∧ ∃ text, normalizeFrom (utf8 ['%', '4', '1']) 0 = .ok text := by
  have checked : Checked ['/', 'b', '/', '%', '4', '1'] :=
    ⟨by decide, by decide, by decide, by decide, by decide, by decide⟩
  exact ⟨checked, (segments_normalize _ checked ['%', '4', '1'] (by decide)).2⟩

theorem normalizeSegments_error (raw : List Text) (valid : ∀ segment ∈ raw, escapesValid (utf8 segment) = true)
    (stop : Stop) (failed : normalizeSegments raw = .error stop) : stop = .err .pathTraversal := by
  induction raw with
  | nil => cases failed
  | cons segment rest ih =>
    obtain ⟨here, later⟩ := List.forall_mem_cons.mp valid
    obtain ⟨text, done⟩ := normalizeSegment_of_valid _ here
    rw [normalizeSegments, done] at failed
    simp only [bind, Except.bind] at failed
    split_ifs at failed with empty dropped traversal
    · exact ih later failed
    · exact ih later failed
    · exact (Except.error.inj failed).symm
    · cases tail : normalizeSegments rest with
      | error other =>
        rw [tail] at failed
        exact ih later (tail.trans failed)
      | ok segments =>
        rw [tail] at failed
        cases failed

theorem sanitize_never_panics (rawPath : Text) : sanitizeAndNormalizePath rawPath ≠ .error .panic := by
  intro panics
  by_cases empty : rawPath = []
  · subst empty
    cases panics
  · rcases checked_or_refused rawPath empty with checked | ⟨error, refused⟩
    · rw [sanitize_checked rawPath checked] at panics
      cases segments : normalizeSegments (rawPath.splitOn '/') with
      | error stop =>
        have only := normalizeSegments_error _ (fun segment part =>
          escapesValid_segment rawPath segment checked.escapes part) stop segments
        rw [segments, only] at panics
        cases panics
      | ok texts =>
        rw [segments] at panics
        cases panics
    · rw [refused] at panics
      cases panics

end Praeco.Path.Segments
