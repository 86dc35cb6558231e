import Praeco.Path.Idempotence

/-! What a path means: the byte strings its segments decode to. The segment loop leaves them alone as long as it reads
bytes below 128; a larger byte is written as a character of its own, whose encoding is longer. -/

namespace Praeco.Path.Meaning
open Praeco.Strings Utf8 Percent Split Praeco.Path.Sanitizer Praeco.Path.CanonicalForm Praeco.Path.Idempotence

/-- The non-empty segments of a path, percent-decoded. -/
def meaning (path : Text) : List Bytes :=
  ((path.splitOn '/').filter (· ≠ [])).map fun segment => percentDecode (utf8 segment)

theorem decode_renderEscape (hi lo : Nat) (text : Text) (hiBound : hi < 16) (loBound : lo < 16) :
    percentDecode (utf8 (renderEscape hi lo ++ text)) = UInt8.ofNat (16 * hi + lo) :: percentDecode (utf8 text) := by
  unfold renderEscape
  split_ifs with free
  · obtain ⟨bound, code, percent, -⟩ := unreserved_char _ free
    rw [List.singleton_append, percentDecode_utf8_plain _ _ percent, encode_ascii _ (by omega), code]
    rfl
  · exact percentDecode_utf8_escape hi lo text hiBound loBound

private theorem byteChar_literal (b : UInt8) (literal : b ≠ 0x25) : byteChar b ≠ '%' :=
  fun same => literal (byteChar_injective same)

theorem normalizes_decode_low (bytes : Bytes) (text : Text) (normal : Normalizes bytes text)
    (low : ∀ b ∈ bytes, b.toNat < 128) : percentDecode (utf8 text) = percentDecode bytes := by
  induction normal with
  | nil => rfl
  | @plain b rest text literal _ ih =>
    have here : (byteChar b).toNat < 128 := by
      rw [byteChar_toNat]
      exact low b List.mem_cons_self
    rw [percentDecode_utf8_plain _ _ (byteChar_literal b literal), percentDecode_cons _ _ literal, encode_ascii _ here,
      byteChar_toNat, UInt8.ofNat_toNat, ih fun x member => low x (List.mem_cons_of_mem b member)]
    rfl
  | @escape high low' hi lo rest text highValue lowValue _ ih =>
    rw [decode_renderEscape hi lo text (digit_lt _ _ highValue) (digit_lt _ _ lowValue),
      percentDecode_escape high low' hi lo rest highValue lowValue,
      ih fun x member => low x (List.mem_append_right [0x25, high, low'] member)]

theorem normalizes_decode_length (bytes : Bytes) (text : Text) (normal : Normalizes bytes text) :
    (percentDecode bytes).length + bytes.countP (128 ≤ UInt8.toNat ·) ≤ (percentDecode (utf8 text)).length := by
  induction normal with
  | nil => simp
  | @plain b rest text literal _ ih =>
    have head : 1 + (if 128 ≤ b.toNat then 1 else 0) ≤ (String.utf8EncodeChar (byteChar b)).length := by
      split_ifs with large
      · exact encode_high_length _ (by rwa [byteChar_toNat])
      · exact List.length_pos_of_ne_nil String.utf8EncodeChar_ne_nil
    rw [percentDecode_utf8_plain _ _ (byteChar_literal b literal), percentDecode_cons _ _ literal, List.countP_cons,
      List.length_cons, List.length_append]
    simp only [decide_eq_true_eq]
    omega
  | @escape high low hi lo rest text highValue lowValue _ ih =>
    have highLow := digit_ascii _ _ highValue
    have lowLow := digit_ascii _ _ lowValue
    rw [byteChar_toNat] at highLow lowLow
    have count : (0x25 :: high :: low :: rest).countP (128 ≤ UInt8.toNat ·) = rest.countP (128 ≤ UInt8.toNat ·) := by
      rw [List.countP_cons_of_neg (by decide), List.countP_cons_of_neg (by simpa using highLow),
        List.countP_cons_of_neg (by simpa using lowLow)]
    rw [decode_renderEscape hi lo text (digit_lt _ _ highValue) (digit_lt _ _ lowValue),
      percentDecode_escape high low hi lo rest highValue lowValue, count, List.length_cons, List.length_cons]
    omega

theorem normalizes_decode_iff (raw text : Text) (normal : Normalizes (utf8 raw) text) :
    percentDecode (utf8 text) = percentDecode (utf8 raw) ↔ Ascii text := by
  rw [normalizes_ascii _ _ normal]
  constructor
  · intro same b member
    have size := normalizes_decode_length _ _ normal
    rw [same] at size
    have none : (utf8 raw).countP (128 ≤ UInt8.toNat ·) = 0 := by omega
    have small := List.countP_eq_zero.mp none b member
    simpa using small
  · intro low
    exact normalizes_decode_low _ _ normal low

private theorem decode_eq_nil (bytes : Bytes) (empty : percentDecode bytes = []) : bytes = [] := by
  fun_cases percentDecode bytes
  all_goals simp_all [percentDecode]

theorem normalizes_empty_iff (raw text : Text) (normal : Normalizes (utf8 raw) text) : text = [] ↔ raw = [] := by
  constructor
  · rintro rfl
    have size : _ ≤ 0 := normalizes_decode_length _ _ normal
    have none : percentDecode (utf8 raw) = [] := List.length_eq_zero_iff.mp (by omega)
    by_contra filled
    exact utf8_ne_nil raw filled (decode_eq_nil _ none)
  · rintro rfl
    exact normal.unique .nil

private theorem normalizes_dot (bytes : Bytes) (text : Text) (normal : Normalizes bytes text)
    (dot : percentDecode bytes = [0x2E]) : text = ['.'] := by
  cases normal with
  | nil => cases dot
  | @plain b rest text literal tail =>
    rw [percentDecode_cons _ _ literal] at dot
    obtain ⟨rfl, none⟩ := List.cons.inj dot
    rw [decode_eq_nil rest none] at tail
    rw [tail.unique .nil]
    rfl
  | @escape high low hi lo rest text highValue lowValue tail =>
    rw [percentDecode_escape high low hi lo rest highValue lowValue] at dot
    obtain ⟨value, none⟩ := List.cons.inj dot
    rw [decode_eq_nil rest none] at tail
    have number : 16 * hi + lo = 46 := by
      have hiBound := digit_lt _ _ highValue
      have loBound := digit_lt _ _ lowValue
      have code := congrArg UInt8.toNat value
      rw [UInt8.toNat_ofNat', Nat.mod_eq_of_lt (by omega)] at code
      exact code
    rw [tail.unique .nil, renderEscape, number]
    rfl

theorem normalizes_dot_iff (raw text : Text) (normal : Normalizes (utf8 raw) text) :
    text = ['.'] ↔ percentDecode (utf8 raw) = [0x2E] := by
  constructor
  · rintro rfl
    have ascii : Ascii ['.'] := fun c member => List.mem_singleton.mp member ▸ by decide
    exact ((normalizes_decode_iff raw _ normal).mpr ascii).symm
  · exact normalizes_dot _ _ normal

def kept (raw : List Text) : List Bytes :=
  ((raw.filter (· ≠ [])).map fun segment => percentDecode (utf8 segment)).filter (· ≠ [0x2E])

theorem kept_cons (raw : Text) (rest : List Text) : kept (raw :: rest) =
    if raw = [] ∨ percentDecode (utf8 raw) = [0x2E] then kept rest
    else percentDecode (utf8 raw) :: kept rest := by
  by_cases empty : raw = []
  · rw [if_pos (.inl empty)]
    simp [kept, empty]
  · by_cases dot : percentDecode (utf8 raw) = [0x2E]
    · rw [if_pos (.inr dot)]
      simp [kept, empty, dot]
    · rw [if_neg (not_or.mpr ⟨empty, dot⟩)]
      simp [kept, empty, dot]

theorem collected_meaning_iff {raw segments : List Text} (collected : Collects raw segments) :
    segments.map (fun segment => percentDecode (utf8 segment)) = kept raw ↔ ∀ segment ∈ segments, Ascii segment := by
  induction collected with
  | nil => simp [kept]
  | @drop raw text rest segments normal dropped _ ih =>
    rw [normalizes_empty_iff raw text normal, normalizes_dot_iff raw text normal] at dropped
    rw [kept_cons, if_pos dropped, ih]
  | @keep raw text rest segments normal stays _ _ ih =>
    rw [normalizes_empty_iff raw text normal, normalizes_dot_iff raw text normal] at stays
    rw [kept_cons, if_neg stays, List.map_cons, List.cons.injEq, ih, List.forall_mem_cons,
      normalizes_decode_iff raw text normal]

theorem meaning_joinSegments (segments : List Text) (trailing : Bool) (output : OutputSegments segments) :
    meaning (joinSegments segments trailing) = segments.map fun segment => percentDecode (utf8 segment) := by
  have filled : segments.filter (· ≠ []) = segments :=
    List.filter_eq_self.mpr fun segment member => by simpa using (output.proper segment member).1
  have trailer : (trailingParts trailing).filter (· ≠ []) = [] := by
    cases trailing <;> rfl
  have front : ([] :: (segments ++ trailingParts trailing)).filter (· ≠ []) = segments := by
    rw [List.filter_cons_of_neg (by simp), List.filter_append, filled, trailer, List.append_nil]
  rw [meaning, splitOn_joinSegments segments trailing output, front]

/-- The segments of a result decode to those of the raw path without the dots exactly when the path is in ASCII. -/
theorem sanitize_meaning_iff (p q : Text) (done : sanitizeAndNormalizePath p = .ok q) :
    meaning q = (meaning p).filter (· ≠ [0x2E]) ↔ Ascii p := by
  rcases (sanitize_ok_iff p q).mp done with ⟨rfl, rfl⟩ | ⟨checked, segments, collected, rfl⟩
  · exact iff_of_true rfl fun c member => absurd member List.not_mem_nil
  · have shown : meaning (rebuild p segments) = segments.map fun segment => percentDecode (utf8 segment) := by
      unfold rebuild
      split_ifs with empty
      · rw [empty]
        rfl
      · exact meaning_joinSegments segments _ (collected_output p segments checked collected)
    rw [shown, ← collected_ascii p segments collected]
    exact collected_meaning_iff collected

theorem sanitize_meaning_iff_dotted :
    sanitizeAndNormalizePath ['/', '%', '2', 'E', '/', 'a', '%', '2', '0'] = .ok ['/', 'a', '%', '2', '0'] ∧
    (meaning ['/', 'a', '%', '2', '0'] =
        (meaning ['/', '%', '2', 'E', '/', 'a', '%', '2', '0']).filter (· ≠ [0x2E]) ↔
      Ascii ['/', '%', '2', 'E', '/', 'a', '%', '2', '0']) := by
  have done : sanitizeAndNormalizePath ['/', '%', '2', 'E', '/', 'a', '%', '2', '0'] =
      .ok ['/', 'a', '%', '2', '0'] := by rfl
  exact ⟨done, sanitize_meaning_iff _ _ done⟩

/-- The two bytes of a letter above ASCII come out as two characters, that is, as four bytes. -/
theorem sanitize_changes_meaning :
    sanitizeAndNormalizePath ['/', 'é'] = .ok ['/', 'Ã', '©'] ∧
    meaning ['/', 'Ã', '©'] = [[0xC3, 0x83, 0xC2, 0xA9]] ∧ (meaning ['/', 'é']).filter (· ≠ [0x2E]) = [[0xC3, 0xA9]] :=
  ⟨rfl, by decide, by decide⟩

end Praeco.Path.Meaning
