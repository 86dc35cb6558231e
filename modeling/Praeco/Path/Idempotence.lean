import Praeco.Path.Spelling

/-! Sanitizing twice. On a result of the sanitizer the second run reads every segment back unchanged,
except that it takes the bytes of a character above ASCII for characters of their own, and it refuses
a double encoding that the first run has put together. -/

namespace Praeco.Path.Idempotence
open Praeco.Strings Utf8 Percent Split Praeco.Path.Sanitizer Praeco.Path.CanonicalForm Praeco.Path.Spelling

theorem normalizes_literal (bytes : Bytes) (literal : ∀ b ∈ bytes, b ≠ 0x25) : Normalizes bytes (latin1 bytes) := by
  induction bytes with
  | nil => exact .nil
  | cons b bytes ih =>
    exact .plain (literal b List.mem_cons_self) (ih fun x member => literal x (List.mem_cons_of_mem b member))

theorem normalizes_escaped (text : Text) (escaped : Escaped Keep text) :
    Normalizes (utf8 text) (latin1 (utf8 text)) := by
  induction escaped with
  | nil => exact .nil
  | @plain c text literal _ ih =>
    rw [utf8_cons, latin1_append]
    exact Normalizes.append (normalizes_literal _ (encode_ne_percent c literal)) ih
  | @escape hi lo text hiBound loBound kept _ ih =>
    have hiValue := digitValue_upperDigit hi hiBound
    have loValue := digitValue_upperDigit lo loBound
    have hiLow := digit_ascii _ hi hiValue
    have loLow := digit_ascii _ lo loValue
    rw [← byteChar_ofNat _ hiLow] at hiValue
    rw [← byteChar_ofNat _ loLow] at loValue
    have run := Normalizes.escape hiValue loValue ih
    rw [renderEscape, if_neg (by rw [kept.1]; decide)] at run
    have head : latin1 (utf8 ['%', upperDigit hi, upperDigit lo]) = ['%', upperDigit hi, upperDigit lo] := by
      apply latin1_utf8_ascii
      simp only [Ascii, List.forall_mem_cons]
      exact ⟨by decide, hiLow, loLow, by simp⟩
    have whole : utf8 ('%' :: upperDigit hi :: upperDigit lo :: text) =
        utf8 ['%', upperDigit hi, upperDigit lo] ++ utf8 text := by
      simp only [utf8_cons, utf8_nil, List.append_assoc, List.append_nil]
    have bytes : utf8 ['%', upperDigit hi, upperDigit lo] =
        [0x25, UInt8.ofNat (upperDigit hi).toNat, UInt8.ofNat (upperDigit lo).toNat] := by
      simp only [utf8_cons, utf8_nil, encode_ascii _ hiLow, encode_ascii _ loLow]
      rfl
    rw [whole, latin1_append, head, bytes]
    exact run

theorem normalizes_escapesValid (bytes : Bytes) (text : Text) (normal : Normalizes bytes text) :
    escapesValid bytes = true := by
  induction normal with
  | nil => rfl
  | plain literal _ ih => rw [escapesValid_plain _ _ literal, ih]
  | @escape high low hi lo rest text highValue lowValue _ ih =>
    have highHex := (isAsciiHexdigit_iff high).mpr ⟨hi, highValue⟩
    have lowHex := (isAsciiHexdigit_iff low).mpr ⟨lo, lowValue⟩
    rw [escapesValid, if_pos rfl, highHex, lowHex, ih]
    rfl

theorem double_search (text : Text) :
    (∃ word ∈ doubleEncodings, word <:+: text.map Char.toLower) ↔ DoubleEncoded text := by
  constructor
  · intro found
    obtain ⟨word, listed, found⟩ := found
    obtain ⟨part, within, lowered⟩ := (infix_map_iff Char.toLower word text).mp found
    have shape : ∃ x y, word = ['%', '2', '5', x, y] := by
      simp only [doubleEncodings, List.mem_cons, List.not_mem_nil, or_false] at listed
      rcases listed with rfl | rfl | rfl | rfl <;> exact ⟨_, _, rfl⟩
    obtain ⟨x, y, rfl⟩ := shape
    simp only [List.map_eq_cons_iff, List.map_eq_nil_iff] at lowered
    obtain ⟨a, _, rfl, first, b, _, rfl, second, c, _, rfl, third, x', _, rfl, rfl, y', _, rfl, rfl, rfl⟩ := lowered
    rw [eq_of_toLower a '%' (by decide) first, eq_of_toLower b '2' (by decide) second,
      eq_of_toLower c '5' (by decide) third] at within
    exact ⟨x', y', listed, within⟩
  · intro found
    obtain ⟨x, y, listed, within⟩ := found
    exact ⟨_, listed, within.map Char.toLower⟩

/-- What the loop does to the characters of a segment it has written itself. -/
def reread (text : Text) : Text := latin1 (utf8 text)

variable (segments : List Text) (trailing : Bool)

theorem reread_joinSegments :
    reread (joinSegments segments trailing) = joinSegments (segments.map reread) trailing := by
  induction segments with
  | nil => cases trailing <;> rfl
  | cons segment segments ih =>
    rw [List.map_cons, joinSegments_cons, joinSegments_cons, ← ih]
    simp only [reread, utf8_cons, utf8_append, latin1_append]
    rfl

theorem collects_reread (output : OutputSegments segments) :
    Collects (segments ++ trailingParts trailing) (segments.map reread) := by
  induction segments with
  | nil =>
    cases trailing with
    | true => exact .drop .nil (Or.inl rfl) .nil
    | false => exact .nil
  | cons segment segments ih =>
    have clean := output.clean segment List.mem_cons_self
    have proper := output.proper segment List.mem_cons_self
    have spelled := clean_noDots segment clean proper.2.1 proper.2.2
    have decoded : ∀ bytes, reread segment = latin1 bytes → utf8 segment = bytes := fun bytes same =>
      List.map_injective_iff.mpr byteChar_injective same
    refine .keep (normalizes_escaped segment clean.escaped) ?_ ?_ (ih output.tail)
    · intro dropped
      rcases dropped with empty | dot
      · exact utf8_ne_nil segment proper.1 (decoded [] empty)
      · exact spelled.1 (by rw [decoded [0x2E] dot]; decide)
    · intro dots
      exact spelled.2 (by rw [decoded [0x2E, 0x2E] dots]; decide)

private theorem last_part (text part : Text) (clean : '/' ∉ part)
    (parts : (text ++ '/' :: part).splitOn '/' = [] :: segments) : part ∈ segments := by
  rw [List.splitOn_append_cons_self, splitOn_clean '/' part clean] at parts
  obtain ⟨first, rest, front⟩ := List.exists_cons_of_ne_nil (List.splitOn_ne_nil '/' text)
  rw [front] at parts
  rw [← (List.cons.inj parts).2]
  exact List.mem_append_right _ List.mem_cons_self

theorem hasTrailingSlash_joinSegments (nonempty : segments ≠ []) (output : OutputSegments segments) :
    hasTrailingSlash (joinSegments segments trailing) = trailing := by
  have long : 1 < (utf8 (joinSegments segments trailing)).length := by
    obtain ⟨segment, rest, rfl⟩ := List.exists_cons_of_ne_nil nonempty
    obtain ⟨c, more, rfl⟩ := List.exists_cons_of_ne_nil (output.proper segment List.mem_cons_self).1
    apply lt_of_lt_of_le _ (utf8_length_le _)
    rw [joinSegments_cons]
    simp
  cases trailing with
  | true =>
    have ends : ['/'] <:+ joinSegments segments true := List.suffix_append _ _
    simp only [hasTrailingSlash, long, ends, decide_true, Bool.true_or, Bool.and_true]
  | false =>
    have parts := splitOn_joinSegments segments false output
    rw [trailingParts, if_neg (by decide), List.append_nil] at parts
    have slash : ¬['/'] <:+ joinSegments segments false := by
      intro ends
      obtain ⟨text, same⟩ := ends
      rw [← same] at parts
      exact (output.proper _ (last_part segments text [] (by simp) parts)).1 rfl
    have dot : ¬['/', '.'] <:+ joinSegments segments false := by
      intro ends
      obtain ⟨text, same⟩ := ends
      rw [← same] at parts
      exact (output.proper _ (last_part segments text ['.'] (by decide) parts)).2.1 rfl
    simp only [hasTrailingSlash, slash, dot, decide_false, Bool.or_false, Bool.and_false]

/-- The second run on a joined path: it passes every check except the search for double encodings. -/
theorem checked_joinSegments (nonempty : segments ≠ []) (output : OutputSegments segments) :
    Checked (joinSegments segments trailing) ↔ ¬DoubleEncoded (joinSegments segments trailing) := by
  have canonical := joinSegments_canonical segments trailing nonempty output
  have normal := normalizes_escaped _ (joinSegments_escaped segments trailing output)
  constructor
  · intro checked double
    obtain ⟨word, listed, found⟩ := (double_search _).mpr double
    exact checked.noDouble word listed found
  · intro single
    exact ⟨canonical.rooted, canonical.noNull, canonical.noBackslash, canonical.noForbidden,
      fun word listed found => single ((double_search _).mp ⟨word, listed, found⟩),
      normalizes_escapesValid _ _ normal⟩

theorem sanitize_joined (result : Text) (nonempty : segments ≠ []) (output : OutputSegments segments) :
    sanitizeAndNormalizePath (joinSegments segments trailing) = .ok result ↔
      ¬DoubleEncoded (joinSegments segments trailing) ∧ result = reread (joinSegments segments trailing) := by
  have parts := splitOn_joinSegments segments trailing output
  have filled : joinSegments segments trailing ≠ [] := by
    obtain ⟨segment, rest, rfl⟩ := List.exists_cons_of_ne_nil nonempty
    rw [joinSegments_cons]
    exact List.cons_ne_nil _ _
  have collected : Collects ((joinSegments segments trailing).splitOn '/') (segments.map reread) := by
    rw [parts]
    exact .drop .nil (Or.inl rfl) (collects_reread segments trailing output)
  have rebuilt : rebuild (joinSegments segments trailing) (segments.map reread) =
      reread (joinSegments segments trailing) := by
    rw [rebuild, if_neg (by simpa using nonempty), hasTrailingSlash_joinSegments segments trailing nonempty output,
      reread_joinSegments]
  rw [← checked_joinSegments segments trailing nonempty output]
  constructor
  · intro done
    rcases (sanitize_ok_iff _ _).mp done with ⟨empty, -⟩ | ⟨checked, other, again, same⟩
    · exact absurd empty filled
    · obtain rfl : segments.map reread = other :=
        Except.ok.inj (collected.computed.symm.trans again.computed)
      exact ⟨checked, same.trans rebuilt⟩
  · intro passed
    apply (sanitize_ok_iff _ _).mpr
    exact Or.inr ⟨passed.1, segments.map reread, collected, passed.2.trans rebuilt.symm⟩

theorem sanitize_joinSegments (nonempty : segments ≠ []) (output : OutputSegments segments) :
    sanitizeAndNormalizePath (joinSegments segments trailing) = .ok (joinSegments segments trailing) ↔
      Ascii (joinSegments segments trailing) ∧ ¬DoubleEncoded (joinSegments segments trailing) := by
  rw [sanitize_joined segments trailing _ nonempty output, eq_comm, and_comm]
  apply and_congr_left'
  exact latin1_utf8_eq_iff _

theorem renderEscape_ascii (hi lo : Nat) (hiBound : hi < 16) (loBound : lo < 16) : Ascii (renderEscape hi lo) := by
  have hiLow := digit_ascii _ hi (digitValue_upperDigit hi hiBound)
  have loLow := digit_ascii _ lo (digitValue_upperDigit lo loBound)
  unfold renderEscape Ascii
  split_ifs with free
  · obtain ⟨bound, code, -⟩ := unreserved_char _ free
    simpa only [List.mem_singleton, forall_eq, code] using bound
  · simp only [List.forall_mem_cons]
    exact ⟨by decide, hiLow, loLow, by simp⟩

theorem normalizes_ascii (bytes : Bytes) (text : Text) (normal : Normalizes bytes text) :
    Ascii text ↔ ∀ b ∈ bytes, b.toNat < 128 := by
  induction normal with
  | nil => simp [Ascii]
  | plain _ _ ih =>
    simp only [Ascii, List.forall_mem_cons, byteChar_toNat] at ih ⊢
    rw [ih]
  | @escape high low hi lo rest text highValue lowValue _ ih =>
    have rendered := renderEscape_ascii hi lo (digit_lt _ _ highValue) (digit_lt _ _ lowValue)
    have highLow := digit_ascii _ _ highValue
    have lowLow := digit_ascii _ _ lowValue
    rw [byteChar_toNat] at highLow lowLow
    have percent : (0x25 : UInt8).toNat < 128 := by decide
    simp only [Ascii, List.forall_mem_append, List.forall_mem_cons] at ih rendered ⊢
    constructor
    · intro all
      exact ⟨percent, highLow, lowLow, ih.mp all.2⟩
    · intro all
      exact ⟨rendered, ih.mpr all.2.2.2⟩

theorem collected_normal {raw segments : List Text} (collected : Collects raw segments) (segment : Text)
    (member : segment ∈ raw) :
    ∃ text, Normalizes (utf8 segment) text ∧ ((text = [] ∨ text = ['.']) ∨ text ∈ segments) := by
  induction collected with
  | nil => cases member
  | @drop _ text _ _ normal dropped _ ih =>
    rcases List.mem_cons.mp member with rfl | later
    · exact ⟨text, normal, Or.inl dropped⟩
    · exact ih later
  | @keep _ text _ _ normal _ _ _ ih =>
    rcases List.mem_cons.mp member with rfl | later
    · exact ⟨text, normal, Or.inr List.mem_cons_self⟩
    · obtain ⟨other, otherNormal, fate⟩ := ih later
      exact ⟨other, otherNormal, fate.imp id (List.mem_cons_of_mem text)⟩

theorem collected_ascii (p : Text) (segments : List Text) (collected : Collects (p.splitOn '/') segments) :
    (∀ segment ∈ segments, Ascii segment) ↔ Ascii p := by
  constructor
  · intro all c member
    by_cases slash : c = '/'
    · rw [slash]
      decide
    · have clean : '/' ∉ [c] := fun found => slash (List.mem_singleton.mp found).symm
      have within : [c] <:+: p := by
        obtain ⟨before, after, rfl⟩ := List.append_of_mem member
        exact ⟨before, after, by simp⟩
      obtain ⟨raw, present, inside⟩ := (infix_iff_splitOn '/' [c] p clean).mp within
      obtain ⟨text, normal, fate⟩ := collected_normal collected raw present
      have ascii : Ascii text := by
        rcases fate with (rfl | rfl) | kept
        · exact fun c member => absurd member List.not_mem_nil
        · exact fun c member => List.mem_singleton.mp member ▸ by decide
        · exact all text kept
      have low := (utf8_ascii_iff raw).mp ((normalizes_ascii _ _ normal).mp ascii)
      exact low c (inside.subset List.mem_cons_self)
  · intro ascii text member
    obtain ⟨raw, present, normal, -⟩ := collected_origin collected text member
    have within := infix_of_mem_splitOn '/' p raw present
    exact (normalizes_ascii _ _ normal).mpr ((utf8_ascii_iff raw).mpr fun c found => ascii c (within.subset found))

private theorem spells_noSlash (x : Char) (word : Text) (spells : Spells x word) (other : x ≠ '/') : '/' ∉ word := by
  cases spells with
  | literal => simpa using other.symm
  | escape highValue lowValue _ =>
    simp only [List.mem_cons, List.not_mem_nil, or_false, not_or]
    exact ⟨by decide, (digit_ne_slash _ _ highValue).symm, (digit_ne_slash _ _ lowValue).symm⟩

private theorem double_noSlash (x y : Char) (listed : ['%', '2', '5', x.toLower, y.toLower] ∈ doubleEncodings) :
    x ≠ '/' ∧ y ≠ '/' := by
  obtain ⟨first, second⟩ := double_unreserved x y listed
  exact ⟨fun same => absurd (same ▸ first) (by decide), fun same => absurd (same ▸ second) (by decide)⟩

theorem hides_splitOn (p : Text) : HidesDoubleEncoding p ↔ ∃ raw ∈ p.splitOn '/', HidesDoubleEncoding raw := by
  constructor
  · intro hidden
    obtain ⟨x, y, first, second, listed, firstSpells, secondSpells, within⟩ := hidden
    obtain ⟨xOther, yOther⟩ := double_noSlash x y listed
    have clean : '/' ∉ '%' :: '2' :: '5' :: (first ++ second) := by
      simp only [List.mem_cons, List.mem_append, not_or]
      exact ⟨by decide, by decide, by decide, spells_noSlash x first firstSpells xOther,
        spells_noSlash y second secondSpells yOther⟩
    obtain ⟨raw, present, inside⟩ := (infix_iff_splitOn '/' _ p clean).mp within
    exact ⟨raw, present, x, y, first, second, listed, firstSpells, secondSpells, inside⟩
  · intro hidden
    obtain ⟨raw, present, x, y, first, second, listed, firstSpells, secondSpells, inside⟩ := hidden
    exact ⟨x, y, first, second, listed, firstSpells, secondSpells,
      inside.trans (infix_of_mem_splitOn '/' p raw present)⟩

private theorem double_nonempty (text : Text) (double : DoubleEncoded text) : ¬(text = [] ∨ text = ['.']) := by
  obtain ⟨x, y, -, within⟩ := double
  have size := within.length_le
  intro short
  rcases short with rfl | rfl
  · simp at size
  · simp at size

theorem collected_double (p : Text) (segments : List Text) (collected : Collects (p.splitOn '/') segments) :
    (∃ segment ∈ segments, DoubleEncoded segment) ↔ HidesDoubleEncoding p := by
  rw [hides_splitOn]
  constructor
  · intro found
    obtain ⟨text, member, double⟩ := found
    obtain ⟨raw, present, normal, -⟩ := collected_origin collected text member
    exact ⟨raw, present, (Normalizes.double_iff normal).mp double⟩
  · intro found
    obtain ⟨raw, present, hidden⟩ := found
    obtain ⟨text, normal, fate⟩ := collected_normal collected raw present
    have double := (Normalizes.double_iff normal).mpr hidden
    exact ⟨text, fate.resolve_left (double_nonempty text double), double⟩

theorem joinSegments_ascii : Ascii (joinSegments segments trailing) ↔ ∀ segment ∈ segments, Ascii segment := by
  induction segments with
  | nil =>
    cases trailing with
    | true => simp [joinSegments, Ascii]
    | false => simp [joinSegments, Ascii]
  | cons segment segments ih =>
    rw [joinSegments_cons, List.forall_mem_cons, ← ih]
    have slash : '/'.toNat < 128 := by decide
    simp only [Ascii, List.forall_mem_cons, List.forall_mem_append, slash, true_and]

theorem joinSegments_double (output : OutputSegments segments) :
    DoubleEncoded (joinSegments segments trailing) ↔ ∃ segment ∈ segments, DoubleEncoded segment := by
  constructor
  · intro double
    obtain ⟨x, y, listed, within⟩ := double
    obtain ⟨xOther, yOther⟩ := double_noSlash x y listed
    have clean : '/' ∉ ['%', '2', '5', x, y] := by
      simp only [List.mem_cons, List.not_mem_nil, or_false, not_or]
      exact ⟨by decide, by decide, by decide, xOther.symm, yOther.symm⟩
    obtain ⟨part, present, inside⟩ := (infix_iff_splitOn '/' _ _ clean).mp within
    rw [splitOn_joinSegments segments trailing output] at present
    have filled := double_nonempty part ⟨x, y, listed, inside⟩
    have member : part ∈ segments := by
      rcases List.mem_cons.mp present with empty | later
      · exact absurd (Or.inl empty) filled
      · rcases List.mem_append.mp later with kept | last
        · exact kept
        · unfold trailingParts at last
          split_ifs at last
          · exact absurd (Or.inl (List.mem_singleton.mp last)) filled
          · cases last
    exact ⟨part, member, x, y, listed, inside⟩
  · intro found
    obtain ⟨part, member, x, y, listed, inside⟩ := found
    have present : part ∈ (joinSegments segments trailing).splitOn '/' := by
      rw [splitOn_joinSegments segments trailing output]
      exact List.mem_cons_of_mem _ (List.mem_append_left _ member)
    exact ⟨x, y, listed, inside.trans (infix_of_mem_splitOn '/' _ part present)⟩

/-- A second run returns the result of the first one exactly for raw paths in ASCII that hide no double
encoding behind an escaped digit or letter. -/
theorem sanitize_idempotent_iff (p q : Text) (done : sanitizeAndNormalizePath p = .ok q) :
    sanitizeAndNormalizePath q = .ok q ↔ Ascii p ∧ ¬HidesDoubleEncoding p := by
  rcases (sanitize_ok_iff p q).mp done with ⟨rfl, rfl⟩ | ⟨checked, segments, collected, rfl⟩
  · refine iff_of_true rfl ⟨fun c member => absurd member List.not_mem_nil, ?_⟩
    intro hidden
    obtain ⟨x, y, first, second, -, -, -, within⟩ := hidden
    exact absurd within.length_le (by simp)
  · rw [← collected_ascii p segments collected, ← collected_double p segments collected]
    unfold rebuild
    split_ifs with empty
    · subst empty
      refine iff_of_true rfl ⟨fun segment member => absurd member List.not_mem_nil, ?_⟩
      simp
    · have output := collected_output p segments checked collected
      rw [sanitize_joinSegments segments _ empty output, joinSegments_ascii, joinSegments_double _ _ output]

theorem sanitize_idempotent_iff_plain :
    sanitizeAndNormalizePath ['/', 'a', '%', '2', 'd', '/', '.'] = .ok ['/', 'a', '-', '/'] ∧
    (sanitizeAndNormalizePath ['/', 'a', '-', '/'] = .ok ['/', 'a', '-', '/'] ↔
      Ascii ['/', 'a', '%', '2', 'd', '/', '.'] ∧ ¬HidesDoubleEncoding ['/', 'a', '%', '2', 'd', '/', '.']) := by
  have done : sanitizeAndNormalizePath ['/', 'a', '%', '2', 'd', '/', '.'] = .ok ['/', 'a', '-', '/'] := by rfl
  exact ⟨done, sanitize_idempotent_iff _ _ done⟩

/-- An escaped digit completes a double encoding that the second run refuses, and a letter above ASCII
is re-encoded by the second run. -/
theorem sanitize_not_idempotent :
    (sanitizeAndNormalizePath ['/', '%', '2', '5', '%', '3', '2', 'e'] = .ok ['/', '%', '2', '5', '2', 'e'] ∧
      sanitizeAndNormalizePath ['/', '%', '2', '5', '2', 'e'] = .error (.err .doubleEncoding)) ∧
    (sanitizeAndNormalizePath ['/', 'é'] = .ok ['/', 'Ã', '©'] ∧
      sanitizeAndNormalizePath ['/', 'Ã', '©'] ≠ .ok ['/', 'Ã', '©']) := by
  refine ⟨⟨rfl, rfl⟩, rfl, ?_⟩
  have again : sanitizeAndNormalizePath ['/', 'Ã', '©'] = .ok ['/', 'Ã', '\x83', 'Â', '©'] := by rfl
  rw [again]
  intro same
  exact absurd (congrArg List.length (Except.ok.inj same)) (by decide)

end Praeco.Path.Idempotence
