import Praeco.Collections.Fallible
import Praeco.Strings.Split
import Praeco.Strings.Percent

/-! The path sanitizer. The function checks a raw path for forbidden characters and spellings, validates
its escapes, and rebuilds it from segments whose unreserved escapes are decoded. Bytes that the
segment loop reads past the end of a segment would panic, so a panic is an outcome of its own. -/

namespace Praeco.Path.Sanitizer
open Praeco.Strings Utf8 Percent Split Praeco.Collections.Fallible

inductive PathSanitizeError where
  | illegalNullByte
  | illegalEncodedSlash
  | illegalBackslash
  | pathTraversal
  | invalidEncoding
  | doubleEncoding
  | invalidPath
  | uriFormatError (detail : Text)
  deriving DecidableEq, Repr

def PathSanitizeError.message : PathSanitizeError → Text
  | .illegalNullByte => "Path contains illegal null byte".toList
  | .illegalEncodedSlash => "Path contains illegal encoded slash (%2f)".toList
  | .illegalBackslash => "Path contains illegal backslash".toList
  | .pathTraversal => "Path traversal attempt detected (..)".toList
  | .invalidEncoding => "Path contains invalid percent-encoding".toList
  | .doubleEncoding => "Path contains suspicious double-encoding".toList
  | .invalidPath => "Path must start with '/'".toList
  | .uriFormatError detail => "Internal URI formatting error: ".toList ++ detail

/-- How a call ends without a value: an index out of range, or a returned error. -/
inductive Stop where
  | panic
  | err (error : PathSanitizeError)
  deriving DecidableEq, Repr

def isAsciiHexdigit (b : UInt8) : Bool :=
  (0x30 ≤ b ∧ b ≤ 0x39) || (0x61 ≤ b ∧ b ≤ 0x66) || (0x41 ≤ b ∧ b ≤ 0x46)

def hexDigitToVal (b : UInt8) : Except Stop UInt8 :=
  if 0x30 ≤ b ∧ b ≤ 0x39 then .ok (b - 0x30)
  else if 0x61 ≤ b ∧ b ≤ 0x66 then .ok (b - 0x61 + 10)
  else if 0x41 ≤ b ∧ b ≤ 0x46 then .ok (b - 0x41 + 10)
  else .error (.err .invalidEncoding)

def isUnreserved (b : UInt8) : Bool :=
  (0x61 ≤ b ∧ b ≤ 0x7A) || (0x41 ≤ b ∧ b ≤ 0x5A) || (0x30 ≤ b ∧ b ≤ 0x39) ||
    b = 0x2D || b = 0x2E || b = 0x5F || b = 0x7E

def normalizeSegment : Bytes → Except Stop Text
  | [] => .ok []
  | b :: rest =>
    if b = 0x25 then
      match rest with
      | h1 :: h2 :: after => do
        let high ← hexDigitToVal h1
        let low ← hexDigitToVal h2
        let hexVal := (high <<< 4) ||| low
        let tail ← normalizeSegment after
        if isUnreserved hexVal then .ok (byteChar hexVal :: tail)
        else .ok ('%' :: (byteChar h1).toUpper :: (byteChar h2).toUpper :: tail)
      | _ => .error .panic
    else do
      let tail ← normalizeSegment rest
      .ok (byteChar b :: tail)

def escapesValid : Bytes → Bool
  | [] => true
  | b :: rest =>
    if b = 0x25 then
      match rest with
      | h1 :: h2 :: after => isAsciiHexdigit h1 && isAsciiHexdigit h2 && escapesValid after
      | _ => false
    else escapesValid rest

def normalizeSegments : List Text → Except Stop (List Text)
  | [] => .ok []
  | rawSegment :: rest =>
    if rawSegment = [] then normalizeSegments rest
    else do
      let segment ← normalizeSegment (utf8 rawSegment)
      if segment = [] ∨ segment = ['.'] then normalizeSegments rest
      else if segment = ['.', '.'] then .error (.err .pathTraversal)
      else do
        let segments ← normalizeSegments rest
        .ok (segment :: segments)

def doubleEncodings : List Text :=
  [['%', '2', '5', '2', 'e'], ['%', '2', '5', '2', 'f'], ['%', '2', '5', '0', '0'], ['%', '2', '5', '5', 'c']]

def joinSegments (segments : List Text) (hasTrailingSlash : Bool) : Text :=
  segments.flatMap (fun segment => '/' :: segment) ++ if hasTrailingSlash then ['/'] else []

def hasTrailingSlash (rawPath : Text) : Bool :=
  1 < (utf8 rawPath).length && (['/'] <:+ rawPath || ['/', '.'] <:+ rawPath)

def sanitizeAndNormalizePath (rawPath : Text) : Except Stop Text :=
  if rawPath = [] then .ok ['/']
  else if ¬['/'] <+: rawPath then .error (.err .invalidPath)
  else if '\x00' ∈ rawPath then .error (.err .illegalNullByte)
  else if '\\' ∈ rawPath then .error (.err .illegalBackslash)
  else
    let lower := rawPath.map Char.toLower
    if ['%', '0', '0'] <:+: lower then .error (.err .illegalNullByte)
    else if ['%', '2', 'f'] <:+: lower then .error (.err .illegalEncodedSlash)
    else if ['%', '5', 'c'] <:+: lower then .error (.err .illegalBackslash)
    else if doubleEncodings.any (fun word => word <:+: lower) then .error (.err .doubleEncoding)
    else if ¬escapesValid (utf8 rawPath) then .error (.err .invalidEncoding)
    else do
      let segments ← normalizeSegments (rawPath.splitOn '/')
      if segments = [] then .ok ['/']
      else .ok (joinSegments segments (hasTrailingSlash rawPath))

theorem escapesValid_plain (b : UInt8) (rest : Bytes) (literal : b ≠ 0x25) :
    escapesValid (b :: rest) = escapesValid rest := by
  rw [escapesValid.eq_def]
  simp only [if_neg literal]

theorem escapesValid_escape (rest : Bytes) (valid : escapesValid (0x25 :: rest) = true) :
    ∃ h1 h2 after, rest = h1 :: h2 :: after ∧ isAsciiHexdigit h1 = true ∧ isAsciiHexdigit h2 = true ∧
      escapesValid after = true := by
  rw [escapesValid.eq_def] at valid
  simp only [if_true] at valid
  split at valid
  · rename_i h1 h2 after
    simp only [Bool.and_eq_true] at valid
    exact ⟨h1, h2, after, rfl, valid.1.1, valid.1.2, valid.2⟩
  · cases valid

theorem isUnreserved_eq (b : UInt8) : isUnreserved b = unreserved b.toNat := by
  simp only [isUnreserved, unreserved, UInt8.le_iff_toNat_le, ← UInt8.toNat_inj, UInt8.reduceToNat]

private theorem toNat_letter (b base : UInt8) (letter : 10 ≤ base.toNat) (above : base.toNat ≤ b.toNat)
    (below : b.toNat < base.toNat + 16) : (b - base + 10).toNat = b.toNat - (base.toNat - 10) := by
  have small : b.toNat - base.toNat + 10 < 2 ^ 8 := by omega
  rw [UInt8.toNat_add, UInt8.toNat_sub_of_le b base above]
  refine (Nat.mod_eq_of_lt small).trans ?_
  omega

theorem hexDigitToVal_ok (b v : UInt8) (value : hexDigitToVal b = .ok v) : digitValue (byteChar b) = some v.toNat := by
  rw [digitValue_byteChar]
  simp only [hexDigitToVal, UInt8.le_iff_toNat_le, UInt8.reduceToNat] at value
  split_ifs at value ⊢ with digit lower upper
  · cases value
    rw [UInt8.toNat_sub_of_le b 0x30 digit.1]
    rfl
  · cases value
    rw [toNat_letter b 0x61 (by decide) lower.1 (Nat.lt_of_le_of_lt lower.2 (by decide))]
    rfl
  · cases value
    rw [toNat_letter b 0x41 (by decide) upper.1 (Nat.lt_of_le_of_lt upper.2 (by decide))]
    rfl

theorem hexDigitToVal_of_digit (b : UInt8) (n : Nat) (value : digitValue (byteChar b) = some n) :
    ∃ v, hexDigitToVal b = .ok v ∧ v.toNat = n := by
  have again := hexDigitToVal_ok b
  rw [value] at again
  rw [digitValue_byteChar] at value
  simp only [hexDigitToVal, UInt8.le_iff_toNat_le, UInt8.reduceToNat] at again ⊢
  split_ifs at value again ⊢ with digit lower upper
  all_goals exact ⟨_, rfl, (Option.some.inj (again _ rfl)).symm⟩

theorem isAsciiHexdigit_iff (b : UInt8) : isAsciiHexdigit b = true ↔ ∃ n, digitValue (byteChar b) = some n := by
  rw [digitValue_byteChar]
  simp only [isAsciiHexdigit, UInt8.le_iff_toNat_le, UInt8.reduceToNat]
  split_ifs with digit lower upper
  · simp only [digit, and_self, decide_true, Bool.true_or, Option.some.injEq, exists_eq']
  · simp only [lower, and_self, decide_true, Bool.or_true, Bool.true_or, Option.some.injEq, exists_eq']
  · simp only [upper, and_self, decide_true, Bool.or_true, Option.some.injEq, exists_eq']
  · simp only [digit, lower, upper, decide_false, Bool.or_false, Bool.false_eq_true, exists_false]

theorem hexVal_toNat (high low : UInt8) (hi : high.toNat < 16) (lo : low.toNat < 16) :
    ((high <<< 4) ||| low).toNat = 16 * high.toNat + low.toNat := by
  have table : ∀ m n : Fin 16, ((UInt8.ofNat m <<< 4) ||| UInt8.ofNat n).toNat = 16 * m.val + n.val := by decide
  simpa using table ⟨_, hi⟩ ⟨_, lo⟩

def renderEscape (hi lo : Nat) : Text :=
  if unreserved (16 * hi + lo) then [Char.ofNat (16 * hi + lo)] else ['%', upperDigit hi, upperDigit lo]

/-- The segment loop as a relation between the bytes it reads and the text it writes. -/
inductive Normalizes : Bytes → Text → Prop where
  | nil : Normalizes [] []
  | plain {b : UInt8} {rest : Bytes} {text : Text} (literal : b ≠ 0x25) (tail : Normalizes rest text) :
      Normalizes (b :: rest) (byteChar b :: text)
  | escape {high low : UInt8} {hi lo : Nat} {rest : Bytes} {text : Text}
      (highValue : digitValue (byteChar high) = some hi) (lowValue : digitValue (byteChar low) = some lo)
      (tail : Normalizes rest text) :
      Normalizes (0x25 :: high :: low :: rest) (renderEscape hi lo ++ text)

private theorem escape_written (high low v w : UInt8) (text : Text) (highOk : hexDigitToVal high = .ok v)
    (lowOk : hexDigitToVal low = .ok w) :
    (if isUnreserved ((v <<< 4) ||| w) then (.ok (byteChar ((v <<< 4) ||| w) :: text) : Except Stop Text)
      else .ok ('%' :: (byteChar high).toUpper :: (byteChar low).toUpper :: text)) =
      .ok (renderEscape v.toNat w.toNat ++ text) := by
  have highValue := hexDigitToVal_ok high v highOk
  have lowValue := hexDigitToVal_ok low w lowOk
  have joined := hexVal_toNat v w (digit_lt _ _ highValue) (digit_lt _ _ lowValue)
  rw [isUnreserved_eq, joined, digit_toUpper _ _ highValue, digit_toUpper _ _ lowValue, renderEscape,
    byteChar, joined]
  split_ifs <;> rfl

theorem normalizeSegment_ok (bytes : Bytes) (text : Text) (done : normalizeSegment bytes = .ok text) :
    Normalizes bytes text := by
  fun_induction normalizeSegment bytes generalizing text with
  | case1 =>
    cases done
    exact .nil
  | case2 high low after ih =>
    obtain ⟨v, highOk, done⟩ := bind_ok done
    obtain ⟨w, lowOk, done⟩ := bind_ok done
    obtain ⟨tail, tailOk, done⟩ := bind_ok done
    rw [escape_written high low v w tail highOk lowOk] at done
    cases done
    exact .escape (hexDigitToVal_ok high v highOk) (hexDigitToVal_ok low w lowOk) (ih tail tailOk)
  | case3 => cases done
  | case4 b rest literal ih =>
    obtain ⟨tail, tailOk, done⟩ := bind_ok done
    cases done
    exact .plain literal (ih tail tailOk)

private theorem normalizeSegment_plain (b : UInt8) (rest : Bytes) (literal : b ≠ 0x25) :
    normalizeSegment (b :: rest) = (normalizeSegment rest).map (byteChar b :: ·) := by
  rw [normalizeSegment.eq_def]
  simp only [if_neg literal]
  cases normalizeSegment rest <;> rfl

theorem Normalizes.computed {bytes : Bytes} {text : Text} (normal : Normalizes bytes text) :
    normalizeSegment bytes = .ok text := by
  induction normal with
  | nil => rfl
  | plain literal _ ih =>
    rw [normalizeSegment_plain _ _ literal, ih]
    rfl
  | @escape high low hi lo rest text highValue lowValue _ ih =>
    obtain ⟨v, highOk, rfl⟩ := hexDigitToVal_of_digit high hi highValue
    obtain ⟨w, lowOk, rfl⟩ := hexDigitToVal_of_digit low lo lowValue
    rw [← escape_written high low v w text highOk lowOk, normalizeSegment, if_pos rfl, highOk, lowOk, ih]
    rfl

theorem Normalizes.unique {bytes : Bytes} {first second : Text} (left : Normalizes bytes first)
    (right : Normalizes bytes second) : first = second :=
  Except.ok.inj (left.computed.symm.trans right.computed)

/-- The segment pass: what each raw segment normalizes to, with empty and dot segments dropped. -/
inductive Collects : List Text → List Text → Prop where
  | nil : Collects [] []
  | drop {raw text : Text} {rest segments : List Text} (normal : Normalizes (utf8 raw) text)
      (dropped : text = [] ∨ text = ['.']) (tail : Collects rest segments) : Collects (raw :: rest) segments
  | keep {raw text : Text} {rest segments : List Text} (normal : Normalizes (utf8 raw) text)
      (kept : ¬(text = [] ∨ text = ['.'])) (noTraversal : text ≠ ['.', '.']) (tail : Collects rest segments) :
      Collects (raw :: rest) (text :: segments)

theorem normalizeSegments_ok (raw segments : List Text) (done : normalizeSegments raw = .ok segments) :
    Collects raw segments := by
  induction raw generalizing segments with
  | nil =>
    cases done
    exact .nil
  | cons raw rest ih =>
    rw [normalizeSegments] at done
    split_ifs at done with empty
    · subst empty
      exact .drop .nil (.inl rfl) (ih segments done)
    · obtain ⟨text, normal, done⟩ := bind_ok done
      have normal := normalizeSegment_ok _ _ normal
      split_ifs at done with dropped traversal
      · exact .drop normal dropped (ih segments done)
      · obtain ⟨tail, tailOk, done⟩ := bind_ok done
        cases done
        exact .keep normal dropped traversal (ih tail tailOk)

theorem Collects.computed {raw segments : List Text} (collected : Collects raw segments) :
    normalizeSegments raw = .ok segments := by
  induction collected with
  | nil => rfl
  | @drop raw text rest segments normal dropped _ ih =>
    rw [normalizeSegments]
    split_ifs
    · exact ih
    · rw [normal.computed]
      exact (if_pos dropped).trans ih
  | @keep raw text rest segments normal kept noTraversal _ ih =>
    have present : raw ≠ [] := by
      rintro rfl
      exact kept (.inl (normal.unique .nil))
    rw [normalizeSegments, if_neg present, normal.computed]
    refine (if_neg kept).trans ((if_neg noTraversal).trans ?_)
    rw [ih]
    rfl

def forbiddenEscapes : List Text := [['%', '0', '0'], ['%', '2', 'f'], ['%', '5', 'c']]

structure Checked (rawPath : Text) : Prop where
  rooted : ['/'] <+: rawPath
  noNull : '\x00' ∉ rawPath
  noBackslash : '\\' ∉ rawPath
  noForbidden : ∀ word ∈ forbiddenEscapes, ¬word <:+: rawPath.map Char.toLower
  noDouble : ∀ word ∈ doubleEncodings, ¬word <:+: rawPath.map Char.toLower
  escapes : escapesValid (utf8 rawPath) = true

def rebuild (rawPath : Text) (segments : List Text) : Text :=
  if segments = [] then ['/'] else joinSegments segments (hasTrailingSlash rawPath)

theorem sanitize_checked (rawPath : Text) (checked : Checked rawPath) :
    sanitizeAndNormalizePath rawPath =
      (normalizeSegments (rawPath.splitOn '/')).map (rebuild rawPath) := by
  have nonempty : rawPath ≠ [] := by
    rintro rfl
    exact absurd checked.rooted (by decide)
  have free := checked.noForbidden
  simp only [forbiddenEscapes, List.forall_mem_cons] at free
  have double : doubleEncodings.any (fun word => word <:+: rawPath.map Char.toLower) = false := by
    simpa only [List.any_eq_false, decide_eq_true_eq] using checked.noDouble
  simp only [sanitizeAndNormalizePath, if_neg nonempty, checked.rooted, checked.noNull, checked.noBackslash,
    free.1, free.2.1, free.2.2.1, double, checked.escapes, not_true_eq_false, if_false, Bool.false_eq_true]
  cases normalizeSegments (rawPath.splitOn '/') with
  | error e => rfl
  | ok segments =>
    change (if segments = [] then Except.ok ['/'] else _) = Except.ok (rebuild rawPath segments)
    unfold rebuild
    split_ifs <;> rfl

theorem checked_or_refused (rawPath : Text) (filled : rawPath ≠ []) :
    Checked rawPath ∨ ∃ error, sanitizeAndNormalizePath rawPath = .error (.err error) := by
  unfold sanitizeAndNormalizePath
  rw [if_neg filled]
  apply guard_or
  intro rooted
  apply guard_or
  intro null
  apply guard_or
  intro backslash
  apply guard_or
  intro null'
  apply guard_or
  intro slash
  apply guard_or
  intro backslash'
  apply guard_or
  intro double
  apply guard_or
  intro escapes
  refine Or.inl ⟨not_not.mp rooted, null, backslash, ?_, ?_, not_not.mp escapes⟩
  · simp only [forbiddenEscapes, List.forall_mem_cons]
    exact ⟨null', slash, backslash', by simp⟩
  · simpa only [List.any_eq_true, not_exists, not_and, decide_eq_true_eq] using double

theorem sanitize_ok_iff (rawPath q : Text) : sanitizeAndNormalizePath rawPath = .ok q ↔
    (rawPath = [] ∧ q = ['/']) ∨
      (Checked rawPath ∧ ∃ segments, Collects (rawPath.splitOn '/') segments ∧ q = rebuild rawPath segments) := by
  constructor
  · intro done
    by_cases empty : rawPath = []
    · subst empty
      exact .inl ⟨rfl, (Except.ok.inj done).symm⟩
    · rcases checked_or_refused rawPath empty with checked | ⟨error, refused⟩
      · rw [sanitize_checked rawPath checked] at done
        obtain ⟨segments, collected, same⟩ := map_ok done
        exact .inr ⟨checked, segments, normalizeSegments_ok _ _ collected, same.symm⟩
      · rw [refused] at done
        cases done
  · rintro (⟨rfl, rfl⟩ | ⟨checked, segments, collected, rfl⟩)
    · rfl
    · rw [sanitize_checked rawPath checked, collected.computed]
      rfl

end Praeco.Path.Sanitizer
