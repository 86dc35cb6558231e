import Praeco.Path.Idempotence

/-! Sanitizing a path several times, as the layers of a server and the router do. In ASCII the first run settles it;
other paths grow with every run, so that no two runs see the same text. -/

namespace Praeco.Path.Rounds
open Praeco.Strings Utf8 Percent Split Praeco.Collections.Fallible Praeco.Http.Target
open Praeco.Path.Sanitizer Praeco.Path.CanonicalForm Praeco.Path.Idempotence

theorem reread_grows (text : Text) (raw : ¬Ascii text) : text.length < (reread text).length := by
  obtain ⟨c, member, high⟩ : ∃ c ∈ text, ¬c.toNat < 128 := by simpa only [Ascii, not_forall, exists_prop] using raw
  rw [reread, latin1_length]
  apply utf8_length_lt text c member
  omega

theorem sanitize_ascii (p q : Text) (done : sanitizeAndNormalizePath p = .ok q) : Ascii q ↔ Ascii p := by
  have root : Ascii ['/'] := fun c member => List.mem_singleton.mp member ▸ by decide
  rcases (sanitize_ok_iff p q).mp done with ⟨rfl, rfl⟩ | ⟨checked, segments, collected, rfl⟩
  · exact iff_of_true root fun c member => absurd member List.not_mem_nil
  · rw [← collected_ascii p segments collected]
    unfold rebuild
    split_ifs with empty
    · subst empty
      exact iff_of_true root fun segment member => absurd member List.not_mem_nil
    · exact joinSegments_ascii segments _

theorem sanitize_again (p q r : Text) (done : sanitizeAndNormalizePath p = .ok q)
    (again : sanitizeAndNormalizePath q = .ok r) : r = reread q := by
  have root : sanitizeAndNormalizePath ['/'] = .ok ['/'] := by rfl
  rcases (sanitize_ok_iff p q).mp done with ⟨-, rfl⟩ | ⟨checked, segments, collected, rfl⟩
  · exact (Except.ok.inj (root.symm.trans again)).symm
  · unfold rebuild at again ⊢
    split_ifs at again ⊢ with empty
    · exact (Except.ok.inj (root.symm.trans again)).symm
    · exact ((sanitize_joined segments _ r empty (collected_output p segments checked collected)).mp again).2

def sanitizeTimes : Nat → Text → Except Stop Text
  | 0, path => .ok path
  | n + 1, path => sanitizeTimes n path >>= sanitizeAndNormalizePath

theorem sanitizeTimes_add (m n : Nat) (path : Text) :
    sanitizeTimes (m + n) path = sanitizeTimes m path >>= sanitizeTimes n := by
  induction n with
  | zero =>
    cases sanitizeTimes m path with
    | error stop => rfl
    | ok q => rfl
  | succ n ih =>
    calc sanitizeTimes (m + n) path >>= sanitizeAndNormalizePath
        = (sanitizeTimes m path >>= sanitizeTimes n) >>= sanitizeAndNormalizePath := by rw [ih]
      _ = sanitizeTimes m path >>= sanitizeTimes (n + 1) := by
        cases sanitizeTimes m path with
        | error stop => rfl
        | ok q => rfl

theorem sanitizeTimes_settled (n : Nat) (p q : Text) (ascii : Ascii p) (done : sanitizeTimes (n + 1) p = .ok q) :
    sanitizeAndNormalizePath p = .ok q := by
  induction n generalizing q with
  | zero => exact done
  | succ n ih =>
    obtain ⟨r, before, again⟩ := bind_ok done
    have first := ih r before
    have plain : Ascii r := (sanitize_ascii p r first).mpr ascii
    have fixed : q = r := (sanitize_again p r q first again).trans ((latin1_utf8_eq_iff r).mpr plain)
    rw [fixed]
    exact first

/-- Beyond ASCII every run on a result makes it longer. -/
theorem sanitizeTimes_grows (n : Nat) (origin p q : Text) (made : sanitizeAndNormalizePath origin = .ok p)
    (raw : ¬Ascii p) (done : sanitizeTimes (n + 1) p = .ok q) :
    p.length < q.length ∧ ¬Ascii q ∧ ∃ before, sanitizeAndNormalizePath before = .ok q := by
  induction n generalizing q with
  | zero =>
    have grown := reread_grows p raw
    rw [← sanitize_again origin p q made done] at grown
    exact ⟨grown, fun ascii => raw ((sanitize_ascii p q done).mp ascii), p, done⟩
  | succ n ih =>
    obtain ⟨r, before, again⟩ := bind_ok done
    obtain ⟨longer, high, source, first⟩ := ih r before
    have grown := reread_grows r high
    rw [← sanitize_again source r q first again] at grown
    exact ⟨longer.trans grown, fun ascii => high ((sanitize_ascii r q again).mp ascii), r, again⟩

theorem sanitizeTimes_ascii (n : Nat) (p q : Text) (done : sanitizeTimes n p = .ok q) : Ascii q ↔ Ascii p := by
  induction n generalizing q with
  | zero =>
    cases done
    exact Iff.rfl
  | succ n ih =>
    obtain ⟨r, before, again⟩ := bind_ok done
    exact (sanitize_ascii r q again).trans (ih r before)

theorem sanitizeTimes_differ (m n : Nat) (p a b : Text) (raw : ¬Ascii p) (before : m < n)
    (first : sanitizeTimes m p = .ok a) (second : sanitizeTimes n p = .ok b) : a ≠ b := by
  obtain ⟨k, rfl⟩ : ∃ k, n = m + (k + 1) := ⟨n - m - 1, by omega⟩
  rw [sanitizeTimes_add, first] at second
  rintro rfl
  -- The text would be a result of the sanitizer that a further run does not make longer.
  obtain ⟨source, -, made⟩ := bind_ok (show sanitizeTimes k a >>= sanitizeAndNormalizePath = .ok a from second)
  have high : ¬Ascii a := fun ascii => raw ((sanitizeTimes_ascii m p a first).mp ascii)
  exact absurd (sanitizeTimes_grows k source a a made high second).1 (lt_irrefl _)

/-- When the texts after `m` and after `n` runs are the same. -/
theorem sanitizeTimes_eq_iff (m n : Nat) (p a b : Text) (first : sanitizeTimes m p = .ok a)
    (second : sanitizeTimes n p = .ok b) :
    a = b ↔ m = n ∨ Ascii p ∧ (sanitizeAndNormalizePath p = .ok p ∨ 0 < m ∧ 0 < n) := by
  by_cases ascii : Ascii p
  · cases m with
    | zero =>
      obtain rfl := Except.ok.inj first
      cases n with
      | zero =>
        obtain rfl := Except.ok.inj second
        simp
      | succ n =>
        rw [sanitizeTimes_settled n p b ascii second]
        simp [ascii, eq_comm]
    | succ m =>
      have start := sanitizeTimes_settled m p a ascii first
      cases n with
      | zero =>
        obtain rfl := Except.ok.inj second
        rw [start]
        simp [ascii]
      | succ n =>
        have same : a = b := Except.ok.inj (start.symm.trans (sanitizeTimes_settled n p b ascii second))
        simp [ascii, same]
  · simp only [ascii, false_and, or_false]
    constructor
    · intro same
      by_contra other
      rcases Nat.lt_or_gt_of_ne other with before | after
      · exact sanitizeTimes_differ m n p a b ascii before first second same
      · exact sanitizeTimes_differ n m p b a ascii after second first same.symm
    · rintro rfl
      exact Except.ok.inj (first.symm.trans second)

/-! ### Request targets -/

/-- A character that stands in a path only where the raw path has it. -/
structure Delimiter (c : Char) : Prop where
  low : c.toNat < 128
  reserved : unreserved c.toNat = false
  percent : c ≠ '%'
  slash : c ≠ '/'

theorem upperDigit_unreserved (n : Nat) (bound : n < 16) : unreserved (upperDigit n).toNat = true := by
  interval_cases n <;> decide

theorem renderEscape_delimiter (c : Char) (delimiter : Delimiter c) (hi lo : Nat) (hiBound : hi < 16)
    (loBound : lo < 16) : c ∉ renderEscape hi lo := by
  have other (free : Char) (unreserved : unreserved free.toNat = true) : c ≠ free := by
    rintro rfl
    exact absurd (delimiter.reserved.symm.trans unreserved) (by decide)
  unfold renderEscape
  split_ifs with free
  · rw [List.mem_singleton]
    apply other
    rwa [(unreserved_char _ free).2.1]
  · simp only [List.mem_cons, List.not_mem_nil, or_false, not_or]
    exact ⟨delimiter.percent, other _ (upperDigit_unreserved hi hiBound), other _ (upperDigit_unreserved lo loBound)⟩

theorem normalizes_delimiter (c : Char) (delimiter : Delimiter c) (bytes : Bytes) (text : Text)
    (normal : Normalizes bytes text) (absent : ∀ b ∈ bytes, byteChar b ≠ c) : c ∉ text := by
  induction normal with
  | nil => exact List.not_mem_nil
  | @plain b rest text _ _ ih =>
    rw [List.mem_cons, not_or]
    exact ⟨(absent b List.mem_cons_self).symm, ih fun x member => absent x (List.mem_cons_of_mem b member)⟩
  | @escape high low hi lo rest text highValue lowValue _ ih =>
    rw [List.mem_append, not_or]
    refine ⟨renderEscape_delimiter c delimiter hi lo (digit_lt _ _ highValue) (digit_lt _ _ lowValue), ih ?_⟩
    intro x member
    exact absent x (List.mem_append_right [0x25, high, low] member)

theorem joinSegments_delimiter (c : Char) (delimiter : Delimiter c) (segments : List Text) (trailing : Bool)
    (absent : ∀ segment ∈ segments, c ∉ segment) : c ∉ joinSegments segments trailing := by
  have slashes : c ∉ if trailing then ['/'] else [] := by
    split_ifs
    · exact fun member => delimiter.slash (List.mem_singleton.mp member)
    · exact List.not_mem_nil
  rw [joinSegments, List.mem_append, not_or]
  refine ⟨?_, slashes⟩
  intro member
  obtain ⟨segment, present, inside⟩ := List.mem_flatMap.mp member
  rcases List.mem_cons.mp inside with slash | later
  · exact delimiter.slash slash
  · exact absent segment present later

theorem sanitize_delimiter (c : Char) (delimiter : Delimiter c) (p q : Text)
    (done : sanitizeAndNormalizePath p = .ok q) (absent : c ∉ p) : c ∉ q := by
  have root : c ∉ ['/'] := fun member => delimiter.slash (List.mem_singleton.mp member)
  rcases (sanitize_ok_iff p q).mp done with ⟨-, rfl⟩ | ⟨-, segments, collected, rfl⟩
  · exact root
  · unfold rebuild
    split_ifs
    · exact root
    · apply joinSegments_delimiter c delimiter segments
      intro segment member
      obtain ⟨raw, present, normal, -⟩ := collected_origin collected segment member
      apply normalizes_delimiter c delimiter _ segment normal
      rintro b inside rfl
      have low : b.toNat < 128 := byteChar_toNat b ▸ delimiter.low
      exact absent ((infix_of_mem_splitOn '/' p raw present).subset (mem_of_low_mem raw b low inside))

def Delimited (path : Text) : Prop := '?' ∉ path ∧ '#' ∉ path

theorem sanitize_delimited (p q : Text) (done : sanitizeAndNormalizePath p = .ok q) (delimited : Delimited p) :
    Delimited q :=
  ⟨sanitize_delimiter '?' ⟨by decide, by decide, by decide, by decide⟩ p q done delimited.1,
    sanitize_delimiter '#' ⟨by decide, by decide, by decide, by decide⟩ p q done delimited.2⟩

/-- What is asked of the library: a path that is not empty and holds no delimiter is read back as it was written. -/
structure ReadsBack (library : UriLibrary) : Prop where
  parsed : ∀ path query target, library.parsePathAndQuery (targetText path query) = .ok target → path ≠ [] →
    Delimited path → target.path = path
  assembled : ∀ scheme authority target uri, library.fromParts scheme authority target = .ok uri →
    uri.path = target.path

theorem permissive_readsBack : ReadsBack permissive where
  parsed path query target done _ delimited := by
    cases query with
    | none =>
      have whole := splitOn_clean '?' path delimited.1
      simp only [permissive, targetText, whole] at done
      cases done
      rfl
    | some q =>
      have parts := splitOn_cons_part '?' path q delimited.1
      obtain ⟨first, rest, more⟩ := List.exists_cons_of_ne_nil (List.splitOn_ne_nil '?' q)
      rw [more] at parts
      simp only [permissive, targetText, parts] at done
      cases done
      rfl
  assembled scheme authority target uri done := by
    cases done
    rfl

def sanitizeAndNormalizeUri (library : UriLibrary) (uri : Uri) : Except Stop Uri := do
  let canonicalPath ← sanitizeAndNormalizePath uri.path
  let pq ← (library.parsePathAndQuery (targetText canonicalPath uri.query)).mapError (.err ∘ .uriFormatError)
  (library.fromParts uri.scheme uri.authority pq).mapError (.err ∘ .uriFormatError)

theorem sanitizeUri_path (library : UriLibrary) (reads : ReadsBack library) (uri clean : Uri)
    (delimited : Delimited uri.path) (done : sanitizeAndNormalizeUri library uri = .ok clean) :
    sanitizeAndNormalizePath uri.path = .ok clean.path ∧ Delimited clean.path := by
  obtain ⟨path, sanitized, done⟩ := bind_ok done
  obtain ⟨target, parsed, done⟩ := bind_ok done
  have parsed := mapError_ok parsed
  have assembled := mapError_ok done
  have later := sanitize_delimited uri.path path sanitized delimited
  have filled : path ≠ [] := by
    rintro rfl
    exact absurd (sanitize_canonical uri.path [] sanitized).rooted (by decide)
  have same : clean.path = path :=
    (reads.assembled _ _ target clean assembled).trans (reads.parsed path uri.query target parsed filled later)
  rw [same]
  exact ⟨sanitized, later⟩

end Praeco.Path.Rounds
