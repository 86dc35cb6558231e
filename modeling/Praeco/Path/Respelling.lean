import Praeco.Path.Idempotence
import Praeco.Strings.Tokens

/-! The sanitizer on two spellings of one path. The checks and the segments depend on the tokens of a path only; what
depends on its spelling is the search for double encodings and the test for a final dot segment. -/

namespace Praeco.Path.Respelling
open Praeco.Strings Utf8 Percent Split Tokens Praeco.Collections.Fallible
open Praeco.Path.Sanitizer Praeco.Path.CanonicalForm Praeco.Path.Spelling Praeco.Path.Idempotence

/-- What the segment loop writes for a token: a character above ASCII becomes one character a byte. -/
def renderToken : Token → Text
  | .char c => latin1 (utf8 [c])
  | .escape byte => ['%', upperDigit (byte / 16), upperDigit (byte % 16)]

def render (units : List Token) : Text := units.flatMap renderToken

theorem render_ofEscape (hi lo : Nat) (loBound : lo < 16) :
    renderToken (Token.ofEscape (16 * hi + lo)) = renderEscape hi lo := by
  unfold Token.ofEscape renderEscape
  split_ifs with free
  · apply latin1_utf8_ascii
    intro c member
    obtain ⟨bound, code, -⟩ := unreserved_char _ free
    rw [List.mem_singleton.mp member]
    omega
  · have high : (16 * hi + lo) / 16 = hi := by omega
    have low : (16 * hi + lo) % 16 = lo := by omega
    rw [renderToken, high, low]

theorem normalizes_render (text : Text) (noStray : .char '%' ∉ tokens text) :
    Normalizes (utf8 text) (render (tokens text)) := by
  induction text using token_induction with
  | nil => exact .nil
  | plain c rest literal ih =>
    rw [tokens_plain c rest literal] at noStray ⊢
    have tail := ih fun found => noStray (List.mem_cons_of_mem _ found)
    have head := normalizes_literal (utf8 [c]) (by simpa using encode_ne_percent c literal)
    simpa [render, renderToken] using Normalizes.append head tail
  | escape high low hi lo rest highValue lowValue ih =>
    rw [tokens_escape high low hi lo rest highValue lowValue] at noStray ⊢
    have tail := ih fun found => noStray (List.mem_cons_of_mem _ found)
    have highLow := digit_ascii _ _ highValue
    have lowLow := digit_ascii _ _ lowValue
    have loBound := digit_lt _ _ lowValue
    rw [← byteChar_ofNat _ highLow] at highValue
    rw [← byteChar_ofNat _ lowLow] at lowValue
    have run := Normalizes.escape highValue lowValue tail
    have bytes : utf8 ('%' :: high :: low :: rest) =
        0x25 :: UInt8.ofNat high.toNat :: UInt8.ofNat low.toNat :: utf8 rest := by
      simp only [utf8_cons, encode_ascii _ highLow, encode_ascii _ lowLow, List.singleton_append]
      rfl
    rw [bytes]
    rw [← render_ofEscape hi lo loBound] at run
    exact run
  | stray rest found _ =>
    rw [tokens_stray rest found] at noStray
    exact absurd List.mem_cons_self noStray

private theorem escapesValid_append (front rest : Bytes) (literal : ∀ b ∈ front, b ≠ 0x25) :
    escapesValid (front ++ rest) = escapesValid rest := by
  induction front with
  | nil => rfl
  | cons b front ih =>
    rw [List.cons_append, escapesValid_plain b _ (literal b List.mem_cons_self),
      ih fun x member => literal x (List.mem_cons_of_mem b member)]

private theorem escapesValid_percent (rest : Text) (valid : escapesValid (utf8 ('%' :: rest)) = true) :
    ¬Stray rest ∧ ∀ high low after, rest = high :: low :: after → escapesValid (utf8 after) = true := by
  have percent : utf8 ('%' :: rest) = 0x25 :: utf8 rest := rfl
  rw [percent] at valid
  obtain ⟨h1, h2, bytes, same, highHex, lowHex, tail⟩ := escapesValid_escape _ valid
  obtain ⟨hi, highValue⟩ := (isAsciiHexdigit_iff h1).mp highHex
  obtain ⟨lo, lowValue⟩ := (isAsciiHexdigit_iff h2).mp lowHex
  have ascii : ∀ b ∈ [h1, h2], b.toNat < 128 := by
    simp only [List.forall_mem_cons, ← byteChar_toNat]
    exact ⟨digit_ascii _ _ highValue, digit_ascii _ _ lowValue, by simp⟩
  obtain ⟨after, rfl⟩ := prefix_of_utf8 [h1, h2] rest ascii (same ▸ List.prefix_append [h1, h2] bytes)
  refine ⟨fun stray => stray _ _ after hi lo rfl ⟨highValue, lowValue⟩, ?_⟩
  intro high low other split
  obtain ⟨rfl, rfl, rfl⟩ : byteChar h1 = high ∧ byteChar h2 = low ∧ after = other := by simpa using split
  rw [utf8_append, utf8_latin1_ascii _ ascii] at same
  obtain rfl : utf8 after = bytes := by simpa using same
  exact tail

theorem escapesValid_iff (text : Text) : escapesValid (utf8 text) = true ↔ .char '%' ∉ tokens text := by
  constructor
  · intro valid
    induction text using token_induction with
    | nil => simp
    | plain c rest literal ih =>
      rw [utf8_cons, escapesValid_append _ _ (encode_ne_percent c literal)] at valid
      rw [tokens_plain c rest literal]
      simpa [literal.symm] using ih valid
    | escape high low hi lo rest highValue lowValue ih =>
      have tail := ih ((escapesValid_percent _ valid).2 high low rest rfl)
      have other : .char '%' ≠ Token.ofEscape (16 * hi + lo) := by
        unfold Token.ofEscape
        split_ifs with free
        · exact fun same => (unreserved_char _ free).2.2.1 (Token.char.inj same).symm
        · simp
      rw [tokens_escape high low hi lo rest highValue lowValue]
      simpa [other] using tail
    | stray rest found _ => exact absurd found (escapesValid_percent rest valid).1
  · intro noStray
    exact normalizes_escapesValid _ _ (normalizes_render text noStray)

private theorem digit_of_toLower (c : Char) (n : Nat) (bound : n < 16) (lower : c.toLower = lowerDigit n) :
    digitValue c = some n := by
  have codes : ∀ x y : Char, (x ≤ y) = (x.toNat ≤ y.toNat) := fun x y => rfl
  have value := congrArg Char.toNat lower
  have code : (lowerDigit n).toNat = if n < 10 then n + 48 else n + 87 := by
    apply ofNat_toNat
    split_ifs <;> omega
  rw [toLower_toNat, code] at value
  simp only [digitValue, codes, Char.reduceToNat]
  split_ifs at value ⊢ <;> first | omega | (congr 1; omega)

theorem lowered_escape (p : Text) (hi lo : Nat) (hiBound : hi < 16) (loBound : lo < 16)
    (reserved : unreserved (16 * hi + lo) = false) :
    ['%', lowerDigit hi, lowerDigit lo] <:+: p.map Char.toLower ↔ .escape (16 * hi + lo) ∈ tokens p := by
  rw [infix_map_iff, escape_mem_tokens _ _ reserved]
  constructor
  · rintro ⟨part, within, lowered⟩
    simp only [List.map_eq_cons_iff, List.map_eq_nil_iff] at lowered
    obtain ⟨a, _, rfl, first, high, _, rfl, highLower, low, _, rfl, lowLower, rfl⟩ := lowered
    rw [eq_of_toLower a '%' (by decide) first] at within
    exact ⟨high, low, hi, lo, within, digit_of_toLower high hi hiBound highLower,
      digit_of_toLower low lo loBound lowLower, rfl⟩
  · rintro ⟨high, low, hi', lo', within, highValue, lowValue, value⟩
    have hiBound' := digit_lt _ _ highValue
    have loBound' := digit_lt _ _ lowValue
    obtain ⟨rfl, rfl⟩ : hi' = hi ∧ lo' = lo := by omega
    refine ⟨_, within, ?_⟩
    rw [List.map_cons, List.map_cons, List.map_cons, digit_toLower _ _ highValue, digit_toLower _ _ lowValue]
    rfl

structure Acceptable (units : List Token) : Prop where
  rooted : [.char '/'] <+: units
  noNull : .char '\x00' ∉ units
  noBackslash : .char '\\' ∉ units
  noForbidden : ∀ byte ∈ [0x00, 0x2F, 0x5C], .escape byte ∉ units
  noStray : .char '%' ∉ units
  noTraversal : [.char '.', .char '.'] ∉ units.splitOn (.char '/')

theorem checked_tokens (p : Text) (noTraversal : [.char '.', .char '.'] ∉ (tokens p).splitOn (.char '/')) :
    Checked p ↔ Acceptable (tokens p) ∧ ¬DoubleEncoded p := by
  have forbidden : (∀ word ∈ forbiddenEscapes, ¬word <:+: p.map Char.toLower) ↔
      ∀ byte ∈ [0x00, 0x2F, 0x5C], .escape byte ∉ tokens p := by
    have null := lowered_escape p 0 0 (by decide) (by decide) (by decide)
    have slash := lowered_escape p 2 15 (by decide) (by decide) (by decide)
    have backslash := lowered_escape p 5 12 (by decide) (by decide) (by decide)
    simp only [forbiddenEscapes, List.forall_mem_cons]
    exact and_congr (not_congr null) (and_congr (not_congr slash) (and_congr (not_congr backslash) (by simp)))
  have double : (∀ word ∈ doubleEncodings, ¬word <:+: p.map Char.toLower) ↔ ¬DoubleEncoded p := by
    rw [← double_search]
    simp only [not_exists, not_and]
  constructor
  · intro checked
    refine ⟨⟨?_, ?_, ?_, forbidden.mp checked.noForbidden, (escapesValid_iff p).mp checked.escapes, noTraversal⟩,
      double.mp checked.noDouble⟩
    · exact (prefix_tokens '/' (by decide) (by decide) p).mpr checked.rooted
    · rw [char_mem_tokens _ _ (by decide) (by decide)]
      exact checked.noNull
    · rw [char_mem_tokens _ _ (by decide) (by decide)]
      exact checked.noBackslash
  · rintro ⟨acceptable, single⟩
    refine ⟨?_, ?_, ?_, forbidden.mpr acceptable.noForbidden, double.mpr single,
      (escapesValid_iff p).mpr acceptable.noStray⟩
    · exact (prefix_tokens '/' (by decide) (by decide) p).mp acceptable.rooted
    · exact fun found => acceptable.noNull ((char_mem_tokens _ _ (by decide) (by decide)).mpr found)
    · exact fun found => acceptable.noBackslash ((char_mem_tokens _ _ (by decide) (by decide)).mpr found)

theorem renderToken_dots (unit : Token) (dots : ∀ c ∈ renderToken unit, c = '.') : unit = .char '.' := by
  cases unit with
  | escape byte => exact absurd (dots '%' List.mem_cons_self) (by decide)
  | char c =>
    have low : c.toNat < 128 := by
      by_contra high
      obtain ⟨b, present, large⟩ := exists_high_byte [c] c List.mem_cons_self (by omega)
      have same := dots (byteChar b) (List.mem_map_of_mem present)
      rw [← byteChar_toNat, same] at large
      exact absurd large (by decide)
    have whole : renderToken (.char c) = [c] := latin1_utf8_ascii [c] (by simpa [Ascii] using low)
    rw [whole] at dots
    rw [dots c List.mem_cons_self]

theorem render_dots_iff (part : List Token) (count : Nat) :
    render part = List.replicate count '.' ↔ part = List.replicate count (.char '.') := by
  constructor
  · intro dots
    have each : ∀ unit ∈ part, unit = .char '.' := by
      intro unit member
      apply renderToken_dots
      intro c found
      have inside : c ∈ render part := List.mem_flatMap.mpr ⟨unit, member, found⟩
      exact List.eq_of_mem_replicate (dots ▸ inside)
    obtain ⟨size, rfl⟩ : ∃ size, part = List.replicate size (.char '.') := ⟨_, List.eq_replicate_of_mem each⟩
    have length := congrArg List.length dots
    have dot : (renderToken (.char '.')).length = 1 := by decide
    simp only [render, List.length_flatMap, List.map_replicate, List.sum_replicate, dot, List.length_replicate,
      smul_eq_mul, mul_one] at length
    rw [length]
  · rintro rfl
    induction count with
    | zero => rfl
    | succ count ih =>
      rw [List.replicate_succ, List.replicate_succ, ← ih]
      rfl

def segmentsOf (units : List Token) : List Text :=
  ((units.splitOn (.char '/')).filter fun part => part ≠ [] ∧ part ≠ [.char '.']).map render

private theorem render_empty_iff (part : List Token) : render part = [] ↔ part = [] := render_dots_iff part 0

private theorem render_dot_iff (part : List Token) : render part = ['.'] ↔ part = [.char '.'] := render_dots_iff part 1

private theorem render_traversal_iff (part : List Token) : render part = ['.', '.'] ↔ part = [.char '.', .char '.'] :=
  render_dots_iff part 2

private theorem collects_tokens (raw : List Text) (noStray : ∀ segment ∈ raw, .char '%' ∉ tokens segment)
    (noTraversal : ∀ segment ∈ raw, tokens segment ≠ [.char '.', .char '.']) :
    Collects raw (((raw.map tokens).filter fun part => part ≠ [] ∧ part ≠ [.char '.']).map render) := by
  induction raw with
  | nil => exact .nil
  | cons segment rest ih =>
    have tail := ih (fun part member => noStray part (List.mem_cons_of_mem segment member))
      fun part member => noTraversal part (List.mem_cons_of_mem segment member)
    have normal := normalizes_render segment (noStray segment List.mem_cons_self)
    by_cases dropped : tokens segment = [] ∨ tokens segment = [.char '.']
    · rw [List.map_cons, List.filter_cons_of_neg (by simpa [or_iff_not_imp_left] using dropped)]
      exact .drop normal (by rwa [render_empty_iff, render_dot_iff]) tail
    · rw [List.map_cons, List.filter_cons_of_pos (by simpa [not_or] using dropped), List.map_cons]
      apply Collects.keep normal _ _ tail
      · rwa [render_empty_iff, render_dot_iff]
      · exact fun dots => noTraversal segment List.mem_cons_self ((render_traversal_iff _).mp dots)

private theorem traversal_refused (raw : List Text) (noStray : ∀ segment ∈ raw, .char '%' ∉ tokens segment)
    (segment : Text) (member : segment ∈ raw) (dots : tokens segment = [.char '.', .char '.']) :
    normalizeSegments raw = .error (.err .pathTraversal) := by
  induction raw with
  | nil => cases member
  | cons first rest ih =>
    have normal := (normalizes_render first (noStray first List.mem_cons_self)).computed
    have later : segment ∈ rest → normalizeSegments rest = .error (.err .pathTraversal) :=
      ih fun part found => noStray part (List.mem_cons_of_mem first found)
    rw [normalizeSegments]
    rcases List.mem_cons.mp member with rfl | inside
    · have filled : segment ≠ [] := by
        rintro rfl
        cases dots
      have stays : ¬(render (tokens segment) = [] ∨ render (tokens segment) = ['.']) := by
        rw [render_empty_iff, render_dot_iff, dots]
        decide
      rw [if_neg filled, normal]
      exact (if_neg stays).trans (if_pos ((render_traversal_iff _).mpr dots))
    · rw [later inside, normal]
      split_ifs
      · rfl
      · change (if _ then _ else if _ then _ else _) = _
        split_ifs <;> rfl

private theorem segments_noStray (p : Text) (checked : Checked p) :
    ∀ segment ∈ p.splitOn '/', .char '%' ∉ tokens segment := by
  intro segment member found
  apply (escapesValid_iff p).mp checked.escapes
  have within : tokens segment ∈ (tokens p).splitOn (.char '/') := by
    rw [splitOn_tokens '/' (by decide) (by decide)]
    exact List.mem_map_of_mem member
  exact (infix_of_mem_splitOn _ _ _ within).subset found

/-- No spelling of the tokens is accepted. The empty path stands for the root. -/
def Refused (units : List Token) : Prop := units ≠ [] ∧ ¬Acceptable units

theorem sanitize_accepted (p : Text) (accepted : ¬Refused (tokens p)) (single : ¬DoubleEncoded p) :
    sanitizeAndNormalizePath p = .ok (rebuild p (segmentsOf (tokens p))) := by
  by_cases empty : p = []
  · subst empty
    rfl
  · have filled : tokens p ≠ [] := fun none => empty (tokens_eq_nil p none)
    have acceptable : Acceptable (tokens p) := by
      by_contra refused
      exact accepted ⟨filled, refused⟩
    have checked := (checked_tokens p acceptable.noTraversal).mpr ⟨acceptable, single⟩
    have split := splitOn_tokens '/' (by decide) (by decide) p
    have noTraversal := acceptable.noTraversal
    rw [split] at noTraversal
    have collected := collects_tokens _ (segments_noStray p checked) fun segment member dots =>
      noTraversal (dots ▸ List.mem_map_of_mem member)
    rw [sanitize_checked p checked, collected.computed, segmentsOf, split]
    rfl

theorem sanitize_refused (p : Text) (refused : Refused (tokens p) ∨ DoubleEncoded p) :
    ∃ error, sanitizeAndNormalizePath p = .error (.err error) := by
  have filled : p ≠ [] := by
    rintro rfl
    rcases refused with none | ⟨x, y, -, within⟩
    · exact none.1 rfl
    · exact absurd within.length_le (by simp)
  rcases checked_or_refused p filled with checked | failed
  · have traversal : [.char '.', .char '.'] ∈ (tokens p).splitOn (.char '/') := by
      by_contra noTraversal
      have facts := (checked_tokens p noTraversal).mp checked
      exact refused.elim (fun none => none.2 facts.1) facts.2
    rw [splitOn_tokens '/' (by decide) (by decide)] at traversal
    obtain ⟨segment, member, dots⟩ := List.mem_map.mp traversal
    rw [sanitize_checked p checked, traversal_refused _ (segments_noStray p checked) segment member dots]
    exact ⟨_, rfl⟩
  · exact failed

def SameOutcome (p p' : Text) : Prop :=
  (∃ error error', sanitizeAndNormalizePath p = .error (.err error) ∧
    sanitizeAndNormalizePath p' = .error (.err error')) ∨
  ∃ q, sanitizeAndNormalizePath p = .ok q ∧ sanitizeAndNormalizePath p' = .ok q

def DotsOnly (units : List Token) : Prop :=
  ∀ part ∈ units.splitOn (.char '/'), part = [] ∨ part = [.char '.']

instance DotsOnly.decidable (units : List Token) : Decidable (DotsOnly units) :=
  inferInstanceAs (Decidable (∀ part ∈ units.splitOn (.char '/'), part = [] ∨ part = [.char '.']))

theorem segmentsOf_eq_nil (units : List Token) : segmentsOf units = [] ↔ DotsOnly units := by
  simp only [segmentsOf, List.map_eq_nil_iff, List.filter_eq_nil_iff, decide_eq_true_eq, DotsOnly, not_and_or, not_not]

theorem rebuild_eq_iff (p p' : Text) (segments : List Text) :
    rebuild p segments = rebuild p' segments ↔ segments = [] ∨ hasTrailingSlash p = hasTrailingSlash p' := by
  unfold rebuild
  split_ifs with empty
  · exact iff_of_true rfl (.inl empty)
  · simp only [empty, false_or]
    constructor
    · intro same
      have sizes := congrArg List.length same
      cases left : hasTrailingSlash p <;> cases right : hasTrailingSlash p' <;>
        simp_all [joinSegments]
    · intro same
      rw [same]

private theorem hasTrailingSlash_respelled (p p' : Text) (same : tokens p = tokens p') (long : 1 < (utf8 p).length)
    (long' : 1 < (utf8 p').length) :
    hasTrailingSlash p = hasTrailingSlash p' ↔ (['/', '.'] <:+ p ↔ ['/', '.'] <:+ p') := by
  have slash : ['/'] <:+ p ↔ ['/'] <:+ p' := by
    rw [← suffix_tokens '/' (by decide) (by decide) p, same, suffix_tokens '/' (by decide) (by decide) p']
  have exclusive : ∀ text : Text, ['/'] <:+ text → ¬['/', '.'] <:+ text := by
    intro text ends dotted
    have last := List.suffix_of_suffix_length_le ends dotted (by decide)
    exact absurd last (by decide)
  by_cases ends : ['/'] <:+ p
  · have ends' := slash.mp ends
    simp only [hasTrailingSlash, long, long', ends, ends', decide_true, Bool.true_or, Bool.and_true,
      exclusive p ends, exclusive p' ends']
  · have ends' := mt slash.mpr ends
    simp only [hasTrailingSlash, long, long', ends, ends', decide_true, decide_false, Bool.false_or, Bool.true_and,
      decide_eq_decide]

private theorem long_of_segments (p : Text) (accepted : ¬Refused (tokens p)) (more : ¬DotsOnly (tokens p)) :
    1 < (utf8 p).length := by
  have filled : tokens p ≠ [] := by
    intro none
    rw [none] at more
    exact more (by simp [DotsOnly])
  have acceptable : Acceptable (tokens p) := by
    by_contra refused
    exact accepted ⟨filled, refused⟩
  obtain ⟨rest, rfl⟩ := (prefix_tokens '/' (by decide) (by decide) p).mp acceptable.rooted
  cases rest with
  | nil => exact absurd (by decide : DotsOnly (tokens ['/'])) more
  | cons c rest =>
    apply lt_of_lt_of_le _ (utf8_length_le _)
    simp

/-- Two spellings of one path end alike exactly when no spelling is accepted, or both or neither hold a double encoding
and, unless it makes no difference, both or neither end in a dot segment that is written as a plain dot. -/
theorem sanitize_respelled_iff (p p' : Text) (same : tokens p = tokens p') :
    SameOutcome p p' ↔ Refused (tokens p) ∨ ((DoubleEncoded p ↔ DoubleEncoded p') ∧
      (DoubleEncoded p ∨ DotsOnly (tokens p) ∨ (['/', '.'] <:+ p ↔ ['/', '.'] <:+ p'))) := by
  have bothRefused : Refused (tokens p) ∨ DoubleEncoded p → Refused (tokens p') ∨ DoubleEncoded p' →
      SameOutcome p p' := by
    intro left right
    obtain ⟨error, failed⟩ := sanitize_refused p left
    obtain ⟨error', failed'⟩ := sanitize_refused p' right
    exact .inl ⟨error, error', failed, failed'⟩
  by_cases refused : Refused (tokens p)
  · exact iff_of_true (bothRefused (.inl refused) (.inl (same ▸ refused))) (.inl refused)
  · have refused' : ¬Refused (tokens p') := same ▸ refused
    by_cases double : DoubleEncoded p <;> by_cases double' : DoubleEncoded p'
    · exact iff_of_true (bothRefused (.inr double) (.inr double')) (.inr ⟨iff_of_true double double', .inl double⟩)
    · obtain ⟨error, failed⟩ := sanitize_refused p (.inr double)
      have done := sanitize_accepted p' refused' double'
      simp [SameOutcome, failed, done, refused, double, double']
    · obtain ⟨error, failed⟩ := sanitize_refused p' (.inr double')
      have done := sanitize_accepted p refused double
      simp [SameOutcome, failed, done, refused, double, double']
    · have done := sanitize_accepted p refused double
      have done' := sanitize_accepted p' refused' double'
      rw [← same] at done'
      have outcome : SameOutcome p p' ↔ rebuild p (segmentsOf (tokens p)) = rebuild p' (segmentsOf (tokens p)) := by
        simp [SameOutcome, done, done', eq_comm]
      rw [outcome, rebuild_eq_iff, segmentsOf_eq_nil]
      simp only [refused, double, double', false_or, true_and]
      by_cases dots : DotsOnly (tokens p)
      · simp only [dots, true_or]
      · have long := long_of_segments p refused dots
        have long' := long_of_segments p' refused' (same ▸ dots)
        rw [hasTrailingSlash_respelled p p' same long long']

theorem sanitize_respelled_iff_tilde :
    tokens ['/', '%', '7', 'e', '%', 'c', '3'] = tokens ['/', '~', '%', 'C', '3'] ∧
    (SameOutcome ['/', '%', '7', 'e', '%', 'c', '3'] ['/', '~', '%', 'C', '3'] ↔
      Refused (tokens ['/', '%', '7', 'e', '%', 'c', '3']) ∨
      ((DoubleEncoded ['/', '%', '7', 'e', '%', 'c', '3'] ↔ DoubleEncoded ['/', '~', '%', 'C', '3']) ∧
        (DoubleEncoded ['/', '%', '7', 'e', '%', 'c', '3'] ∨ DotsOnly (tokens ['/', '%', '7', 'e', '%', 'c', '3']) ∨
          (['/', '.'] <:+ ['/', '%', '7', 'e', '%', 'c', '3'] ↔ ['/', '.'] <:+ ['/', '~', '%', 'C', '3'])))) := by
  have same : tokens ['/', '%', '7', 'e', '%', 'c', '3'] = tokens ['/', '~', '%', 'C', '3'] := by decide
  exact ⟨same, sanitize_respelled_iff _ _ same⟩

/-- A final dot keeps the trailing slash only when it is written plainly, and a double encoding is seen only when its
digits are. -/
theorem sanitize_sees_spelling :
    (tokens ['/', 'a', '/', '.'] = tokens ['/', 'a', '/', '%', '2', 'e'] ∧
      sanitizeAndNormalizePath ['/', 'a', '/', '.'] = .ok ['/', 'a', '/'] ∧
      sanitizeAndNormalizePath ['/', 'a', '/', '%', '2', 'e'] = .ok ['/', 'a']) ∧
    tokens ['/', '%', '2', '5', '2', 'e'] = tokens ['/', '%', '2', '5', '%', '3', '2', 'e'] ∧
    sanitizeAndNormalizePath ['/', '%', '2', '5', '2', 'e'] = .error (.err .doubleEncoding) ∧
    sanitizeAndNormalizePath ['/', '%', '2', '5', '%', '3', '2', 'e'] = .ok ['/', '%', '2', '5', '2', 'e'] := by
  refine ⟨⟨by decide, rfl, rfl⟩, by decide, rfl, rfl⟩

end Praeco.Path.Respelling
