import Praeco.Strings.Percent
import Praeco.Strings.Split

/-! Percent-encoded text read as a list of tokens. Escapes of unreserved bytes count as the characters they name, and the
letter case of hex digits is not seen, so two texts with the same tokens differ in their spelling only. -/

namespace Praeco.Strings.Tokens
open Praeco.Strings Utf8 Percent Split

inductive Token where
  | char (c : Char)
  | escape (byte : Nat)
  deriving DecidableEq, Repr

def Token.ofEscape (byte : Nat) : Token := if unreserved byte then .char (Char.ofNat byte) else .escape byte

/-- A percent sign without two hex digits behind it is a token of its own. -/
def tokens : Text → List Token
  | c :: high :: low :: rest =>
      if c = '%' then
        match digitValue high, digitValue low with
        | some hi, some lo => Token.ofEscape (16 * hi + lo) :: tokens rest
        | _, _ => .char '%' :: tokens (high :: low :: rest)
      else .char c :: tokens (high :: low :: rest)
  | c :: rest => .char c :: tokens rest
  | [] => []

def Stray (rest : Text) : Prop :=
  ∀ high low after hi lo, rest = high :: low :: after → ¬(digitValue high = some hi ∧ digitValue low = some lo)

@[simp] theorem tokens_nil : tokens [] = [] := rfl

theorem tokens_plain (c : Char) (rest : Text) (literal : c ≠ '%') : tokens (c :: rest) = .char c :: tokens rest := by
  match rest with
  | [] => rfl
  | [_] => rfl
  | _ :: _ :: _ => rw [tokens, if_neg literal]

theorem tokens_escape (high low : Char) (hi lo : Nat) (rest : Text) (highValue : digitValue high = some hi)
    (lowValue : digitValue low = some lo) :
    tokens ('%' :: high :: low :: rest) = Token.ofEscape (16 * hi + lo) :: tokens rest := by
  simp only [tokens, if_true, highValue, lowValue]

theorem tokens_stray (rest : Text) (stray : Stray rest) : tokens ('%' :: rest) = .char '%' :: tokens rest := by
  match rest with
  | [] => rfl
  | [_] => rfl
  | high :: low :: after =>
    rw [tokens, if_pos rfl]
    split
    · rename_i hi lo highValue lowValue
      exact absurd ⟨highValue, lowValue⟩ (stray high low after hi lo rfl)
    · rfl

/-- Induction along the tokens of a text. -/
theorem token_induction {P : Text → Prop} (nil : P []) (plain : ∀ c rest, c ≠ '%' → P rest → P (c :: rest))
    (escape : ∀ high low hi lo rest, digitValue high = some hi → digitValue low = some lo → P rest →
      P ('%' :: high :: low :: rest))
    (stray : ∀ rest, Stray rest → P rest → P ('%' :: rest)) (text : Text) : P text := by
  induction size : text.length using Nat.strong_induction_on generalizing text with
  | _ n ih =>
    have shorter : ∀ rest : Text, rest.length < text.length → P rest := fun rest less => ih _ (size ▸ less) rest rfl
    cases text with
    | nil => exact nil
    | cons c rest =>
      by_cases percent : c = '%'
      · subst percent
        by_cases found : Stray rest
        · exact stray rest found (shorter rest (by simp))
        · simp only [Stray, not_forall, not_not] at found
          obtain ⟨high, low, after, hi, lo, rfl, highValue, lowValue⟩ := found
          exact escape high low hi lo after highValue lowValue (shorter after (by simp; omega))
      · exact plain c rest percent (shorter rest (by simp))

theorem digit_unreserved (c : Char) (n : Nat) (value : digitValue c = some n) : unreserved c.toNat = true := by
  have codes : ∀ x y : Char, (x ≤ y) = (x.toNat ≤ y.toNat) := fun x y => rfl
  simp only [digitValue, codes, Char.reduceToNat] at value
  simp only [unreserved, Bool.or_eq_true, decide_eq_true_eq]
  split_ifs at value <;> omega

theorem unreserved_ofNat (n : Nat) (free : unreserved n = true) : (Char.ofNat n).toNat = n := by
  have bound : n < 256 := by
    simp only [unreserved, Bool.or_eq_true, decide_eq_true_eq] at free
    omega
  exact ofNat_toNat n bound

theorem char_mem_tokens (c : Char) (text : Text) (other : c ≠ '%') (reserved : unreserved c.toNat = false) :
    .char c ∈ tokens text ↔ c ∈ text := by
  induction text using token_induction with
  | nil => simp
  | plain d rest literal ih =>
    rw [tokens_plain d rest literal, List.mem_cons, List.mem_cons, ih, Token.char.injEq]
  | escape high low hi lo rest highValue lowValue ih =>
    have highOther : c ≠ high := fun same => by simp [same, digit_unreserved high hi highValue] at reserved
    have lowOther : c ≠ low := fun same => by simp [same, digit_unreserved low lo lowValue] at reserved
    have decoded : .char c ≠ Token.ofEscape (16 * hi + lo) := by
      unfold Token.ofEscape
      split_ifs with free
      · intro same
        rw [Token.char.inj same, unreserved_ofNat _ free, free] at reserved
        cases reserved
      · exact Token.noConfusion
    rw [tokens_escape high low hi lo rest highValue lowValue]
    simp only [List.mem_cons, ih, other, highOther, lowOther, decoded, false_or]
  | stray rest found ih =>
    rw [tokens_stray rest found]
    simp only [List.mem_cons, ih, other, Token.char.injEq, false_or]

theorem escape_mem_tokens (n : Nat) (text : Text) (reserved : unreserved n = false) :
    .escape n ∈ tokens text ↔ ∃ high low hi lo, ['%', high, low] <:+: text ∧ digitValue high = some hi ∧
      digitValue low = some lo ∧ 16 * hi + lo = n := by
  induction text using token_induction with
  | nil => simp
  | plain c rest literal ih =>
    rw [tokens_plain c rest literal, List.mem_cons, ih]
    simp only [reduceCtorEq, false_or, List.infix_cons_iff, List.cons_prefix_cons, literal.symm, false_and]
  | escape high low hi lo rest highValue lowValue ih =>
    have highOther := (digit_ne_percent high hi highValue).symm
    have lowOther := (digit_ne_percent low lo lowValue).symm
    rw [tokens_escape high low hi lo rest highValue lowValue, List.mem_cons, ih]
    simp only [List.infix_cons_iff, List.cons_prefix_cons, highOther, lowOther, false_and, false_or, true_and,
      List.nil_prefix, and_true]
    have decoded : .escape n = Token.ofEscape (16 * hi + lo) ↔ 16 * hi + lo = n := by
      unfold Token.ofEscape
      split_ifs with free
      · exact iff_of_false (by simp) fun same => by simp [← same, free] at reserved
      · rw [Token.escape.injEq, eq_comm]
    rw [decoded]
    constructor
    · rintro (here | ⟨high', low', hi', lo', within, values⟩)
      · exact ⟨high, low, hi, lo, .inl ⟨rfl, rfl⟩, highValue, lowValue, here⟩
      · exact ⟨high', low', hi', lo', .inr within, values⟩
    · rintro ⟨high', low', hi', lo', ⟨rfl, rfl⟩ | within, highValue', lowValue', value⟩
      · obtain rfl : hi = hi' := Option.some.inj (highValue.symm.trans highValue')
        obtain rfl : lo = lo' := Option.some.inj (lowValue.symm.trans lowValue')
        exact .inl value
      · exact .inr ⟨high', low', hi', lo', within, highValue', lowValue', value⟩
  | stray rest found ih =>
    rw [tokens_stray rest found, List.mem_cons, ih]
    simp only [reduceCtorEq, false_or]
    constructor
    · rintro ⟨high, low, hi, lo, within, values⟩
      exact ⟨high, low, hi, lo, within.trans (List.suffix_cons '%' rest).isInfix, values⟩
    · rintro ⟨high, low, hi, lo, within, highValue, lowValue, value⟩
      rcases List.infix_cons_iff.mp within with ⟨after, same⟩ | later
      · exact absurd ⟨highValue, lowValue⟩ (found high low after hi lo (List.cons.inj same).2.symm)
      · exact ⟨high, low, hi, lo, later, highValue, lowValue, value⟩

theorem tokens_eq_nil (text : Text) (empty : tokens text = []) : text = [] := by
  fun_cases tokens text
  all_goals simp_all [tokens]

section
variable (sep : Char) (other : sep ≠ '%') (reserved : unreserved sep.toNat = false)
include other reserved

theorem tokens_append_cons (front back : Text) :
    tokens (front ++ sep :: back) = tokens front ++ .char sep :: tokens back := by
  have noDigit : ∀ n, digitValue sep ≠ some n := by
    intro n value
    rw [digit_unreserved sep n value] at reserved
    cases reserved
  induction front using token_induction with
  | nil => exact tokens_plain sep back other
  | plain c rest literal ih =>
    rw [List.cons_append, tokens_plain _ _ literal, tokens_plain _ _ literal, ih, List.cons_append]
  | escape high low hi lo rest highValue lowValue ih =>
    simp only [List.cons_append]
    rw [tokens_escape _ _ _ _ _ highValue lowValue, tokens_escape _ _ _ _ _ highValue lowValue, ih, List.cons_append]
  | stray rest found ih =>
    have still : Stray (rest ++ sep :: back) := by
      intro high low after hi lo same values
      match rest, same with
      | [], same => exact noDigit hi ((List.cons.inj same).1 ▸ values.1)
      | [_], same => exact noDigit lo ((List.cons.inj (List.cons.inj same).2).1 ▸ values.2)
      | x :: y :: rest, same =>
        simp only [List.cons_append, List.cons.injEq] at same
        obtain ⟨rfl, rfl, -⟩ := same
        exact found x y rest hi lo rfl values
    rw [List.cons_append, tokens_stray _ still, tokens_stray _ found, ih, List.cons_append]

theorem splitOn_tokens (text : Text) : (tokens text).splitOn (.char sep) = (text.splitOn sep).map tokens := by
  have clean : ∀ part, sep ∉ part → .char sep ∉ tokens part := fun part absent found =>
    absent ((char_mem_tokens sep part other reserved).mp found)
  induction text using split_induction sep with
  | last part absent =>
    rw [splitOn_clean sep part absent, splitOn_clean _ _ (clean part absent)]
    rfl
  | more part rest absent ih =>
    rw [tokens_append_cons sep other reserved, splitOn_cons_part _ _ _ (clean part absent),
      splitOn_cons_part sep part rest absent, ih, List.map_cons]

theorem prefix_tokens (text : Text) : [.char sep] <+: tokens text ↔ [sep] <+: text := by
  induction text using token_induction with
  | nil => simp
  | plain c rest literal _ =>
    rw [tokens_plain c rest literal]
    simp only [List.cons_prefix_cons, Token.char.injEq, List.nil_prefix, and_true]
  | escape high low hi lo rest highValue lowValue _ =>
    have absent : .char sep ∉ tokens ['%', high, low] := by
      rw [char_mem_tokens sep _ other reserved]
      simp only [List.mem_cons, List.not_mem_nil, or_false, not_or]
      exact ⟨other, fun same => by simp [same, digit_unreserved high hi highValue] at reserved,
        fun same => by simp [same, digit_unreserved low lo lowValue] at reserved⟩
    rw [tokens_escape high low hi lo [] highValue lowValue] at absent
    rw [tokens_escape high low hi lo rest highValue lowValue]
    simp only [List.cons_prefix_cons, List.nil_prefix, and_true, other, iff_false]
    exact fun same => absent (same ▸ List.mem_cons_self)
  | stray rest found _ =>
    rw [tokens_stray rest found]
    simp only [List.cons_prefix_cons, Token.char.injEq, List.nil_prefix]

theorem suffix_tokens (text : Text) : [.char sep] <:+ tokens text ↔ [sep] <:+ text := by
  constructor
  · intro ends
    have member : sep ∈ text := (char_mem_tokens sep text other reserved).mp (ends.subset List.mem_cons_self)
    obtain ⟨back, front, same, absent⟩ := List.eq_append_cons_of_mem (List.mem_reverse.mpr member)
    have split : text = front.reverse ++ sep :: back.reverse := by
      rw [← List.reverse_reverse text, same]
      simp
    rw [split, tokens_append_cons sep other reserved] at ends
    have none : tokens back.reverse = [] := by
      by_contra filled
      have long : [Token.char sep].length ≤ (tokens back.reverse).length := List.length_pos_of_ne_nil filled
      have tail : tokens back.reverse <:+ tokens front.reverse ++ .char sep :: tokens back.reverse :=
        (List.suffix_cons _ _).trans (List.suffix_append _ _)
      have found := (List.suffix_of_suffix_length_le ends tail long).subset List.mem_cons_self
      rw [char_mem_tokens sep _ other reserved, List.mem_reverse] at found
      exact absent found
    rw [split, List.reverse_eq_nil_iff.mp (tokens_eq_nil _ none)]
    exact List.suffix_append _ _
  · rintro ⟨front, rfl⟩
    rw [tokens_append_cons sep other reserved]
    exact List.suffix_append _ _

end

end Praeco.Strings.Tokens
