import Mathlib

/-! Splitting at one separator. A word without the separator lies in the text exactly when it lies in
one of the parts, which moves substring searches between a text and its parts. -/

namespace Praeco.Strings.Split

variable {α : Type}

theorem prefix_of_clean (sep : α) (word left right : List α) (clean : sep ∉ word)
    (found : word <+: left ++ sep :: right) : word <+: left := by
  induction left generalizing word with
  | nil =>
    cases word with
    | nil => exact List.nil_prefix
    | cons x word =>
      rw [List.nil_append, List.cons_prefix_cons] at found
      exact absurd (found.1 ▸ List.mem_cons_self) clean
  | cons y left ih =>
    cases word with
    | nil => exact List.nil_prefix
    | cons x word =>
      rw [List.cons_append, List.cons_prefix_cons] at found
      rw [List.cons_prefix_cons]
      exact ⟨found.1, ih word (fun member => clean (List.mem_cons_of_mem x member)) found.2⟩

theorem infix_append_sep (sep : α) (word left right : List α) (clean : sep ∉ word) :
    word <:+: left ++ sep :: right ↔ word <:+: left ∨ word <:+: right := by
  constructor
  · intro found
    induction left with
    | nil =>
      rw [List.nil_append, List.infix_cons_iff] at found
      rcases found with front | later
      · exact Or.inl (prefix_of_clean sep word [] right clean front).isInfix
      · exact Or.inr later
    | cons x left ih =>
      rw [List.cons_append, List.infix_cons_iff] at found
      rcases found with front | later
      · exact Or.inl (prefix_of_clean sep word (x :: left) right clean front).isInfix
      · rcases ih later with here | there
        · exact Or.inl (List.infix_cons here)
        · exact Or.inr there
  · rintro (here | there)
    · exact here.trans (List.prefix_append _ _).isInfix
    · exact (List.infix_cons there).trans (List.suffix_append left _).isInfix

theorem infix_map_iff {β : Type} (f : α → β) (word : List β) (text : List α) :
    word <:+: text.map f ↔ ∃ part, part <:+: text ∧ part.map f = word := by
  constructor
  · intro found
    obtain ⟨before, after, same⟩ := found
    obtain ⟨left, right, rfl, leftMap, rfl⟩ := List.map_eq_append_iff.mp same.symm
    obtain ⟨front, part, rfl, rfl, partMap⟩ := List.map_eq_append_iff.mp leftMap
    exact ⟨part, ⟨front, right, rfl⟩, partMap⟩
  · intro found
    obtain ⟨part, within, rfl⟩ := found
    exact within.map f

theorem pair_infix_cons (x y head : α) (text : List α) :
    [x, y] <:+: head :: text ↔ (head = x ∧ text.head? = some y) ∨ [x, y] <:+: text := by
  rw [List.infix_cons_iff, List.cons_prefix_cons, @eq_comm _ x]
  cases text with
  | nil => simp
  | cons next text => simp [@eq_comm _ y]

theorem sep_pair_append (sep y : α) (part rest : List α) (clean : sep ∉ part) :
    [sep, y] <:+: part ++ rest ↔ [sep, y] <:+: rest := by
  induction part with
  | nil => rfl
  | cons head part ih =>
    rw [List.mem_cons, not_or] at clean
    rw [List.cons_append, pair_infix_cons, ih clean.2]
    exact or_iff_right fun found => clean.1 found.1.symm

theorem pair_sep_append (sep x : α) (other : x ≠ sep) (part rest : List α) (clean : sep ∉ part) :
    [x, sep] <:+: part ++ sep :: rest ↔ part.getLast? = some x ∨ [x, sep] <:+: rest := by
  induction part with
  | nil =>
    rw [List.nil_append, pair_infix_cons, List.getLast?_nil]
    simp [other.symm]
  | cons head part ih =>
    rw [List.mem_cons, not_or] at clean
    rw [List.cons_append, pair_infix_cons, ih clean.2]
    cases part with
    | nil => simp
    | cons next part =>
      have inside : next ≠ sep := fun same => clean.2 (same ▸ List.mem_cons_self)
      simp [inside]

variable [DecidableEq α]

/-- Induction along the separators of a text, the first one first. -/
theorem split_induction {P : List α → Prop} (sep : α) (last : ∀ part, sep ∉ part → P part)
    (more : ∀ part rest, sep ∉ part → P rest → P (part ++ sep :: rest)) (text : List α) : P text := by
  induction size : text.length using Nat.strong_induction_on generalizing text with
  | _ n ih =>
    by_cases present : sep ∈ text
    · obtain ⟨part, rest, rfl, clean⟩ := List.eq_append_cons_of_mem present
      apply more part rest clean
      apply ih rest.length _ rest rfl
      rw [← size, List.length_append, List.length_cons]
      omega
    · exact last text present

theorem splitOn_clean (sep : α) (part : List α) (clean : sep ∉ part) : part.splitOn sep = [part] :=
  List.splitOn_eq_singleton clean

theorem splitOn_cons_part (sep : α) (part rest : List α) (clean : sep ∉ part) :
    (part ++ sep :: rest).splitOn sep = part :: rest.splitOn sep :=
  List.splitOn_append_cons_self_of_not_mem clean rest

theorem not_mem_of_mem_splitOn (sep : α) (text part : List α) (member : part ∈ text.splitOn sep) : sep ∉ part := by
  induction text using split_induction sep with
  | last whole clean =>
    rw [splitOn_clean sep whole clean, List.mem_singleton] at member
    exact member ▸ clean
  | more front rest clean ih =>
    rw [splitOn_cons_part sep front rest clean] at member
    rcases List.mem_cons.mp member with rfl | later
    · exact clean
    · exact ih later

theorem mem_part (sep : α) (text : List α) (x : α) (member : x ∈ text) :
    x = sep ∨ ∃ part ∈ text.splitOn sep, x ∈ part := by
  induction text using split_induction sep with
  | last whole clean =>
    rw [splitOn_clean sep whole clean]
    exact Or.inr ⟨whole, List.mem_singleton_self whole, member⟩
  | more front rest clean ih =>
    rw [splitOn_cons_part sep front rest clean]
    rcases List.mem_append.mp member with here | later
    · exact Or.inr ⟨front, List.mem_cons_self, here⟩
    · rcases List.mem_cons.mp later with rfl | inside
      · exact Or.inl rfl
      · rcases ih inside with same | ⟨part, listed, within⟩
        · exact Or.inl same
        · exact Or.inr ⟨part, List.mem_cons_of_mem front listed, within⟩

theorem infix_of_mem_splitOn (sep : α) (text part : List α) (member : part ∈ text.splitOn sep) : part <:+: text := by
  induction text using split_induction sep with
  | last whole clean =>
    rw [splitOn_clean sep whole clean, List.mem_singleton] at member
    rw [member]
  | more front rest clean ih =>
    rw [splitOn_cons_part sep front rest clean] at member
    rcases List.mem_cons.mp member with rfl | later
    · exact (List.prefix_append _ _).isInfix
    · exact (ih later).trans (List.infix_cons (List.infix_rfl) |>.trans (List.suffix_append front _).isInfix)

theorem infix_iff_splitOn (sep : α) (word text : List α) (clean : sep ∉ word) :
    word <:+: text ↔ ∃ part ∈ text.splitOn sep, word <:+: part := by
  induction text using split_induction sep with
  | last whole absent => simp [splitOn_clean sep whole absent]
  | more front rest absent ih =>
    rw [infix_append_sep sep word front rest clean, splitOn_cons_part sep front rest absent, ih]
    simp only [List.mem_cons, exists_eq_or_imp]

theorem sep_pair_iff (sep y : α) (text : List α) :
    [sep, y] <:+: sep :: (text ++ [sep]) ↔ ∃ part ∈ text.splitOn sep, (part ++ [sep]).head? = some y := by
  induction text using split_induction sep with
  | last whole clean =>
    rw [splitOn_clean sep whole clean, pair_infix_cons, sep_pair_append sep y whole _ clean, pair_infix_cons]
    simp
  | more front rest clean ih =>
    rw [splitOn_cons_part sep front rest clean, pair_infix_cons, List.append_assoc,
      sep_pair_append sep y front _ clean, List.cons_append, ih]
    cases front <;> simp

theorem pair_sep_iff (sep x : α) (other : x ≠ sep) (text : List α) :
    [x, sep] <:+: text ++ [sep] ↔ ∃ part ∈ text.splitOn sep, part.getLast? = some x := by
  induction text using split_induction sep with
  | last whole clean =>
    rw [splitOn_clean sep whole clean, pair_sep_append sep x other whole [] clean]
    simp
  | more front rest clean ih =>
    rw [splitOn_cons_part sep front rest clean, List.append_assoc, List.cons_append,
      pair_sep_append sep x other front _ clean, ih]
    simp

theorem splitOn_suffix (sep : α) (before after part : List α) (member : part ∈ after.splitOn sep) :
    part ∈ (before ++ sep :: after).splitOn sep := by
  rw [List.splitOn_append_cons_self]
  exact List.mem_append_right _ member

end Praeco.Strings.Split
