import Mathlib

/-! Tables of rules by pattern. A pattern that ends in a mark stands for every text that begins with what is in front of
the mark, any other pattern for itself; the rules of a table are sorted into these two kinds one after the other. -/

namespace Praeco.Collections.Patterns

variable {α V : Type} [DecidableEq α] (mark : α)

structure Rules (α V : Type) [DecidableEq α] where
  exact : AList (fun _ : List α => V)
  prefixes : List (List α × V)

def Rules.add (rules : Rules α V) (entry : Sigma fun _ : List α => V) : Rules α V :=
  if [mark] <:+ entry.1 then { rules with prefixes := rules.prefixes ++ [(entry.1.dropLast, entry.2)] }
  else { rules with exact := rules.exact.insert entry.1 entry.2 }

def Rules.empty : Rules α V := ⟨∅, []⟩

variable (entries : List (Sigma fun _ : List α => V))

theorem mem_foldl_prefixes (rules : Rules α V) (rule : List α × V) :
    rule ∈ (entries.foldl (Rules.add mark) rules).prefixes ↔
      rule ∈ rules.prefixes ∨ ⟨rule.1 ++ [mark], rule.2⟩ ∈ entries := by
  induction entries generalizing rules with
  | nil => simp
  | cons entry entries ih =>
    obtain ⟨pattern, value⟩ := entry
    rw [List.foldl_cons, ih, Rules.add]
    split_ifs with marked
    · obtain ⟨stem, rfl⟩ := marked
      simp only [List.mem_append, List.dropLast_concat, List.mem_cons, List.not_mem_nil, or_false, or_assoc]
      have same : rule = (stem, value) ↔ (⟨rule.1 ++ [mark], rule.2⟩ : Sigma fun _ : List α => V) =
          ⟨stem ++ [mark], value⟩ := by
        simp [Prod.ext_iff]
      rw [same]
    · have other : (⟨rule.1 ++ [mark], rule.2⟩ : Sigma fun _ : List α => V) ≠ ⟨pattern, value⟩ := by
        intro same
        have patterns : rule.1 ++ [mark] = pattern := congrArg Sigma.fst same
        exact marked (patterns ▸ List.suffix_append rule.1 [mark])
      simp only [List.mem_cons, other, false_or]

theorem lookup_foldl_exact (rules : Rules α V) (distinct : entries.NodupKeys) (text : List α) :
    (entries.foldl (Rules.add mark) rules).exact.lookup text =
      if [mark] <:+ text then rules.exact.lookup text
      else (entries.dlookup text).or (rules.exact.lookup text) := by
  induction entries generalizing rules with
  | nil => simp
  | cons entry entries ih =>
    obtain ⟨pattern, value⟩ := entry
    obtain ⟨fresh, distinct⟩ := List.nodupKeys_cons.mp distinct
    rw [List.foldl_cons, ih _ distinct]
    by_cases same : text = pattern
    · subst same
      rw [List.dlookup_cons_eq, List.dlookup_eq_none.mpr fresh, Rules.add]
      split_ifs with marked
      · rfl
      · simp
    · have kept : (Rules.add mark rules ⟨pattern, value⟩).exact.lookup text = rules.exact.lookup text := by
        unfold Rules.add
        split_ifs
        · rfl
        · exact AList.lookup_insert_ne same
      rw [List.dlookup_cons_ne _ _ same, kept]

theorem mem_collected_prefixes (stem : List α) (value : V) :
    (stem, value) ∈ (entries.foldl (Rules.add mark) Rules.empty).prefixes ↔ ⟨stem ++ [mark], value⟩ ∈ entries := by
  rw [mem_foldl_prefixes]
  simp [Rules.empty]

theorem lookup_collected_exact (distinct : entries.NodupKeys) (text : List α) :
    (entries.foldl (Rules.add mark) Rules.empty).exact.lookup text =
      if [mark] <:+ text then none else entries.dlookup text := by
  rw [lookup_foldl_exact mark entries _ distinct]
  simp [Rules.empty]

end Praeco.Collections.Patterns
