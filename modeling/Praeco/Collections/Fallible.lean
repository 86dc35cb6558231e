import Mathlib

/-! Inversion of fallible computations. -/

namespace Praeco.Collections.Fallible

variable {ε α β : Type}

theorem bind_ok {first : Except ε α} {next : α → Except ε β} {result : β}
    (done : (first >>= next) = .ok result) : ∃ value, first = .ok value ∧ next value = .ok result := by
  cases first with
  | error e => cases done
  | ok value => exact ⟨value, rfl, done⟩

theorem bind_error {first : Except ε α} {next : α → Except ε β} {error : ε} (failed : (first >>= next) = .error error) :
    first = .error error ∨ ∃ value, first = .ok value ∧ next value = .error error := by
  cases first with
  | error e =>
    cases failed
    exact .inl rfl
  | ok value => exact .inr ⟨value, rfl, failed⟩

theorem map_ok {first : Except ε α} {f : α → β} {result : β} (done : first.map f = .ok result) :
    ∃ value, first = .ok value ∧ f value = result := by
  cases first with
  | error e => cases done
  | ok value => exact ⟨value, rfl, Except.ok.inj done⟩

theorem mapError_ok {ε' : Type} {first : Except ε α} {f : ε → ε'} {result : α} (done : first.mapError f = .ok result) :
    first = .ok result := by
  cases first with
  | error e => cases done
  | ok value => exact congrArg _ (Except.ok.inj done)

theorem guard_ok {refused : Prop} [Decidable refused] {error : ε} {next : Except ε α} {result : α}
    (done : (if refused then .error error else next) = .ok result) : ¬refused ∧ next = .ok result := by
  split_ifs at done with held
  exact ⟨held, done⟩

theorem guard_or {δ : Type} {wrap : δ → ε} {property refused : Prop} [Decidable refused] {error : δ}
    {next : Except ε α} (passed : ¬refused → property ∨ ∃ error, next = .error (wrap error)) :
    property ∨ ∃ other, (if refused then .error (wrap error) else next) = .error (wrap other) := by
  by_cases held : refused
  · exact Or.inr ⟨error, if_pos held⟩
  · rw [if_neg held]
    exact passed held

theorem mapM_ok {f : α → Except ε β} {items : List α} {results : List β} (done : items.mapM f = .ok results) :
    List.Forall₂ (fun item result => f item = .ok result) items results := by
  induction items generalizing results with
  | nil =>
    cases done
    exact .nil
  | cons item items ih =>
    rw [List.mapM_cons] at done
    obtain ⟨first, head, done⟩ := bind_ok done
    obtain ⟨rest, tail, done⟩ := bind_ok done
    cases done
    exact .cons head (ih tail)

theorem mapM_ok_iff (f : α → Except ε β) (items : List α) :
    (∃ results, items.mapM f = .ok results) ↔ ∀ item ∈ items, ∃ result, f item = .ok result := by
  induction items with
  | nil => exact iff_of_true ⟨[], rfl⟩ fun item member => absurd member List.not_mem_nil
  | cons item items ih =>
    rw [List.forall_mem_cons, ← ih]
    constructor
    · rintro ⟨results, done⟩
      rw [List.mapM_cons] at done
      obtain ⟨first, head, done⟩ := bind_ok done
      obtain ⟨rest, tail, -⟩ := bind_ok done
      exact ⟨⟨first, head⟩, rest, tail⟩
    · rintro ⟨⟨first, head⟩, rest, tail⟩
      exact ⟨first :: rest, by rw [List.mapM_cons, head, tail]; rfl⟩

/-- A loop that computes a value from each item and adds it to its state computes all the values first. -/
theorem foldlM_map {σ : Type} (f : α → Except ε β) (add : σ → β → σ) (items : List α) (state : σ) :
    items.foldlM (fun current item => (f item).map (add current)) state =
      (items.mapM f).map fun results => results.foldl add state := by
  induction items generalizing state with
  | nil => rfl
  | cons item items ih =>
    rw [List.foldlM_cons, List.mapM_cons]
    cases f item with
    | error e => rfl
    | ok first =>
      refine (ih (add state first)).trans ?_
      cases items.mapM f <;> rfl

end Praeco.Collections.Fallible
