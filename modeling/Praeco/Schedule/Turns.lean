import Mathlib

/-! Loops by their turns. A turn starts another one, leaves the loop with a result, or fails. A loop under an invariant
whose turns lower a measure ends without failing, with a result that answers its first state. -/

namespace Praeco.Schedule.Turns

inductive Turn (σ ρ : Type) where
  | again (state : σ)
  | leave (result : ρ)
  deriving DecidableEq, Repr

variable {ε σ ρ : Type} (turn : σ → Except ε (Turn σ ρ))

def run : Nat → σ → Option (Except ε ρ)
  | 0, _ => none
  | fuel + 1, state =>
    match turn state with
    | .error error => some (.error error)
    | .ok (.leave result) => some (.ok result)
    | .ok (.again next) => run fuel next

inductive Enters (start : σ) : σ → Prop where
  | first : Enters start start
  | again {state next : σ} (before : Enters start state) (more : turn state = .ok (.again next)) : Enters start next

/-- What a turn may do in a state under an invariant with a measure. A result that answers the next state answers this
one. -/
inductive Advances (invariant : σ → Prop) (measure : σ → Nat) (answers : σ → ρ → Prop) (state : σ) :
    Except ε (Turn σ ρ) → Prop where
  | again (next : σ) (kept : invariant next) (lower : measure next < measure state)
      (carried : ∀ result, answers next result → answers state result) :
      Advances invariant measure answers state (.ok (.again next))
  | leave (result : ρ) (met : answers state result) : Advances invariant measure answers state (.ok (.leave result))

variable {turn} {invariant : σ → Prop} {measure : σ → Nat} {answers : σ → ρ → Prop}

theorem run_advances (advances : ∀ state, invariant state → Advances invariant measure answers state (turn state))
    (state : σ) (holds : invariant state) (fuel : Nat) (enough : measure state < fuel) :
    ∃ result, run turn fuel state = some (.ok result) ∧ answers state result := by
  induction fuel generalizing state with
  | zero => omega
  | succ fuel ih =>
    have next := advances state holds
    rw [run]
    cases shape : turn state with
    | error error =>
      rw [shape] at next
      cases next
    | ok found =>
      rw [shape] at next
      cases next with
      | leave result met => exact ⟨result, rfl, met⟩
      | again next kept lower carried =>
        obtain ⟨result, done, met⟩ := ih next kept (by omega)
        exact ⟨result, done, carried result met⟩

theorem Enters.safe (advances : ∀ state, invariant state → Advances invariant measure answers state (turn state))
    {start state : σ} (initial : invariant start) (entered : Enters turn start state) :
    invariant state ∧ ∃ next, turn state = .ok next := by
  have holds : invariant state := by
    induction entered with
    | first => exact initial
    | again _ more ih =>
      have next := advances _ ih
      rw [more] at next
      cases next with
      | again _ kept _ _ => exact kept
  refine ⟨holds, ?_⟩
  have next := advances state holds
  cases shape : turn state with
  | error error =>
    rw [shape] at next
    cases next
  | ok found => exact ⟨found, rfl⟩

theorem run_unique {first second : Nat} {state : σ} {one other : Except ε ρ} (done : run turn first state = some one)
    (again : run turn second state = some other) : one = other := by
  induction first generalizing second state with
  | zero => cases done
  | succ first ih =>
    cases second with
    | zero => cases again
    | succ second =>
      rw [run] at done again
      cases shape : turn state with
      | error error =>
        rw [shape] at done again
        exact (Option.some.inj done).symm.trans (Option.some.inj again)
      | ok found =>
        cases found with
        | leave result =>
          rw [shape] at done again
          exact (Option.some.inj done).symm.trans (Option.some.inj again)
        | again next =>
          rw [shape] at done again
          exact ih done again

end Praeco.Schedule.Turns
