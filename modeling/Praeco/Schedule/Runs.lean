import Mathlib

/-! Runs of a deterministic step function over a list of events, and properties along them. -/

namespace Praeco.Schedule.Runs

variable {σ ε : Type} (step : σ → ε → σ)

def run (start : σ) (events : List ε) : σ := events.foldl step start

/-- Every step of the run meets the condition, judged in the state it is taken from. -/
def Always (condition : σ → ε → Prop) : σ → List ε → Prop
  | _, [] => True
  | start, event :: events => condition start event ∧ Always condition (step start event) events

instance Always.decidable {condition : σ → ε → Prop} [∀ state event, Decidable (condition state event)] :
    (start : σ) → (events : List ε) → Decidable (Always step condition start events)
  | _, [] => .isTrue trivial
  | start, event :: events =>
    have : Decidable (Always step condition (step start event) events) := Always.decidable (step start event) events
    inferInstanceAs (Decidable (_ ∧ _))

theorem run_append (start : σ) (first second : List ε) :
    run step start (first ++ second) = run step (run step start first) second := List.foldl_append

theorem always_append (condition : σ → ε → Prop) (start : σ) (first second : List ε) :
    Always step condition start (first ++ second) ↔
      Always step condition start first ∧ Always step condition (run step start first) second := by
  induction first generalizing start with
  | nil => simp [Always, run]
  | cons event events ih =>
    rw [List.cons_append]
    simp only [Always, ih, and_assoc]
    rfl

variable {start : σ} {events : List ε} {condition : σ → ε → Prop}

theorem Always.and {first second : σ → ε → Prop} (left : Always step first start events)
    (right : Always step second start events) :
    Always step (fun state event => first state event ∧ second state event) start events := by
  induction events generalizing start with
  | nil => trivial
  | cons event events ih => exact ⟨⟨left.1, right.1⟩, ih left.2 right.2⟩

theorem always_mem (condition : ε → Prop) (start : σ) (events : List ε) (meets : ∀ event ∈ events, condition event) :
    Always step (fun _ event => condition event) start events := by
  induction events generalizing start with
  | nil => trivial
  | cons event events ih =>
    refine ⟨meets event List.mem_cons_self, ih (step start event) ?_⟩
    intro other member
    exact meets other (List.mem_cons_of_mem _ member)

/-- What every step that meets the condition preserves, the run preserves. -/
theorem Always.invariant (along : Always step condition start events) (invariant : σ → Prop)
    (kept : ∀ state event, condition state event → invariant state → invariant (step state event))
    (initial : invariant start) : invariant (run step start events) := by
  induction events generalizing start with
  | nil => exact initial
  | cons event events ih => exact ih along.2 (kept start event along.1 initial)

theorem run_invariant (invariant : σ → Prop) (kept : ∀ state event, invariant state → invariant (step state event))
    (initial : invariant start) (events : List ε) : invariant (run step start events) :=
  (always_mem step (fun _ => True) start events fun _ _ => trivial).invariant step invariant
    (fun state event _ holds => kept state event holds) initial

inductive Reachable (condition : σ → ε → Prop) (start : σ) : σ → Prop where
  | start : Reachable condition start start
  | step {state : σ} {event : ε} : Reachable condition start state → condition state event →
    Reachable condition start (step state event)

section

variable {step} {condition : σ → ε → Prop} {start middle state : σ}

theorem Reachable.trans (first : Reachable step condition start middle)
    (second : Reachable step condition middle state) : Reachable step condition start state := by
  induction second with
  | start => exact first
  | step _ meets ih => exact .step ih meets

theorem Reachable.weaken {weaker : σ → ε → Prop} (implied : ∀ state event, condition state event → weaker state event)
    (reachable : Reachable step condition start state) : Reachable step weaker start state := by
  induction reachable with
  | start => exact .start
  | step _ meets ih => exact .step ih (implied _ _ meets)

end

theorem Always.reachable (along : Always step condition start events) :
    Reachable step condition start (run step start events) := by
  induction events using List.reverseRecOn with
  | nil => exact .start
  | append_singleton events event ih =>
    rw [always_append] at along
    rw [run_append]
    exact .step (ih along.1) along.2.1

/-- A property of single steps holds along a run if it holds of the steps that meet the condition from the states
that such steps reach. -/
theorem Always.conclude {goal : σ → ε → Prop} (along : Always step condition start events)
    (holds : ∀ state event, Reachable step condition start state → condition state event → goal state event) :
    Always step goal start events := by
  induction events using List.reverseRecOn with
  | nil => trivial
  | append_singleton events event ih =>
    rw [always_append] at along ⊢
    exact ⟨ih along.1, holds _ event (along.1.reachable step) along.2.1, trivial⟩

/-- A property that a step keeps exactly if it meets the condition holds all along a run exactly if all steps do. What
the property alone does not tell of a state, an invariant may that holds as long as the property does. -/
theorem always_iff_prefixes (property invariant : σ → Prop) (initial : property start) (base : invariant start)
    (preserved : ∀ state event, property state → invariant state → invariant (step state event))
    (kept : ∀ state event, property state → invariant state → (property (step state event) ↔ condition state event))
    (events : List ε) :
    (∀ first, first <+: events → property (run step start first)) ↔ Always step condition start events := by
  have along (events : List ε) (holds : ∀ first, first <+: events → property (run step start first)) :
      invariant (run step start events) := by
    induction events using List.reverseRecOn with
    | nil => exact base
    | append_singleton events event ih =>
      rw [run_append]
      have earlier := ih fun first within => holds first (within.trans (List.prefix_append _ _))
      exact preserved _ event (holds events (List.prefix_append _ _)) earlier
  constructor
  · intro holds
    induction events using List.reverseRecOn with
    | nil => trivial
    | append_singleton events event ih =>
      have shorter (first : List ε) (within : first <+: events) : property (run step start first) :=
        holds first (within.trans (List.prefix_append _ _))
      have after := holds (events ++ [event]) List.prefix_rfl
      rw [run_append] at after
      rw [always_append]
      exact ⟨ih shorter, (kept _ event (shorter events List.prefix_rfl) (along events shorter)).mp after, trivial⟩
  · rintro meets first ⟨rest, rfl⟩
    have steps := ((always_append step condition start first rest).mp meets).1
    have both := steps.invariant step (fun state => property state ∧ invariant state)
      (fun state event meets held => ⟨(kept state event held.1 held.2).mpr meets, preserved state event held.1 held.2⟩)
      ⟨initial, base⟩
    exact both.1

end Praeco.Schedule.Runs
