import Praeco.Schedule.Interleaving

/-! Calls that run one after the other: one arrives only when those before it are answered. Time may pass between the
accesses of a call as well as between the calls. -/

namespace Praeco.Schedule.Sequential
open Praeco.Schedule.Runs Praeco.Schedule.Interleaving

variable {σ Call Access Answer : Type} {object : Object σ Call Access Answer}

def next : Progress Access Answer → Option Access
  | .running access => some access
  | .answered _ => none

def InTurn (system : System σ Call Access Answer) : Label Call → Prop
  | .call _ => system.threads.all (fun thread => (next thread.progress).isNone) = true
  | _ => True

instance (system : System σ Call Access Answer) : (label : Label Call) → Decidable (InTurn system label)
  | .call _ => inferInstanceAs (Decidable (_ = _))
  | .tick _ => .isTrue trivial
  | .move _ => .isTrue trivial

inductive Alone (system : System σ Call Access Answer) : Option Access → Prop where
  | idle (answered : ∀ index call since access, ¬system.At index call since (.running access)) : Alone system none
  | busy {index : Nat} {call : Call} {since : Nat} {access : Access}
    (running : system.At index call since (.running access))
    (single : ∀ other call since access, system.At other call since (.running access) → other = index) :
    Alone system (some access)

variable {system : System σ Call Access Answer}

theorem Alone.not_running {current : Option Access} (alone : Alone system current)
    (answered : system.threads.all (fun thread => (next thread.progress).isNone) = true) : current = none := by
  cases alone with
  | idle _ => rfl
  | busy running _ =>
    have none := List.all_eq_true.mp answered _ (List.mem_of_getElem? running)
    cases none

theorem alone_called (alone : Alone system none) (call : Call) :
    Alone (system.called object call) (some (object.start call)) := by
  cases alone with
  | idle answered =>
    refine .busy ((at_called call).mpr (Or.inr ⟨rfl, rfl, rfl, rfl⟩)) ?_
    intro other _ _ _ present
    rcases (at_called call).mp present with old | ⟨same, -⟩
    · exact absurd old (answered _ _ _ _)
    · exact same

theorem alone_moved (object : Object σ Call Access Answer) {current : Option Access} (alone : Alone system current)
    {index : Nat} {call : Call} {since : Nat} {access : Access}
    (running : system.At index call since (.running access)) :
    current = some access ∧ Alone (system.moved object index ⟨call, since, .running access⟩ access)
      (next (object.perform system.clock system.shared access).2) := by
  cases alone with
  | idle answered => exact absurd running (answered _ _ _ _)
  | busy before single =>
    obtain rfl := single _ _ _ _ running
    obtain ⟨-, -, same⟩ := at_unique before running
    cases same
    refine ⟨rfl, ?_⟩
    have others {other : Nat} {caller : Call} {arrival : Nat} {later : Access}
        (present : (system.moved object index ⟨call, since, .running access⟩ access).At other caller arrival
          (.running later)) :
        other = index ∧ .running later = (object.perform system.clock system.shared access).2 := by
      rcases (at_moved running).mp present with ⟨differs, old⟩ | ⟨same, -, -, found⟩
      · exact absurd (single _ _ _ _ old) differs
      · exact ⟨same, found⟩
    cases progress : (object.perform system.clock system.shared access).2 with
    | running later =>
      refine .busy ((at_moved running).mpr (Or.inr ⟨rfl, rfl, rfl, progress.symm⟩)) ?_
      intro _ _ _ _ present
      exact (others present).1
    | answered answer =>
      refine .idle ?_
      intro _ _ _ _ present
      cases (others present).2.trans progress

/-- To show what holds in all sequential runs, of the shared state, the history and the access that comes next. -/
theorem reachable_sequential {condition : System σ Call Access Answer → Label Call → Prop}
    {initial : System σ Call Access Answer} (inTurn : ∀ system label, condition system label → InTurn system label)
    (noCalls : initial.threads = []) (holds : Nat → σ → List (Nat × Access) → Option Access → Prop)
    (base : holds initial.clock initial.shared initial.history none)
    (tick : ∀ clock time shared history current, clock ≤ time → holds clock shared history current →
      holds time shared history current)
    (arrival : ∀ clock shared history call, holds clock shared history none →
      holds clock shared history (some (object.start call)))
    (move : ∀ system index call since access, condition system (.move index) →
      system.At index call since (.running access) → holds system.clock system.shared system.history (some access) →
      holds system.clock (object.perform system.clock system.shared access).1 (system.history ++ [(index, access)])
      (next (object.perform system.clock system.shared access).2))
    (reachable : Reachable (step object) condition initial system) :
    ∃ current, Alone system current ∧ holds system.clock system.shared system.history current := by
  apply reachable_induction condition initial (fun system => ∃ current, Alone system current ∧
    holds system.clock system.shared system.history current) _ _ _ _ reachable
  · refine ⟨none, .idle ?_, base⟩
    intro index call since access present
    rw [System.At, noCalls] at present
    cases present
  · rintro system duration - ⟨current, alone, held⟩
    refine ⟨current, ?_, tick _ _ _ _ _ (Nat.le_add_right _ _) held⟩
    cases alone with
    | idle answered => exact .idle answered
    | busy running single => exact .busy running single
  · rintro system call - meets ⟨current, alone, held⟩
    obtain rfl := alone.not_running (inTurn system (.call call) meets)
    exact ⟨_, alone_called alone call, arrival _ _ _ _ held⟩
  · rintro system index call since access - meets running ⟨current, alone, held⟩
    obtain ⟨rfl, after⟩ := alone_moved object alone running
    exact ⟨_, after, move system index call since access meets running held⟩

/-- A call that is not interrupted, with the accesses that it makes at one time. -/
inductive Completes (object : Object σ Call Access Answer) (now : Nat) :
    σ → Access → List Access → σ → Answer → Prop where
  | answered {before after : σ} {access : Access} {answer : Answer} :
    object.perform now before access = (after, .answered answer) →
    Completes object now before access [access] after answer
  | running {before middle after : σ} {access later : Access} {made : List Access} {answer : Answer} :
    object.perform now before access = (middle, .running later) → Completes object now middle later made after answer →
    Completes object now before access (access :: made) after answer

def block (index : Nat) (call : Call) (length : Nat) : List (Label Call) :=
  .call call :: List.replicate length (.move index)

section

variable {clock : Nat} {shared after : σ} {made : List Access} {answer : Answer}

theorem run_moves {access : Access} (completes : Completes object clock shared access made after answer)
    (threads : List (Thread Call Access Answer)) (history : List (Nat × Access)) (call : Call) (since : Nat) :
    run (step object) ⟨clock, shared, threads ++ [⟨call, since, .running access⟩], history⟩
        (List.replicate made.length (.move threads.length)) =
      ⟨clock, after, threads ++ [⟨call, since, .answered answer⟩], history ++ made.map (threads.length, ·)⟩ := by
  have moves (before : σ) (access : Access) (history : List (Nat × Access)) :
      step object ⟨clock, before, threads ++ [⟨call, since, .running access⟩], history⟩ (.move threads.length) =
        ⟨clock, (object.perform clock before access).1,
          threads ++ [⟨call, since, (object.perform clock before access).2⟩],
          history ++ [(threads.length, access)]⟩ := by
    simp [step, System.moved]
  induction completes generalizing history with
  | answered performed =>
    rw [List.length_singleton, List.replicate_one, run, List.foldl_cons, moves, performed]
    rfl
  | running performed _ ih =>
    rw [List.length_cons, List.replicate_succ, run, List.foldl_cons, moves, performed]
    refine (ih _).trans ?_
    rw [List.map_cons, List.append_assoc]
    rfl

theorem inTurn_moves (system : System σ Call Access Answer) (index length : Nat) :
    Always (step object) InTurn system (List.replicate length (.move index)) := by
  induction length generalizing system with
  | zero => trivial
  | succ length ih => exact ⟨trivial, ih _⟩

theorem run_block {system : System σ Call Access Answer} {call : Call}
    (answered : system.threads.all (fun thread => (next thread.progress).isNone) = true)
    (completes : Completes object system.clock system.shared (object.start call) made after answer) :
    Always (step object) InTurn system (block system.threads.length call made.length) ∧
      run (step object) system (block system.threads.length call made.length) =
        ⟨system.clock, after, system.threads ++ [⟨call, system.clock, .answered answer⟩],
          system.history ++ made.map (system.threads.length, ·)⟩ :=
  ⟨⟨answered, inTurn_moves _ _ _⟩, run_moves completes system.threads system.history call system.clock⟩

end

end Praeco.Schedule.Sequential
