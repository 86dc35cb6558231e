import Praeco.Schedule.Runs

/-! Calls that run concurrently on a shared object, each as a sequence of atomic accesses. A schedule
lists the arrivals of calls, the accesses of single calls and the passing of time. -/

namespace Praeco.Schedule.Interleaving
open Praeco.Schedule.Runs

inductive Progress (Access Answer : Type) where
  | running (access : Access)
  | answered (answer : Answer)
  deriving DecidableEq, Repr

/-- The first access of each call, and what an access does at a time. -/
structure Object (σ Call Access Answer : Type) where
  start : Call → Access
  perform : Nat → σ → Access → σ × Progress Access Answer

structure Thread (Call Access Answer : Type) where
  call : Call
  since : Nat
  progress : Progress Access Answer
  deriving DecidableEq, Repr

/-- The shared state, the calls so far in the order of their arrival, and all accesses so far. -/
structure System (σ Call Access Answer : Type) where
  clock : Nat
  shared : σ
  threads : List (Thread Call Access Answer)
  history : List (Nat × Access)

inductive Label (Call : Type) where
  | tick (duration : Nat)
  | call (call : Call)
  | move (thread : Nat)
  deriving DecidableEq, Repr

variable {σ Call Access Answer : Type} (object : Object σ Call Access Answer)

namespace System

variable (system : System σ Call Access Answer)

def ticked (duration : Nat) : System σ Call Access Answer := { system with clock := system.clock + duration }

def called (call : Call) : System σ Call Access Answer :=
  { system with threads := system.threads ++ [⟨call, system.clock, .running (object.start call)⟩] }

def moved (index : Nat) (thread : Thread Call Access Answer) (access : Access) : System σ Call Access Answer :=
  let (shared, progress) := object.perform system.clock system.shared access
  { system with
    shared
    threads := system.threads.set index { thread with progress }
    history := system.history ++ [(index, access)] }

end System

/-- A move of a call that is answered, or that never arrived, does nothing. -/
def step (system : System σ Call Access Answer) : Label Call → System σ Call Access Answer
  | .tick duration => system.ticked duration
  | .call call => system.called object call
  | .move index =>
    match system.threads[index]? with
    | none => system
    | some thread =>
      match thread.progress with
      | .answered _ => system
      | .running access => system.moved object index thread access

def System.At (system : System σ Call Access Answer) (index : Nat) (call : Call) (since : Nat)
    (progress : Progress Access Answer) : Prop :=
  system.threads[index]? = some ⟨call, since, progress⟩

def System.due (system : System σ Call Access Answer) : Label Call → Option Access
  | .move index =>
    match system.threads[index]? with
    | some ⟨_, _, .running access⟩ => some access
    | _ => none
  | _ => none

abbrev Meets (condition : σ → Access → Prop) (system : System σ Call Access Answer) (label : Label Call) : Prop :=
  ∀ access ∈ system.due label, condition system.shared access

def Progress.next : Progress Access Answer → Option Access
  | .running access => some access
  | .answered _ => none

def System.others (system : System σ Call Access Answer) : Label Call → List Access
  | .move index => (system.threads.eraseIdx index).filterMap fun thread => thread.progress.next
  | _ => []

def System.sinceLast (system : System σ Call Access Answer) (index : Nat) : List (Nat × Access) :=
  system.history.rtakeWhile fun made => made.1 ≠ index

/-- The access of a step, if it makes one, may come before the next accesses of all other calls. -/
abbrev Apart (condition : σ → Access → Access → Prop) (system : System σ Call Access Answer) (label : Label Call) :
    Prop := ∀ access ∈ system.due label, ∀ other ∈ system.others label, condition system.shared access other

section

variable {object} {system : System σ Call Access Answer} {index : Nat} {call : Call} {since : Nat}
  {progress : Progress Access Answer}

variable {access : Access} {moving arrival : Nat} {mover : Call} {thread : Thread Call Access Answer}

theorem due_move (running : system.At index call since (.running access)) : system.due (.move index) = some access := by
  unfold System.At at running
  rw [System.due, running]

theorem Apart.of_at {condition : σ → Access → Access → Prop} {other : Access}
    (apart : Apart condition system (.move moving)) (running : system.At moving mover arrival (.running access))
    (elsewhere : index ≠ moving) (waiting : system.At index call since (.running other)) :
    condition system.shared access other := by
  have listed : ⟨call, since, .running other⟩ ∈ system.threads.eraseIdx moving :=
    List.mem_eraseIdx_iff_getElem?.mpr ⟨index, elsewhere, waiting⟩
  exact apart access (due_move running) other (List.mem_filterMap.mpr ⟨_, listed, rfl⟩)

theorem at_called (added : Call) :
    (system.called object added).At index call since progress ↔
      system.At index call since progress ∨ index = system.threads.length ∧ call = added ∧ since = system.clock ∧
        progress = .running (object.start added) := by
  unfold System.At System.called
  rw [List.getElem?_append]
  split_ifs with before
  · simp [before.ne]
  · rw [List.getElem?_eq_none (Nat.le_of_not_lt before), List.getElem?_singleton]
    by_cases last : index = system.threads.length
    · simp [last, eq_comm]
    · have beyond : index - system.threads.length ≠ 0 := by omega
      simp [last, beyond]

theorem at_moved (running : system.At moving mover arrival (.running access)) :
    (system.moved object moving ⟨mover, arrival, .running access⟩ access).At index call since progress ↔
      index ≠ moving ∧ system.At index call since progress ∨
      index = moving ∧ call = mover ∧ since = arrival ∧
        progress = (object.perform system.clock system.shared access).2 := by
  have bound : moving < system.threads.length := (List.getElem?_eq_some_iff.mp running).1
  unfold System.At System.moved
  by_cases same : index = moving
  · subst same
    simp [bound, eq_comm]
  · simp [same, List.getElem?_set_ne (Ne.symm same)]

theorem at_unique {call' : Call} {since' : Nat} {progress' : Progress Access Answer}
    (first : system.At index call since progress) (second : system.At index call' since' progress') :
    call = call' ∧ since = since' ∧ progress = progress' := by
  have same := Option.some.inj (first.symm.trans second)
  exact Thread.mk.inj same

variable (condition : System σ Call Access Answer → Label Call → Prop) (initial : System σ Call Access Answer)

/-- To show an invariant of all reachable systems: time, arrivals and accesses keep it. -/
theorem reachable_induction (invariant : System σ Call Access Answer → Prop) (base : invariant initial)
    (tick : ∀ system duration, Reachable (step object) condition initial system → invariant system →
      invariant (system.ticked duration))
    (arrival : ∀ system call, Reachable (step object) condition initial system → condition system (.call call) →
      invariant system → invariant (system.called object call))
    (move : ∀ system index call since access, Reachable (step object) condition initial system →
      condition system (.move index) → system.At index call since (.running access) → invariant system →
      invariant (system.moved object index ⟨call, since, .running access⟩ access))
    (reachable : Reachable (step object) condition initial system) : invariant system := by
  induction reachable with
  | start => exact base
  | @step state event before meets kept =>
    cases event with
    | tick duration => exact tick state duration before kept
    | call call => exact arrival state call before meets kept
    | move index =>
      simp only [step]
      cases found : state.threads[index]? with
      | none => exact kept
      | some thread =>
        obtain ⟨call, since, progress⟩ := thread
        cases progress with
        | answered answer => exact kept
        | running access => exact move state index call since access before meets found kept

/-- For an invariant of the shared state and the history, only accesses have to be looked at. -/
theorem reachable_shared (invariant : σ → List (Nat × Access) → Prop) (base : invariant initial.shared initial.history)
    (move : ∀ system index call since access, Reachable (step object) condition initial system →
      system.At index call since (.running access) → invariant system.shared system.history →
      invariant (system.moved object index ⟨call, since, .running access⟩ access).shared
        (system.moved object index ⟨call, since, .running access⟩ access).history)
    (reachable : Reachable (step object) condition initial system) : invariant system.shared system.history := by
  apply reachable_induction condition initial (fun system => invariant system.shared system.history) base _ _ _ reachable
  · intro system duration _ kept
    exact kept
  · intro system added _ _ kept
    exact kept
  · intro system index call since access before _ running kept
    exact move system index call since access before running kept

theorem count_called (counted : Thread Call Access Answer → Bool) (added : Call) :
    (system.called object added).threads.countP counted = system.threads.countP counted +
      (if counted ⟨added, system.clock, .running (object.start added)⟩ then 1 else 0) := by
  rw [System.called, List.countP_append, List.countP_singleton]

theorem count_moved (counted : Thread Call Access Answer → Bool)
    (running : system.At moving mover arrival (.running access)) :
    (system.moved object moving ⟨mover, arrival, .running access⟩ access).threads.countP counted =
      system.threads.countP counted - (if counted ⟨mover, arrival, .running access⟩ then 1 else 0) +
        (if counted ⟨mover, arrival, (object.perform system.clock system.shared access).2⟩ then 1 else 0) := by
  obtain ⟨bound, same⟩ := List.getElem?_eq_some_iff.mp running
  simp only [System.moved]
  rw [List.countP_set bound, same]

theorem count_pos (counted : Thread Call Access Answer → Bool) (present : system.threads[moving]? = some thread)
    (meets : counted thread = true) : 0 < system.threads.countP counted :=
  List.countP_pos_iff.mpr ⟨thread, List.mem_of_getElem? present, meets⟩

theorem reachable_since_le (noCalls : initial.threads = [])
    (reachable : Reachable (step object) condition initial system)
    (present : system.At index call since progress) : since ≤ system.clock := by
  revert index call since progress
  apply reachable_induction condition initial _ _ _ _ _ reachable
  · intro index call since progress present
    simp [System.At, noCalls] at present
  · intro system duration _ kept index call since progress present
    exact (kept present).trans (Nat.le_add_right _ _)
  · intro system added _ _ kept index call since progress present
    rcases (at_called added).mp present with old | ⟨-, -, same, -⟩
    · exact kept old
    · exact same.le
  · intro system moving mover arrival access _ _ running kept index call since progress present
    rcases (at_moved running).mp present with ⟨-, old⟩ | ⟨-, -, same, -⟩
    · exact kept old
    · subst same
      exact kept running

structure Typed (fits : Call → Access → Prop) (system : System σ Call Access Answer) : Prop where
  running : ∀ {index call since access}, system.At index call since (.running access) → fits call access
  made : ∀ {index access}, (index, access) ∈ system.history →
    ∃ call since progress, system.At index call since progress ∧ fits call access

theorem mem_history_moved {made : Access} :
    (index, made) ∈ (system.moved object moving thread access).history ↔
      (index, made) ∈ system.history ∨ index = moving ∧ made = access := by
  simp [System.moved]

theorem sinceLast_moved :
    (system.moved object moving thread access).sinceLast index =
      if index = moving then [] else system.sinceLast index ++ [(moving, access)] := by
  unfold System.sinceLast System.moved
  split_ifs with same
  · exact List.rtakeWhile_concat_neg _ _ _ (by simp [same])
  · exact List.rtakeWhile_concat_pos _ _ _ (by simp [Ne.symm same])

theorem at_called_of_at (added : Call) (present : system.At index call since progress) :
    (system.called object added).At index call since progress := (at_called added).mpr (Or.inl present)

theorem exists_at_moved {moving : Nat} {mover : Call} {arrival : Nat} {access : Access}
    (running : system.At moving mover arrival (.running access)) (present : system.At index call since progress) :
    ∃ progress, (system.moved object moving ⟨mover, arrival, .running access⟩ access).At index call since progress := by
  by_cases same : index = moving
  · subst same
    obtain ⟨rfl, rfl, -⟩ := at_unique present running
    exact ⟨_, (at_moved running).mpr (Or.inr ⟨rfl, rfl, rfl, rfl⟩)⟩
  · exact ⟨progress, (at_moved running).mpr (Or.inl ⟨same, present⟩)⟩

theorem exists_at_of_moved (running : system.At moving mover arrival (.running access))
    (present : (system.moved object moving ⟨mover, arrival, .running access⟩ access).At index call since progress) :
    ∃ earlier, system.At index call since earlier := by
  rcases (at_moved running).mp present with ⟨-, old⟩ | ⟨rfl, rfl, rfl, -⟩
  · exact ⟨progress, old⟩
  · exact ⟨_, running⟩

theorem answered_at_moved {answer : Answer} (running : system.At moving mover arrival (.running access))
    (present : system.At index call since (.answered answer)) :
    (system.moved object moving ⟨mover, arrival, .running access⟩ access).At index call since (.answered answer) := by
  refine (at_moved running).mpr (Or.inl ⟨?_, present⟩)
  intro same
  subst same
  exact nomatch (at_unique present running).2.2

theorem reachable_typed (fits : Call → Access → Prop) (noCalls : initial.threads = [])
    (noHistory : initial.history = []) (begins : ∀ call, fits call (object.start call))
    (continues : ∀ clock shared call access next, fits call access →
      (object.perform clock shared access).2 = .running next → fits call next)
    (reachable : Reachable (step object) condition initial system) : Typed fits system := by
  apply reachable_induction condition initial (Typed fits) _ _ _ _ reachable
  · constructor
    · intro index call since access present
      simp [System.At, noCalls] at present
    · intro index access made
      simp [noHistory] at made
  · intro system duration _ typed
    exact ⟨typed.running, typed.made⟩
  · intro system added _ _ typed
    constructor
    · intro index call since access present
      rcases (at_called added).mp present with old | ⟨-, rfl, -, same⟩
      · exact typed.running old
      · cases same
        exact begins call
    · intro index access made
      obtain ⟨call, since, progress, present, fit⟩ := typed.made made
      exact ⟨call, since, progress, at_called_of_at added present, fit⟩
  · intro system moving mover arrival access _ _ running typed
    constructor
    · intro index call since next present
      rcases (at_moved running).mp present with ⟨-, old⟩ | ⟨-, rfl, -, same⟩
      · exact typed.running old
      · exact continues _ _ call access next (typed.running running) same.symm
    · intro index made found
      rcases mem_history_moved.mp found with old | ⟨rfl, rfl⟩
      · obtain ⟨call, since, progress, present, fit⟩ := typed.made old
        obtain ⟨later, moved⟩ := exists_at_moved running present
        exact ⟨call, since, later, moved, fit⟩
      · obtain ⟨later, moved⟩ := exists_at_moved running running
        exact ⟨mover, arrival, later, moved, typed.running running⟩

/-- To show that the shared state is always good: accesses that are fine keep it so, and lead to fine ones. -/
theorem reachable_assertion (noCalls : initial.threads = []) (good : σ → Prop) (fine : Access → Prop)
    (base : good initial.shared)
    (arrivals : ∀ system call, condition system (.call call) → fine (object.start call))
    (moves : ∀ clock shared access, good shared → fine access → good (object.perform clock shared access).1 ∧
      ∀ next, (object.perform clock shared access).2 = .running next → fine next)
    (reachable : Reachable (step object) condition initial system) :
    good system.shared ∧ ∀ index call since access, system.At index call since (.running access) → fine access := by
  apply reachable_induction condition initial (fun system => good system.shared ∧
    ∀ index call since access, system.At index call since (.running access) → fine access) _ _ _ _ reachable
  · refine ⟨base, ?_⟩
    intro index call since access present
    simp [System.At, noCalls] at present
  · intro system duration _ kept
    exact kept
  · intro system added _ meets kept
    refine ⟨kept.1, ?_⟩
    intro index call since access present
    rcases (at_called added).mp present with old | ⟨-, rfl, -, same⟩
    · exact kept.2 index call since access old
    · cases same
      exact arrivals system call meets
  · intro system moving mover arrival access _ _ running kept
    obtain ⟨better, continues⟩ := moves system.clock system.shared access kept.1 (kept.2 moving mover arrival access running)
    refine ⟨better, ?_⟩
    intro index call since next present
    rcases (at_moved running).mp present with ⟨-, old⟩ | ⟨-, -, -, same⟩
    · exact kept.2 index call since next old
    · exact continues next same.symm

end

end Praeco.Schedule.Interleaving
