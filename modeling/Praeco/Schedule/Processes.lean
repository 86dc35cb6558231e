import Praeco.Schedule.Runs

/-! Sequential processes over a shared state. A schedule starts processes and sends signals to them, in any
order. The total of a weight over the processes accounts for a measure of the shared state when every signal
changes both by the same amount. -/

namespace Praeco.Schedule.Processes
open Praeco.Schedule.Runs

/-- How a process starts, and what a signal makes of the shared state and of the process. -/
structure Program (σ Start Proc Signal : Type) where
  spawn : Start → Proc
  act : σ → Proc → Signal → σ × Proc

structure System (σ Proc : Type) where
  shared : σ
  processes : List Proc
  deriving DecidableEq, Repr

inductive Label (Start Signal : Type) where
  | spawn (start : Start)
  | act (index : Nat) (signal : Signal)
  deriving DecidableEq, Repr

variable {σ Start Proc Signal : Type} (program : Program σ Start Proc Signal)

namespace System

variable (system : System σ Proc)

def spawned (process : Proc) : System σ Proc := { system with processes := system.processes ++ [process] }

def acted (index : Nat) (result : σ × Proc) : System σ Proc := ⟨result.1, system.processes.set index result.2⟩

def total (weight : Proc → Nat) : Nat := (system.processes.map weight).sum

def weightAt (weight : Proc → Nat) (index : Nat) : Nat := (system.processes[index]?.map weight).getD 0

end System

def step (system : System σ Proc) : Label Start Signal → System σ Proc
  | .spawn start => system.spawned (program.spawn start)
  | .act index signal =>
    match system.processes[index]? with
    | none => system
    | some process => system.acted index (program.act system.shared process signal)

section

variable {program} {system : System σ Proc} {index : Nat} {process : Proc}

theorem step_act (present : system.processes[index]? = some process) (signal : Signal) :
    step program system (.act index signal) = system.acted index (program.act system.shared process signal) := by
  simp only [step, present]

theorem step_absent (absent : system.processes[index]? = none) (signal : Signal) :
    step program system (.act index signal) = system := by
  simp only [step, absent]

theorem lookup_acted (present : system.processes[index]? = some process) (result : σ × Proc) (other : Nat) :
    (system.acted index result).processes[other]? = if other = index then some result.2 else system.processes[other]? := by
  have bound : index < system.processes.length := (List.getElem?_eq_some_iff.mp present).1
  unfold System.acted
  by_cases same : other = index
  · subst same
    simp [bound]
  · simp [same, List.getElem?_set_ne (Ne.symm same)]

theorem lookup_spawned (added : Proc) (other : Nat) :
    (system.spawned added).processes[other]? =
      if other = system.processes.length then some added else system.processes[other]? := by
  unfold System.spawned
  rw [List.getElem?_append]
  split_ifs with before last beyond
  · omega
  · rfl
  · simp [beyond]
  · have outside : 1 ≤ other - system.processes.length := by omega
    rw [List.getElem?_eq_none outside, List.getElem?_eq_none (Nat.le_of_not_lt before)]

variable {α : Type} {result : σ × Proc} {added : Proc} {weight : Proc → Nat} {number : Proc → Option Nat}

theorem bind_acted (view : Proc → Option α) (present : system.processes[index]? = some process) (result : σ × Proc)
    (other : Nat) :
    (system.acted index result).processes[other]?.bind view =
      if other = index then view result.2 else system.processes[other]?.bind view := by
  rw [lookup_acted present]
  split_ifs with same
  · rfl
  · rfl

theorem bind_acted_cases {view : Proc → Option α} (present : system.processes[index]? = some process) {other : Nat}
    {value : α} (found : (system.acted index result).processes[other]?.bind view = some value) :
    other = index ∧ view result.2 = some value ∨ other ≠ index ∧ system.processes[other]?.bind view = some value := by
  rw [bind_acted view present] at found
  split_ifs at found with same
  · exact Or.inl ⟨same, found⟩
  · exact Or.inr ⟨same, found⟩

theorem bind_spawned (view : Proc → Option α) (unseen : view added = none) (other : Nat) :
    (system.spawned added).processes[other]?.bind view = system.processes[other]?.bind view := by
  rw [lookup_spawned]
  split_ifs with last
  · rw [last, Option.bind_some, unseen, List.getElem?_eq_none le_rfl, Option.bind_none]
  · rfl

/-- To show an invariant of all reachable systems: starts and signals keep it. -/
theorem reachable_induction (condition : System σ Proc → Label Start Signal → Prop) (initial : System σ Proc)
    (invariant : System σ Proc → Prop) (base : invariant initial)
    (spawn : ∀ system start, condition system (.spawn start) → invariant system →
      invariant (system.spawned (program.spawn start)))
    (act : ∀ system index process signal, system.processes[index]? = some process →
      condition system (.act index signal) → invariant system →
      invariant (system.acted index (program.act system.shared process signal)))
    (reachable : Reachable (step program) condition initial system) : invariant system := by
  induction reachable with
  | start => exact base
  | @step state label before meets kept =>
    cases label with
    | spawn start => exact spawn state start meets kept
    | act index signal =>
      cases present : state.processes[index]? with
      | none => simpa only [step, present] using kept
      | some process =>
        rw [step_act present]
        exact act state index process signal present meets kept

theorem total_spawned (weight : Proc → Nat) (added : Proc) :
    (system.spawned added).total weight = system.total weight + weight added := by
  simp [System.total, System.spawned]

theorem sum_map_set (weight : Proc → Nat) (processes : List Proc) (added : Proc) {index : Nat} {process : Proc}
    (present : processes[index]? = some process) :
    ((processes.set index added).map weight).sum + weight process = (processes.map weight).sum + weight added := by
  induction processes generalizing index with
  | nil => simp at present
  | cons first rest ih =>
    cases index with
    | zero =>
      cases present
      simp only [List.set_cons_zero, List.map_cons, List.sum_cons]
      omega
    | succ index =>
      have later : ((rest.set index added).map weight).sum + weight process = (rest.map weight).sum + weight added :=
        ih (by simpa using present)
      simp only [List.set_cons_succ, List.map_cons, List.sum_cons]
      omega

theorem sum_toNat (holds : Proc → Bool) (processes : List Proc) :
    (processes.map fun process => (holds process).toNat).sum = processes.countP holds := by
  induction processes with
  | nil => rfl
  | cons process processes ih =>
    rw [List.map_cons, List.sum_cons, ih, List.countP_cons]
    cases holds process with
    | false => simp
    | true => simp [Nat.add_comm]

theorem countP_set_add (holds : Proc → Bool) (processes : List Proc) (added : Proc) {index : Nat} {process : Proc}
    (present : processes[index]? = some process) :
    (processes.set index added).countP holds + (holds process).toNat = processes.countP holds + (holds added).toNat := by
  rw [← sum_toNat, ← sum_toNat]
  exact sum_map_set (fun process => (holds process).toNat) processes added present

theorem total_acted (weight : Proc → Nat) (present : system.processes[index]? = some process) (result : σ × Proc) :
    (system.acted index result).total weight + weight process = system.total weight + weight result.2 :=
  sum_map_set weight system.processes result.2 present

theorem weight_le_total (weight : Proc → Nat) (present : system.processes[index]? = some process) :
    weight process ≤ system.total weight := by
  apply List.single_le_sum
  · intro other _
    exact Nat.zero_le other
  · exact List.mem_map_of_mem (List.mem_of_getElem? present)

theorem total_le_total {heavier : Proc → Nat} (below : ∀ process, weight process ≤ heavier process) :
    system.total weight ≤ system.total heavier := by
  apply List.sum_le_sum
  intro process _
  exact below process

theorem total_congr {first second : Proc → Nat}
    (same : ∀ (index : Nat) process, system.processes[index]? = some process → first process = second process) :
    system.total first = system.total second := by
  unfold System.total
  congr 1
  apply List.map_congr_left
  intro process member
  obtain ⟨index, present⟩ := List.mem_iff_getElem?.mp member
  exact same index process present

theorem total_add (first second : Proc → Nat) :
    system.total (fun process => first process + second process) = system.total first + system.total second := by
  simp [System.total, List.sum_map_add]

theorem total_toNat (holds : Proc → Bool) :
    system.total (fun process => (holds process).toNat) = system.processes.countP holds :=
  sum_toNat holds system.processes

/-- A measure of the shared state that is the total of a weight stays so when both change by the same amount. -/
theorem balance_acted (measure : σ → Nat) (balance : measure system.shared = system.total weight)
    (present : system.processes[index]? = some process)
    (moved : weight process ≤ measure system.shared →
      measure result.1 + weight process = measure system.shared + weight result.2) :
    measure (system.acted index result).shared = (system.acted index result).total weight := by
  have held : weight process ≤ measure system.shared := balance ▸ weight_le_total weight present
  have shares := moved held
  have totals := total_acted weight present result
  change measure result.1 = _
  omega

theorem balance_spawned (measure : σ → Nat) (balance : measure system.shared = system.total weight)
    (light : weight added = 0) : measure (system.spawned added).shared = (system.spawned added).total weight := by
  rw [total_spawned, light]
  exact balance

theorem conserved_acted (measure : σ → Nat) (weight : Proc → Nat) (present : system.processes[index]? = some process)
    (moved : measure result.1 + weight result.2 = measure system.shared + weight process) :
    measure (system.acted index result).shared + (system.acted index result).total weight =
      measure system.shared + system.total weight := by
  have totals := total_acted weight present result
  change measure result.1 + _ = _
  omega

theorem countP_owners {numbers : List Nat} (distinct : numbers.Nodup)
    (single : ∀ n ∈ numbers, system.total (fun process => if number process = some n then 1 else 0) = 1) :
    system.processes.countP (fun process => (number process).any (· ∈ numbers)) = numbers.length := by
  induction numbers with
  | nil => simp
  | cons n numbers ih =>
    rw [List.nodup_cons] at distinct
    have rest := ih distinct.2 fun other member => single other (List.mem_cons_of_mem n member)
    have first := single n List.mem_cons_self
    rw [← total_toNat] at rest ⊢
    have split (process : Proc) : ((number process).any (· ∈ n :: numbers)).toNat =
        (if number process = some n then 1 else 0) + ((number process).any (· ∈ numbers)).toNat := by
      cases drawn : number process with
      | none => rfl
      | some other =>
        by_cases same : other = n
        · subst same
          simp [distinct.1]
        · simp [same]
    rw [funext split, total_add, first, rest, List.length_cons, Nat.add_comm]

/-- The processes with a property stay within a limit when each of them weighs something and one comes to have the
property only while the total is below the limit. -/
theorem capacity_acted {holds : Proc → Bool} {limit : Nat} (within : system.processes.countP holds ≤ limit)
    (present : system.processes[index]? = some process) (weighs : ∀ process, (holds process).toNat ≤ weight process)
    (entered : holds result.2 = true → holds process = false → system.total weight < limit) :
    (system.acted index result).processes.countP holds ≤ limit := by
  have fewer : system.processes.countP holds ≤ system.total weight := by
    rw [← total_toNat]
    exact total_le_total weighs
  have totals := countP_set_add holds system.processes result.2 present
  change (system.processes.set index result.2).countP holds ≤ limit
  cases before : holds process with
  | true =>
    have single := Bool.toNat_le (holds result.2)
    rw [before, Bool.toNat_true] at totals
    omega
  | false =>
    rw [before, Bool.toNat_false] at totals
    cases after : holds result.2 with
    | true =>
      have room := entered after before
      rw [after, Bool.toNat_true] at totals
      omega
    | false =>
      rw [after, Bool.toNat_false] at totals
      omega

/-- The processes that have drawn a number from a shared counter have different ones, all below it. -/
structure Numbered (number : Proc → Option Nat) (next : σ → Nat) (system : System σ Proc) : Prop where
  below : ∀ (index n : Nat), system.processes[index]?.bind number = some n → n < next system.shared
  distinct : ∀ (first second n : Nat), system.processes[first]?.bind number = some n →
    system.processes[second]?.bind number = some n → first = second

theorem Numbered.spawned {next : σ → Nat} (numbered : Numbered number next system) (none : number added = none) :
    Numbered number next (system.spawned added) := by
  constructor
  · intro index n
    rw [bind_spawned number none]
    exact numbered.below index n
  · intro first second n
    rw [bind_spawned number none, bind_spawned number none]
    exact numbered.distinct first second n

theorem Numbered.acted {next : σ → Nat} (numbered : Numbered number next system)
    (present : system.processes[index]? = some process)
    (drawn : number result.2 = number process ∧ next result.1 = next system.shared ∨
      number result.2 = some (next system.shared) ∧ next result.1 = next system.shared + 1) :
    Numbered number next (system.acted index result) := by
  have own : system.processes[index]?.bind number = number process := by rw [present, Option.bind_some]
  rcases drawn with ⟨same, still⟩ | ⟨fresh, counted⟩
  · have view (other : Nat) : (system.acted index result).processes[other]?.bind number =
        system.processes[other]?.bind number := by
      rw [bind_acted number present, same]
      split_ifs with here
      · rw [here, own]
      · rfl
    constructor
    · intro other n held
      rw [view] at held
      exact still ▸ numbered.below other n held
    · intro first second n held shared
      rw [view] at held shared
      exact numbered.distinct first second n held shared
  · constructor
    · intro other n held
      change n < next result.1
      rw [bind_acted number present, fresh] at held
      split_ifs at held
      · cases held
        omega
      · have bound := numbered.below other n held
        omega
    · intro first second n held shared
      rw [bind_acted number present, fresh] at held shared
      split_ifs at held shared with one two two
      · rw [one, two]
      · cases held
        exact absurd (numbered.below second _ shared) (lt_irrefl _)
      · cases shared
        exact absurd (numbered.below first _ held) (lt_irrefl _)
      · exact numbered.distinct first second n held shared

theorem countP_spawned {holds : Proc → Bool} (lacks : holds added = false) :
    (system.spawned added).processes.countP holds = system.processes.countP holds := by
  simp [System.spawned, lacks]

end

section

variable {system : System σ Proc} {index : Nat} {process : Proc}

theorem lookup_step (label : Label Start Signal) (present : system.processes[index]? = some process) :
    (∃ signal, label = .act index signal ∧
        (step program system label).processes[index]? = some (program.act system.shared process signal).2) ∨
      ((∀ signal, label ≠ .act index signal) ∧ (step program system label).processes[index]? = some process) := by
  cases label with
  | spawn start =>
    have bound : index < system.processes.length := (List.getElem?_eq_some_iff.mp present).1
    refine .inr ⟨by simp, ?_⟩
    rw [step, lookup_spawned, if_neg (by omega)]
    exact present
  | act other signal =>
    by_cases same : other = index
    · subst same
      refine .inl ⟨signal, rfl, ?_⟩
      rw [step_act present, lookup_acted present, if_pos rfl]
    · refine .inr ⟨fun signal equal => same (Label.act.inj equal).1, ?_⟩
      cases moved : system.processes[other]? with
      | none => simpa only [step, moved] using present
      | some mover =>
        rw [step_act moved, lookup_acted moved, if_neg (Ne.symm same)]
        exact present

theorem follow (invariant : Proc → Prop) (allowed : Signal → Prop)
    (kept : ∀ shared process signal, allowed signal → invariant process →
      invariant (program.act shared process signal).2)
    (labels : List (Label Start Signal)) (only : ∀ signal, .act index signal ∈ labels → allowed signal)
    (present : system.processes[index]? = some process) (holds : invariant process) :
    ∃ later, (run (step program) system labels).processes[index]? = some later ∧ invariant later := by
  induction labels generalizing system process with
  | nil => exact ⟨process, present, holds⟩
  | cons label labels ih =>
    have rest : ∀ signal, .act index signal ∈ labels → allowed signal := fun signal member =>
      only signal (List.mem_cons_of_mem label member)
    rcases lookup_step program label present with ⟨signal, rfl, moved⟩ | ⟨-, same⟩
    · exact ih rest moved (kept _ _ _ (only signal List.mem_cons_self) holds)
    · exact ih rest same holds

end

def starts (labels : List (Label Start Signal)) : List Start :=
  labels.filterMap fun label =>
    match label with
    | .spawn start => some start
    | .act _ _ => none

theorem starts_append (first second : List (Label Start Signal)) :
    starts (first ++ second) = starts first ++ starts second := List.filterMap_append

theorem length_step (system : System σ Proc) (label : Label Start Signal) :
    (step program system label).processes.length = system.processes.length + (starts [label]).length := by
  cases label with
  | spawn start => simp [step, System.spawned, starts]
  | act index signal =>
    cases present : system.processes[index]? with
    | none => simp [step_absent present, starts]
    | some process => simp [step_act present, System.acted, starts]

theorem length_run (shared : σ) (labels : List (Label Start Signal)) :
    (run (step program) ⟨shared, []⟩ labels).processes.length = (starts labels).length := by
  induction labels using List.reverseRecOn with
  | nil => rfl
  | append_singleton labels label ih =>
    rw [run_append, starts_append, List.length_append, ← ih]
    exact length_step program _ label

theorem origin (relation : Start → Proc → Prop) (begins : ∀ start, relation start (program.spawn start))
    (continues : ∀ shared start process signal, relation start process →
      relation start (program.act shared process signal).2)
    (shared : σ) (labels : List (Label Start Signal)) {index : Nat} {process : Proc}
    (present : (run (step program) ⟨shared, []⟩ labels).processes[index]? = some process) :
    ∃ start, (starts labels)[index]? = some start ∧ relation start process := by
  induction labels using List.reverseRecOn generalizing index process with
  | nil => cases present
  | append_singleton labels label ih =>
    have length := length_run program shared labels
    rw [run_append] at present
    generalize run (step program) ⟨shared, []⟩ labels = system at present ih length
    have earlier {other : Nat} {before : Proc} (there : system.processes[other]? = some before) :
        ∃ start, (starts (labels ++ [label]))[other]? = some start ∧ relation start before := by
      obtain ⟨start, found, related⟩ := ih there
      refine ⟨start, ?_, related⟩
      rw [starts_append, List.getElem?_append_left (List.getElem?_eq_some_iff.mp found).1]
      exact found
    cases label with
    | spawn start =>
      change (system.spawned (program.spawn start)).processes[index]? = some process at present
      rw [lookup_spawned] at present
      split_ifs at present with last
      · cases present
        refine ⟨start, ?_, begins start⟩
        rw [starts_append, last, length, List.getElem?_append_right le_rfl, Nat.sub_self]
        rfl
      · exact earlier present
    | act moving signal =>
      change (step program system (.act moving signal)).processes[index]? = some process at present
      cases found : system.processes[moving]? with
      | none =>
        rw [step_absent found] at present
        exact earlier present
      | some mover =>
        rw [step_act found, lookup_acted found] at present
        split_ifs at present with same
        · cases present
          obtain ⟨start, started, related⟩ := earlier found
          exact ⟨start, same ▸ started, continues _ start mover signal related⟩
        · exact earlier present

def change (measure : σ → Nat) (index : Nat) (system : System σ Proc) : Label Start Signal → Int
  | .act other signal =>
    if other = index then (measure (step program system (.act other signal)).shared : Int) - measure system.shared else 0
  | .spawn _ => 0

def net (measure : σ → Nat) (index : Nat) : System σ Proc → List (Label Start Signal) → Int
  | _, [] => 0
  | system, label :: labels =>
    change program measure index system label + net measure index (step program system label) labels

section

variable {program} {measure : σ → Nat} {weight : Proc → Nat}

theorem weightAt_step (spawn : ∀ start, weight (program.spawn start) = 0) (system : System σ Proc)
    (balanced : ∀ (index : Nat) process signal, system.processes[index]? = some process →
      measure (program.act system.shared process signal).1 + weight process =
        measure system.shared + weight (program.act system.shared process signal).2)
    (index : Nat) (label : Label Start Signal) :
    change program measure index system label =
      ((step program system label).weightAt weight index : Int) - system.weightAt weight index := by
  cases label with
  | spawn start =>
    simp only [change, step, System.weightAt, lookup_spawned]
    split_ifs with last
    · simp [last, spawn]
    · simp
  | act other signal =>
    cases present : system.processes[other]? with
    | none => simp [change, step, present]
    | some process =>
      have moved := balanced other process signal present
      rw [change, step_act present]
      simp only [System.weightAt, lookup_acted present]
      by_cases same : other = index
      · subst same
        simp only [if_true, present, Option.map_some, Option.getD_some, System.acted]
        omega
      · simp [same, Ne.symm same]

theorem net_eq (invariant : System σ Proc → Prop)
    (kept : ∀ (system : System σ Proc) (label : Label Start Signal), invariant system →
      invariant (step program system label)) (spawn : ∀ start, weight (program.spawn start) = 0)
    (balanced : ∀ system (index : Nat) process signal, invariant system → system.processes[index]? = some process →
      measure (program.act system.shared process signal).1 + weight process =
      measure system.shared + weight (program.act system.shared process signal).2) (index : Nat)
    (labels : List (Label Start Signal)) (system : System σ Proc) (holds : invariant system) :
    net program measure index system labels =
      (run (step program) system labels).weightAt weight index - system.weightAt weight index := by
  induction labels generalizing system with
  | nil => simp [net, run]
  | cons label labels ih =>
    have first := weightAt_step spawn system (fun other process signal present =>
      balanced system other process signal holds present) index label
    have later := ih (step program system label) (kept system label holds)
    rw [net, later, first]
    change _ = ((run (step program) (step program system label) labels).weightAt weight index : Int) - _
    omega

theorem net_append (index : Nat) (system : System σ Proc) (first second : List (Label Start Signal)) :
    net program measure index system (first ++ second) =
      net program measure index system first + net program measure index (run (step program) system first) second := by
  induction first generalizing system with
  | nil => simp [net, run]
  | cons label labels ih =>
    rw [List.cons_append, net, net, ih, Int.add_assoc]
    rfl

theorem net_others (index : Nat) (system : System σ Proc) (labels : List (Label Start Signal))
    (others : ∀ signal, .act index signal ∉ labels) : net program measure index system labels = 0 := by
  induction labels generalizing system with
  | nil => rfl
  | cons label labels ih =>
    have rest : ∀ signal, .act index signal ∉ labels := fun signal member =>
      others signal (List.mem_cons_of_mem label member)
    have none_here : change program measure index system label = 0 := by
      cases label with
      | spawn start => rfl
      | act other signal =>
        have apart : other ≠ index := by
          rintro rfl
          exact others signal List.mem_cons_self
        rw [change, if_neg apart]
    rw [net, none_here, ih _ rest]
    rfl

theorem net_alone (index : Nat) (system : System σ Proc) (labels : List (Label Start Signal))
    (alone : ∀ other signal, .act other signal ∈ labels → other = index) :
    net program measure index system labels =
      (measure (run (step program) system labels).shared : Int) - measure system.shared := by
  induction labels generalizing system with
  | nil => simp [net, run]
  | cons label labels ih =>
    have rest : ∀ other signal, .act other signal ∈ labels → other = index := fun other signal member =>
      alone other signal (List.mem_cons_of_mem label member)
    have here : change program measure index system label =
        (measure (step program system label).shared : Int) - measure system.shared := by
      cases label with
      | spawn start => simp [change, step, System.spawned]
      | act other signal => rw [change, if_pos (alone other signal List.mem_cons_self)]
    rw [net, here, ih _ rest]
    change _ = (measure (run (step program) (step program system label) labels).shared : Int) - _
    omega

end

end Praeco.Schedule.Processes
