import Mathlib

/-! Exclusive resources. Who waits for a resource takes it in its next turn, or is refused while another one holds it; a
holder that has been told to stop gives it back in its next turn. As long as no resource is wanted twice, nobody is
refused. -/

namespace Praeco.Schedule.Exclusive

inductive Stage where
  | waiting
  | held
  | refused
  | released
  deriving DecidableEq, Repr

structure Ticket (Owner Resource : Type) where
  owner : Owner
  resource : Resource
  stage : Stage
  deriving DecidableEq, Repr

variable {Owner Resource : Type}

def Ticket.Wants (ticket : Ticket Owner Resource) : Prop := ticket.stage = .waiting ∨ ticket.stage = .held

instance (ticket : Ticket Owner Resource) : Decidable ticket.Wants := inferInstanceAs (Decidable (_ ∨ _))

def wanted (tickets : List (Ticket Owner Resource)) : List Resource :=
  (tickets.filter (·.Wants)).map (·.resource)

theorem wanted_append (first second : List (Ticket Owner Resource)) :
    wanted (first ++ second) = wanted first ++ wanted second := by
  rw [wanted, List.filter_append, List.map_append]
  rfl

theorem wanted_cons (ticket : Ticket Owner Resource) (tickets : List (Ticket Owner Resource)) :
    wanted (ticket :: tickets) = if ticket.Wants then ticket.resource :: wanted tickets else wanted tickets := by
  unfold wanted
  by_cases wants : ticket.Wants
  · rw [if_pos wants, List.filter_cons_of_pos (by simpa using wants), List.map_cons]
  · rw [if_neg wants, List.filter_cons_of_neg (by simpa using wants)]

def waitFor (owner : Owner) (resources : List Resource) : List (Ticket Owner Resource) :=
  resources.map fun resource => ⟨owner, resource, .waiting⟩

theorem wanted_waitFor (owner : Owner) (resources : List Resource) : wanted (waitFor owner resources) = resources := by
  have all : (waitFor owner resources).filter (·.Wants) = waitFor owner resources := by
    apply List.filter_eq_self.mpr
    intro ticket member
    obtain ⟨resource, -, rfl⟩ := List.mem_map.mp member
    exact decide_eq_true (Or.inl rfl)
  rw [wanted, all, waitFor, List.map_map]
  exact List.map_id resources

theorem wanted_flatMap {α : Type} (items : List α) (owner : α → Owner) (resources : α → List Resource) :
    wanted (items.flatMap fun item => waitFor (owner item) (resources item)) = items.flatMap resources := by
  induction items with
  | nil => rfl
  | cons item items ih => rw [List.flatMap_cons, wanted_append, wanted_waitFor, ih, List.flatMap_cons]

theorem wanted_modify_sublist (tickets : List (Ticket Owner Resource)) (index : Nat)
    (change : Ticket Owner Resource → Ticket Owner Resource)
    (same : ∀ ticket, (change ticket).resource = ticket.resource)
    (still : ∀ ticket, (change ticket).Wants → ticket.Wants) :
    (wanted (tickets.modify index change)).Sublist (wanted tickets) := by
  induction tickets generalizing index with
  | nil => simp
  | cons ticket tickets ih =>
    cases index with
    | zero =>
      rw [List.modify_zero_cons, wanted_cons, wanted_cons, same]
      by_cases wants : (change ticket).Wants
      · rw [if_pos wants, if_pos (still ticket wants)]
      · rw [if_neg wants]
        split_ifs
        · exact List.sublist_cons_self _ _
        · exact List.Sublist.refl _
    | succ index =>
      rw [List.modify_succ_cons, wanted_cons, wanted_cons]
      split_ifs
      · exact (ih index).cons_cons _
      · exact ih index

section

variable [DecidableEq Resource]

def Taken (tickets : List (Ticket Owner Resource)) (resource : Resource) : Prop :=
  ∃ ticket ∈ tickets, ticket.stage = .held ∧ ticket.resource = resource

instance (tickets : List (Ticket Owner Resource)) (resource : Resource) : Decidable (Taken tickets resource) :=
  inferInstanceAs (Decidable (∃ ticket ∈ tickets, _))

variable (stopped : Owner → Bool) (tickets : List (Ticket Owner Resource))

def Ticket.next (ticket : Ticket Owner Resource) : Stage :=
  match ticket.stage with
  | .waiting => if Taken tickets ticket.resource then .refused else .held
  | .held => if stopped ticket.owner then .released else .held
  | stage => stage

def turn (index : Nat) : List (Ticket Owner Resource) :=
  tickets.modify index fun ticket => { ticket with stage := ticket.next stopped tickets }

theorem wanted_turn (index : Nat) : (wanted (turn stopped tickets index)).Sublist (wanted tickets) := by
  apply wanted_modify_sublist
  · exact fun _ => rfl
  · intro ticket wants
    unfold Ticket.Wants Ticket.next at wants
    unfold Ticket.Wants
    cases stage : ticket.stage with
    | waiting => exact Or.inl rfl
    | held => exact Or.inr rfl
    | refused => simp [stage] at wants
    | released => simp [stage] at wants

variable {stopped tickets}

theorem next_ne_refused (distinct : (wanted tickets).Nodup) {ticket : Ticket Owner Resource} (member : ticket ∈ tickets)
    (fine : ticket.stage ≠ .refused) : ticket.next stopped tickets ≠ .refused := by
  unfold Ticket.next
  cases stage : ticket.stage with
  | waiting =>
    dsimp only
    split_ifs with taken
    · obtain ⟨other, listed, held, same⟩ := taken
      have one : other = ticket := List.inj_on_of_nodup_map distinct
        (List.mem_filter.mpr ⟨listed, decide_eq_true (Or.inr held)⟩)
        (List.mem_filter.mpr ⟨member, decide_eq_true (Or.inl stage)⟩) same
      rw [one, stage] at held
      cases held
    · decide
  | held =>
    dsimp only
    split_ifs <;> decide
  | refused => exact absurd stage fine
  | released => exact Stage.noConfusion

theorem turn_unrefused (distinct : (wanted tickets).Nodup) (fine : ∀ ticket ∈ tickets, ticket.stage ≠ .refused)
    (index : Nat) : ∀ ticket ∈ turn stopped tickets index, ticket.stage ≠ .refused := by
  intro ticket member
  obtain ⟨place, there⟩ := List.mem_iff_getElem?.mp member
  rw [turn, List.getElem?_modify] at there
  obtain ⟨old, here, rfl⟩ := Option.map_eq_some_iff.mp there
  have listed := List.mem_of_getElem? here
  split_ifs
  · exact next_ne_refused distinct listed (fine old listed)
  · exact fine old listed

end

end Praeco.Schedule.Exclusive
