import Mathlib

/-! Streams that are polled. A poll finds an item, the end, or nothing yet; what a stream yields is what its polls find
until the end. -/

namespace Praeco.Streams.Polling

inductive Poll (α : Type) where
  | pending
  | ready (value : α)
  deriving DecidableEq, Repr

variable {ι σ : Type}

/-- What the polls of a stream find, one after the other; after the last one the stream is at its end. -/
abbrev Source (ι : Type) := List (Poll ι)

namespace Source

def poll : Source ι → Poll (Option ι) × Source ι
  | [] => (.ready none, [])
  | .pending :: source => (.pending, source)
  | .ready item :: source => (.ready (some item), source)

def items : Source ι → List ι
  | [] => []
  | .pending :: source => items source
  | .ready item :: source => item :: items source

@[simp] theorem items_nil : items ([] : Source ι) = [] := rfl

@[simp] theorem items_pending (source : Source ι) : items (.pending :: source) = items source := rfl

@[simp] theorem items_ready (item : ι) (source : Source ι) : items (.ready item :: source) = item :: items source := rfl

theorem items_append (first second : Source ι) : items (first ++ second) = items first ++ items second := by
  induction first with
  | nil => rfl
  | cons found first ih =>
    cases found with
    | pending => exact ih
    | ready item => exact congrArg (item :: ·) ih

end Source

inductive Yields (poll : σ → Poll (Option ι) × σ) : σ → List ι → Prop where
  | finished {state next : σ} : poll state = (.ready none, next) → Yields poll state []
  | pending {state next : σ} {items : List ι} : poll state = (.pending, next) → Yields poll next items →
    Yields poll state items
  | item {state next : σ} {item : ι} {items : List ι} : poll state = (.ready (some item), next) →
    Yields poll next items → Yields poll state (item :: items)

variable {poll : σ → Poll (Option ι) × σ}

theorem Yields.unique {state : σ} {first second : List ι} (one : Yields poll state first)
    (other : Yields poll state second) : first = second := by
  induction one generalizing second with
  | finished found =>
    cases other with
    | finished _ => rfl
    | pending again _ => cases found.symm.trans again
    | item again _ => cases found.symm.trans again
  | pending found _ ih =>
    cases other with
    | finished again => cases found.symm.trans again
    | pending again later =>
      cases found.symm.trans again
      exact ih later
    | item again _ => cases found.symm.trans again
  | item found _ ih =>
    cases other with
    | finished again => cases found.symm.trans again
    | pending again _ => cases found.symm.trans again
    | item again later =>
      cases found.symm.trans again
      rw [ih later]

/-- Where each state stands for a source, and its polls for those of the source, it yields the same. -/
theorem yields_of_simulates (asSource : σ → Source ι)
    (simulates : ∀ state, (poll state).1 = (asSource state).poll.1 ∧
      asSource (poll state).2 = (asSource state).poll.2) (state : σ) :
    Yields poll state (asSource state).items := by
  generalize shape : asSource state = source
  induction source generalizing state with
  | nil =>
    obtain ⟨found, -⟩ := simulates state
    rw [shape] at found
    exact .finished (Prod.ext found rfl)
  | cons head source ih =>
    obtain ⟨found, left⟩ := simulates state
    rw [shape] at found left
    cases head with
    | pending => exact .pending (Prod.ext found rfl) (ih _ left)
    | ready item => exact .item (Prod.ext found rfl) (ih _ left)

def mapped {κ : Type} (change : ι → κ) (poll : σ → Poll (Option ι) × σ) (state : σ) : Poll (Option κ) × σ :=
  match poll state with
  | (.ready found, next) => (.ready (found.map change), next)
  | (.pending, next) => (.pending, next)

theorem Yields.map {κ : Type} (change : ι → κ) {state : σ} {items : List ι} (yields : Yields poll state items) :
    Yields (mapped change poll) state (items.map change) := by
  induction yields with
  | finished found => exact .finished (by rw [mapped, found]; rfl)
  | pending found _ ih => exact .pending (by rw [mapped, found]) ih
  | item found _ ih => exact .item (by rw [mapped, found]; rfl) ih

section

variable {ε α β : Type} (content : α → List β)

def delivered : List (Except ε α) → List β × Option ε
  | [] => ([], none)
  | .error error :: _ => ([], some error)
  | .ok item :: later => (content item ++ (delivered later).1, (delivered later).2)

variable {content}

theorem delivered_append {first : List (Except ε α)} (second : List (Except ε α))
    (clean : (delivered content first).2 = none) :
    delivered content (first ++ second) =
      ((delivered content first).1 ++ (delivered content second).1, (delivered content second).2) := by
  induction first with
  | nil => rfl
  | cons item first ih =>
    cases item with
    | error error => cases clean
    | ok item => rw [List.cons_append, delivered, ih clean, delivered, List.append_assoc]

end

section

variable {ε β ρ : Type}

def Source.pollRead (source : Source (Except ε (List β))) : Poll (Except ε (List β)) × Source (Except ε (List β)) :=
  match source.poll with
  | (.pending, rest) => (.pending, rest)
  | (.ready none, rest) => (.ready (.ok []), rest)
  | (.ready (some read), rest) => (.ready read, rest)

/-- A reader as a stream, until an empty read or a failure, with which the reader is given up. -/
def readerStream (pollRead : ρ → Poll (Except ε (List β)) × ρ) :
    Option ρ → Poll (Option (Except ε (List β))) × Option ρ
  | none => (.ready none, none)
  | some reader =>
    match pollRead reader with
    | (.pending, reader) => (.pending, some reader)
    | (.ready (.error error), _) => (.ready (some (.error error)), none)
    | (.ready (.ok []), _) => (.ready none, none)
    | (.ready (.ok bytes), reader) => (.ready (some (.ok bytes)), some reader)

def Source.output : Source (Except ε (List β)) → List β × Option ε
  | [] => ([], none)
  | .pending :: source => output source
  | .ready (.error error) :: _ => ([], some error)
  | .ready (.ok []) :: _ => ([], none)
  | .ready (.ok (b :: bytes)) :: source => (b :: bytes ++ (output source).1, (output source).2)

theorem yields_output (source : Source (Except ε (List β))) :
    ∃ items, Yields (readerStream Source.pollRead) (some source) items ∧ delivered id items = source.output := by
  induction source with
  | nil => exact ⟨[], .finished rfl, rfl⟩
  | cons found source ih =>
    match found with
    | .ready (.error error) => exact ⟨[.error error], .item rfl (.finished rfl), rfl⟩
    | .ready (.ok []) => exact ⟨[], .finished rfl, rfl⟩
    | .pending =>
      obtain ⟨items, yields, all⟩ := ih
      exact ⟨items, .pending rfl yields, all⟩
    | .ready (.ok (b :: bytes)) =>
      obtain ⟨items, yields, all⟩ := ih
      refine ⟨.ok (b :: bytes) :: items, .item rfl yields, ?_⟩
      rw [delivered, all]
      rfl

end

end Praeco.Streams.Polling
