import Mathlib

/-! What a reader will deliver, in the pieces in which it arrives. A single read returns what one piece
holds, so only loops that read until they have enough see the same thing under every cut into pieces. -/

namespace Praeco.Streams.Reading

variable {α : Type}

abbrev Source (α : Type) := List (List α)

def content (source : Source α) : List α := source.flatten

@[simp] theorem content_cons (piece : List α) (source : Source α) :
    content (piece :: source) = piece ++ content source := rfl

/-- One read into a buffer of `limit` elements. Nothing is returned at the end of the stream only. -/
def read (limit : Nat) : Source α → List α × Source α
  | [] => ([], [])
  | [] :: source => read limit source
  | (x :: piece) :: source => ((x :: piece).take limit, (x :: piece).drop limit :: source)

theorem read_content (limit : Nat) (source : Source α) :
    (read limit source).1 ++ content (read limit source).2 = content source := by
  fun_induction read limit source with
  | case1 => rfl
  | case2 source ih => exact ih
  | case3 x piece source => rw [content_cons, content_cons, ← List.append_assoc, List.take_append_drop]

theorem length_read_le (limit : Nat) (source : Source α) : (read limit source).1.length ≤ limit := by
  fun_induction read limit source with
  | case1 => exact Nat.zero_le limit
  | case2 source ih => exact ih
  | case3 x piece source => exact List.length_take_le limit _

theorem content_of_read_nil (limit : Nat) (positive : 0 < limit) (source : Source α)
    (ended : (read limit source).1 = []) : content source = [] := by
  fun_induction read limit source with
  | case1 => rfl
  | case2 source ih => exact ih ended
  | case3 x piece source =>
    rw [List.take_eq_nil_iff] at ended
    rcases ended with zero | empty
    · omega
    · cases empty

/-- Reads, with at most `limit` elements at a time, until `missing` elements are there, with the pieces it leaves. A
stream that ends before gives back what it held. -/
def fillFrom (limit missing : Nat) (source : Source α) : Except (List α) (List α) × Source α :=
  if missing = 0 then (.ok [], source)
  else
    let (chunk, rest) := read (min missing limit) source
    if chunk.length = 0 then (.error [], rest)
    else
      match fillFrom limit (missing - chunk.length) rest with
      | (.ok more, rest) => (.ok (chunk ++ more), rest)
      | (.error more, rest) => (.error (chunk ++ more), rest)
termination_by missing

theorem fillFrom_spec (limit missing : Nat) (positive : 0 < limit) (source : Source α) :
    (fillFrom limit missing source).1 =
        (if missing ≤ (content source).length then .ok ((content source).take missing) else .error (content source)) ∧
      content (fillFrom limit missing source).2 = (content source).drop missing := by
  induction missing using Nat.strong_induction_on generalizing source with
  | _ missing ih =>
    unfold fillFrom
    by_cases done : missing = 0
    · simp [done]
    · rw [if_neg done]
      have whole := read_content (min missing limit) source
      have short := length_read_le (min missing limit) source
      have empty := content_of_read_nil (min missing limit) (by omega) source
      generalize read (min missing limit) source = result at whole short empty ⊢
      obtain ⟨chunk, later⟩ := result
      dsimp only at whole short empty ⊢
      by_cases ended : chunk.length = 0
      · have nothing := empty (List.length_eq_zero_iff.mp ended)
        rw [nothing, List.length_eq_zero_iff.mp ended, List.nil_append] at whole
        simp [ended, nothing, done, whole]
      · obtain ⟨returned, left⟩ := ih (missing - chunk.length) (by omega) later
        have size : (content source).length = chunk.length + (content later).length := by
          rw [← whole, List.length_append]
        have begins : (content source).take missing = chunk ++ (content later).take (missing - chunk.length) := by
          rw [← whole, List.take_append, List.take_of_length_le (by omega)]
        have goes : (content source).drop missing = (content later).drop (missing - chunk.length) := by
          rw [← whole, List.drop_append, List.drop_eq_nil_of_le (by omega), List.nil_append]
        rw [if_neg ended, begins, goes, ← left]
        generalize fillFrom limit (missing - chunk.length) later = outcome at returned
        obtain ⟨outcome, rest⟩ := outcome
        by_cases enough : missing ≤ (content source).length
        · rw [if_pos (by omega)] at returned
          obtain rfl : outcome = .ok ((content later).take (missing - chunk.length)) := returned
          rw [if_pos enough]
          exact ⟨rfl, rfl⟩
        · rw [if_neg (by omega)] at returned
          obtain rfl : outcome = .error (content later) := returned
          rw [if_neg enough]
          exact ⟨congrArg Except.error whole, rfl⟩

def fill (limit missing : Nat) (source : Source α) : Except (List α) (List α × Source α) :=
  (fillFrom limit missing source).1.map (·, (fillFrom limit missing source).2)

theorem fill_ok (limit missing : Nat) (positive : 0 < limit) (source : Source α) (front rest : List α)
    (size : front.length = missing) (same : content source = front ++ rest) :
    ∃ left, fill limit missing source = .ok (front, left) ∧ content left = rest := by
  obtain ⟨returned, left⟩ := fillFrom_spec limit missing positive source
  rw [same, ← size, if_pos (by simp), List.take_left] at returned
  rw [same, ← size, List.drop_left] at left
  refine ⟨_, ?_, left⟩
  rw [fill, ← size, returned]
  rfl

theorem fill_spec (limit missing : Nat) (positive : 0 < limit) (source : Source α) (front : List α) (left : Source α)
    (filled : fill limit missing source = .ok (front, left)) :
    front ++ content left = content source ∧ front.length = missing := by
  obtain ⟨returned, rest⟩ := fillFrom_spec limit missing positive source
  unfold fill at filled
  split_ifs at returned with enough
  · rw [returned] at filled
    cases filled
    rw [rest, List.take_append_drop, List.length_take]
    exact ⟨rfl, Nat.min_eq_left enough⟩
  · rw [returned] at filled
    cases filled

def readExact (size : Nat) (source : Source α) : Except (List α) (List α × Source α) := fill size size source

theorem readExact_ok (source : Source α) (front rest : List α) (same : content source = front ++ rest) :
    ∃ left, readExact front.length source = .ok (front, left) ∧ content left = rest := by
  by_cases nothing : front.length = 0
  · rw [List.length_eq_zero_iff.mp nothing] at same ⊢
    refine ⟨source, ?_, same⟩
    rw [readExact, fill, fillFrom, List.length_nil, if_pos rfl]
    rfl
  · exact fill_ok front.length front.length (by omega) source front rest rfl same

def readExactFrom (size : Nat) (source : Source α) : Except (List α) (List α) × Source α := fillFrom size size source

theorem readExact_eq_readExactFrom (size : Nat) (source : Source α) :
    readExact size source = (readExactFrom size source).1.map (·, (readExactFrom size source).2) := rfl

theorem readExactFrom_spec (size : Nat) (source : Source α) :
    (readExactFrom size source).1 =
        (if size ≤ (content source).length then .ok ((content source).take size) else .error (content source)) ∧
      content (readExactFrom size source).2 = (content source).drop size := by
  by_cases nothing : size = 0
  · rw [readExactFrom, fillFrom, if_pos nothing]
    simp [nothing]
  · exact fillFrom_spec size size (by omega) source

def drain (limit : Nat) (source : Source α) : List α :=
  if (read limit source).1.length = 0 then [] else (read limit source).1 ++ drain limit (read limit source).2
termination_by (content source).length
decreasing_by
  rw [← read_content limit source, List.length_append]
  omega

theorem drain_eq (limit : Nat) (positive : 0 < limit) (source : Source α) : drain limit source = content source := by
  fun_induction drain limit source with
  | case1 source ended =>
    exact (content_of_read_nil limit positive source (List.length_eq_zero_iff.mp ended)).symm
  | case2 source more ih => rw [ih, read_content]

end Praeco.Streams.Reading
