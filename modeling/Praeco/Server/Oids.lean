import Praeco.Server.Reload

/-! The numbers in a client certificate that its roles are looked up by: what follows the configured base in the
identifiers of its extensions. The comparison with the base takes arcs from the iterator that the rest is read from. -/

namespace Praeco.Server.Oids
open Praeco.Strings Utf8 Praeco.Server.Reload

variable {Settings : Type}

abbrev Oid := List Nat

/-- `Oid::iter` of the library: the arcs, unless one is too large. -/
abbrev Iter := Oid → Option (List Nat)

def matchBase : List Nat → List Nat → Bool × List Nat
  | [], oidIter => (true, oidIter)
  | _ :: _, [] => (false, [])
  | basePart :: baseComponents, certPart :: oidIter =>
    if certPart ≠ basePart then (false, oidIter) else matchBase baseComponents oidIter

def dotted (arcs : List Nat) : Text := ['.'].intercalate (arcs.map (Nat.toDigits 10))

def suffixOf (iter : Iter) (baseComponents : List Nat) (oid : Oid) : Option Text :=
  match iter oid with
  | none => none
  | some oidIter =>
    match matchBase baseComponents oidIter with
    | (false, _) => none
    | (true, suffixParts) => if suffixParts = [] then none else some (dotted suffixParts)

def extractOidsFromCert (iter : Iter) (config : Option (Config Settings)) (fromDer : Bytes → Option (List Oid))
    (certDer : Bytes) : List Text :=
  match config.bind (·.parsedPkiBaseOid) with
  | none => []
  | some baseComponents =>
    if baseComponents = [] then [] else ((fromDer certDer).getD []).filterMap (suffixOf iter baseComponents)

theorem matchBase_iff (baseComponents oidIter rest : List Nat) :
    matchBase baseComponents oidIter = (true, rest) ↔ oidIter = baseComponents ++ rest := by
  fun_induction matchBase baseComponents oidIter with
  | case1 oidIter => simp
  | case2 => simp
  | case3 basePart baseComponents certPart oidIter differs => simp [differs]
  | case4 basePart baseComponents certPart oidIter same ih =>
    rw [ih, not_not.mp same]
    simp

def Below (baseComponents : List Nat) (oid : Oid) : Prop := baseComponents <+: oid ∧ baseComponents ≠ oid

instance Below.decidable (baseComponents : List Nat) : DecidablePred (Below baseComponents) := fun _ =>
  inferInstanceAs (Decidable (_ ∧ _))

theorem suffixOf_eq {iter : Iter} (baseComponents : List Nat) {oid : Oid} (whole : iter oid = some oid) :
    suffixOf iter baseComponents oid =
      if Below baseComponents oid then some (dotted (oid.drop baseComponents.length)) else none := by
  by_cases begins : baseComponents <+: oid
  · obtain ⟨rest, rfl⟩ := begins
    have matched := (matchBase_iff baseComponents (baseComponents ++ rest) rest).mpr rfl
    rw [suffixOf, whole, List.drop_left]
    simp only [matched]
    by_cases proper : rest = []
    · have base : ¬Below baseComponents (baseComponents ++ rest) := fun below => below.2 (by rw [proper, List.append_nil])
      rw [if_pos proper, if_neg base]
    · have below : Below baseComponents (baseComponents ++ rest) :=
        ⟨List.prefix_append _ _, fun same => proper (List.self_eq_append_right.mp same)⟩
      rw [if_neg proper, if_pos below]
  · rw [suffixOf, whole, if_neg fun below : Below baseComponents oid => begins below.1]
    rcases found : matchBase baseComponents oid with ⟨_ | _, left⟩
    · simp only [found]
    · exact absurd ⟨left, ((matchBase_iff _ _ _).mp found).symm⟩ begins

theorem toDigits_injective : Function.Injective (Nat.toDigits 10) := by
  intro m n same
  rw [← Nat.ofDigitChars_toDigits (by decide : 1 < 10) (by decide) (n := m), same,
    Nat.ofDigitChars_toDigits (by decide) (by decide)]

theorem dot_not_mem_toDigits (n : Nat) : '.' ∉ Nat.toDigits 10 n := by
  intro member
  exact absurd (Nat.isDigit_of_mem_toDigits (by decide) (by decide) member) (by decide)

theorem dotted_injective (first second : List Nat) (one : first ≠ []) (other : second ≠ [])
    (same : dotted first = dotted second) : first = second := by
  have parts (arcs : List Nat) (filled : arcs ≠ []) :
      (dotted arcs).splitOn '.' = arcs.map (Nat.toDigits 10) := by
    apply List.splitOn_intercalate
    · intro digits member
      obtain ⟨arc, -, rfl⟩ := List.mem_map.mp member
      exact dot_not_mem_toDigits arc
    · simpa using filled
  apply List.map_injective_iff.mpr toDigits_injective
  rw [← parts first one, same, parts second other]

/-- From a certificate whose arcs the library reads, up to whatever bound, the dotted rests of the identifiers below the
base are taken in order, and different identifiers have different rests. -/
theorem suffixes_extracted (iter : Iter) (bound : Nat)
    (documented : ∀ oid, (∀ arc ∈ oid, arc < bound) → iter oid = some oid) (config : Config Settings)
    (fromDer : Bytes → Option (List Oid)) (certDer : Bytes) (baseComponents : List Nat)
    (configured : config.parsedPkiBaseOid = some baseComponents) (filled : baseComponents ≠ []) (oids : List Oid)
    (parsed : fromDer certDer = some oids) (fits : ∀ oid ∈ oids, ∀ arc ∈ oid, arc < bound) :
    extractOidsFromCert iter (some config) fromDer certDer =
        (oids.filter (Below baseComponents)).map (fun oid => dotted (oid.drop baseComponents.length)) ∧
      ∀ first ∈ oids, ∀ second ∈ oids, ∀ suffix, suffixOf iter baseComponents first = some suffix →
        suffixOf iter baseComponents second = some suffix → first = second := by
  have whole (oid : Oid) (member : oid ∈ oids) : iter oid = some oid := documented oid (fits oid member)
  constructor
  · have taken : oids.filterMap (suffixOf iter baseComponents) = oids.filterMap fun oid =>
        if Below baseComponents oid then some (dotted (oid.drop baseComponents.length)) else none :=
      List.filterMap_congr fun oid member => suffixOf_eq baseComponents (whole oid member)
    rw [extractOidsFromCert, Option.bind_some, configured]
    simp only [filled, if_false, parsed, Option.getD_some, taken]
    rw [← List.filterMap_eq_map, List.filterMap_filter]
    simp only [decide_eq_true_eq, Function.comp_apply]
  · intro first one second other suffix yields again
    rw [suffixOf_eq _ (whole first one), Option.ite_none_right_eq_some] at yields
    rw [suffixOf_eq _ (whole second other), Option.ite_none_right_eq_some] at again
    obtain ⟨⟨⟨rest, rfl⟩, proper⟩, written⟩ := yields
    obtain ⟨⟨⟨left, rfl⟩, strict⟩, rewritten⟩ := again
    rw [List.drop_left] at written rewritten
    have same := dotted_injective rest left (by rintro rfl; simp at proper) (by rintro rfl; simp at strict)
      (Option.some.inj (written.trans rewritten.symm))
    rw [same]

theorem suffixes_extracted_pair :
    let config : Config Unit := ⟨[], none, some [2, 25], []⟩
    let iter : Iter := fun oid => if ∀ arc ∈ oid, arc < 2 ^ 64 then some oid else none
    extractOidsFromCert iter (some config) (fun _ => some [[2, 25, 42, 7], [2, 5, 29], [2, 25], [2, 25, 1]]) [] =
      [['4', '2', '.', '7'], ['1']] := by
  intro config iter
  exact (suffixes_extracted iter (2 ^ 64) (fun oid fits => if_pos fits) config
    (fun _ => some [[2, 25, 42, 7], [2, 5, 29], [2, 25], [2, 25, 1]]) [] [2, 25] rfl (by decide) _ rfl (by decide)).1

end Praeco.Server.Oids
