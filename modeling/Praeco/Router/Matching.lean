import Praeco.Router.Upstreams
import Praeco.Collections.Descending

/-! The path matcher. Its implementation is third-party code, so the operations are a parameter and
`Laws` states what its documentation promises for literal patterns and for a final catch-all. The
reference matcher at the end keeps the laws. -/

namespace Praeco.Router.Matching
open Praeco.Strings Utf8 Praeco.Router.Upstreams Praeco.Collections.Descending

/-- The operations of the matching library; `insert` returns `none` for a conflict. -/
structure Matchit (V : Type) where
  Tree : Type
  new : Tree
  insert : Tree → Text → V → Option Tree
  atPath : Tree → Text → Option (V × Params)

def catchAllText : Text := ['\x7b', '*', 'r', 'e', 's', 't', '\x7d']

inductive RoutePattern where
  | literal (text : Text)
  | catchAll (text : Text)
  deriving DecidableEq, Repr

def RoutePattern.literalPart : RoutePattern → Text
  | .literal text => text
  | .catchAll text => text

def RoutePattern.text : RoutePattern → Text
  | .literal text => text
  | .catchAll text => text ++ catchAllText

def BraceFree (text : Text) : Prop := '\x7b' ∉ text ∧ '\x7d' ∉ text

def RoutePattern.captures (pattern : RoutePattern) (path : Text) : Option Params :=
  match pattern with
  | .literal text => if path = text then some [] else none
  | .catchAll text => if text <+: path ∧ path ≠ text then some [(restKey, path.drop text.length)] else none

structure Laws {V : Type} (lib : Matchit V) where
  registered : lib.Tree → List (RoutePattern × V)
  registered_new : registered lib.new = []
  insert_known : ∀ router pattern old value, BraceFree pattern.literalPart → (pattern, old) ∈ registered router →
    lib.insert router pattern.text value = none
  insert_fresh : ∀ router pattern value, BraceFree pattern.literalPart →
    (∀ old, (pattern, old) ∉ registered router) →
    ∃ next, lib.insert router pattern.text value = some next ∧
      registered next = registered router ++ [(pattern, value)]
  atPath_none : ∀ router path, lib.atPath router path = none →
    ∀ pattern value, (pattern, value) ∈ registered router → pattern.captures path = none
  atPath_some : ∀ router path value params, lib.atPath router path = some (value, params) →
    ∃ pattern, (pattern, value) ∈ registered router ∧ pattern.captures path = some params ∧
      ∀ other otherValue, (other, otherValue) ∈ registered router → other.captures path ≠ none →
        other.literalPart.length ≤ pattern.literalPart.length

def parsePattern (text : Text) : RoutePattern :=
  if catchAllText <:+ text then .catchAll (text.take (text.length - catchAllText.length)) else .literal text

/-- A matcher that keeps its patterns in a list and tries them by descending literal length. -/
def reference (V : Type) : Matchit V where
  Tree := List (RoutePattern × V)
  new := []
  insert router text value :=
    if (router.map Prod.fst).contains (parsePattern text) then none
    else some (router ++ [(parsePattern text, value)])
  atPath router path :=
    ((sortDescending (fun entry => entry.1.literalPart.length) router).find?
      (fun entry => (entry.1.captures path).isSome)).bind
        (fun entry => (entry.1.captures path).map (fun params => (entry.2, params)))

theorem parsePattern_text (pattern : RoutePattern) (free : BraceFree pattern.literalPart) :
    parsePattern pattern.text = pattern := by
  cases pattern with
  | literal text =>
    have plain : ¬catchAllText <:+ text := fun ends => free.1 (ends.subset List.mem_cons_self)
    rw [RoutePattern.text, parsePattern, if_neg plain]
  | catchAll text =>
    have ends : catchAllText <:+ text ++ catchAllText := List.suffix_append text catchAllText
    rw [RoutePattern.text, parsePattern, if_pos ends, List.length_append, Nat.add_sub_cancel, List.take_left]

private theorem reference_atPath {V : Type} (router : List (RoutePattern × V)) (path : Text) (value : V)
    (params : Params) (found : (reference V).atPath router path = some (value, params)) :
    ∃ pattern, (pattern, value) ∈ router ∧ pattern.captures path = some params ∧
      ∀ other otherValue, (other, otherValue) ∈ router → other.captures path ≠ none →
        other.literalPart.length ≤ pattern.literalPart.length := by
  obtain ⟨⟨pattern, stored⟩, first, captured⟩ := Option.bind_eq_some_iff.mp found
  obtain ⟨captures, known, same⟩ := Option.map_eq_some_iff.mp captured
  obtain ⟨rfl, rfl⟩ := Prod.mk.inj same
  have member := (mem_sortDescending _ _ _).mp (List.mem_of_find?_eq_some first)
  refine ⟨pattern, member, known, ?_⟩
  intro other otherValue present matches_
  exact find_heaviest _ _ _ _ (pairwise_sortDescending _ _) first (other, otherValue)
    ((mem_sortDescending _ _ _).mpr present) (Option.isSome_iff_ne_none.mpr matches_)

def referenceLaws (V : Type) : Laws (reference V) where
  registered router := router
  registered_new := rfl
  insert_known := by
    intro router pattern old value free known
    have present : (router.map Prod.fst).contains pattern = true :=
      List.contains_iff_mem.mpr (List.mem_map_of_mem known)
    change (if (router.map Prod.fst).contains (parsePattern pattern.text) then none else _) = none
    rw [parsePattern_text pattern free, present]
    rfl
  insert_fresh := by
    intro (router : List (RoutePattern × V)) pattern value free fresh
    have absent : ¬(router.map Prod.fst).contains pattern = true := by
      intro present
      obtain ⟨⟨known, old⟩, member, same⟩ := List.mem_map.mp (List.contains_iff_mem.mp present)
      obtain rfl : known = pattern := same
      exact fresh old member
    refine ⟨router ++ [(pattern, value)], ?_, rfl⟩
    change (if (router.map Prod.fst).contains (parsePattern pattern.text) then none
      else some (router ++ [(parsePattern pattern.text, value)])) = _
    rw [parsePattern_text pattern free, if_neg absent]
    rfl
  atPath_none := by
    intro router path missing pattern value member
    by_contra captured
    have listed := (mem_sortDescending (fun entry => entry.1.literalPart.length) router _).mpr member
    cases first : (sortDescending (fun entry => entry.1.literalPart.length) router).find?
        (fun entry => (entry.1.captures path).isSome) with
    | none => exact List.find?_eq_none.mp first _ listed (Option.isSome_iff_ne_none.mpr captured)
    | some entry =>
      have passes : (entry.1.captures path).isSome = true := by simpa using List.find?_some first
      obtain ⟨params, known⟩ := Option.isSome_iff_exists.mp passes
      change Option.bind _ _ = none at missing
      rw [first, Option.bind_some, known] at missing
      cases missing
  atPath_some := reference_atPath

end Praeco.Router.Matching
