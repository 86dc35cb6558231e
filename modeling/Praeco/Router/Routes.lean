import Praeco.Path.CanonicalForm
import Praeco.Router.Config
import Praeco.Router.Matching

/-! Route selection. Every route is registered twice, as a literal and as a catch-all below it, and a
refused insertion is ignored. Because the routes come longest first, the catch-all that two routes
share belongs to the longer one. -/

namespace Praeco.Router.Routes
open Praeco.Strings Utf8 Praeco.Http.Target Praeco.Http.Message Praeco.Collections.Descending
open Praeco.Router.Config Praeco.Router.Matching Praeco.Router.Upstreams Praeco.Path.Sanitizer Praeco.Path.CanonicalForm

def EndsWithSlash (text : Text) : Prop := ['/'] <:+ text

instance (text : Text) : Decidable (EndsWithSlash text) := inferInstanceAs (Decidable (_ <:+ _))

def wildcardPath (pathPrefix : Text) : Text :=
  if EndsWithSlash pathPrefix then pathPrefix ++ catchAllText else pathPrefix ++ '/' :: catchAllText

section

variable (lib : Matchit ParsedRoute)

def registerRoute (router : lib.Tree) (route : ParsedRoute) : lib.Tree :=
  let router := (lib.insert router route.pathPrefix route).getD router
  (lib.insert router (wildcardPath route.pathPrefix) route).getD router

def buildRouter (parsedRoutes : List ParsedRoute) : lib.Tree := parsedRoutes.foldl (registerRoute lib) lib.new

def notFound : Response := buildErrorResponse ['N', 'o', 't', ' ', 'F', 'o', 'u', 'n', 'd'] 404

def matchRoute (router : lib.Tree) (path : Text) : Except Response (ParsedRoute × Params) :=
  match lib.atPath router path with
  | some matched => .ok matched
  | none => .error notFound

end

def wildcardBase (pathPrefix : Text) : Text := if EndsWithSlash pathPrefix then pathPrefix else pathPrefix ++ ['/']

variable (pathPrefix : Text)

theorem wildcardPath_eq : wildcardPath pathPrefix = (RoutePattern.catchAll (wildcardBase pathPrefix)).text := by
  unfold wildcardPath wildcardBase
  split_ifs
  · rfl
  · exact (List.append_assoc pathPrefix ['/'] catchAllText).symm

theorem wildcardBase_braceFree (free : BraceFree pathPrefix) : BraceFree (wildcardBase pathPrefix) := by
  unfold wildcardBase
  split_ifs
  · exact free
  · simpa [BraceFree] using free

theorem wildcardBase_length :
    pathPrefix.length ≤ (wildcardBase pathPrefix).length ∧
      (wildcardBase pathPrefix).length ≤ pathPrefix.length + 1 := by
  unfold wildcardBase
  split_ifs <;> simp

theorem prefix_wildcardBase : pathPrefix <+: wildcardBase pathPrefix := by
  unfold wildcardBase
  split_ifs
  · exact List.prefix_rfl
  · exact List.prefix_append pathPrefix ['/']

def owner (done : List ParsedRoute) (text : Text) : Option ParsedRoute :=
  done.find? (fun route => wildcardBase route.pathPrefix = text)

theorem owner_append (done : List ParsedRoute) (route : ParsedRoute) (text : Text) :
    owner (done ++ [route]) text =
      (owner done text).or (if wildcardBase route.pathPrefix = text then some route else none) := by
  unfold owner
  rw [List.find?_append, List.find?_singleton]
  simp only [decide_eq_true_eq]

section

variable {lib : Matchit ParsedRoute} (laws : Laws lib)

/-- What is registered once the routes `done` have been: every literal, and for every catch-all the first
route that asked for it. -/
structure Registers (done : List ParsedRoute) (router : lib.Tree) : Prop where
  literal : ∀ text route, (RoutePattern.literal text, route) ∈ laws.registered router ↔
    route ∈ done ∧ route.pathPrefix = text
  catchAll : ∀ text route, (RoutePattern.catchAll text, route) ∈ laws.registered router ↔
    owner done text = some route

theorem registers_new : Registers laws [] lib.new where
  literal text route := by simp [laws.registered_new]
  catchAll text route := by simp [laws.registered_new, owner]

private theorem insert_literal (done : List ParsedRoute) (router : lib.Tree) (route : ParsedRoute)
    (built : Registers laws done router) (free : BraceFree route.pathPrefix)
    (fresh : route.pathPrefix ∉ done.map ParsedRoute.pathPrefix) :
    ∃ next, lib.insert router route.pathPrefix route = some next ∧
      laws.registered next = laws.registered router ++ [(RoutePattern.literal route.pathPrefix, route)] := by
  apply laws.insert_fresh router (RoutePattern.literal route.pathPrefix) route free
  intro old known
  obtain ⟨member, same⟩ := (built.literal _ old).mp known
  exact fresh (List.mem_map.mpr ⟨old, member, same⟩)

private theorem insert_catchAll (done : List ParsedRoute) (router middle : lib.Tree) (route : ParsedRoute)
    (built : Registers laws done router) (free : BraceFree route.pathPrefix)
    (literals : laws.registered middle =
      laws.registered router ++ [(RoutePattern.literal route.pathPrefix, route)]) :
    laws.registered ((lib.insert middle (wildcardPath route.pathPrefix) route).getD middle) =
      laws.registered middle ++
        (if owner done (wildcardBase route.pathPrefix) = none
          then [(RoutePattern.catchAll (wildcardBase route.pathPrefix), route)] else []) := by
  have wild := wildcardBase_braceFree route.pathPrefix free
  have known : ∀ old, (RoutePattern.catchAll (wildcardBase route.pathPrefix), old) ∈ laws.registered middle ↔
      owner done (wildcardBase route.pathPrefix) = some old := by
    intro old
    rw [literals, List.mem_append, built.catchAll]
    simp
  rw [wildcardPath_eq]
  cases owned : owner done (wildcardBase route.pathPrefix) with
  | some old =>
    rw [laws.insert_known middle (.catchAll (wildcardBase route.pathPrefix)) old route wild ((known old).mpr owned)]
    simp
  | none =>
    obtain ⟨next, inserted, registered⟩ := laws.insert_fresh middle (.catchAll (wildcardBase route.pathPrefix)) route
      wild fun old member => absurd ((known old).mp member) (by simp [owned])
    rw [inserted]
    simpa using registered

theorem registers_step (done : List ParsedRoute) (router : lib.Tree) (route : ParsedRoute)
    (built : Registers laws done router) (free : BraceFree route.pathPrefix)
    (fresh : route.pathPrefix ∉ done.map ParsedRoute.pathPrefix) :
    Registers laws (done ++ [route]) (registerRoute lib router route) := by
  obtain ⟨middle, inserted, literals⟩ := insert_literal laws done router route built free fresh
  have catchAlls := insert_catchAll laws done router middle route built free literals
  have final : registerRoute lib router route =
      (lib.insert middle (wildcardPath route.pathPrefix) route).getD middle := by
    simp only [registerRoute, inserted, Option.getD_some]
  rw [← final, literals] at catchAlls
  constructor
  · intro text other
    rw [catchAlls, List.mem_append, List.mem_append, built.literal, List.mem_append, List.mem_singleton]
    have nothing : (RoutePattern.literal text, other) ∉
        (if owner done (wildcardBase route.pathPrefix) = none
          then [(RoutePattern.catchAll (wildcardBase route.pathPrefix), route)] else []) := by
      split_ifs <;> simp
    simp only [nothing, or_false, Prod.mk.injEq, RoutePattern.literal.injEq, List.mem_singleton]
    constructor
    · intro cases_
      rcases cases_ with ⟨member, same⟩ | ⟨same, rfl⟩
      · exact ⟨Or.inl member, same⟩
      · exact ⟨Or.inr rfl, same.symm⟩
    · intro facts
      rcases facts.1 with member | rfl
      · exact Or.inl ⟨member, facts.2⟩
      · exact Or.inr ⟨facts.2.symm, rfl⟩
  · intro text other
    rw [catchAlls, List.mem_append, List.mem_append, built.catchAll, owner_append]
    by_cases same : wildcardBase route.pathPrefix = text
    · subst same
      cases owned : owner done (wildcardBase route.pathPrefix) with
      | some old => simp
      | none => simp [eq_comm]
    · have other_ : (RoutePattern.catchAll text, other) ∉
          (if owner done (wildcardBase route.pathPrefix) = none
            then [(RoutePattern.catchAll (wildcardBase route.pathPrefix), route)] else []) := by
        split_ifs
        · simp [Ne.symm same]
        · simp
      simp [same, other_]

private theorem registers_run (todo done : List ParsedRoute) (router : lib.Tree)
    (built : Registers laws done router) (free : ∀ route ∈ todo, BraceFree route.pathPrefix)
    (distinct : ((done ++ todo).map ParsedRoute.pathPrefix).Nodup) :
    Registers laws (done ++ todo) (todo.foldl (registerRoute lib) router) := by
  induction todo generalizing done router with
  | nil =>
    rw [List.append_nil]
    exact built
  | cons route todo ih =>
    have fresh : route.pathPrefix ∉ done.map ParsedRoute.pathPrefix := by
      rw [List.map_append, List.map_cons, List.nodup_append] at distinct
      intro member
      exact distinct.2.2 _ member _ List.mem_cons_self rfl
    have next := registers_step laws done router route built (free route List.mem_cons_self) fresh
    have rest := ih (done ++ [route]) (registerRoute lib router route) next
      (fun other member => free other (List.mem_cons_of_mem route member))
    rw [List.append_assoc] at rest
    exact rest distinct

theorem registers_buildRouter (routes : List ParsedRoute) (free : ∀ route ∈ routes, BraceFree route.pathPrefix)
    (distinct : (routes.map ParsedRoute.pathPrefix).Nodup) : Registers laws routes (buildRouter lib routes) :=
  registers_run laws routes [] lib.new (registers_new laws) free distinct

end

def StrictlyCovers (pathPrefix path : Text) : Prop :=
  path = pathPrefix ∨ (wildcardBase pathPrefix <+: path ∧ path ≠ wildcardBase pathPrefix)

theorem StrictlyCovers.isPrefix {pathPrefix path : Text} (covers : StrictlyCovers pathPrefix path) :
    pathPrefix <+: path := by
  rcases covers with rfl | ⟨below, -⟩
  · exact List.prefix_rfl
  · exact (prefix_wildcardBase pathPrefix).trans below

theorem owner_isSome (routes : List ParsedRoute) (route : ParsedRoute) (member : route ∈ routes) :
    ∃ holder, owner routes (wildcardBase route.pathPrefix) = some holder := by
  cases owned : owner routes (wildcardBase route.pathPrefix) with
  | some holder => exact ⟨holder, rfl⟩
  | none => exact absurd (List.find?_eq_none.mp owned route member) (by simp)

section

variable {lib : Matchit ParsedRoute} (laws : Laws lib) {routes : List ParsedRoute} {router : lib.Tree}

theorem Registers.captured (built : Registers laws routes router) (route : ParsedRoute) (member : route ∈ routes)
    (path : Text) (covers : StrictlyCovers route.pathPrefix path) :
    ∃ pattern value, (pattern, value) ∈ laws.registered router ∧ pattern.captures path ≠ none ∧
      (pattern.literalPart = path ∨
        path ≠ route.pathPrefix ∧ pattern.literalPart = wildcardBase route.pathPrefix) := by
  by_cases same : path = route.pathPrefix
  · refine ⟨.literal path, route, (built.literal path route).mpr ⟨member, same.symm⟩, ?_, Or.inl rfl⟩
    simp [RoutePattern.captures]
  · obtain ⟨below, longer⟩ := covers.resolve_left same
    obtain ⟨holder, owned⟩ := owner_isSome routes route member
    refine ⟨.catchAll (wildcardBase route.pathPrefix), holder, (built.catchAll _ holder).mpr owned, ?_,
      Or.inr ⟨same, rfl⟩⟩
    simp [RoutePattern.captures, below, longer]

theorem Registers.unmatched (built : Registers laws routes router) (path : Text)
    (missing : lib.atPath router path = none) : ∀ route ∈ routes, ¬StrictlyCovers route.pathPrefix path := by
  intro route member covers
  obtain ⟨pattern, value, registered, captures, -⟩ := built.captured laws route member path covers
  exact captures (laws.atPath_none router path missing pattern value registered)

theorem Registers.matched (built : Registers laws routes router)
    (sorted : routes.Pairwise (fun a b => (utf8 b.pathPrefix).length ≤ (utf8 a.pathPrefix).length))
    (path : Text) (route : ParsedRoute) (params : Params) (found : lib.atPath router path = some (route, params)) :
    route ∈ routes ∧ StrictlyCovers route.pathPrefix path ∧
      ∀ other ∈ routes, StrictlyCovers other.pathPrefix path →
        other.pathPrefix.length ≤ route.pathPrefix.length := by
  obtain ⟨pattern, registered, captured, longest⟩ := laws.atPath_some router path route params found
  cases pattern with
  | literal text =>
    obtain ⟨member, rfl⟩ := (built.literal text route).mp registered
    have same : path = route.pathPrefix := by
      by_contra different
      simp [RoutePattern.captures, different] at captured
    refine ⟨member, Or.inl same, ?_⟩
    intro other _ covers
    rw [← same]
    exact covers.isPrefix.length_le
  | catchAll text =>
    have owned := (built.catchAll text route).mp registered
    have member : route ∈ routes := List.mem_of_find?_eq_some owned
    obtain rfl : wildcardBase route.pathPrefix = text := by simpa using List.find?_some owned
    have below : wildcardBase route.pathPrefix <+: path ∧ path ≠ wildcardBase route.pathPrefix := by
      by_contra outside
      simp [RoutePattern.captures, outside] at captured
    have shorter : (wildcardBase route.pathPrefix).length < path.length :=
      lt_of_le_of_ne below.1.length_le fun same => below.2 (below.1.eq_of_length same).symm
    refine ⟨member, Or.inr below, ?_⟩
    intro other otherMember covers
    obtain ⟨otherPattern, value, otherRegistered, captures, shape⟩ :=
      built.captured laws other otherMember path covers
    have bound := longest otherPattern value otherRegistered captures
    change otherPattern.literalPart.length ≤ (wildcardBase route.pathPrefix).length at bound
    rcases shape with whole | ⟨different, base⟩
    · rw [whole] at bound
      omega
    · rw [base] at bound
      have routeLength := wildcardBase_length route.pathPrefix
      have otherLength := wildcardBase_length other.pathPrefix
      by_cases equal : (wildcardBase other.pathPrefix).length = (wildcardBase route.pathPrefix).length
      · have otherBelow := (covers.resolve_left different).1
        have bases := (List.prefix_of_prefix_length_le otherBelow below.1 equal.le).eq_of_length equal
        have heaviest := find_heaviest _ _ _ _ sorted owned other otherMember (by simpa using bases)
        exact length_le_of_utf8_le path _ _ covers.isPrefix
          ((prefix_wildcardBase route.pathPrefix).trans below.1) heaviest
      · omega

end

/-! The routing rule that the configuration documents, and where the registrations keep to it. -/

def withoutTrailingSlash (pathPrefix : Text) : Text :=
  if EndsWithSlash pathPrefix then pathPrefix.dropLast else pathPrefix

def Covers (pathPrefix path : Text) : Prop :=
  path = pathPrefix ∨ withoutTrailingSlash pathPrefix ++ ['/'] <+: path

/-- The answer is the route of the longest configured prefix that covers the path, or 404 if none does. -/
def SelectsLongest (parseUri : Text → Option Uri) (proto : Protocol) (map : RevRoutes) (path : Text)
    (answer : Except Response (ParsedRoute × Params)) : Prop :=
  match answer with
  | .ok (route, _) => ∃ cfg, map.lookup route.pathPrefix = some cfg ∧
      parseRoute parseUri proto route.pathPrefix cfg = .ok route ∧ Covers route.pathPrefix path ∧
      ∀ other ∈ map.keys, Covers other path → other.length ≤ route.pathPrefix.length
  | .error response => response = notFound ∧ ∀ other ∈ map.keys, ¬Covers other path

/-- The path is a configured prefix with a slash added, and is not configured itself. -/
def SlashGap (map : RevRoutes) (path : Text) : Prop :=
  path ∉ map.keys ∧ ∃ pathPrefix ∈ map.keys, ¬EndsWithSlash pathPrefix ∧ path = pathPrefix ++ ['/']

theorem wildcardBase_eq : withoutTrailingSlash pathPrefix ++ ['/'] = wildcardBase pathPrefix := by
  unfold withoutTrailingSlash wildcardBase
  split_ifs with ends
  · obtain ⟨front, rfl⟩ := ends
    rw [List.dropLast_concat]
  · rfl

theorem endsWithSlash_wildcardBase : EndsWithSlash (wildcardBase pathPrefix) := by
  unfold wildcardBase
  split_ifs with ends
  · exact ends
  · exact List.suffix_append pathPrefix ['/']

theorem covers_iff (path : Text) :
    Covers pathPrefix path ↔ StrictlyCovers pathPrefix path ∨
      (¬EndsWithSlash pathPrefix ∧ path = pathPrefix ++ ['/']) := by
  unfold Covers StrictlyCovers
  rw [wildcardBase_eq]
  by_cases ends : EndsWithSlash pathPrefix
  · have base : wildcardBase pathPrefix = pathPrefix := if_pos ends
    rw [base]
    tauto
  · have base : wildcardBase pathPrefix = pathPrefix ++ ['/'] := if_neg ends
    rw [base]
    by_cases added : path = pathPrefix ++ ['/']
    · have below : pathPrefix ++ ['/'] <+: path := added ▸ List.prefix_rfl
      tauto
    · tauto

private theorem shorter_than_gap (other path : Text) (plain : ¬EndsWithSlash pathPrefix)
    (added : path = pathPrefix ++ ['/']) (covers : StrictlyCovers other path) (different : path ≠ other) :
    other.length < pathPrefix.length := by
  obtain ⟨below, proper⟩ := covers.resolve_left different
  have size : path.length = pathPrefix.length + 1 := by rw [added, List.length_append, List.length_singleton]
  have strict : (wildcardBase other).length < path.length :=
    lt_of_le_of_ne below.length_le fun same => proper (below.eq_of_length same).symm
  have bounds := wildcardBase_length other
  by_contra long
  have within : pathPrefix <+: path := added ▸ List.prefix_append pathPrefix ['/']
  have same := (List.prefix_of_prefix_length_le below within (by omega)).eq_of_length (by omega)
  exact plain (same ▸ endsWithSlash_wildcardBase other)

section

variable {lib : Matchit ParsedRoute} (laws : Laws lib) {parseUri : Text → Option Uri} {proto : Protocol}
  {map : RevRoutes} {routes : List ParsedRoute} {router : lib.Tree}

private theorem selects_of_no_gap (parsed : ParsedFrom parseUri proto map routes)
    (built : Registers laws routes router) (path : Text) (noGap : ¬SlashGap map path) :
    SelectsLongest parseUri proto map path (matchRoute lib router path) := by
  have configured : ∀ other ∈ map.keys, Covers other path → StrictlyCovers other path ∨
      ∃ route ∈ routes, route.pathPrefix = path := by
    intro other member covers
    rcases (covers_iff other path).mp covers with strict | added
    · exact Or.inl strict
    · by_cases known : path ∈ map.keys
      · exact Or.inr ((parsed.keys path).mp known)
      · exact absurd ⟨known, other, member, added⟩ noGap
  unfold matchRoute
  cases found : lib.atPath router path with
  | none =>
    refine ⟨rfl, ?_⟩
    intro other member covers
    have uncovered := built.unmatched laws path found
    rcases configured other member covers with strict | ⟨route, listed, same⟩
    · obtain ⟨route, listed, rfl⟩ := (parsed.keys other).mp member
      exact uncovered route listed strict
    · exact uncovered route listed (Or.inl same.symm)
  | some matched =>
    obtain ⟨route, params⟩ := matched
    obtain ⟨listed, covers, longest⟩ := built.matched laws parsed.sorted path route params found
    obtain ⟨cfg, known, entry⟩ := parsed.entry route listed
    refine ⟨cfg, known, entry, (covers_iff _ _).mpr (Or.inl covers), ?_⟩
    intro other member otherCovers
    rcases configured other member otherCovers with strict | ⟨exactRoute, present, same⟩
    · obtain ⟨otherRoute, otherListed, rfl⟩ := (parsed.keys other).mp member
      exact longest otherRoute otherListed strict
    · have whole := longest exactRoute present (Or.inl same.symm)
      rw [same] at whole
      rcases (covers_iff other path).mp otherCovers with strict | ⟨-, added⟩
      · exact strict.isPrefix.length_le.trans whole
      · rw [added, List.length_append] at whole
        omega

private theorem gap_not_selected (parsed : ParsedFrom parseUri proto map routes)
    (built : Registers laws routes router) (path : Text) (gap : SlashGap map path) :
    ¬SelectsLongest parseUri proto map path (matchRoute lib router path) := by
  obtain ⟨unknown, pathPrefix, member, plain, added⟩ := gap
  have covered : Covers pathPrefix path := (covers_iff _ _).mpr (Or.inr ⟨plain, added⟩)
  intro selects
  unfold matchRoute at selects
  cases found : lib.atPath router path with
  | none =>
    rw [found] at selects
    exact selects.2 pathPrefix member covered
  | some matched =>
    obtain ⟨route, params⟩ := matched
    rw [found] at selects
    obtain ⟨cfg, -, -, -, longest⟩ := selects
    obtain ⟨listed, covers, -⟩ := built.matched laws parsed.sorted path route params found
    have different : path ≠ route.pathPrefix := fun same =>
      unknown ((parsed.keys path).mpr ⟨route, listed, same.symm⟩)
    have shorter := shorter_than_gap pathPrefix route.pathPrefix path plain added covers different
    exact absurd (longest pathPrefix member covered) (by omega)

end

/-- Routing picks the longest configured prefix, except for a path that is a configured prefix with a
slash added: the catch-all of that prefix needs a non-empty remainder. -/
theorem matchRoute_longest_iff {lib : Matchit ParsedRoute} (laws : Laws lib) (parseUri : Text → Option Uri)
    (proto : Protocol) (map : RevRoutes) (routes : List ParsedRoute)
    (free : ∀ pathPrefix ∈ map.keys, BraceFree pathPrefix)
    (parsed : initParsedRoutes parseUri proto (some map) = .ok routes) (path : Text) :
    SelectsLongest parseUri proto map path (matchRoute lib (buildRouter lib routes) path) ↔ ¬SlashGap map path := by
  have spec := initParsedRoutes_spec parseUri proto map routes parsed
  have built := registers_buildRouter laws routes
    (fun route member => free _ ((spec.keys _).mpr ⟨route, member, rfl⟩)) spec.distinct
  constructor
  · intro selects gap
    exact gap_not_selected laws spec built path gap selects
  · exact selects_of_no_gap laws spec built path

def apiOnly : RevRoutes :=
  AList.singleton ['/', 'a', 'p', 'i']
    { upstreams := [['h']]
      strategy := .roundRobin
      allowedRoles := []
      cooldownSeconds := none
      maxRetries := none
      failureThreshold := none
      maxRetryBufferBytes := none
      activeHealthCheckInterval := none
      backendType := .rest }

def authorityOnly (text : Text) : Option Uri := some ⟨none, some text, ['/'], none⟩

def apiRoute : ParsedRoute where
  pathPrefix := ['/', 'a', 'p', 'i']
  target :=
    { upstreams := [⟨none, some ['h', 't', 't', 'p', ':', '/', '/', 'h'], ['/'], none⟩]
      strategy := .roundRobin
      cooldownSeconds := 10
      maxRetries := 2
      failureThreshold := 3
      maxRetryBufferBytes := 65536
      activeHealthCheckInterval := 0 }
  allowedRoles := []
  backendType := .rest

theorem apiOnly_parsed : initParsedRoutes authorityOnly .http (some apiOnly) = .ok [apiRoute] := by rfl

private theorem apiOnly_braceFree : ∀ pathPrefix ∈ apiOnly.keys, BraceFree pathPrefix := by
  intro pathPrefix member
  obtain rfl : pathPrefix = ['/', 'a', 'p', 'i'] := by simpa [apiOnly] using member
  exact ⟨by decide, by decide⟩

theorem matchRoute_longest_iff_api :
    initParsedRoutes authorityOnly .http (some apiOnly) = .ok [apiRoute] ∧
    (SelectsLongest authorityOnly .http apiOnly ['/', 'a', 'p', 'i', '/', 'v']
      (matchRoute (reference ParsedRoute) (buildRouter (reference ParsedRoute) [apiRoute])
        ['/', 'a', 'p', 'i', '/', 'v']) ↔ ¬SlashGap apiOnly ['/', 'a', 'p', 'i', '/', 'v']) :=
  ⟨apiOnly_parsed, matchRoute_longest_iff (referenceLaws ParsedRoute) authorityOnly .http apiOnly [apiRoute]
    apiOnly_braceFree apiOnly_parsed _⟩

/-- The canonical path `/api/` lies below the only route and is answered with 404. -/
theorem matchRoute_misses_added_slash :
    sanitizeAndNormalizePath ['/', 'a', 'p', 'i', '/'] = .ok ['/', 'a', 'p', 'i', '/'] ∧
    Canonical ['/', 'a', 'p', 'i', '/'] ∧
    initParsedRoutes authorityOnly .http (some apiOnly) = .ok [apiRoute] ∧
    Covers ['/', 'a', 'p', 'i'] ['/', 'a', 'p', 'i', '/'] ∧
    matchRoute (reference ParsedRoute) (buildRouter (reference ParsedRoute) [apiRoute])
      ['/', 'a', 'p', 'i', '/'] = .error notFound ∧
    ¬SelectsLongest authorityOnly .http apiOnly ['/', 'a', 'p', 'i', '/']
      (matchRoute (reference ParsedRoute) (buildRouter (reference ParsedRoute) [apiRoute])
        ['/', 'a', 'p', 'i', '/']) := by
  have covers : Covers ['/', 'a', 'p', 'i'] ['/', 'a', 'p', 'i', '/'] := Or.inr (by decide)
  have missed : matchRoute (reference ParsedRoute) (buildRouter (reference ParsedRoute) [apiRoute])
      ['/', 'a', 'p', 'i', '/'] = .error notFound := by rfl
  refine ⟨rfl, sanitize_canonical ['/', 'a', 'p', 'i', '/'] _ rfl, apiOnly_parsed, covers, missed, ?_⟩
  rw [missed]
  intro selects
  exact selects.2 ['/', 'a', 'p', 'i'] (by simp [apiOnly]) covers

end Praeco.Router.Routes
