import Praeco.Collections.Patterns
import Praeco.Router.Config

/-! Role-based access control. The raw table is compiled into a map of exact paths and a list of path
beginnings, longest first; the compiled lookup finds the most specific rule of the table, whatever
order the table was read in. -/

namespace Praeco.Router.Rbac
open Praeco.Strings Utf8 Praeco.Http.Message Praeco.Router.Config Praeco.Collections Descending Patterns

abbrev RawRbac := AList (fun _ : Text => List UserRole)

structure CompiledRbac where
  exact : AList (fun _ : Text => List UserRole)
  prefixes : List (Text × List UserRole)

def EndsWithStar (pattern : Text) : Prop := ['*'] <:+ pattern

instance (pattern : Text) : Decidable (EndsWithStar pattern) := inferInstanceAs (Decidable (_ <:+ _))

def compileEntry (acc : CompiledRbac) (entry : Sigma fun _ : Text => List UserRole) : CompiledRbac :=
  if EndsWithStar entry.1 then { acc with prefixes := acc.prefixes ++ [(entry.1.dropLast, entry.2)] }
  else { acc with exact := acc.exact.insert entry.1 entry.2 }

def CompiledRbac.fromRaw (raw : RawRbac) : CompiledRbac :=
  let collected := raw.entries.foldl compileEntry ⟨∅, []⟩
  { collected with prefixes := sortDescending (fun rule => (utf8 rule.1).length) collected.prefixes }

def CompiledRbac.matchPath (rbac : CompiledRbac) (path : Text) : Option (List UserRole) :=
  match rbac.exact.lookup path with
  | some roles => some roles
  | none => (rbac.prefixes.find? (fun rule => rule.1 <+: path)).map Prod.snd

def initCompiledRbac (rbac : Option RawRbac) : Option CompiledRbac := rbac.map CompiledRbac.fromRaw

def extractUserRoles (parts : Parts) : Option (List UserRole) :=
  parts.extensions.sharedRoles <|> parts.extensions.roles <|> parts.extensions.legacyRoles

def anyone : UserRole := ⟨['*']⟩

def forbidden : Response := buildErrorResponse ['F', 'o', 'r', 'b', 'i', 'd', 'd', 'e', 'n'] 403

def hasAnyRole (userRoles : Option (List UserRole)) (required : List UserRole) : Bool :=
  match userRoles with
  | some roles => roles.any (fun role => role ∈ required)
  | none => false

def enforceRbac (parts : Parts) (routeInfo : ParsedRoute) (compiledRbac : Option CompiledRbac) : Except Response Unit :=
  let userRoles := extractUserRoles parts
  match compiledRbac.bind (fun rbac => rbac.matchPath parts.uri.path) with
  | some requiredRoles =>
    if requiredRoles = [] then .error forbidden
    else if anyone ∈ requiredRoles ∨ hasAnyRole userRoles requiredRoles then .ok ()
    else .error forbidden
  | none =>
    if routeInfo.allowedRoles ≠ [] ∧ ¬hasAnyRole userRoles routeInfo.allowedRoles then .error forbidden
    else .ok ()

/-! The table as a finite map, and the rule of it that decides a path. -/

abbrev Table := Finmap (fun _ : Text => List UserRole)

def rawTable : Option RawRbac → Table
  | some raw => raw.toFinmap
  | none => ∅

def Covers (pattern path : Text) : Prop :=
  (¬EndsWithStar pattern ∧ pattern = path) ∨ ∃ stem, pattern = stem ++ ['*'] ∧ stem <+: path

/-- The deciding rule: the exact one if there is one, otherwise the one with the longest stem. -/
structure MostSpecific (table : Table) (path pattern : Text) (roles : List UserRole) : Prop where
  rule : table.lookup pattern = some roles
  decides : (¬EndsWithStar pattern ∧ pattern = path) ∨
    ((EndsWithStar path ∨ table.lookup path = none) ∧ ∃ stem, pattern = stem ++ ['*'] ∧ stem <+: path ∧
      ∀ other, table.lookup (other ++ ['*']) ≠ none → other <+: path → other.length ≤ stem.length)

def Shares (userRoles : Option (List UserRole)) (required : List UserRole) : Prop :=
  ∃ roles, userRoles = some roles ∧ ∃ role ∈ roles, role ∈ required

theorem hasAnyRole_iff (userRoles : Option (List UserRole)) (required : List UserRole) :
    hasAnyRole userRoles required = true ↔ Shares userRoles required := by
  cases userRoles with
  | none => simp [hasAnyRole, Shares]
  | some roles => simp [hasAnyRole, Shares]

private theorem foldl_compileEntry (entries : List (Sigma fun _ : Text => List UserRole)) (acc : CompiledRbac) :
    (⟨(entries.foldl compileEntry acc).exact, (entries.foldl compileEntry acc).prefixes⟩ :
      Rules Char (List UserRole)) = entries.foldl (Rules.add '*') ⟨acc.exact, acc.prefixes⟩ := by
  induction entries generalizing acc with
  | nil => rfl
  | cons entry entries ih =>
    rw [List.foldl_cons, List.foldl_cons, ih]
    congr 1
    by_cases star : EndsWithStar entry.1
    · rw [compileEntry, if_pos star]
      exact (if_pos star).symm
    · rw [compileEntry, if_neg star]
      exact (if_neg star).symm

variable (raw : RawRbac) (path : Text)

theorem fromRaw_exact :
    (CompiledRbac.fromRaw raw).exact.lookup path = if EndsWithStar path then none else raw.lookup path := by
  have collected := congrArg Rules.exact (foldl_compileEntry raw.entries ⟨∅, []⟩)
  exact (congrArg (AList.lookup path) collected).trans (lookup_collected_exact '*' raw.entries raw.nodupKeys path)

theorem fromRaw_prefixes (stem : Text) (roles : List UserRole) :
    (stem, roles) ∈ (CompiledRbac.fromRaw raw).prefixes ↔ raw.lookup (stem ++ ['*']) = some roles := by
  have collected := congrArg Rules.prefixes (foldl_compileEntry raw.entries ⟨∅, []⟩)
  rw [← Option.mem_def, AList.mem_lookup_iff]
  apply (mem_sortDescending _ _ _).trans
  exact (iff_of_eq (congrArg ((stem, roles) ∈ ·) collected)).trans (mem_collected_prefixes '*' raw.entries stem roles)

private theorem exact_rule (roles : List UserRole) (found : (CompiledRbac.fromRaw raw).exact.lookup path = some roles) :
    ¬EndsWithStar path ∧ raw.lookup path = some roles := by
  rw [fromRaw_exact] at found
  split_ifs at found with star
  exact ⟨star, found⟩

private theorem no_exact_rule (missing : (CompiledRbac.fromRaw raw).exact.lookup path = none) :
    EndsWithStar path ∨ raw.lookup path = none := by
  rw [fromRaw_exact] at missing
  split_ifs at missing with star
  · exact Or.inl star
  · exact Or.inr missing

theorem matchPath_some (roles : List UserRole) (found : (CompiledRbac.fromRaw raw).matchPath path = some roles) :
    ∃ pattern, MostSpecific raw.toFinmap path pattern roles := by
  unfold CompiledRbac.matchPath at found
  cases known : (CompiledRbac.fromRaw raw).exact.lookup path with
  | some exactRoles =>
    rw [known] at found
    obtain ⟨plain, rule⟩ := exact_rule raw path exactRoles known
    obtain rfl : exactRoles = roles := Option.some.inj found
    exact ⟨path, rule, Or.inl ⟨plain, rfl⟩⟩
  | none =>
    rw [known] at found
    obtain ⟨⟨stem, stemRoles⟩, first, same⟩ := Option.map_eq_some_iff.mp found
    obtain rfl : stemRoles = roles := same
    have heaviest := find_heaviest _ _ _ _ (pairwise_sortDescending _ _) first
    have rule := (fromRaw_prefixes raw stem stemRoles).mp (List.mem_of_find?_eq_some first)
    have begins : stem <+: path := by simpa using List.find?_some first
    refine ⟨stem ++ ['*'], rule, Or.inr ⟨no_exact_rule raw path known, stem, rfl, begins, ?_⟩⟩
    intro other present otherBegins
    obtain ⟨otherRoles, otherRule⟩ := Option.ne_none_iff_exists'.mp present
    have member := (fromRaw_prefixes raw other otherRoles).mpr otherRule
    have lighter := heaviest (other, otherRoles) member (by simpa using otherBegins)
    exact length_le_of_utf8_le path other stem otherBegins begins lighter

theorem matchPath_none (missing : (CompiledRbac.fromRaw raw).matchPath path = none) (pattern : Text)
    (roles : List UserRole) (rule : raw.toFinmap.lookup pattern = some roles) : ¬Covers pattern path := by
  intro covers
  unfold CompiledRbac.matchPath at missing
  cases known : (CompiledRbac.fromRaw raw).exact.lookup path with
  | some exactRoles =>
    rw [known] at missing
    cases missing
  | none =>
    rw [known] at missing
    rcases covers with ⟨plain, rfl⟩ | ⟨stem, rfl, begins⟩
    · rcases no_exact_rule raw pattern known with star | absent
      · exact plain star
      · exact absurd (absent.symm.trans rule) (by simp)
    · have nothing := List.find?_eq_none.mp (Option.map_eq_none_iff.mp missing)
      have member := (fromRaw_prefixes raw stem roles).mpr rule
      exact nothing (stem, roles) member (by simpa using begins)

theorem MostSpecific.covers {table : Table} {path pattern : Text} {roles : List UserRole}
    (rule : MostSpecific table path pattern roles) : Covers pattern path := by
  rcases rule.decides with exactRule | ⟨-, stem, same, begins, -⟩
  · exact Or.inl exactRule
  · exact Or.inr ⟨stem, same, begins⟩

theorem MostSpecific.unique {table : Table} {path first second : Text} {left right : List UserRole}
    (one : MostSpecific table path first left) (two : MostSpecific table path second right) : left = right := by
  have patterns : first = second := by
    rcases one.decides with ⟨plain, same⟩ | ⟨none, stem, same, begins, longest⟩
    · rcases two.decides with ⟨_, same'⟩ | ⟨absent, -⟩
      · exact same.trans same'.symm
      · rcases absent with star | missing
        · exact absurd (same ▸ star) plain
        · exact absurd ((same ▸ one.rule).symm.trans missing) (by simp)
    · rcases two.decides with ⟨plain', same'⟩ | ⟨-, stem', same', begins', longest'⟩
      · rcases none with star | missing
        · exact absurd (same' ▸ star) plain'
        · exact absurd ((same' ▸ two.rule).symm.trans missing) (by simp)
      · have ruled : table.lookup (stem ++ ['*']) ≠ Option.none := by rw [← same, one.rule]; simp
        have ruled' : table.lookup (stem' ++ ['*']) ≠ Option.none := by rw [← same', two.rule]; simp
        have equal := Nat.le_antisymm (longest' stem ruled begins) (longest stem' ruled' begins')
        have stems := (List.prefix_of_prefix_length_le begins begins' equal.le).eq_of_length equal
        rw [same, same', stems]
  exact Option.some.inj (one.rule.symm.trans (patterns ▸ two.rule))

def requiredRoles (rbac : Option RawRbac) (path : Text) : Option (List UserRole) :=
  (initCompiledRbac rbac).bind (fun compiled => compiled.matchPath path)

theorem requiredRoles_some (rbac : Option RawRbac) (path : Text) (roles : List UserRole)
    (found : requiredRoles rbac path = some roles) : ∃ pattern, MostSpecific (rawTable rbac) path pattern roles := by
  cases rbac with
  | none => cases found
  | some raw => exact matchPath_some raw path roles found

theorem requiredRoles_none (rbac : Option RawRbac) (path : Text) (missing : requiredRoles rbac path = none)
    (pattern : Text) (roles : List UserRole) (rule : (rawTable rbac).lookup pattern = some roles) :
    ¬Covers pattern path := by
  cases rbac with
  | none => simp [rawTable] at rule
  | some raw => exact matchPath_none raw path missing pattern roles rule

theorem requiredRoles_of_mostSpecific (rbac : Option RawRbac) (path pattern : Text) (roles : List UserRole)
    (rule : MostSpecific (rawTable rbac) path pattern roles) : requiredRoles rbac path = some roles := by
  cases found : requiredRoles rbac path with
  | none => exact absurd rule.covers (requiredRoles_none rbac path found pattern roles rule.rule)
  | some other =>
    obtain ⟨otherPattern, otherRule⟩ := requiredRoles_some rbac path other found
    rw [otherRule.unique rule]

theorem requiredRoles_table (one two : Option RawRbac) (path : Text) (same : rawTable one = rawTable two) :
    requiredRoles one path = requiredRoles two path := by
  cases found : requiredRoles two path with
  | some roles =>
    obtain ⟨pattern, rule⟩ := requiredRoles_some two path roles found
    exact requiredRoles_of_mostSpecific one path pattern roles (same ▸ rule)
  | none =>
    cases first : requiredRoles one path with
    | none => rfl
    | some roles =>
      obtain ⟨pattern, rule⟩ := requiredRoles_some one path roles first
      rw [requiredRoles_of_mostSpecific two path pattern roles (same ▸ rule)] at found
      cases found

theorem enforceRbac_ruled (parts : Parts) (routeInfo : ParsedRoute) (rbac : Option RawRbac)
    (required : List UserRole) (found : requiredRoles rbac parts.uri.path = some required) :
    enforceRbac parts routeInfo (initCompiledRbac rbac) = .ok () ↔
      anyone ∈ required ∨ Shares (extractUserRoles parts) required := by
  unfold requiredRoles at found
  simp only [enforceRbac, found]
  rw [← hasAnyRole_iff]
  split_ifs with empty granted
  · subst empty
    have nobody : hasAnyRole (extractUserRoles parts) [] = false := by
      cases extractUserRoles parts <;> simp [hasAnyRole]
    simp [nobody]
  · simpa using granted
  · simpa using granted

theorem enforceRbac_unruled (parts : Parts) (routeInfo : ParsedRoute) (rbac : Option RawRbac)
    (missing : requiredRoles rbac parts.uri.path = none) :
    enforceRbac parts routeInfo (initCompiledRbac rbac) = .ok () ↔
      routeInfo.allowedRoles = [] ∨ Shares (extractUserRoles parts) routeInfo.allowedRoles := by
  unfold requiredRoles at missing
  simp only [enforceRbac, missing]
  rw [← hasAnyRole_iff]
  split_ifs with refused
  · simpa using refused
  · simpa [or_iff_not_imp_left] using refused

theorem enforceRbac_deny_all (parts : Parts) (routeInfo : ParsedRoute) (rbac : Option RawRbac)
    (found : requiredRoles rbac parts.uri.path = some []) :
    enforceRbac parts routeInfo (initCompiledRbac rbac) = .error forbidden := by
  unfold requiredRoles at found
  simp only [enforceRbac, found, if_true]

/-- Access is granted exactly by the most specific rule of the table, or by the route if no rule covers the
path. A rule without roles denies everybody, and only the contents of the table matter. -/
theorem enforceRbac_most_specific (rbac : Option RawRbac) (parts : Parts) (routeInfo : ParsedRoute) :
    (enforceRbac parts routeInfo (initCompiledRbac rbac) = .ok () ↔
      (∃ pattern required, MostSpecific (rawTable rbac) parts.uri.path pattern required ∧
        (anyone ∈ required ∨ Shares (extractUserRoles parts) required)) ∨
      ((∀ pattern required, (rawTable rbac).lookup pattern = some required → ¬Covers pattern parts.uri.path) ∧
        (routeInfo.allowedRoles = [] ∨ Shares (extractUserRoles parts) routeInfo.allowedRoles))) ∧
    (∀ pattern, MostSpecific (rawTable rbac) parts.uri.path pattern [] →
      enforceRbac parts routeInfo (initCompiledRbac rbac) = .error forbidden) ∧
    (∀ other : Option RawRbac, rawTable other = rawTable rbac →
      enforceRbac parts routeInfo (initCompiledRbac other) =
        enforceRbac parts routeInfo (initCompiledRbac rbac)) := by
  refine ⟨?_, ?_, ?_⟩
  · cases found : requiredRoles rbac parts.uri.path with
    | some required =>
      obtain ⟨pattern, rule⟩ := requiredRoles_some rbac parts.uri.path required found
      rw [enforceRbac_ruled parts routeInfo rbac required found]
      constructor
      · intro granted
        exact Or.inl ⟨pattern, required, rule, granted⟩
      · intro spec
        rcases spec with ⟨other, roles, otherRule, granted⟩ | ⟨uncovered, -⟩
        · rwa [otherRule.unique rule] at granted
        · exact absurd rule.covers (uncovered pattern required rule.rule)
    | none =>
      have uncovered := requiredRoles_none rbac parts.uri.path found
      rw [enforceRbac_unruled parts routeInfo rbac found]
      constructor
      · intro granted
        exact Or.inr ⟨uncovered, granted⟩
      · intro spec
        rcases spec with ⟨pattern, required, rule, -⟩ | ⟨-, granted⟩
        · exact absurd rule.covers (uncovered pattern required rule.rule)
        · exact granted
  · intro pattern rule
    exact enforceRbac_deny_all parts routeInfo rbac
      (requiredRoles_of_mostSpecific rbac parts.uri.path pattern [] rule)
  · intro other same
    have looked := requiredRoles_table other rbac parts.uri.path same
    unfold requiredRoles at looked
    unfold enforceRbac
    rw [looked]

end Praeco.Router.Rbac
