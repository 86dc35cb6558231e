import Praeco.Collections.Fallible
import Praeco.Path.Sanitizer
import Praeco.Router.Rbac

/-! The allow-list of the path inspection. Each method has a table of paths with regular expressions; a table is compiled
into exact paths and path beginnings, and the compiled lookup answers as the table does, whatever order it was read in. -/

namespace Praeco.Inspection.Rules
open Praeco.Strings Utf8 Praeco.Http.Message Praeco.Collections Descending Fallible Patterns Praeco.Path.Sanitizer
open Praeco.Router.Rbac (EndsWithStar)

/-- The regular expression crate: compiling a pattern and searching a text for a match. -/
structure RegexLibrary (Regex : Type) where
  new : Text → Except Text Regex
  isMatch : Regex → Text → Bool

abbrev RawRules := AList (fun _ : Text => List Text)

structure AllowedPathes where
  get : Option RawRules
  post : Option RawRules
  put : Option RawRules
  delete : Option RawRules
  patch : Option RawRules
  head : Option RawRules

def AllowedPathes.default : AllowedPathes := ⟨none, none, none, none, none, none⟩

abbrev MethodRules (Regex : Type) := Patterns.Rules Char (List Regex)

structure CompiledAllowedPathes (Regex : Type) where
  get : MethodRules Regex
  post : MethodRules Regex
  put : MethodRules Regex
  delete : MethodRules Regex
  patch : MethodRules Regex
  head : MethodRules Regex

variable {Regex : Type} (library : RegexLibrary Regex)

def MethodRules.isAllowed (rules : MethodRules Regex) (path fullPath : Text) : Bool :=
  match rules.exact.lookup path with
  | some regexes => regexes.any (library.isMatch · fullPath)
  | none => rules.prefixes.any fun rule => rule.1 <+: path && rule.2.any (library.isMatch · fullPath)

def regexError (pattern detail : Text) : Text :=
  "Regex error for '".toList ++ pattern ++ "': ".toList ++ detail

def compileEntry (entry : Sigma fun _ : Text => List Text) : Except Text (Sigma fun _ : Text => List Regex) :=
  match entry.2.mapM library.new with
  | .ok regexes => .ok ⟨entry.1, regexes⟩
  | .error detail => .error (regexError entry.1 detail)

/-- The loop over the table compiles the expressions of an entry and files it, and stops at the first error. -/
def collectRules : Option RawRules → Except Text (MethodRules Regex)
  | some map =>
    map.entries.foldlM (fun rules entry => (compileEntry library entry).map (Rules.add '*' rules)) Rules.empty
  | none => .ok Rules.empty

def compileMethodRules (optMap : Option RawRules) : Except Text (MethodRules Regex) := do
  let rules ← collectRules library optMap
  .ok { rules with prefixes := sortDescending (fun rule => (utf8 rule.1).length) rules.prefixes }

def CompiledAllowedPathes.fromRaw (raw : AllowedPathes) : Except Text (CompiledAllowedPathes Regex) := do
  let get ← compileMethodRules library raw.get
  let post ← compileMethodRules library raw.post
  let put ← compileMethodRules library raw.put
  let delete ← compileMethodRules library raw.delete
  let patch ← compileMethodRules library raw.patch
  let head ← compileMethodRules library raw.head
  .ok ⟨get, post, put, delete, patch, head⟩

def initCompiledAllowedPathes (allowedPathes : Option AllowedPathes) : Except Text (CompiledAllowedPathes Regex) :=
  CompiledAllowedPathes.fromRaw library (allowedPathes.getD AllowedPathes.default)

def fullPathOf (path query : Text) : Text := if query = [] then path else path ++ '?' :: query

def CompiledAllowedPathes.isAllowed (compiled : CompiledAllowedPathes Regex) (method path query : Text) : Bool :=
  let fullPath := fullPathOf path query
  if method = "GET".toList then MethodRules.isAllowed library compiled.get path fullPath
  else if method = "POST".toList then MethodRules.isAllowed library compiled.post path fullPath
  else if method = "PUT".toList then MethodRules.isAllowed library compiled.put path fullPath
  else if method = "DELETE".toList then MethodRules.isAllowed library compiled.delete path fullPath
  else if method = "PATCH".toList then MethodRules.isAllowed library compiled.patch path fullPath
  else if method = "HEAD".toList then
    MethodRules.isAllowed library compiled.head path fullPath || MethodRules.isAllowed library compiled.get path fullPath
  else if method = "OPTIONS".toList then
    MethodRules.isAllowed library compiled.get path fullPath || MethodRules.isAllowed library compiled.post path fullPath ||
      MethodRules.isAllowed library compiled.put path fullPath ||
      MethodRules.isAllowed library compiled.delete path fullPath ||
      MethodRules.isAllowed library compiled.patch path fullPath ||
      MethodRules.isAllowed library compiled.head path fullPath
  else false

/-! The tables as finite maps, and what they allow. -/

abbrev Table := Finmap (fun _ : Text => List Text)

def ruleTable : Option RawRules → Table
  | some map => map.toFinmap
  | none => ∅

def Matches (patterns : List Text) (fullPath : Text) : Prop :=
  ∃ pattern ∈ patterns, ∃ regex, library.new pattern = .ok regex ∧ library.isMatch regex fullPath = true

/-- The entry for the path itself decides if there is one; otherwise any entry whose stem the path begins with may. -/
def Allows (table : Table) (path fullPath : Text) : Prop :=
  (¬EndsWithStar path ∧ ∃ patterns, table.lookup path = some patterns ∧ Matches library patterns fullPath) ∨
  ((EndsWithStar path ∨ table.lookup path = none) ∧ ∃ stem patterns, table.lookup (stem ++ ['*']) = some patterns ∧
    stem <+: path ∧ Matches library patterns fullPath)

def tablesFor (raw : AllowedPathes) (method : Text) : List Table :=
  if method = "GET".toList then [ruleTable raw.get]
  else if method = "POST".toList then [ruleTable raw.post]
  else if method = "PUT".toList then [ruleTable raw.put]
  else if method = "DELETE".toList then [ruleTable raw.delete]
  else if method = "PATCH".toList then [ruleTable raw.patch]
  else if method = "HEAD".toList then [ruleTable raw.head, ruleTable raw.get]
  else if method = "OPTIONS".toList then
    [ruleTable raw.get, ruleTable raw.post, ruleTable raw.put, ruleTable raw.delete, ruleTable raw.patch,
      ruleTable raw.head]
  else []

/-- The same tables, possibly read in another order. -/
structure SameTables (left right : AllowedPathes) : Prop where
  get : ruleTable left.get = ruleTable right.get
  post : ruleTable left.post = ruleTable right.post
  put : ruleTable left.put = ruleTable right.put
  delete : ruleTable left.delete = ruleTable right.delete
  patch : ruleTable left.patch = ruleTable right.patch
  head : ruleTable left.head = ruleTable right.head

theorem matches_iff (patterns : List Text) (regexes : List Regex) (fullPath : Text)
    (compiled : patterns.mapM library.new = .ok regexes) :
    regexes.any (library.isMatch · fullPath) = true ↔ Matches library patterns fullPath := by
  have pairs := mapM_ok compiled
  clear compiled
  induction pairs with
  | nil => simp [Matches]
  | @cons pattern regex patterns regexes head _ ih =>
    have here : (∃ other, library.new pattern = .ok other ∧ library.isMatch other fullPath = true) ↔
        library.isMatch regex fullPath = true := by
      simp [head]
    rw [List.any_cons, Bool.or_eq_true]
    apply (or_congr_right ih).trans
    simp only [Matches, List.mem_cons, exists_eq_or_imp, here]

theorem compileEntry_ok {entry : Sigma fun _ : Text => List Text} {result : Sigma fun _ : Text => List Regex}
    (done : compileEntry library entry = .ok result) :
    result.1 = entry.1 ∧ entry.2.mapM library.new = .ok result.2 := by
  unfold compileEntry at done
  split at done
  · rename_i regexes compiled
    cases done
    exact ⟨rfl, compiled⟩
  · cases done

theorem dlookup_compiled (entries : List (Sigma fun _ : Text => List Text))
    (compiled : List (Sigma fun _ : Text => List Regex))
    (done : entries.mapM (compileEntry library) = .ok compiled) (path : Text) :
    Option.Rel (fun patterns regexes => patterns.mapM library.new = .ok regexes) (entries.dlookup path)
      (compiled.dlookup path) := by
  have pairs := mapM_ok done
  clear done
  induction pairs with
  | nil => exact .none
  | @cons entry result entries compiled head _ ih =>
    obtain ⟨pattern, patterns⟩ := entry
    obtain ⟨other, regexes⟩ := result
    obtain ⟨same, expressions⟩ := compileEntry_ok library head
    obtain rfl : other = pattern := same
    by_cases here : path = other
    · subst here
      rw [List.dlookup_cons_eq, List.dlookup_cons_eq]
      exact .some expressions
    · rw [List.dlookup_cons_ne _ _ here, List.dlookup_cons_ne _ _ here]
      exact ih

theorem keys_compiled (entries : List (Sigma fun _ : Text => List Text))
    (compiled : List (Sigma fun _ : Text => List Regex))
    (done : entries.mapM (compileEntry library) = .ok compiled) : compiled.keys = entries.keys := by
  have pairs := mapM_ok done
  clear done
  induction pairs with
  | nil => rfl
  | cons head _ ih => rw [List.keys_cons, List.keys_cons, ih, (compileEntry_ok library head).1]

theorem compileMethodRules_ok {optMap : Option RawRules} {rules : MethodRules Regex}
    (done : compileMethodRules library optMap = .ok rules) :
    ∃ compiled : List (Sigma fun _ : Text => List Regex), compiled.NodupKeys ∧
      (∀ path, Option.Rel (fun patterns regexes => patterns.mapM library.new = .ok regexes)
        ((ruleTable optMap).lookup path) (compiled.dlookup path)) ∧
      (∀ path, rules.exact.lookup path = if EndsWithStar path then none else compiled.dlookup path) ∧
      ∀ stem regexes, (stem, regexes) ∈ rules.prefixes ↔ compiled.dlookup (stem ++ ['*']) = some regexes := by
  unfold compileMethodRules at done
  obtain ⟨collected, gathered, done⟩ := bind_ok done
  cases done
  have parts : ∃ compiled : List (Sigma fun _ : Text => List Regex), compiled.NodupKeys ∧
      (∀ path, Option.Rel (fun patterns regexes => patterns.mapM library.new = .ok regexes)
        ((ruleTable optMap).lookup path) (compiled.dlookup path)) ∧
      collected = compiled.foldl (Rules.add '*') Rules.empty := by
    cases optMap with
    | none =>
      cases gathered
      exact ⟨[], List.nodupKeys_nil, fun path => by simp [ruleTable], rfl⟩
    | some map =>
      simp only [collectRules, foldlM_map] at gathered
      obtain ⟨compiled, entries, same⟩ := map_ok gathered
      refine ⟨compiled, ?_, dlookup_compiled library map.entries compiled entries, same.symm⟩
      have distinct : compiled.keys.Nodup := keys_compiled library _ _ entries ▸ map.nodupKeys
      exact distinct
  obtain ⟨compiled, distinct, related, rfl⟩ := parts
  refine ⟨compiled, distinct, related, lookup_collected_exact '*' compiled distinct, ?_⟩
  intro stem regexes
  rw [← Option.mem_def, List.mem_dlookup_iff distinct, ← mem_collected_prefixes]
  exact mem_sortDescending _ _ _

theorem methodRules_isAllowed (optMap : Option RawRules) (rules : MethodRules Regex)
    (done : compileMethodRules library optMap = .ok rules) (path fullPath : Text) :
    MethodRules.isAllowed library rules path fullPath = true ↔ Allows library (ruleTable optMap) path fullPath := by
  obtain ⟨compiled, distinct, related, exactRules, prefixRules⟩ := compileMethodRules_ok library done
  have prefixes : (rules.prefixes.any fun rule => rule.1 <+: path && rule.2.any (library.isMatch · fullPath)) = true ↔
      ∃ stem patterns, (ruleTable optMap).lookup (stem ++ ['*']) = some patterns ∧ stem <+: path ∧
        Matches library patterns fullPath := by
    simp only [List.any_eq_true, Bool.and_eq_true, decide_eq_true_eq, Prod.exists]
    constructor
    · rintro ⟨stem, regexes, member, begins, found⟩
      have pair := related (stem ++ ['*'])
      rw [(prefixRules stem regexes).mp member] at pair
      generalize entry : (ruleTable optMap).lookup (stem ++ ['*']) = patterns at pair
      cases pair with
      | some expressions =>
        exact ⟨stem, _, entry, begins, (matches_iff library _ _ _ expressions).mp (List.any_eq_true.mpr found)⟩
    · rintro ⟨stem, patterns, entry, begins, found⟩
      have pair := related (stem ++ ['*'])
      rw [entry] at pair
      generalize target : compiled.dlookup (stem ++ ['*']) = regexes at pair
      cases pair with
      | some expressions =>
        have matched := List.any_eq_true.mp ((matches_iff library _ _ _ expressions).mpr found)
        exact ⟨stem, _, (prefixRules stem _).mpr target, begins, matched⟩
  have pair := related path
  unfold MethodRules.isAllowed Allows
  rw [exactRules path]
  split_ifs with star
  · simp only [star, not_true_eq_false, false_and, true_or, true_and, false_or, prefixes]
  · generalize entry : (ruleTable optMap).lookup path = patterns at pair
    generalize compiled.dlookup path = regexes at pair
    cases pair with
    | none => simp [star, prefixes]
    | some expressions => simp [star, matches_iff library _ _ _ expressions]

/-- Whether a table compiles depends on its expressions only. -/
theorem compileMethodRules_succeeds (optMap : Option RawRules) :
    (∃ rules, compileMethodRules library optMap = .ok rules) ↔
      ∀ path patterns, (ruleTable optMap).lookup path = some patterns →
        ∀ pattern ∈ patterns, ∃ regex, library.new pattern = .ok regex := by
  have collected : (∃ rules, compileMethodRules library optMap = .ok rules) ↔
      ∃ rules, collectRules library optMap = .ok rules := by
    unfold compileMethodRules
    cases collectRules library optMap with
    | error e => exact iff_of_false (fun found => nomatch found) fun found => nomatch found
    | ok rules => exact iff_of_true ⟨_, rfl⟩ ⟨_, rfl⟩
  rw [collected]
  cases optMap with
  | none => exact iff_of_true ⟨_, rfl⟩ fun path patterns entry => by simp [ruleTable] at entry
  | some map =>
    have compiles : ∀ entry : Sigma fun _ : Text => List Text,
        (∃ result, compileEntry library entry = .ok result) ↔
          ∀ pattern ∈ entry.2, ∃ regex, library.new pattern = .ok regex := by
      intro entry
      rw [← mapM_ok_iff, compileEntry]
      cases entry.2.mapM library.new with
      | error e => exact iff_of_false (fun found => nomatch found) fun found => nomatch found
      | ok regexes => exact iff_of_true ⟨_, rfl⟩ ⟨_, rfl⟩
    have loop : (∃ rules, collectRules library (some map) = .ok rules) ↔
        ∃ compiled, map.entries.mapM (compileEntry library) = .ok compiled := by
      rw [collectRules, foldlM_map]
      cases map.entries.mapM (compileEntry library) with
      | error e => exact iff_of_false (fun found => nomatch found) fun found => nomatch found
      | ok compiled => exact iff_of_true ⟨_, rfl⟩ ⟨_, rfl⟩
    rw [loop, mapM_ok_iff]
    simp only [compiles]
    constructor
    · intro all path patterns entry
      exact all ⟨path, patterns⟩ (AList.mem_lookup_iff.mp entry)
    · rintro all ⟨path, patterns⟩ member
      exact all path patterns (AList.mem_lookup_iff.mpr member)

structure Compiles (raw : AllowedPathes) (compiled : CompiledAllowedPathes Regex) : Prop where
  get : compileMethodRules library raw.get = .ok compiled.get
  post : compileMethodRules library raw.post = .ok compiled.post
  put : compileMethodRules library raw.put = .ok compiled.put
  delete : compileMethodRules library raw.delete = .ok compiled.delete
  patch : compileMethodRules library raw.patch = .ok compiled.patch
  head : compileMethodRules library raw.head = .ok compiled.head

theorem fromRaw_ok_iff (raw : AllowedPathes) (compiled : CompiledAllowedPathes Regex) :
    CompiledAllowedPathes.fromRaw library raw = .ok compiled ↔ Compiles library raw compiled := by
  constructor
  · intro done
    unfold CompiledAllowedPathes.fromRaw at done
    obtain ⟨get, getOk, done⟩ := bind_ok done
    obtain ⟨post, postOk, done⟩ := bind_ok done
    obtain ⟨put, putOk, done⟩ := bind_ok done
    obtain ⟨delete, deleteOk, done⟩ := bind_ok done
    obtain ⟨patch, patchOk, done⟩ := bind_ok done
    obtain ⟨head, headOk, done⟩ := bind_ok done
    cases done
    exact ⟨getOk, postOk, putOk, deleteOk, patchOk, headOk⟩
  · intro compiles
    rw [CompiledAllowedPathes.fromRaw, compiles.get, compiles.post, compiles.put, compiles.delete, compiles.patch,
      compiles.head]
    rfl

theorem isAllowed_tables (raw : AllowedPathes) (compiled : CompiledAllowedPathes Regex)
    (compiles : Compiles library raw compiled) (method path query : Text) :
    compiled.isAllowed library method path query = true ↔
      ∃ table ∈ tablesFor raw method, Allows library table path (fullPathOf path query) := by
  have get := methodRules_isAllowed library _ _ compiles.get path (fullPathOf path query)
  have post := methodRules_isAllowed library _ _ compiles.post path (fullPathOf path query)
  have put := methodRules_isAllowed library _ _ compiles.put path (fullPathOf path query)
  have delete := methodRules_isAllowed library _ _ compiles.delete path (fullPathOf path query)
  have patch := methodRules_isAllowed library _ _ compiles.patch path (fullPathOf path query)
  have head := methodRules_isAllowed library _ _ compiles.head path (fullPathOf path query)
  simp only [CompiledAllowedPathes.isAllowed, tablesFor]
  split_ifs
  all_goals simp only [Bool.or_eq_true, get, post, put, delete, patch, head, List.mem_cons, List.not_mem_nil, or_false,
    exists_eq_or_imp, exists_eq_left, or_assoc, false_and, exists_false]

theorem SameTables.tablesFor_eq {left right : AllowedPathes} (same : SameTables left right) (method : Text) :
    tablesFor left method = tablesFor right method := by
  unfold tablesFor
  rw [same.get, same.post, same.put, same.delete, same.patch, same.head]

theorem SameTables.compiles {left right : AllowedPathes} (same : SameTables left right)
    {compiled : CompiledAllowedPathes Regex} (compiles : Compiles library left compiled) :
    ∃ again, Compiles library right again := by
  have table : ∀ {first second : Option RawRules}, ruleTable first = ruleTable second →
      ∀ {rules}, compileMethodRules library first = .ok rules → ∃ rules, compileMethodRules library second = .ok rules := by
    intro first second equal rules done
    rw [compileMethodRules_succeeds, ← equal, ← compileMethodRules_succeeds]
    exact ⟨rules, done⟩
  obtain ⟨get, getOk⟩ := table same.get compiles.get
  obtain ⟨post, postOk⟩ := table same.post compiles.post
  obtain ⟨put, putOk⟩ := table same.put compiles.put
  obtain ⟨delete, deleteOk⟩ := table same.delete compiles.delete
  obtain ⟨patch, patchOk⟩ := table same.patch compiles.patch
  obtain ⟨head, headOk⟩ := table same.head compiles.head
  exact ⟨⟨get, post, put, delete, patch, head⟩, getOk, postOk, putOk, deleteOk, patchOk, headOk⟩

/-- The compiled table answers as the raw ones do, and reading them in another order changes nothing. -/
theorem compiled_isAllowed_iff (raw : AllowedPathes) (compiled : CompiledAllowedPathes Regex)
    (done : CompiledAllowedPathes.fromRaw library raw = .ok compiled) (method path query : Text) :
    (compiled.isAllowed library method path query = true ↔
      ∃ table ∈ tablesFor raw method, Allows library table path (fullPathOf path query)) ∧
    ∀ other, SameTables raw other → ∃ again, CompiledAllowedPathes.fromRaw library other = .ok again ∧
      again.isAllowed library method path query = compiled.isAllowed library method path query := by
  have compiles := (fromRaw_ok_iff library raw compiled).mp done
  have answer := isAllowed_tables library raw compiled compiles method path query
  refine ⟨answer, ?_⟩
  intro other same
  obtain ⟨again, compilesAgain⟩ := same.compiles library compiles
  refine ⟨again, (fromRaw_ok_iff library other again).mpr compilesAgain, ?_⟩
  rw [Bool.eq_iff_iff, isAllowed_tables library other again compilesAgain, answer, same.tablesFor_eq]

def literalRegex : RegexLibrary Text := ⟨.ok, fun regex text => regex = text⟩

def starTable : AllowedPathes :=
  { AllowedPathes.default with
    get := some ((AList.singleton ['/', 'c'] [['/', 'c']]).insert ['/', 'a', '*'] [['/', 'a', 'b']]) }

def turnedTable : AllowedPathes :=
  { AllowedPathes.default with
    get := some ((AList.singleton ['/', 'a', '*'] [['/', 'a', 'b']]).insert ['/', 'c'] [['/', 'c']]) }

theorem compiled_isAllowed_iff_star : ∃ compiled, CompiledAllowedPathes.fromRaw literalRegex starTable = .ok compiled ∧
    compiled.isAllowed literalRegex "HEAD".toList ['/', 'a', 'b'] [] = true ∧ SameTables starTable turnedTable ∧
    ((compiled.isAllowed literalRegex "HEAD".toList ['/', 'a', 'b'] [] = true ↔
      ∃ table ∈ tablesFor starTable "HEAD".toList,
        Allows literalRegex table ['/', 'a', 'b'] (fullPathOf ['/', 'a', 'b'] [])) ∧
    ∀ other, SameTables starTable other → ∃ again, CompiledAllowedPathes.fromRaw literalRegex other = .ok again ∧
      again.isAllowed literalRegex "HEAD".toList ['/', 'a', 'b'] [] =
        compiled.isAllowed literalRegex "HEAD".toList ['/', 'a', 'b'] []) :=
  have turned : SameTables starTable turnedTable := ⟨AList.toFinmap_eq.mpr (by decide), rfl, rfl, rfl, rfl, rfl⟩
  ⟨_, rfl, by decide +kernel, turned, compiled_isAllowed_iff literalRegex starTable _ rfl _ _ _⟩

/-! The middleware that asks the compiled table. -/

def asStr : Method → Text
  | .get => "GET".toList
  | .head => "HEAD".toList
  | .post => "POST".toList
  | .put => "PUT".toList
  | .delete => "DELETE".toList
  | .options => "OPTIONS".toList
  | .patch => "PATCH".toList
  | .other name => name

structure InspectionService (Regex : Type) where
  allowedPathes : CompiledAllowedPathes Regex
  serverName : Text

def buildForbiddenResponse : Response := ⟨403, [], "Request does not match allowed patterns".toList⟩

/-- The decision of `call`: the request is handed on as it came, or answered here. The path it decides on is the
sanitized one, while the request keeps its own. -/
def InspectionService.call (service : InspectionService Regex) (req : Parts) : Except Response Parts :=
  match sanitizeAndNormalizePath req.uri.path with
  | .error _ => .error buildForbiddenResponse
  | .ok canonicalPath =>
    if service.allowedPathes.isAllowed library (asStr req.method) canonicalPath (req.uri.query.getD []) then .ok req
    else .error buildForbiddenResponse

/-- A request gets through exactly when its path has a canonical form that the allow-list admits, and it is unchanged. -/
theorem inspection_forwards_iff (service : InspectionService Regex) (req forwarded : Parts) :
    service.call library req = .ok forwarded ↔ forwarded = req ∧ ∃ canonicalPath,
      sanitizeAndNormalizePath req.uri.path = .ok canonicalPath ∧
      service.allowedPathes.isAllowed library (asStr req.method) canonicalPath (req.uri.query.getD []) = true := by
  unfold InspectionService.call
  cases sanitizeAndNormalizePath req.uri.path with
  | error stop => simp
  | ok canonicalPath =>
    simp only [Except.ok.injEq, exists_eq_left']
    split_ifs with allowed
    · simp [allowed, eq_comm]
    · simp [allowed]

end Praeco.Inspection.Rules
