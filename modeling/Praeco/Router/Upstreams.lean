import Praeco.Http.Target
import Praeco.Strings.Split

/-! Upstream request targets. The sub-path captured by the route is checked once more before it is
appended to the path of the backend. -/

namespace Praeco.Router.Upstreams
open Praeco.Strings Utf8 Split Praeco.Http.Target

inductive SrvError where
  | other (detail : Text)
  deriving DecidableEq, Repr

def SrvError.message : SrvError → Text
  | .other detail => "Internal Error: ".toList ++ detail

abbrev Params := List (Text × Text)

def restKey : Text := ['r', 'e', 's', 't']

def suspiciousDetail : Text :=
  "Suspicious path traversal or illegal characters detected in upstream URI".toList

def suspicious (rest : Text) : Bool :=
  (rest.splitOn '/').any (fun seg => seg = ['.', '.']) ||
    ['%', '2', 'f'] <:+: rest || ['%', '2', 'F'] <:+: rest || '\x00' ∈ rest || ['%', '0', '0'] <:+: rest ||
    '\\' ∈ rest || ['%', '5', 'c'] <:+: rest || ['%', '5', 'C'] <:+: rest

/-- The path part of the upstream target: the backend path and the captured sub-path. -/
def upstreamPath (backendPath : Text) (matchedParams : Params) : Except SrvError Text :=
  let base := backendPath.rdropWhile (· = '/')
  match matchedParams.lookup restKey with
  | some rest =>
    if suspicious rest then .error (.other suspiciousDetail)
    else .ok (base ++ (if ['/'] <+: rest then [] else ['/']) ++ rest)
  | none => .ok (if base = [] then ['/'] else base)

def replacePath (library : UriLibrary) (backendBaseUri : Uri) (path : Text) (query : Option Text) :
    Except SrvError Uri :=
  match library.parsePathAndQuery (targetText path query) with
  | .error e => .error (.other ("Invalid PathAndQuery: ".toList ++ e))
  | .ok pathAndQuery =>
    match library.fromParts backendBaseUri.scheme backendBaseUri.authority pathAndQuery with
    | .error e => .error (.other ("URI Build Error: ".toList ++ e))
    | .ok uri => .ok uri

def buildUpstreamUri (library : UriLibrary) (backendBaseUri : Uri) (matchedParams : Params)
    (originalUri : Uri) : Except SrvError Uri := do
  let path ← upstreamPath backendBaseUri.path matchedParams
  replacePath library backendBaseUri path originalUri.query

theorem suspicious_eq_false (rest : Text) (clean : ∀ seg ∈ rest.splitOn '/', seg ≠ ['.', '.'])
    (null : '\x00' ∉ rest) (backslash : '\\' ∉ rest)
    (escapes : ∀ word, word.map Char.toLower ∈ [['%', '0', '0'], ['%', '2', 'f'], ['%', '5', 'c']] →
      ¬word <:+: rest) : suspicious rest = false := by
  have segments : (rest.splitOn '/').any (fun seg => seg = ['.', '.']) = false := by
    simpa only [List.any_eq_false, decide_eq_true_eq] using clean
  simp only [suspicious, segments, null, backslash, escapes ['%', '2', 'f'] (by decide),
    escapes ['%', '2', 'F'] (by decide), escapes ['%', '0', '0'] (by decide),
    escapes ['%', '5', 'c'] (by decide), escapes ['%', '5', 'C'] (by decide), decide_false, Bool.or_false]

private theorem replacePath_ne_suspicious (library : UriLibrary) (backendBaseUri : Uri) (path : Text)
    (query : Option Text) : replacePath library backendBaseUri path query ≠ .error (.other suspiciousDetail) := by
  unfold replacePath
  intro failed
  split at failed
  · have heads : some 'I' = some 'S' := congrArg List.head? (SrvError.other.inj (Except.error.inj failed))
    exact absurd heads (by decide)
  · split at failed
    · have heads : some 'U' = some 'S' := congrArg List.head? (SrvError.other.inj (Except.error.inj failed))
      exact absurd heads (by decide)
    · cases failed

theorem buildUpstreamUri_ne_suspicious (library : UriLibrary) (backendBaseUri originalUri : Uri)
    (matchedParams : Params) (clean : ∀ rest, matchedParams.lookup restKey = some rest → suspicious rest = false) :
    buildUpstreamUri library backendBaseUri matchedParams originalUri ≠ .error (.other suspiciousDetail) := by
  have built : ∃ path, upstreamPath backendBaseUri.path matchedParams = .ok path := by
    unfold upstreamPath
    cases found : matchedParams.lookup restKey with
    | none => exact ⟨_, rfl⟩
    | some rest =>
      simp only [clean rest found, Bool.false_eq_true, if_false]
      exact ⟨_, rfl⟩
  obtain ⟨path, built⟩ := built
  unfold buildUpstreamUri
  rw [built]
  exact replacePath_ne_suspicious library backendBaseUri path originalUri.query

end Praeco.Router.Upstreams
