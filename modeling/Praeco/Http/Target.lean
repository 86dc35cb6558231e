import Praeco.Strings.Utf8

/-! Request targets. Parsing and assembling a target is the work of the HTTP library, so both are
parameters; a result states what it needs of them. -/

namespace Praeco.Http.Target
open Praeco.Strings Utf8

structure PathAndQuery where
  path : Text
  query : Option Text
  deriving DecidableEq, Repr

/-- The library compares schemes and authorities without regard to case; they are given here in lower case. -/
structure Uri where
  scheme : Option Text
  authority : Option Text
  path : Text
  query : Option Text
  deriving DecidableEq, Repr

/-- The two operations of the HTTP library that can refuse a target. -/
structure UriLibrary where
  parsePathAndQuery : Text → Except Text PathAndQuery
  fromParts : Option Text → Option Text → PathAndQuery → Except Text Uri

def targetText (path : Text) (query : Option Text) : Text :=
  match query with
  | some q => path ++ '?' :: q
  | none => path

/-- A library that takes every target: the path ends at the first question mark. -/
def permissive : UriLibrary where
  parsePathAndQuery text :=
    match text.splitOn '?' with
    | [] => .ok ⟨[], none⟩
    | [path] => .ok ⟨path, none⟩
    | path :: rest => .ok ⟨path, some (['?'].intercalate rest)⟩
  fromParts scheme authority target := .ok ⟨scheme, authority, target.path, target.query⟩

end Praeco.Http.Target
