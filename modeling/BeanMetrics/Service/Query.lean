import BeanMetrics.Text.Percent
import BeanMetrics.Text.Split

/-!
Targets of requests, and their queries. A query is read as a form: pairs between ampersands, each
split at its first equals sign, with plus signs for blanks and percent signs for other bytes.
-/

namespace BeanMetrics

structure Target where
  path : String
  query : Option String
  deriving DecidableEq, Inhabited, Repr

namespace Target

/-- What follows the authority of an absolute target. -/
def afterAuthority (s : List Char) : List Char :=
  match s with
  | '/' :: _ => s
  | _ =>
    match s.dropWhile (· ≠ ':') with
    | ':' :: '/' :: '/' :: rest =>
      match rest.dropWhile fun c => c ≠ '/' && c ≠ '?' with
      | '/' :: path => '/' :: path
      | query => '/' :: query
    | _ => s

/-- The target in a request; a fragment does not count. -/
def ofText (text : String) : Target :=
  let s := afterAuthority (text.toList.takeWhile (· ≠ '#'))
  match Text.splitFirst '?' s with
  | some (path, query) => ⟨String.ofList path, some (String.ofList query)⟩
  | none => ⟨String.ofList s, none⟩

end Target

namespace Query

/-- The text that one side of a pair stands for. -/
def decodePart (s : List Char) : String :=
  String.ofList (Text.decodeUtf8 (Text.percentDecode (s.map fun c => if c = '+' then ' ' else c)))

def pair (s : List Char) : String × String :=
  match Text.splitFirst '=' s with
  | some (key, value) => (decodePart key, decodePart value)
  | none => (decodePart s, "")

/-- The pairs of a query, in their order; nothing between two ampersands is no pair. -/
def pairs (query : String) : List (String × String) :=
  ((Text.splitAll '&' query.toList).filter (· ≠ [])).map pair

/-- The key whose values select families by their names. -/
def nameKey : String := "name[]"

/-- The names that are asked for, in the order of the query. -/
def requestedNames (query : Option String) : List String :=
  match query with
  | none => []
  | some query => (pairs query).filterMap fun (key, value) =>
      if key = nameKey then some value else none

end Query
end BeanMetrics
