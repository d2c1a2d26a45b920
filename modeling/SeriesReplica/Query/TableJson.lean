import SeriesReplica.Json.Record
import SeriesReplica.Query.Table

/-!
Answers in JSON. Missing parts are empty, and errors are left out where there are none.
-/
namespace SeriesReplica.Query
open Json

namespace Series

def ofTree? (t : Tree) : Option Series := do
  let r ← Record.ofTree? ["name", "tags", "columns", "values"] false t
  pure {
    name := ← r.withDefault "name" "" Tree.string?
    tags := ← r.withDefault "tags" ∅ (Tree.map? Tree.string?)
    columns := ← r.withDefault "columns" [] (Tree.list? Tree.string?)
    rows := ← r.withDefault "values" [] (Tree.list? (Tree.list? Tree.value?)) }

def toJson (s : Series) : Value :=
  .object [
    ("name", .string s.name),
    ("tags", .object (s.tags.toList.map fun (k, v) => (k, .string v))),
    ("columns", .array (s.columns.map .string)),
    ("values", .array (s.rows.map .array))]

end Series

private def errorMember (error : Option String) : List (String × Value) :=
  match error with
  | some text => [("error", .string text)]
  | none => []

namespace Result

def ofTree? (t : Tree) : Option Result := do
  let r ← Record.ofTree? ["statement_id", "series", "error"] false t
  pure {
    statement := ← r.withDefault "statement_id" 0 (Tree.nat? (Nat.pow 2 64))
    series := ← r.withDefault "series" [] (Tree.list? Series.ofTree?)
    error := ← r.withDefault "error" none (Tree.option? Tree.string?) }

def toJson (r : Result) : Value :=
  .object ([
    ("statement_id", .nat r.statement),
    ("series", .array (r.series.map Series.toJson))] ++ errorMember r.error)

end Result

namespace Response

def ofTree? (t : Tree) : Option Response := do
  let r ← Record.ofTree? ["results", "error"] false t
  pure {
    results := ← r.withDefault "results" [] (Tree.list? Result.ofTree?)
    error := ← r.withDefault "error" none (Tree.option? Tree.string?) }

def toJson (r : Response) : Value :=
  .object (("results", .array (r.results.map Result.toJson)) :: errorMember r.error)

/-- Reads the text of an answer. -/
def read? (s : String) : Option Response := (Tree.read? s).bind ofTree?

end Response

/-- Reads the text of one series. -/
def Series.read? (s : String) : Option Series := (Tree.read? s).bind Series.ofTree?

end SeriesReplica.Query
