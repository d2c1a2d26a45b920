import SeriesReplica.Node.Error
import SeriesReplica.Point.Basic

/-!
Answers to statements: one result a statement, each a list of tabular series or an error.
-/
namespace SeriesReplica.Query

/-- One row of cells. -/
abbrev Row := List Json.Value

/-- A table of rows that share a name and tags. -/
structure Series where
  name : String
  tags : Point.Tags
  columns : List String
  rows : List Row
  deriving BEq, Inhabited

/-- The answer to one statement. -/
structure Result where
  statement : Nat
  series : List Series
  error : Option String
  deriving Inhabited

/-- The answer to a request. -/
structure Response where
  results : List Result
  error : Option String
  deriving Inhabited

namespace Series

/-- A table without tags. -/
def untagged (name : String) (columns : List String) (rows : List Row) : Series :=
  ⟨name, ∅, columns, rows⟩

/-- The position of a column. -/
def column? (s : Series) (name : String) : Option Nat := s.columns.findIdx? (· = name)

end Series

namespace Response

/-- The answer to a single statement. -/
def single (series : List Series) : Response := ⟨[⟨0, series, none⟩], none⟩

/-- The first error, of the request or of a statement. -/
def error? (r : Response) : Option String := r.error <|> r.results.findSome? (·.error)

/-- Turns a reported error into a failure. -/
def check (r : Response) : Except Node.Error Response :=
  match r.error? with
  | some text => .error (.statement text)
  | none => .ok r

/-- The series of all statements. -/
def series (r : Response) : List Series := r.results.flatMap (·.series)

/-- The rows of all series. -/
def rows (r : Response) : List Row := r.series.flatMap (·.rows)

end Response
end SeriesReplica.Query
