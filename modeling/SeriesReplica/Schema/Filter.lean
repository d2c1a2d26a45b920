import SeriesReplica.Pattern.Read

/-!
Selecting databases, retention policies and measurements by patterns on their names.
-/
namespace SeriesReplica.Schema
open Pattern

/-- What a pattern is applied to. -/
inductive FilterKind where
  | database
  | policy
  | measurement
  deriving DecidableEq, Repr

def FilterKind.name : FilterKind → String
  | .database => "database"
  | .policy => "retention policy"
  | .measurement => "measurement"

/-- A pattern that cannot be read. -/
structure FilterError where
  kind : FilterKind
  pattern : String
  deriving DecidableEq, Repr

/-- Patterns on names; where there is none, every name is selected. -/
structure Filter where
  database : Option Expr
  policy : Option Expr
  measurement : Option Expr

namespace Filter

/-- Selects everything. -/
def all : Filter := ⟨none, none, none⟩

private def read (kind : FilterKind) (pattern : String) : Except FilterError (Option Expr) :=
  if pattern = "" then .ok none
  else
    match Expr.read? pattern with
    | some e => .ok (some e)
    | none => .error ⟨kind, pattern⟩

/-- Reads the three patterns in order; an empty one selects everything. -/
def ofPatterns (database policy measurement : String) : Except FilterError Filter := do
  pure {
    database := ← read .database database
    policy := ← read .policy policy
    measurement := ← read .measurement measurement }

private def selects (pattern : Option Expr) (name : String) : Bool := pattern.all (·.occursIn name)

def selectsDatabase (f : Filter) (name : String) : Bool := selects f.database name

def selectsPolicy (f : Filter) (name : String) : Bool := selects f.policy name

def selectsMeasurement (f : Filter) (name : String) : Bool := selects f.measurement name

end Filter
end SeriesReplica.Schema
