import SeriesReplica.Cluster.Fault

/-!
What part of the master an operation covers, and the names it takes on the slave.
-/
namespace SeriesReplica.Agent
open Cluster Schema

/-- Patterns on names, and other names for the copy. -/
structure Scope where
  database : String
  policy : String
  measurement : String
  newDatabase : Option String
  newPolicy : Option String
  deriving DecidableEq

namespace Scope

/-- The filter by the scope's patterns. -/
def filter (s : Scope) : Except Fault Filter :=
  (Filter.ofPatterns s.database s.policy s.measurement).mapError .filter

/-- Whether the copy takes other names; an empty name is none. -/
def renames (s : Scope) : Bool := s.newDatabase.any (· ≠ "") || s.newPolicy.any (· ≠ "")

/-- Gives the selected database its other names; there has to be exactly one. -/
def apply (s : Scope) (ds : List Database) : Except Fault (List Database) :=
  if !s.renames then .ok ds
  else if ds.length ≠ 1 then .error (.ambiguousRename ds.length)
  else .ok (ds.map fun d => d.rename s.newDatabase s.newPolicy)

end Scope

/-- The window of a copy. -/
inductive Range where
  | window (start stop : Time.Instant)
  /-- All that each policy can hold. -/
  | full
  deriving DecidableEq

end SeriesReplica.Agent
