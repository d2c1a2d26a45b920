import SeriesReplica.Time.Instant

/-!
The statements an agent sends to a node, and their text in InfluxQL. Identifiers stand between
double quotes, with a backslash before quotes and backslashes inside them.
-/
namespace SeriesReplica.Query
open Text Time

/-- Parameters of a retention policy. A zero duration keeps data for ever; a zero shard
duration leaves the choice to the server. -/
structure PolicySpec where
  name : String
  duration : Span
  shardDuration : Span
  replication : UInt32
  deriving DecidableEq, Repr

/-- A statement for a node. -/
inductive Statement where
  | showDatabases
  | showPolicies (database : String)
  | showMeasurements
  | showFieldKeys (policy measurement : String)
  /-- All fields of a measurement from `start` up to but not including `stop`, by series. -/
  | selectWindow (policy measurement : String) (start stop : Instant)
  | createDatabase (database : String) (default : PolicySpec)
  | createPolicy (database : String) (policy : PolicySpec) (makeDefault : Bool)
  | setDefaultPolicy (database name : String)
  deriving DecidableEq

/-- A statement and the database and policy it is sent to. -/
structure Request where
  statement : Statement
  database : Option String
  policy : Option String
  deriving DecidableEq

/-- An identifier between double quotes. -/
def quote (cs : List Char) : List Char :=
  '"' :: cs.flatMap (fun c => if c = '"' ∨ c = '\\' then ['\\', c] else [c]) ++ ['"']

def quoteIdent (s : String) : String := String.ofList (quote s.toList)

/-- A duration in whole seconds, at least one; zero is infinite. -/
def durationClause (d : Span) : List Char :=
  if d.nanos = 0 then "INF".toList else Numeral.ofNat (max d.secs 1) ++ ['s']

namespace PolicySpec

/-- A policy with one replica and the server's shard duration. -/
def ofDuration (name : String) (duration : Span) : PolicySpec := ⟨name, duration, .zero, 1⟩

/-- The clauses after the names; there is at least one replica. -/
def clauses (p : PolicySpec) : List Char :=
  "DURATION ".toList ++ durationClause p.duration ++ " REPLICATION ".toList ++
    Numeral.ofNat (max p.replication.toNat 1) ++
    if p.shardDuration.nanos = 0 then []
    else " SHARD DURATION ".toList ++ durationClause p.shardDuration

end PolicySpec

namespace Statement

/-- The text of a statement. -/
def chars : Statement → List Char
  | .showDatabases => "SHOW DATABASES".toList
  | .showPolicies db => "SHOW RETENTION POLICIES ON ".toList ++ quote db.toList
  | .showMeasurements => "SHOW MEASUREMENTS".toList
  | .showFieldKeys rp m =>
    "SHOW FIELD KEYS FROM ".toList ++ quote rp.toList ++ '.' :: quote m.toList
  | .selectWindow rp m start stop =>
    "SELECT * FROM ".toList ++ quote rp.toList ++ '.' :: quote m.toList ++
      " WHERE time >= ".toList ++ Numeral.ofInt start.epochNanos.toInt ++
      " AND time < ".toList ++ Numeral.ofInt stop.epochNanos.toInt ++ " GROUP BY *".toList
  | .createDatabase db default =>
    "CREATE DATABASE ".toList ++ quote db.toList ++ " WITH ".toList ++ default.clauses ++
      " NAME ".toList ++ quote default.name.toList
  | .createPolicy db policy makeDefault =>
    "CREATE RETENTION POLICY ".toList ++ quote policy.name.toList ++ " ON ".toList ++
      quote db.toList ++ ' ' :: policy.clauses ++
      if makeDefault then " DEFAULT".toList else []
  | .setDefaultPolicy db name =>
    "ALTER RETENTION POLICY ".toList ++ quote name.toList ++ " ON ".toList ++
      quote db.toList ++ " DEFAULT".toList

def text (s : Statement) : String := String.ofList s.chars

/-- Whether the statement changes the node. -/
def isMutation : Statement → Bool
  | .createDatabase .. | .createPolicy .. | .setDefaultPolicy .. => true
  | _ => false

end Statement

namespace Request

def ofStatement (s : Statement) : Request := ⟨s, none, none⟩

def onDatabase (r : Request) (database : String) : Request := { r with database := some database }

def onPolicy (r : Request) (policy : String) : Request := { r with policy := some policy }

def command (r : Request) : String := r.statement.text

end Request
end SeriesReplica.Query
