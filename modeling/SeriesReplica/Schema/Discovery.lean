import SeriesReplica.Concurrent.Effect
import SeriesReplica.Json.Shown
import SeriesReplica.Query.Duration
import SeriesReplica.Schema.Database
import SeriesReplica.Schema.Filter

/-!
Finding out what a node holds. Only a failure to list the databases is an error; whatever else
cannot be listed or read is logged and left out. The default policy of a database is kept even
if the filter does not select it, but then without measurements.
-/
namespace SeriesReplica.Schema
open Concurrent Query Json Point Time

/-- The databases of a node could not be listed. -/
structure DiscoveryError where
  node : String
  cause : Node.Error
  deriving DecidableEq, Repr

def DiscoveryError.message (e : DiscoveryError) : String :=
  "Schema discovery failed on " ++ e.node ++ ": " ++ e.cause.message

/-- The texts in the first column of all rows. -/
def firstTexts (r : Response) : List String :=
  r.rows.filterMap fun row => row.head?.bind Value.string?

/-- Where the parameters of policies stand in a table. -/
structure PolicyColumns where
  name : Nat
  duration : Nat
  default : Nat
  shard : Option Nat
  replicas : Option Nat

/-- The columns of a table of policies, of which the shard duration and the number of replicas
may be missing. -/
def PolicyColumns.ofSeries? (s : Series) : Option PolicyColumns := do
  pure {
    name := ← s.column? "name"
    duration := ← s.column? "duration"
    default := ← s.column? "default"
    shard := s.column? "shardGroupDuration"
    replicas := s.column? "replicaN" }

/-- Reads a length of time from a cell; a missing one is infinite. -/
def readSpan (cell : Option Value) : Except Node.Error Span :=
  let text := (cell.bind Value.string?).getD ""
  match Duration.read? text with
  | some d => .ok d
  | none => .error (.protocol (Duration.refusal text))

/-- Reads one row of a table of policies. Rows without a name are passed over, and those with an
unreadable length of time are refused. -/
def PolicyColumns.read (cols : PolicyColumns) (row : Row) :
    Option (Except (String × Node.Error) Policy) :=
  (row[cols.name]?.bind Value.string?).map fun name => do
    let duration ← (readSpan row[cols.duration]?).mapError (name, ·)
    let shard ← (readSpan (cols.shard.bind (row[·]?))).mapError (name, ·)
    let replicas := (cols.replicas.bind (row[·]?)).bind fun v =>
      v.number?.bind Number.toNat64?
    pure {
      name := name
      duration := duration
      shardDuration := shard
      replicas := .ofNat (replicas.getD 1)
      isDefault := (row[cols.default]?.bind Value.bool?).getD false
      measurements := ∅ }

/-- The policies in tables, and what is logged about rows that are refused. A table without the
needed columns ends the reading. -/
def readPolicies (node database : String) :
    List Series → List Log.Line × Except Node.Error (List Policy)
  | [] => ([], .ok [])
  | s :: rest =>
    match PolicyColumns.ofSeries? s with
    | none =>
      let columns := String.ofList (Shown.list (s.columns.map Shown.text))
      ([], .error (.protocol ("unexpected retention policy columns: " ++ columns)))
    | some cols =>
      let read := s.rows.filterMap cols.read
      let log := read.filterMap fun
        | .ok _ => none
        | .error (name, e) =>
          some (Log.error ("[" ++ node ++ "] skipping retention policy " ++ database ++ "." ++
            name ++ ": " ++ e.message))
      let (moreLog, more) := readPolicies node database rest
      (log ++ moreLog, more.map (read.filterMap Except.toOption ++ ·))

/-- The declared field that a row tells of. -/
def fieldOfRow? (row : Row) : Option (String × FieldType) := do
  let key ← row.head?.bind Value.string?
  let type ← (row[1]?.bind Value.string?).bind FieldType.ofName?
  pure (key, type)

/-- The declared fields that rows tell of. -/
def readFields (rows : List Row) : FieldTypes :=
  (rows.filterMap fieldOfRow?).foldl (fun ts (k, t) => ts.insert k t) ∅

/-- What is logged about rows that tell of no declared field. -/
def unreadFields (node database policy measurement : String) (rows : List Row) :
    List Log.Line :=
  (rows.filter fun row => (fieldOfRow? row).isNone).map fun row =>
    Log.warn ("[" ++ node ++ "] unrecognized field key row " ++
      String.ofList (Shown.list (Shown.values row)) ++ " in " ++ database ++ "." ++ policy ++
      "." ++ measurement)

namespace Discovery

/-- Lists the policies of a database. -/
def policies (e : Endpoint) (database : String) : Routine (Except Node.Error (List Policy)) := do
  match ← Routine.query e.client (.ofStatement (.showPolicies database)) none with
  | .error cause => pure (.error cause)
  | .ok response =>
    let (log, found) := readPolicies e.name database response.series
    Routine.logAll log
    pure found

/-- Lists the measurements of a database. -/
def measurements (e : Endpoint) (database : String) :
    Routine (Except Node.Error (List String)) := do
  match ← Routine.query e.client ((Request.ofStatement .showMeasurements).onDatabase database)
      none with
  | .error cause => pure (.error cause)
  | .ok response => pure (.ok (firstTexts response))

/-- Lists the declared fields of a measurement in a policy. -/
def fields (e : Endpoint) (database policy measurement : String) :
    Routine (Except Node.Error FieldTypes) := do
  let request := (Request.ofStatement (.showFieldKeys policy measurement)).onDatabase database
  match ← Routine.query e.client request none with
  | .error cause => pure (.error cause)
  | .ok response =>
    Routine.logAll (unreadFields e.name database policy measurement response.rows)
    pure (.ok (readFields response.rows))

/-- Adds the measurements with declared fields to a policy. -/
def fillPolicy (e : Endpoint) (database : String) (p : Policy) :
    List String → Routine Policy
  | [] => pure p
  | m :: ms => do
    match ← fields e database p.name m with
    | .ok types =>
      let found := if types.isEmpty then p.measurements else p.measurements.insert m types
      fillPolicy e database { p with measurements := found } ms
    | .error cause =>
      Routine.log (Log.warn ("[" ++ e.name ++ "] cannot list field keys of " ++ database ++ "." ++
        p.name ++ "." ++ m ++ ": " ++ cause.message))
      fillPolicy e database p ms

/-- Adds measurements to the policies that the filter selects. -/
def fillPolicies (e : Endpoint) (f : Filter) (database : String) (names : List String) :
    List Policy → Routine (List Policy)
  | [] => pure []
  | p :: ps => do
    let filled ← if f.selectsPolicy p.name then fillPolicy e database p names else pure p
    let rest ← fillPolicies e f database names ps
    pure (filled :: rest)

/-- Lists the measurements that the filter selects; if they cannot be listed there are none. -/
def selectedMeasurements (e : Endpoint) (f : Filter) (database : String) :
    Routine (List String) := do
  match ← measurements e database with
  | .ok names => pure (names.filter f.selectsMeasurement)
  | .error cause =>
    Routine.log (Log.error ("[" ++ e.name ++ "] cannot list measurements on " ++ database ++ ": " ++
      cause.message))
    pure []

private def foundNotice (node : String) (d : Database) : Log.Line :=
  Log.info ("[" ++ node ++ "] discovered database " ++ d.name ++ " (default rp " ++
    d.defaultPolicyName ++ ", " ++ toString d.policies.length ++ " retention policies)")

/-- Finds out what a database holds. A database whose policies cannot be listed, or without
exactly one default among them, is left out. -/
def database (e : Endpoint) (f : Filter) (name : String) : Routine (Option Database) := do
  match ← policies e name with
  | .error cause =>
    Routine.log (Log.error ("[" ++ e.name ++ "] cannot list retention policies on " ++ name ++
      ": " ++ cause.message))
    pure none
  | .ok ps =>
    let defaults := ps.countP (·.isDefault)
    if defaults ≠ 1 then
      Routine.log (Log.error ("[" ++ e.name ++ "] database " ++ name ++ " has " ++
        toString defaults ++ " default retention policies, skipping"))
      pure none
    else
      let kept := ps.filter fun p => p.isDefault || f.selectsPolicy p.name
      let names ← selectedMeasurements e f name
      let d := Database.ofPolicies name (← fillPolicies e f name names kept)
      Routine.log (foundNotice e.name d)
      pure (some d)

/-- Finds out what databases hold, apart from the internal one and those the filter leaves
out. -/
def databases (e : Endpoint) (f : Filter) : List String → Routine (List Database)
  | [] => pure []
  | name :: names => do
    if name = internalDatabase then databases e f names
    else if !f.selectsDatabase name then
      Routine.log (Log.debug ("[" ++ e.name ++ "] database " ++ name ++ " filtered out"))
      databases e f names
    else
      let found ← database e f name
      let rest ← databases e f names
      pure (found.toList ++ rest)

end Discovery

/-- Finds out what a node holds. -/
def discover (e : Endpoint) (f : Filter) : Routine (Except DiscoveryError (List Database)) := do
  match ← Routine.query e.client (.ofStatement .showDatabases) none with
  | .error cause => pure (.error ⟨e.name, cause⟩)
  | .ok response =>
    let found ← Discovery.databases e f (firstTexts response)
    pure (.ok found)

end SeriesReplica.Schema
