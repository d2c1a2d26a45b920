import SeriesReplica.Query.Duration
import SeriesReplica.Query.Statement
import SeriesReplica.Schema.Decode

/-!
What a node holds: databases with their retention policies, and in each policy the rows of
measurements by tag set and time. A row that is written again is overlaid field by field. The
first value written to a field declares its type, and values of other types are refused.
-/
namespace SeriesReplica.Node
open Point Query Schema Time

/-- Rows of a series by time. -/
abbrev Rows := Std.ExtTreeMap Int64 Fields

/-- The rows of a measurement by tag set, and the declared types of its fields. -/
structure StoredMeasurement where
  types : FieldTypes
  series : Std.ExtTreeMap Tags Rows Tags.compare

/-- A retention policy and what is stored in it. -/
structure StoredPolicy where
  spec : PolicySpec
  measurements : Std.ExtTreeMap String StoredMeasurement

/-- A database; its default policy takes the points that name none. -/
structure StoredDatabase where
  default : Option String
  policies : Std.ExtTreeMap String StoredPolicy

/-- The databases of a node. -/
structure Store where
  databases : Std.ExtTreeMap String StoredDatabase

/-- A value that does not have the declared type of its field. -/
structure TypeConflict where
  field : String
  written : FieldType
  declared : FieldType
  deriving DecidableEq, Repr

/-- Why a store refuses a statement or a batch. -/
inductive StoreError where
  | noDatabase (name : String)
  | noPolicy (name : String)
  | databaseRequired
  /-- A database exists whose policy of that name has other parameters. -/
  | policyDiffers
  /-- A policy of that name exists with other parameters. -/
  | policyExists
  | conflict (measurement : String) (conflict : TypeConflict)
  deriving DecidableEq, Repr

def StoreError.message : StoreError → String
  | .noDatabase name => "database not found: " ++ name
  | .noPolicy name => "retention policy not found: " ++ name
  | .databaseRequired => "database name required"
  | .policyDiffers => "retention policy conflicts with an existing policy"
  | .policyExists => "retention policy already exists"
  | .conflict measurement c =>
    "field type conflict: input field \"" ++ c.field ++ "\" on measurement \"" ++ measurement ++
      "\" is type " ++ c.written.name ++ ", already exists as type " ++ c.declared.name

namespace StoredMeasurement

def empty : StoredMeasurement := ⟨∅, ∅⟩

/-- Declares fields in order, up to the first that is declared with another type. -/
def declareFields (types : FieldTypes) :
    List (String × FieldValue) → FieldTypes × Option TypeConflict
  | [] => (types, none)
  | (k, v) :: rest =>
    match types[k]? with
    | none => declareFields (types.insert k v.type) rest
    | some t => if t = v.type then declareFields types rest else (types, some ⟨k, v.type, t⟩)

/-- The row of a tag set at a time, without fields if there is none. -/
def row (m : StoredMeasurement) (tags : Tags) (time : Int64) : Fields :=
  ((m.series[tags]?.getD ∅)[time]?).getD ∅

/-- Overlays the row of a tag set at a time with fields. -/
def putRow (m : StoredMeasurement) (tags : Tags) (time : Int64) (fields : Fields) :
    StoredMeasurement :=
  let rows := m.series[tags]?.getD ∅
  let fields := (rows[time]?.getD ∅).insertMany fields.toList
  { m with series := m.series.insert tags (rows.insert time fields) }

/-- Writes a point. A point that is refused leaves the declarations made before its conflict. -/
def write (m : StoredMeasurement) (p : Point) : StoredMeasurement × Option TypeConflict :=
  let (types, conflict) := declareFields m.types p.fields.toList
  let m := { m with types := types }
  match conflict with
  | some c => (m, some c)
  | none => (m.putRow p.tags p.timestamp p.fields, none)

/-- The number of rows. -/
def count (m : StoredMeasurement) : Nat := (m.series.values.map (·.size)).foldr (· + ·) 0

/-- The rows of a series with times from `start` up to but not including `stop`, a cell for each
of the given fields. -/
def cells (fields : List String) (start stop : Int64) (rows : Rows) : List Row :=
  (rows.toList.filter fun (t, _) => decide (start ≤ t) && decide (t < stop)).map fun (t, row) =>
    Json.Value.int t.toInt :: fields.map fun f => (row[f]?.map (·.toJson)).getD .null

/-- A table for each tag set that has rows within a window. -/
def select (m : StoredMeasurement) (name : String) (start stop : Int64) : List Series :=
  let fields := m.types.keys
  m.series.toList.filterMap fun (tags, rows) =>
    let found := cells fields start stop rows
    if found.isEmpty then none else some ⟨name, tags, "time" :: fields, found⟩

end StoredMeasurement

namespace StoredPolicy

/-- A policy that holds nothing. -/
def ofSpec (spec : PolicySpec) : StoredPolicy := ⟨spec, ∅⟩

/-- Writes points in order, up to the first that is refused. Points without fields are passed
over. -/
def write (p : StoredPolicy) : List Point → StoredPolicy × Except StoreError Unit
  | [] => (p, .ok ())
  | pt :: rest =>
    if pt.fields.isEmpty then p.write rest
    else
      let (m, conflict) := ((p.measurements[pt.measurement]?).getD .empty).write pt
      let p := { p with measurements := p.measurements.insert pt.measurement m }
      match conflict with
      | some c => (p, .error (.conflict pt.measurement c))
      | none => p.write rest

/-- The number of rows, of one measurement or of all. -/
def count (p : StoredPolicy) : Option String → Nat
  | some m => (p.measurements[m]?.map (·.count)).getD 0
  | none => (p.measurements.values.map (·.count)).foldr (· + ·) 0

private def days (n : Nat) : Span := .ofSecs (n * 86400)

/-- The shard duration that is used: if none is set, one that goes with the policy's
duration. -/
def shardDuration (p : StoredPolicy) : Span :=
  if !p.spec.shardDuration.isZero then p.spec.shardDuration
  else if p.spec.duration.isZero || decide (days 180 ≤ p.spec.duration) then days 7
  else if days 2 ≤ p.spec.duration then days 1
  else .ofSecs 3600

end StoredPolicy

namespace StoredDatabase

def empty : StoredDatabase := ⟨none, ∅⟩

/-- Adds a policy; one of that name stays as it is. -/
def addPolicy (d : StoredDatabase) (spec : PolicySpec) (makeDefault : Bool) : StoredDatabase where
  default := if makeDefault then some spec.name else d.default
  policies := d.policies.insertIfNew spec.name (.ofSpec spec)

/-- The names of the measurements in any policy. -/
def measurements (d : StoredDatabase) : List String :=
  (Std.ExtTreeMap.unitOfList
    (d.policies.values.flatMap fun p => p.measurements.keys) compare).keys

/-- What is told of a policy. -/
def policyRow (d : StoredDatabase) (p : StoredPolicy) : Row :=
  [.string p.spec.name, .string (Duration.text p.spec.duration),
    .string (Duration.text p.shardDuration), .nat p.spec.replication.toNat,
    .bool (d.default = some p.spec.name)]

/-- The policy that takes points sent to the given name; the empty name stands for the
default. -/
def addressed (d : StoredDatabase) (name : String) : String :=
  if name = "" then d.default.getD "" else name

end StoredDatabase

namespace Store

def empty : Store := ⟨∅⟩

def database? (s : Store) (name : String) : Option StoredDatabase := s.databases[name]?

def policy? (s : Store) (database policy : String) : Option StoredPolicy :=
  (s.database? database).bind (·.policies[policy]?)

def measurement? (s : Store) (database policy measurement : String) :
    Option StoredMeasurement :=
  (s.policy? database policy).bind (·.measurements[measurement]?)

def found (s : Store) (database : String) : Except StoreError StoredDatabase :=
  match s.database? database with
  | some d => .ok d
  | none => .error (.noDatabase database)

def put (s : Store) (name : String) (d : StoredDatabase) : Store := ⟨s.databases.insert name d⟩

/-- Adds a database without policies; one of that name stays as it is. -/
def addDatabase (s : Store) (name : String) : Store := ⟨s.databases.insertIfNew name .empty⟩

/-- Adds a policy, and its database if there is none. -/
def addPolicy (s : Store) (database : String) (spec : PolicySpec) (makeDefault : Bool) : Store :=
  s.put database (((s.database? database).getD .empty).addPolicy spec makeDefault)

/-- The number of rows in a policy, of one measurement or of all. -/
def count (s : Store) (database policy : String) (measurement : Option String) : Nat :=
  ((s.policy? database policy).map (·.count measurement)).getD 0

/-- Writes a batch in order, up to the first point that is refused. -/
def write (s : Store) (b : Batch) : Store × Except StoreError Unit :=
  match s.database? b.database with
  | none => (s, .error (.noDatabase b.database))
  | some d =>
    let name := d.addressed b.policy
    match d.policies[name]? with
    | none => (s, .error (.noPolicy name))
    | some p =>
      let (p, result) := p.write b.points
      (s.put b.database { d with policies := d.policies.insert name p }, result)

/-- Creates a database with a default policy. -/
def createDatabase (s : Store) (name : String) (default : PolicySpec) : Except StoreError Store :=
  match s.database? name with
  | some d =>
    match d.policies[default.name]? with
    | some p => if p.spec = default then .ok s else .error .policyDiffers
    | none => .ok s
  | none => .ok (s.put name (StoredDatabase.empty.addPolicy default true))

/-- Creates a policy; one that is there already must have the same parameters. -/
def createPolicy (s : Store) (database : String) (spec : PolicySpec) (makeDefault : Bool) :
    Except StoreError Store := do
  let d ← s.found database
  if d.policies[spec.name]?.any (·.spec ≠ spec) then .error .policyExists
  else pure (s.put database (d.addPolicy spec makeDefault))

/-- Makes a policy the default of its database. -/
def setDefaultPolicy (s : Store) (database name : String) : Except StoreError Store := do
  let d ← s.found database
  if d.policies.contains name then pure (s.put database { d with default := some name })
  else .error (.noPolicy name)

def showDatabases (s : Store) : Response :=
  .single [.untagged "databases" ["name"] (s.databases.keys.map fun n => [.string n])]

def showPolicies (s : Store) (database : String) : Except StoreError Response := do
  let d ← s.found database
  pure (.single [.untagged "" ["name", "duration", "shardGroupDuration", "replicaN", "default"]
    (d.policies.values.map d.policyRow)])

def showMeasurements (s : Store) : Option String → Except StoreError Response
  | none => .error .databaseRequired
  | some database => do
    let d ← s.found database
    let names := d.measurements
    if names.isEmpty then pure (.single [])
    else pure (.single [.untagged "measurements" ["name"] (names.map fun n => [.string n])])

def addressedMeasurement? (s : Store) (database : Option String)
    (policy measurement : String) : Option StoredMeasurement :=
  database.bind fun d => s.measurement? d policy measurement

def showFieldKeys (s : Store) (database : Option String) (policy measurement : String) :
    Response :=
  match s.addressedMeasurement? database policy measurement with
  | none => .single []
  | some m =>
    .single [.untagged measurement ["fieldKey", "fieldType"]
      (m.types.toList.map fun (k, t) => [.string k, .string t.name])]

/-- The rows of a measurement from `start` up to but not including `stop`. -/
def selectWindow (s : Store) (database : Option String) (policy measurement : String)
    (start stop : Instant) : Response :=
  match s.addressedMeasurement? database policy measurement with
  | none => .single []
  | some m =>
    if stop.epochNanos ≤ start.epochNanos then .single []
    else .single (m.select measurement start.epochNanos stop.epochNanos)

/-- The store after a statement that is refused or changes it. -/
def changed (s : Store) (result : Except StoreError Store) :
    Store × Except StoreError Response :=
  match result with
  | .ok s => (s, .ok (.single []))
  | .error e => (s, .error e)

/-- Executes a statement. -/
def execute (s : Store) (r : Request) : Store × Except StoreError Response :=
  match r.statement with
  | .showDatabases => (s, .ok s.showDatabases)
  | .showPolicies database => (s, s.showPolicies database)
  | .showMeasurements => (s, s.showMeasurements r.database)
  | .showFieldKeys policy measurement =>
    (s, .ok (s.showFieldKeys r.database policy measurement))
  | .selectWindow policy measurement start stop =>
    (s, .ok (s.selectWindow r.database policy measurement start stop))
  | .createDatabase database default => s.changed (s.createDatabase database default)
  | .createPolicy database spec makeDefault =>
    s.changed (s.createPolicy database spec makeDefault)
  | .setDefaultPolicy database name => s.changed (s.setDefaultPolicy database name)

end Store
end SeriesReplica.Node
