import SeriesReplica.Log
import SeriesReplica.Query.Table
import SeriesReplica.Time.Text

/-!
Decoding the rows of a series into typed points by the declared types of the fields. A cell
that does not fit its type drops that field only; a row without a readable time, or left
without fields, is dropped whole, and all that is dropped is counted.
-/
namespace SeriesReplica.Schema
open Point Query Json Numeric Text Time

/-- Declared types by field key. The name that a field schema carries besides is always its key, so
it is left out. -/
abbrev FieldTypes := Std.ExtTreeMap String FieldType

/-- Why a cell, or a whole series, cannot be decoded. -/
inductive DecodeError where
  | fieldType (field : String) (expected : FieldType) (value : Value)
  | timestamp (value : Value)
  | missingTime (measurement : String)

namespace DecodeError

def message : DecodeError → String
  | .fieldType field expected value =>
    "field " ++ field ++ ": expected " ++ expected.name ++ ", got " ++ value.compact
  | .timestamp value => "unrecognized timestamp " ++ value.compact
  | .missingTime measurement => "series " ++ measurement ++ " has no time column"

end DecodeError

private def readBool? : String → Option Bool
  | "true" => some true
  | "false" => some false
  | _ => none

/-- Reads a cell as a value of the given type, from a JSON value of its kind or from text. -/
def decodeCell? : FieldType → Value → Option FieldValue
  | .float, .number n => some (.float n.toFloat)
  | .float, .string s => (Float64.read? s.toList).map .float
  | .integer, .number n => n.toInt64?.map .integer
  | .integer, .string s => (Numeral.readInt64? s.toList).map .integer
  | .boolean, .bool b => some (.boolean b)
  | .boolean, .string s => (readBool? s).map .boolean
  | .string, .string s => some (.string s)
  | _, _ => none

/-- Reads the cell of a field. -/
def decodeField (type : FieldType) (field : String) (value : Value) :
    Except DecodeError FieldValue :=
  match decodeCell? type value with
  | some v => .ok v
  | none => .error (.fieldType field type value)

/-- Reads a time in nanoseconds: an integer, its numeral, or an RFC 3339 text. -/
def decodeTime? : Value → Option Int64
  | .number n => n.toInt64?
  | .string s =>
    (Numeral.readInt64? s.toList) <|> (Rfc3339.read? s).bind Instant.epochNanos?
  | _ => none

theorem decodeCell?_type {t : FieldType} {v : Value} {x : FieldValue}
    (h : decodeCell? t v = some x) : x.type = t := by
  unfold decodeCell? at h
  split at h <;> simp [Option.map_eq_some_iff] at h <;> grind [FieldValue.type]

/-- What decoding makes of one row. -/
structure DecodedRow where
  point : Option Point
  faults : List DecodeError

/-- The declared columns of a series, by position. -/
def declaredColumns (types : FieldTypes) (columns : List String) :
    List (Nat × String × FieldType) :=
  columns.zipIdx.filterMap fun (name, i) => types[name]?.map fun type => (i, name, type)

/-- Reads the cells of a row in column order; absent and null cells are passed over. -/
def decodeCells (row : Row) :
    List (Nat × String × FieldType) → Fields → Fields × List DecodeError
  | [], fields => (fields, [])
  | (i, name, type) :: columns, fields =>
    match row[i]? with
    | none => decodeCells row columns fields
    | some cell =>
      if cell.isNull then decodeCells row columns fields
      else
        match decodeCell? type cell with
        | some v => decodeCells row columns (fields.insert name v)
        | none =>
          let (fields, faults) := decodeCells row columns fields
          (fields, .fieldType name type cell :: faults)

/-- Reads one row. -/
def decodeRow (measurement : String) (tags : Tags) (time : Nat)
    (columns : List (Nat × String × FieldType)) (row : Row) : DecodedRow :=
  match row[time]? with
  | none => ⟨none, []⟩
  | some cell =>
    match decodeTime? cell with
    | none => ⟨none, [.timestamp cell]⟩
    | some timestamp =>
      let (fields, faults) := decodeCells row columns ∅
      ⟨if fields.isEmpty then none else some ⟨measurement, tags, fields, timestamp⟩, faults⟩

/-- Decoded rows in their order. -/
structure DecodedSeries where
  measurement : String
  rows : List DecodedRow

namespace DecodedSeries

def points (d : DecodedSeries) : List Point := d.rows.filterMap (·.point)

/-- Rows without a point. -/
def droppedPoints (d : DecodedSeries) : Nat := d.rows.countP (·.point.isNone)

private def isFieldFault : DecodeError → Bool
  | .fieldType .. => true
  | _ => false

/-- Cells that did not fit their type. -/
def droppedFields (d : DecodedSeries) : Nat :=
  (d.rows.map fun r => r.faults.countP isFieldFault).foldr (· + ·) 0

/-- A warning for every fault. -/
def log (d : DecodedSeries) : List Log.Line :=
  (d.rows.flatMap (·.faults)).map fun e =>
    Log.warn (d.measurement ++ ": dropping " ++ (if isFieldFault e then "field" else "point") ++
      ": " ++ e.message)

end DecodedSeries

/-- Decodes the rows of a series of the given measurement. -/
def decodeSeries (measurement : String) (types : FieldTypes) (s : Series) :
    Except DecodeError DecodedSeries :=
  match s.column? "time" with
  | none => .error (.missingTime measurement)
  | some time =>
    let columns := declaredColumns types s.columns
    .ok ⟨measurement, s.rows.map (decodeRow measurement s.tags time columns)⟩

end SeriesReplica.Schema
