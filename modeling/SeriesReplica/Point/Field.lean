import SeriesReplica.Json.Value

/-!
Typed field values: what a point may hold under a field key, the four declared types, and the
JSON form of a value.
-/
namespace SeriesReplica.Point
open Numeric

/-- The declared type of a field. -/
inductive FieldType where
  | float
  | integer
  | boolean
  | string
  deriving DecidableEq, Repr, Inhabited

namespace FieldType

def name : FieldType → String
  | .float => "float"
  | .integer => "integer"
  | .boolean => "boolean"
  | .string => "string"

/-- The type with the given name; unsigned fields are kept as integers. -/
def ofName? : String → Option FieldType
  | "float" => some .float
  | "integer" => some .integer
  | "unsigned" => some .integer
  | "boolean" => some .boolean
  | "string" => some .string
  | _ => none

@[simp] theorem ofName?_name (t : FieldType) : ofName? t.name = some t := by cases t <;> rfl

end FieldType

/-- A field value with its type. -/
inductive FieldValue where
  | float (x : Float64)
  | integer (i : Int64)
  | boolean (b : Bool)
  | string (s : String)
  deriving DecidableEq, Repr, Inhabited

namespace FieldValue

def type : FieldValue → FieldType
  | .float _ => .float
  | .integer _ => .integer
  | .boolean _ => .boolean
  | .string _ => .string

/-- The JSON form; a float that is not finite has none and becomes null. -/
def toJson : FieldValue → Json.Value
  | .float x => .float x
  | .integer i => .int i.toInt
  | .boolean b => .bool b
  | .string s => .string s

/-- Reads a JSON value as the first type that holds it. Integers are held by floats, so no
number becomes an integer field. -/
def ofJson? : Json.Value → Option FieldValue
  | .number n => some (.float n.toFloat)
  | .bool b => some (.boolean b)
  | .string s => some (.string s)
  | _ => none

end FieldValue
end SeriesReplica.Point
