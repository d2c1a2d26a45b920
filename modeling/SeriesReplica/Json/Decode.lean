import SeriesReplica.Json.Value

/-!
Taking JSON values apart. A decoder reads a value of its type from a JSON value, or says what it
expected to find there.
-/
namespace SeriesReplica.Json

/-- Reads a value of type `α` from a JSON value. -/
abbrev Decoder (α : Type) := ReaderT Value (Except String) α

namespace Decoder
variable {α : Type}

/-- Reads what a partial function finds. -/
def expect (what : String) (find? : Value → Option α) : Decoder α := fun v =>
  match find? v with
  | some a => .ok a
  | none => .error (what ++ " expected")

def text : Decoder String := expect "text" Value.string?

def bool : Decoder Bool := expect "truth value" Value.bool?

def int : Decoder Int := expect "integer" fun
  | .number (.int i) => some i
  | _ => none

def nat : Decoder Nat := expect "natural number" fun
  | .number (.int i) => if 0 ≤ i then some i.toNat else none
  | _ => none

/-- A natural number of 32 bits. -/
def word : Decoder UInt32 := expect "32-bit number" fun
  | .number (.int i) => if 0 ≤ i ∧ i < Nat.pow 2 32 then some (.ofNat i.toNat) else none
  | _ => none

def int64 : Decoder Int64 := expect "64-bit integer" fun v => v.number?.bind (·.toInt64?)

def items : Decoder (List Value) := expect "list" fun
  | .array items => some items
  | _ => none

def members : Decoder (List (String × Value)) := expect "object" fun
  | .object members => some members
  | _ => none

/-- The items of a list, each read in one way. -/
def list (d : Decoder α) : Decoder (List α) := do (← items).mapM fun v => d v

/-- The members of an object with their names, each read in one way. -/
def entries (d : Decoder α) : Decoder (List (String × α)) := do
  (← members).mapM fun (k, v) => do pure (k, ← d v)

/-- Null, or a value. -/
def nullable (d : Decoder α) : Decoder (Option α) := fun v =>
  if v.isNull then .ok none else (d v).map some

private def member (name : String) : Value → Value
  | .object members => (members.lookup name).getD .null
  | _ => .null

/-- A member of an object; a missing one is read as null. -/
def field (name : String) (d : Decoder α) : Decoder α := fun v => d (member name v)

/-- A member that may be missing or null. -/
def field? (name : String) (d : Decoder α) : Decoder (Option α) := field name (nullable d)

/-- A member that has a value when it is missing or null. -/
def fieldD (name : String) (missing : α) (d : Decoder α) : Decoder α := do
  pure ((← field? name d).getD missing)

end Decoder
end SeriesReplica.Json
