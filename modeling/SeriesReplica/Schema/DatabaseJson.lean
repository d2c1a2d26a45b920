import SeriesReplica.Json.Record
import SeriesReplica.Schema.Database

/-!
Schemas in JSON. Lengths of time are records of seconds and nanoseconds, and a field type is
its name.
-/
namespace SeriesReplica.Schema
open Json Time Point

/-- Seconds and nanoseconds. -/
def spanToJson (d : Span) : Value := .object [("secs", .nat d.secs), ("nanos", .nat d.subsec)]

/-- Reads seconds and nanoseconds; whole seconds among the nanoseconds are carried over. -/
def spanOfTree? (t : Tree) : Option Span := do
  let r ← Record.ofTree? ["secs", "nanos"] true t
  let secs ← r.required "secs" (Tree.nat? (Nat.pow 2 64))
  let nanos ← r.required "nanos" (Tree.nat? (Nat.pow 2 32))
  if secs + nanos / nanosPerSec < Nat.pow 2 64 then some (.ofParts secs nanos) else none

/-- A declared name as it is written, or as the only member of an object, with null. -/
private def fieldTypeOfTree? : Tree → Option FieldType
  | .string (some s) => ofExactName? s
  | .object [(some s, .null)] => ofExactName? s
  | _ => none
where
  ofExactName? (s : String) : Option FieldType :=
    if s = "unsigned" then none else FieldType.ofName? s

private def fieldOfTree? (t : Tree) : Option FieldType := do
  let r ← Record.ofTree? ["name", "field_type"] false t
  let _ ← r.required "name" Tree.string?
  r.required "field_type" fieldTypeOfTree?

private def measurementOfTree? (t : Tree) : Option FieldTypes := do
  let r ← Record.ofTree? ["name", "fields"] false t
  let _ ← r.required "name" Tree.string?
  r.required "fields" (Tree.map? fieldOfTree?)

private def measurementToJson (name : String) (types : FieldTypes) : Value :=
  .object [
    ("name", .string name),
    ("fields", .object (types.toList.map fun (k, t) =>
      (k, .object [("name", .string k), ("field_type", .string t.name)])))]

namespace Policy

def ofTree? (t : Tree) : Option Policy := do
  let r ← Record.ofTree?
    ["name", "duration", "shard_group_duration", "replicas", "is_default", "measurements"] false t
  pure {
    name := ← r.required "name" Tree.string?
    duration := ← r.required "duration" spanOfTree?
    shardDuration := ← r.required "shard_group_duration" spanOfTree?
    replicas := .ofNat (← r.required "replicas" (Tree.nat? (Nat.pow 2 32)))
    isDefault := ← r.required "is_default" Tree.bool?
    measurements := ← r.required "measurements" (Tree.map? measurementOfTree?) }

def toJson (p : Policy) : Value :=
  .object [
    ("name", .string p.name),
    ("duration", spanToJson p.duration),
    ("shard_group_duration", spanToJson p.shardDuration),
    ("replicas", .nat p.replicas.toNat),
    ("is_default", .bool p.isDefault),
    ("measurements", .object (p.measurements.toList.map fun (k, ts) =>
      (k, measurementToJson k ts)))]

end Policy

namespace Database

private def nameToJson : Option String → Value
  | some s => .string s
  | none => .null

def ofTree? (t : Tree) : Option Database := do
  let r ← Record.ofTree?
    ["name", "target_name", "default_rp", "target_default_rp", "retention_policies"] false t
  pure {
    name := ← r.required "name" Tree.string?
    targetName := ← r.nullable "target_name" Tree.string?
    defaultPolicyName := ← r.required "default_rp" Tree.string?
    targetDefaultPolicyName := ← r.nullable "target_default_rp" Tree.string?
    policies := ← r.required "retention_policies" (Tree.list? Policy.ofTree?) }

def toJson (d : Database) : Value :=
  .object [
    ("name", .string d.name),
    ("target_name", nameToJson d.targetName),
    ("default_rp", .string d.defaultPolicyName),
    ("target_default_rp", nameToJson d.targetDefaultPolicyName),
    ("retention_policies", .array (d.policies.map Policy.toJson))]

def read? (s : String) : Option Database := (Tree.read? s).bind ofTree?

end Database
end SeriesReplica.Schema
