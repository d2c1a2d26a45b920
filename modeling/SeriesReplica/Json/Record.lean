import Std.Data.ExtTreeMap.Lemmas
import SeriesReplica.Json.Tree

/-!
Records in JSON: objects with known members, or arrays of the members' values in order. A
known member may stand once; other members are skipped.
-/
namespace SeriesReplica.Json

/-- The values found for the members of a record. -/
structure Record where
  slots : List (String × Option Tree)
  positional : Bool

namespace Record

/-- Puts a value into the slot of its name, if that is still free. -/
private def fill (name : String) (t : Tree) :
    List (String × Option Tree) → Option (List (String × Option Tree))
  | [] => none
  | (n, slot) :: rest =>
    if n = name then if slot.isNone then some ((n, some t) :: rest) else none
    else (fill name t rest).map ((n, slot) :: ·)

/-- Reads the members of an object; `closed` records have no others. -/
private def ofMembers (closed : Bool) (names : List String)
    (slots : List (String × Option Tree)) : List (Option String × Tree) →
    Option (List (String × Option Tree))
  | [] => some slots
  | (none, _) :: _ => none
  | (some k, t) :: ms =>
    if k ∈ names then (fill k t slots).bind (ofMembers closed names · ms)
    else if closed then none
    else ofMembers closed names slots ms

/-- Reads a record with members of the given names. -/
def ofTree? (names : List String) (closed : Bool) : Tree → Option Record
  | .object members =>
    (ofMembers closed names (names.map fun n => (n, none)) members).map fun s => ⟨s, false⟩
  | .array items =>
    if items.length ≤ names.length then
      let slots := items.map some ++ List.replicate (names.length - items.length) none
      some ⟨names.zip slots, true⟩
    else none
  | _ => none

private def slot (r : Record) (name : String) : Option Tree := (r.slots.lookup name).join

/-- A member that has to be there. -/
def required {α : Type} (r : Record) (name : String) (read : Tree → Option α) : Option α :=
  (r.slot name).bind read

/-- A member with a value for when it is missing. -/
def withDefault {α : Type} (r : Record) (name : String) (value : α) (read : Tree → Option α) :
    Option α :=
  match r.slot name with
  | some t => read t
  | none => some value

/-- A member that may be null, and missing unless the record is an array. -/
def nullable {α : Type} (r : Record) (name : String) (read : Tree → Option α) :
    Option (Option α) :=
  match r.slot name with
  | some .null => some none
  | some t => (read t).map some
  | none => if r.positional then none else some none

end Record

namespace Tree

def string? : Tree → Option String
  | .string s => s
  | _ => none

def bool? : Tree → Option Bool
  | .bool b => some b
  | _ => none

/-- A natural number below the bound, written without fraction and exponent. -/
def nat? (bound : Nat) : Tree → Option Nat
  | .number n =>
    match n.value? with
    | some (.int i) => if 0 ≤ i ∧ i < bound then some i.toNat else none
    | _ => none
  | _ => none

/-- The items of an array, each read in the given way. -/
def list? {α : Type} (read : Tree → Option α) : Tree → Option (List α)
  | .array items => items.mapM read
  | _ => none

/-- The members of an object, each read in the given way. -/
def members? {α : Type} (read : Tree → Option α) : Tree → Option (List (String × α))
  | .object members => members.mapM fun (k, t) => do pure (← k, ← read t)
  | _ => none

/-- A map from texts; of members with one key the last counts. -/
def map? {α : Type} (read : Tree → Option α) (t : Tree) : Option (Std.ExtTreeMap String α) :=
  (t.members? read).map fun ms => ms.foldl (fun m (k, v) => m.insert k v) ∅

/-- Null, or a value read in the given way. -/
def option? {α : Type} (read : Tree → Option α) : Tree → Option (Option α)
  | .null => some none
  | t => (read t).map some

end Tree
end SeriesReplica.Json
