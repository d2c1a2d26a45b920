import SeriesReplica.Concurrent.Effect
import SeriesReplica.Node.Store

/-!
A node that keeps everything in memory. It can be taken off line, and its next reads or writes
can be made to fail; a call that fails in this way changes nothing in the store.
-/
namespace SeriesReplica.Node
open Concurrent Query

/-- A node in memory. -/
structure MemoryNode where
  name : String
  isOnline : Bool
  /-- How many more window reads fail. -/
  readFailures : Nat
  /-- How many more writes fail. -/
  writeFailures : Nat
  /-- Writes that reached the node, failed or not. -/
  writeCalls : Nat
  store : Store
  /-- The texts of the changing statements that reached the node, in order. -/
  statements : List String

namespace MemoryNode

/-- An empty node that is on line. -/
def ofName (name : String) : MemoryNode := ⟨name, true, 0, 0, 0, .empty, []⟩

def version : String := "1.8.10-memory"

def setOnline (n : MemoryNode) (online : Bool) : MemoryNode := { n with isOnline := online }

/-- Lets the next window reads fail. -/
def failReads (n : MemoryNode) (count : Nat) : MemoryNode := { n with readFailures := count }

/-- Lets the next writes fail. -/
def failWrites (n : MemoryNode) (count : Nat) : MemoryNode := { n with writeFailures := count }

/-- Adds a database without policies. -/
def addDatabase (n : MemoryNode) (database : String) : MemoryNode :=
  { n with store := n.store.addDatabase database }

/-- Adds a policy, and its database if there is none. -/
def addPolicy (n : MemoryNode) (database : String) (spec : PolicySpec) (makeDefault : Bool) :
    MemoryNode :=
  { n with store := n.store.addPolicy database spec makeDefault }

def refused {α : Type} (result : Except StoreError α) : Except Error α :=
  result.mapError fun e => .statement e.message

/-- Stores points whatever state the node is in. -/
def insert (n : MemoryNode) (b : Batch) : Except Error Unit × MemoryNode :=
  let (store, result) := n.store.write b
  (refused result, { n with store := store })

/-- Why nothing reaches a node that is off line. -/
def down (name : String) : Error := .unavailable (name ++ " is down")

def isWindowRead : Statement → Bool
  | .selectWindow .. => true
  | _ => false

/-- Executes a statement on a node that is on line. -/
def execute (n : MemoryNode) (r : Request) : Except Error Response × MemoryNode :=
  let n := if r.statement.isMutation then { n with statements := n.statements ++ [r.command] }
    else n
  match isWindowRead r.statement, n.readFailures with
  | true, left + 1 =>
    (.error (.unavailable (n.name ++ ": injected read failure")), { n with readFailures := left })
  | _, _ =>
    let (store, result) := n.store.execute r
    (refused result, { n with store := store })

def ping (n : MemoryNode) : Except Error Pong :=
  if n.isOnline then .ok ⟨.zero, version⟩ else .error (down n.name)

def query (n : MemoryNode) (r : Request) : Except Error Response × MemoryNode :=
  if n.isOnline then n.execute r else (.error (down n.name), n)

def write (n : MemoryNode) (b : Batch) : Except Error Unit × MemoryNode :=
  if n.isOnline then
    let n := { n with writeCalls := n.writeCalls + 1 }
    match n.writeFailures with
    | left + 1 =>
      (.error (.unavailable (n.name ++ ": injected write failure")),
        { n with writeFailures := left })
    | 0 => n.insert b
  else (.error (down n.name), n)

/-- Answers a call, at once. -/
def call (n : MemoryNode) : (c : NodeCall) → Except Error c.Reply × MemoryNode
  | .ping => (n.ping, n)
  | .query r => n.query r
  | .write b => n.write b

end MemoryNode
end SeriesReplica.Node
