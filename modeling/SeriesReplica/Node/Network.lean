import SeriesReplica.Concurrent.Machine
import SeriesReplica.Node.Memory
import SeriesReplica.Node.Scripted

/-!
Simulated nodes that are reached by their names. A connection is good for as long as the node
exists, whether it is on line or not.
-/
namespace SeriesReplica.Node
open Concurrent Time

/-- A node without a network. -/
inductive Simulated where
  | memory (node : MemoryNode)
  | scripted (node : ScriptedNode)

namespace Simulated

def name : Simulated → String
  | .memory n => n.name
  | .scripted n => n.name

/-- Answers an attempt to connect. -/
def connect : Simulated → (Span × Except Error Unit) × Simulated
  | .memory n => ((.zero, if n.isOnline then .ok () else .error (MemoryNode.down n.name)), .memory n)
  | .scripted n =>
    let (reply, n) := n.connect
    (reply, .scripted n)

/-- Answers a call. -/
def call (n : Simulated) (c : NodeCall) : (Span × Except Error c.Reply) × Simulated :=
  match n with
  | .memory n =>
    let (reply, n) := n.call c
    ((.zero, reply), .memory n)
  | .scripted n =>
    let (reply, n) := n.call c
    (reply, .scripted n)

end Simulated

/-- Nodes; a connection holds the position of its node. -/
structure Network where
  nodes : List Simulated

namespace Network

/-- The connection to the node of the given name. -/
def client? (net : Network) (name : String) : Option Client :=
  (net.nodes.findIdx? (·.name = name)).map Client.mk

def node? (net : Network) (c : Client) : Option Simulated := net.nodes[c.id]?

def put (net : Network) (c : Client) (n : Simulated) : Network := ⟨net.nodes.set c.id n⟩

/-- Connects to a node by its name. -/
def connect (name : String) (net : Network) : (Span × Except Error Client) × Network :=
  match (net.client? name).bind fun c => (net.node? c).map (c, ·) with
  | none => ((.zero, .error (.unavailable ("no such node: " ++ name))), net)
  | some (c, n) =>
    let ((delay, result), n) := n.connect
    ((delay, result.map fun _ => c), net.put c n)

/-- Calls a node over a connection. -/
def call (c : Client) (call : NodeCall) (net : Network) :
    (Span × Except Error call.Reply) × Network :=
  match net.node? c with
  | none => ((.zero, .error (.unavailable "no such connection")), net)
  | some n =>
    let (reply, n) := n.call call
    (reply, net.put c n)

/-- How the nodes answer programs. -/
def host : Host Network := ⟨connect, call⟩

end Network
end SeriesReplica.Node
