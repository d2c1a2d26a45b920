import SeriesReplica.Concurrent.Effect

/-!
A node that follows a script. Each call has a text: `connect`, `ping`, `write`, or the command
of a query. The first rule for that text that is not used up says how long the answer takes and
what it is; where there is no rule the call succeeds at once. The node keeps a record of the
queries and writes that arrived.
-/
namespace SeriesReplica.Node
open Concurrent Query Time

/-- What a rule has a node do. -/
inductive Reaction where
  | fail (error : Error)
  | pong (pong : Pong)
  /-- Answers a query; what is missing could not be read. -/
  | respond (response : Option Response)

/-- A rule for the calls with one text. -/
structure Rule where
  subject : String
  /-- How many more calls the rule is used for; if missing, all. -/
  left : Option Nat
  delay : Span
  reaction : Reaction

namespace Rule

def isUsedUp (r : Rule) : Bool := r.left = some 0

def use (r : Rule) : Rule := { r with left := r.left.map (· - 1) }

/-- The first rule for a text that is not used up, and the rules once it has been used. -/
def take (subject : String) : List Rule → Option Rule × List Rule
  | [] => (none, [])
  | r :: rs =>
    if r.subject = subject ∧ !r.isUsedUp then (some r, r.use :: rs)
    else
      let (found, rs) := take subject rs
      (found, r :: rs)

/-- Rules for one ping each: a text is why the ping fails, and where there is none the version
that is answered is the number of the ping. -/
def pings (outcomes : List (Option String)) : List Rule :=
  outcomes.mapIdx fun i outcome =>
    ⟨"ping", some 1, .zero, match outcome with
      | some reason => .fail (.unavailable reason)
      | none => .pong ⟨.zero, toString (i + 1)⟩⟩

end Rule

/-- A node that follows a script. -/
structure ScriptedNode where
  name : String
  rules : List Rule
  /-- The queries and writes that arrived, in order. -/
  record : List NodeCall

namespace ScriptedNode

/-- The text of a call. -/
def subject : NodeCall → String
  | .ping => "ping"
  | .query r => r.command
  | .write _ => "write"

/-- The answer to a call for which there is no rule. -/
def plainReply : (c : NodeCall) → c.Reply
  | .ping => (⟨.zero, ""⟩ : Pong)
  | .query _ => (⟨[], none⟩ : Response)
  | .write _ => ()

/-- The answer to a call by a rule; errors inside an answer to a query are failures. -/
def react : Reaction → (c : NodeCall) → Except Error c.Reply
  | .fail e, _ => .error e
  | .pong p, .ping => .ok p
  | .respond (some r), .query _ => r.check
  | .respond none, .query _ => .error (.protocol "bad reply")
  | _, c => .ok (plainReply c)

private def isRecorded : NodeCall → Bool
  | .ping => false
  | _ => true

/-- Takes note of a call. -/
def arrive (n : ScriptedNode) (c : NodeCall) : ScriptedNode :=
  if isRecorded c then { n with record := n.record ++ [c] } else n

/-- Answers a call: how long it takes, and the answer. -/
def call (n : ScriptedNode) (c : NodeCall) : (Span × Except Error c.Reply) × ScriptedNode :=
  let (rule, rules) := Rule.take (subject c) n.rules
  let n := { n.arrive c with rules := rules }
  match rule with
  | some r => ((r.delay, react r.reaction c), n)
  | none => ((.zero, .ok (plainReply c)), n)

/-- Answers an attempt to connect: how long it takes, and why it fails if it does. -/
def connect (n : ScriptedNode) : (Span × Except Error Unit) × ScriptedNode :=
  let (rule, rules) := Rule.take "connect" n.rules
  let n := { n with rules := rules }
  match rule with
  | some r =>
    match r.reaction with
    | .fail e => ((r.delay, .error e), n)
    | _ => ((r.delay, .ok ()), n)
  | none => ((.zero, .ok ()), n)

end ScriptedNode
end SeriesReplica.Node
