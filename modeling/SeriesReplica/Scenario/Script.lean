import SeriesReplica.Json.Decode
import SeriesReplica.Node.Network
import SeriesReplica.Query.TableJson

/-!
Simulated nodes as they are written in JSON. A name alone stands for an empty node in memory, a
name with rules for a node that follows a script. A rule that says neither how its calls fail nor
what is replied has them succeed.
-/
namespace SeriesReplica.Scenario.Script
open Json Json.Decoder Node Time

/-- A length of time by its whole seconds and the nanoseconds past them. -/
def span : Decoder Span := do
  match ← list nat with
  | [secs, nanos] => pure (.ofParts secs nanos)
  | _ => throw "duration expected"

/-- An error of the given kind. -/
def error (kind : String) : Decoder Error := do
  let message ← fieldD "message" "" text
  match kind with
  | "Http" => pure (.http message)
  | "Timeout" => .timeout <$> field "duration" span
  | "Server" => pure (.server (← fieldD "status" 500 nat) message)
  | "Statement" => pure (.statement message)
  | "Protocol" => pure (.protocol message)
  | "Unavailable" => pure (.unavailable message)
  | _ => throw "kind of error expected"

/-- What is replied to a ping. -/
def pong : Decoder Concurrent.Pong := do
  pure ⟨.ofMillis (← fieldD "latency_ms" 0 nat), ← fieldD "version" "" text⟩

/-- What is replied to a query; a reply that cannot be read is kept as such. -/
def response : Decoder Reaction := fun v => .ok (.respond (Query.Response.read? v.compact))

def reaction : Decoder Reaction := do
  match ← field? "error" text with
  | some kind => .fail <$> error kind
  | none =>
    if (← field "match" text) = "ping" then .pong <$> fieldD "reply" ⟨.zero, ""⟩ pong
    else fieldD "reply" (.respond (some ⟨[], none⟩)) response

def rule : Decoder Rule := do
  pure ⟨← field "match" text, ← field? "times" nat, .ofMillis (← fieldD "delay_ms" 0 nat),
    ← reaction⟩

def node : Decoder Simulated := do
  match ← read with
  | .string name => pure (.memory (.ofName name))
  | _ => pure (.scripted ⟨← field "name" text, ← fieldD "rules" [] (list rule), []⟩)

end SeriesReplica.Scenario.Script
