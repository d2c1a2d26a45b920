import SeriesReplica.Concurrent.Machine
import SeriesReplica.Time.Text

/-!
Watching one node. A probe connects, asks for a sign of life and lists the databases within the
node's time limit. It tells whether the node is up and when it was last seen; the connection it
opened is kept apart from the one that data goes through until that is refreshed.
-/
namespace SeriesReplica.Cluster
open Concurrent Time

/-- What is known of a node. -/
structure Monitor where
  name : String
  /-- How long a probe may take. -/
  timeout : Span
  isUp : Bool
  /-- When the node was last seen, at first when the watch began. -/
  lastOk : Instant
  version : Option String
  latency : Span
  lastError : Option String
  /-- The connection for data. -/
  active : Option Client
  /-- The connection of the last successful probe. -/
  probed : Option Client

/-- A node at one moment. -/
structure Sighting where
  isUp : Bool
  lastOk : Instant
  /-- Time since the node was last seen. -/
  since : Span
  deriving DecidableEq

namespace Monitor

/-- A watch that begins now; the node counts as down. -/
def unseen (name : String) (timeout : Span) (now : Instant) : Monitor :=
  ⟨name, timeout, false, now, none, .zero, none, none, none⟩

/-- A successful probe. -/
def succeed (m : Monitor) (client : Client) (pong : Pong) (now : Instant) : Monitor :=
  { m with
    isUp := true
    lastOk := now
    version := some pong.version
    latency := pong.latency
    lastError := none
    probed := some client }

/-- A failed probe. -/
def fail (m : Monitor) (e : Node.Error) : Monitor :=
  { m with isUp := false, lastError := some e.message }

/-- Lets data go through the connection of the last successful probe. -/
def refresh (m : Monitor) : Monitor := { m with active := m.probed <|> m.active }

/-- The node as it looks now. -/
def sighting (m : Monitor) (now : Instant) : Sighting :=
  ⟨m.isUp, m.lastOk, now.since m.lastOk⟩

/-- The connection for data, by the node's name. -/
def endpoint? (m : Monitor) : Option Endpoint := m.active.map fun c => ⟨m.name, c⟩

end Monitor

variable {ρ : Type}

/-- Connects, asks for a sign of life and lists the databases. -/
def probeOnce (name : String) (deadline : Deadline) :
    Routine (Except Node.Error (Client × Pong)) := do
  match ← Routine.connect name (some deadline) with
  | .error e => pure (.error e)
  | .ok client =>
    match ← Routine.ping client (some deadline) with
    | .error e => pure (.error e)
    | .ok pong =>
      match ← Routine.query client (.ofStatement .showDatabases) (some deadline) with
      | .error e => pure (.error e)
      | .ok _ => pure (.ok (client, pong))

/-- Probes the node. -/
def probe : Process Monitor ρ (Except Node.Error Pong) := do
  let m ← Process.get
  let started ← Process.clock
  match ← Process.ofRoutine (probeOnce m.name ⟨started.uptime + m.timeout, m.timeout⟩) with
  | .ok (client, pong) =>
    let now ← Process.clock
    Process.update (·.succeed client pong now.wall)
    pure (.ok pong)
  | .error e =>
    Process.update (·.fail e)
    pure (.error e)

/-- Probes the node and lets data go through the new connection. -/
def connect : Process Monitor ρ (Except Node.Error Pong) := do
  match ← probe with
  | .ok pong =>
    Process.update (·.refresh)
    pure (.ok pong)
  | .error e => pure (.error e)

private def aliveNotice (name : String) (pong : Pong) : Log.Line :=
  Log.debug ("[" ++ name ++ "] OK (version " ++ pong.version ++ ", ping " ++ pong.latency.text ++
    ")")

private def deadNotice (name : String) (s : Sighting) (e : Node.Error) : Log.Line :=
  Log.warn ("[" ++ name ++ "] NOT OK for " ++ s.since.text ++ " (last ok " ++ s.lastOk.text ++
    "): " ++ e.message)

/-- Probes the node and logs what came of it. -/
def checkNode : Process Monitor ρ Bool := do
  match ← probe with
  | .ok pong =>
    let m ← Process.get
    Process.log (aliveNotice m.name pong)
    pure true
  | .error e =>
    let m ← Process.get
    let now ← Process.clock
    Process.log (deadNotice m.name (m.sighting now.wall) e)
    pure false

/-- Checks the node over and over. -/
def watch (name : String) (interval : Span) : Loop Monitor ρ where
  period := interval
  hello := Process.log (Log.info ("[" ++ name ++ "] health monitor started (interval " ++
    interval.text ++ ")"))
  tick := do
    let _ ← checkNode
    pure ()
  bye := Process.log (Log.info ("[" ++ name ++ "] health monitor stopped"))

end SeriesReplica.Cluster
