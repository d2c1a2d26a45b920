import SeriesReplica.Agent.Watch
import SeriesReplica.Node.Network

/-!
Simulated nodes together with all that runs on them: monitors by the names of their nodes, a
cluster that is worked on, and an agent with its watch. Programs are run one after another; the
clock and the watch go on meanwhile.
-/
namespace SeriesReplica.Scenario
open Agent Cluster Concurrent Node Sync Time

variable {α β : Type}

/-- What is done in a world: a program that works on its monitors and clusters. -/
abbrev Activity (α : Type) := Process Roster Outcome α

namespace Activity

def ofRoutine (r : Routine α) : Activity α := Process.ofRoutine r

def sleep (d : Span) : Activity Unit := ofRoutine (.sleep d)

/-- The monitors and clusters. -/
def roster : Activity Roster := Process.get

/-- Lets data of a monitored node go through the connection of its last successful probe; tells
whether there is one. -/
def refresh (monitor : Nat) : Activity Bool := do
  let before ← Roster.onMonitor monitor (Process.getAndUpdate (·.refresh))
  pure before.probed.isSome

end Activity

/-- Nodes and what runs on them; programs give results of type `α`. -/
structure World (α : Type) where
  machine : Machine Network Roster Outcome α
  /-- Monitors by the names of their nodes, the last one first. -/
  monitors : List (String × Nat)
  /-- The cluster that is worked on. -/
  current : Option (Nat × Cluster.Settings)
  agent : Option Agent
  isWatching : Bool

namespace World

/-- Nodes on which nothing runs. -/
def start (now : Instant) (nodes : List Simulated) : World α :=
  ⟨.initial now ⟨nodes⟩ .empty, [], none, none, false⟩

/-- More steps than any program takes. -/
def fuel : Nat := 1000000000

def now (w : World α) : Instant := w.machine.clock.wall

/-- Runs a program until it is done. -/
def run (w : World α) (p : Activity α) : Option α × World α :=
  let (result, m) := w.machine.run Network.host fuel p
  (result, { w with machine := m })

/-- Runs two programs, the first one in front. -/
def runBoth (w : World α) (p q : Activity α) : Option (α × α) × World α :=
  let (results, m) := w.machine.runBoth Network.host fuel p q
  (results, { w with machine := m })

/-- A connection to a node, by name. -/
def endpoint? (w : World α) (name : String) : Option Endpoint :=
  (w.machine.nodes.client? name).map (⟨name, ·⟩)

/-- Works on a node without a connection. -/
def onNode? (w : World α) (name : String) (f : Simulated → Option (β × Simulated)) :
    Option (β × World α) := do
  let c ← w.machine.nodes.client? name
  let (result, n) ← f (← w.machine.nodes.node? c)
  pure (result, { w with machine := { w.machine with nodes := w.machine.nodes.put c n } })

/-- Works on a node in memory. -/
def onMemory? (w : World α) (name : String) (f : MemoryNode → β × MemoryNode) :
    Option (β × World α) :=
  w.onNode? name fun
    | .memory n => some ((f n).1, .memory (f n).2)
    | .scripted _ => none

/-- Takes the record of a scripted node. -/
def takeRecord? (w : World α) (name : String) : Option (List NodeCall × World α) :=
  w.onNode? name fun
    | .scripted n => some (n.record, .scripted { n with record := [] })
    | .memory _ => none

private def withRoster (w : World α) (r : Roster) : World α :=
  { w with machine := { w.machine with shared := r } }

/-- Begins to monitor a node. -/
def monitorNode (w : World α) (name : String) (timeout : Span) : World α :=
  let r := w.machine.shared
  { w.withRoster (r.addMonitor (.unseen name timeout w.now)) with
    monitors := (name, r.monitors.length) :: w.monitors }

/-- Makes a cluster of two monitors and works on it from now on. -/
def superviseNodes (w : World α) (master slave : Nat) (s : Cluster.Settings) : World α :=
  let r := w.machine.shared
  let supervisor := Supervisor.ofSightings ((r.monitor master).sighting w.now)
    ((r.monitor slave).sighting w.now)
  { w.withRoster (r.addCluster master slave supervisor) with
    current := some (r.clusters.length, s) }

/-- Starts the loops of an agent's watch over a cluster, which is worked on from now on. -/
def beginWatch (w : World α) (a : Agent) (order : Order) (cluster : Nat) : World α :=
  { w with
    machine := a.beginWatch order cluster w.machine
    current := some (cluster, a.settings order)
    isWatching := true }

/-- Stops the watch, if there is one. -/
def endWatch (w : World α) : World α :=
  if w.isWatching then
    { w with machine := Agent.endWatch Network.host fuel w.machine, isWatching := false }
  else w

/-- What has been logged, in order; the log starts anew. -/
def takeLog (w : World α) : List Log.Line × World α :=
  (w.machine.log.reverse, { w with machine := { w.machine with log := [] } })

end World
end SeriesReplica.Scenario
