import SeriesReplica.Agent.Scope
import SeriesReplica.Cluster.Recovery

/-!
What an agent does between two nodes of its configuration: it creates databases on the slave,
copies data, and starts the long-running watch. Each operation opens both nodes first.
-/
namespace SeriesReplica
open Agent

/-- A configuration and the settings of syncs, which are derived from it unless given. -/
structure Agent where
  config : Config
  sync : Sync.Settings

namespace Agent
open Cluster Concurrent Schema Sync Time

variable {σ : Type}

def ofConfig (c : Config) : Agent := ⟨c, c.general.syncSettings⟩

def withSync (a : Agent) (s : Sync.Settings) : Agent := { a with sync := s }

def withChunk (a : Agent) (chunk : Span) : Agent := { a with sync := a.sync.withChunk chunk }

/-- Between two probes of a node. -/
def checkInterval (a : Agent) : Span := .ofSecs a.config.general.checkInterval

/-- How a cluster is run for the agent. -/
def settings (a : Agent) (order : Order) : Cluster.Settings :=
  ⟨.ofSecs a.config.general.syncInterval, order, a.sync⟩

private def connectedNotice (name : String) (pong : Pong) : Log.Line :=
  Log.info ("Connected to " ++ name ++ " (version " ++ pong.version ++ ", ping " ++
    pong.latency.text ++ ")")

/-- Opens a node of the configuration. -/
def openNode (a : Agent) (name : String) : Process σ Outcome (Except Fault Monitor) := do
  match a.config.node? name with
  | none => pure (.error (.unconfigured name))
  | some n =>
    let now ← Process.clock
    match ← Process.withOwn (Monitor.unseen n.name n.timeout now.wall) Cluster.connect with
    | (.error e, _) => pure (.error (.unavailable name e))
    | (.ok pong, monitor) =>
      Process.log (connectedNotice name pong)
      pure (.ok monitor)

/-- Opens the master, then the slave. -/
def openCluster (a : Agent) (master slave : String) :
    Process σ Outcome (Except Fault Cluster) := do
  match ← a.openNode master with
  | .error e => pure (.error e)
  | .ok master =>
    match ← a.openNode slave with
    | .error e => pure (.error e)
    | .ok slave =>
      let now ← Process.clock
      pure (.ok (.ofMonitors master slave now.wall))

/-- Runs an operation on a newly opened cluster. -/
def onCluster {α : Type} (a : Agent) (master slave : String)
    (operation : Operation (Except Fault α)) : Process σ Outcome (Except Fault α) := do
  match ← a.openCluster master slave with
  | .error e => pure (.error e)
  | .ok c =>
    let (result, _) ← Process.withOwn c operation
    pure result

/-- The databases of the master that a scope selects, under the names of their copies. -/
def select (scope : Scope) (f : Filter) : Operation (Except Fault (List Database)) := do
  match ← Cluster.discover f with
  | .error e => pure (.error e)
  | .ok ds => pure (scope.apply ds)

/-- Copies the data of databases. -/
def copyData (a : Agent) (order : Order) (ds : List Database) :
    Range → Operation (Except Fault (List Report))
  | .window start stop =>
    if stop ≤ start then pure (.error (.plan (.invalidWindow start stop)))
    else Cluster.replicateData (a.settings order) ds start stop
  | .full => Cluster.replicateAll (a.settings order) ds

/-- Creates the selected databases of the master on the slave. -/
def replicateSchema (a : Agent) (master slave : String) (scope : Scope) :
    Process σ Outcome (Except Fault ReplicationReport) := do
  match scope.filter with
  | .error e => pure (.error e)
  | .ok f => a.onCluster master slave do
    match ← select scope f with
    | .error e => pure (.error e)
    | .ok ds => Cluster.replicateSchema ds

/-- Copies the selected data of the master to the slave. -/
def copy (a : Agent) (master slave : String) (scope : Scope) (range : Range) (order : Order) :
    Process σ Outcome (Except Fault (List Report)) := do
  match scope.filter with
  | .error e => pure (.error e)
  | .ok f => a.onCluster master slave do
    match ← select scope f with
    | .error e => pure (.error e)
    | .ok ds => a.copyData order ds range

/-- Creates the selected databases on the slave, then copies their data. -/
def fullCopy (a : Agent) (master slave : String) (scope : Scope) (range : Range)
    (order : Order) : Process σ Outcome (Except Fault (ReplicationReport × List Report)) := do
  match scope.filter with
  | .error e => pure (.error e)
  | .ok f => a.onCluster master slave do
    match ← select scope f with
    | .error e => pure (.error e)
    | .ok ds =>
      match ← Cluster.replicateSchema ds with
      | .error e => pure (.error e)
      | .ok created =>
        let copied ← a.copyData order ds range
        pure (copied.map fun reports => (created, reports))

/-- Opens both nodes and does what is configured to be done before the watch; gives the cluster
to be watched. -/
def prepareWatch (a : Agent) (master slave : String) (order : Order) :
    Process σ Outcome (Except Fault Cluster) := do
  match ← a.openCluster master slave with
  | .error e => pure (.error e)
  | .ok c =>
    match ← Process.withOwn c
        (Cluster.initialReplication (a.settings order) a.config.general.initial) with
    | (.error e, _) => pure (.error e)
    | (.ok (), c) =>
      Process.log (Log.info ("HA monitor running: master " ++ master ++ " slave " ++ slave ++
        " (" ++ order.name ++ ")"))
      pure (.ok c)

end Agent
end SeriesReplica
