import SeriesReplica.Agent.Operations
import SeriesReplica.Cluster.Roster

/-!
The watch over a cluster: both nodes are probed and the cluster is checked over and over, until
the watch is stopped. Whatever a check has begun is finished first.
-/
namespace SeriesReplica.Agent
open Cluster Concurrent Sync

variable {ν α : Type}

/-- Prepares a watch and adds its cluster to the roster; gives the cluster's number. -/
def enterWatch (a : Agent) (master slave : String) (order : Order) :
    Process Roster Outcome (Except Fault Nat) := do
  match ← a.prepareWatch master slave order with
  | .error e => pure (.error e)
  | .ok c =>
    let before ← Process.getAndUpdate (Roster.enlist c)
    pure (.ok before.clusters.length)

/-- Starts probing both nodes of a cluster at once, and checking it one interval later. -/
def beginWatch (a : Agent) (order : Order) (cluster : Nat) (m : Machine ν Roster Outcome α) :
    Machine ν Roster Outcome α :=
  match m.shared.clusters[cluster]? with
  | none => m
  | some c =>
    let master := (m.shared.monitor c.master).name
    let slave := (m.shared.monitor c.slave).name
    let probing (i : Nat) (name : String) : Loop Roster Outcome :=
      (watch name a.checkInterval).within (Roster.monitor i) (Roster.putMonitor i)
    let checking : Loop Roster Outcome :=
      (Cluster.supervise (a.settings order) master slave).within (Roster.cluster cluster)
        (Roster.putCluster cluster)
    ((m.addLoop (probing c.master master) .zero).addLoop (probing c.slave slave) .zero).addLoop
      checking a.checkInterval

/-- Stops all watches and waits until nothing of them runs. -/
def endWatch (host : Host ν) (fuel : Nat) (m : Machine ν Roster Outcome α) :
    Machine ν Roster Outcome α :=
  let m := m.awaitLoops host fuel
  { m with log := Log.info "HA monitor stopped" :: m.log }

end SeriesReplica.Agent
