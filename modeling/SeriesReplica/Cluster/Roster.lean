import SeriesReplica.Cluster.Basic

/-!
Monitors and clusters by number, so that several programs work on the same ones: what probes a
node, what supervises a cluster, and what is done to them by hand.
-/
namespace SeriesReplica.Cluster
open Concurrent Time Sync

/-- A supervisor and the numbers of its two monitors. -/
structure Member where
  master : Nat
  slave : Nat
  supervisor : Supervisor

/-- Monitors and clusters, each with its position as its number. -/
structure Roster where
  monitors : List Monitor
  clusters : List Member

namespace Roster

def empty : Roster := ⟨[], []⟩

/-- Stands for a number without a monitor. -/
private def nobody : Monitor := .unseen "" .zero .epoch

def monitor (i : Nat) (r : Roster) : Monitor := r.monitors[i]?.getD nobody

def putMonitor (i : Nat) (m : Monitor) (r : Roster) : Roster :=
  { r with monitors := r.monitors.set i m }

private def vacant : Member :=
  ⟨0, 0, .ofSightings (nobody.sighting .epoch) (nobody.sighting .epoch)⟩

private def member (i : Nat) (r : Roster) : Member := r.clusters[i]?.getD vacant

def cluster (i : Nat) (r : Roster) : Cluster :=
  let m := r.member i
  ⟨r.monitor m.master, r.monitor m.slave, m.supervisor⟩

/-- Puts back a cluster and its monitors. -/
def putCluster (i : Nat) (c : Cluster) (r : Roster) : Roster :=
  let m := r.member i
  let r := { r with clusters := r.clusters.set i { m with supervisor := c.supervisor } }
  (r.putMonitor m.master c.master).putMonitor m.slave c.slave

/-- Adds a monitor; its number is the count before. -/
def addMonitor (m : Monitor) (r : Roster) : Roster := { r with monitors := r.monitors ++ [m] }

/-- Adds a cluster of two monitors; its number is the count before. -/
def addCluster (master slave : Nat) (s : Supervisor) (r : Roster) : Roster :=
  { r with clusters := r.clusters ++ [⟨master, slave, s⟩] }

/-- Adds a cluster with its monitors. -/
def enlist (c : Cluster) (r : Roster) : Roster :=
  let first := r.monitors.length
  ((r.addMonitor c.master).addMonitor c.slave).addCluster first (first + 1) c.supervisor

/-- Lets a program work on one monitor. -/
def onMonitor {ρ α : Type} (i : Nat) (p : Process Monitor ρ α) : Process Roster ρ α :=
  p.within (monitor i) (putMonitor i)

/-- Lets a program work on one cluster. -/
def onCluster {α : Type} (i : Nat) (p : Operation α) : Process Roster Outcome α :=
  p.within (cluster i) (putCluster i)

end Roster
end SeriesReplica.Cluster
