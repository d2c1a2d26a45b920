import SeriesReplica.Cluster.Supervisor
import SeriesReplica.Sync.Engine

/-!
A cluster: a watched master, a watched slave and their supervisor, and the programs that work on
one.
-/
namespace SeriesReplica
open Cluster

/-- Two watched nodes and their supervisor. -/
structure Cluster where
  master : Monitor
  slave : Monitor
  supervisor : Supervisor

namespace Cluster
open Concurrent Time Sync

/-- How a cluster is run. -/
structure Settings where
  /-- Between two checks; also the margin before an outage. -/
  tick : Span
  order : Order
  sync : Sync.Settings

/-- A program that works on a cluster. -/
abbrev Operation (α : Type) := Process Cluster Outcome α

/-- A cluster of two watched nodes that begins now. -/
def ofMonitors (master slave : Monitor) (now : Instant) : Cluster :=
  ⟨master, slave, .ofSightings (master.sighting now) (slave.sighting now)⟩

end Cluster
end SeriesReplica
