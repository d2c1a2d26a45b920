import SeriesReplica.Agent.Config
import SeriesReplica.Cluster.Basic
import SeriesReplica.Cluster.Fault
import SeriesReplica.Schema.Replication

/-!
Replication from the master of a cluster to its slave: what the master holds, the databases that
are created on the slave, and the data that is copied there.
-/
namespace SeriesReplica.Cluster
open Concurrent Time Schema Sync

def connection (m : Monitor) : Except Fault Endpoint :=
  match m.endpoint? with
  | some e => .ok e
  | none => .error (.unconnected m.name)

/-- Finds out what the master holds. -/
def discover (f : Filter) : Operation (Except Fault (List Database)) := do
  let c ← Process.get
  match connection c.master with
  | .error e => pure (.error e)
  | .ok master =>
    let found ← Process.ofRoutine (Schema.discover master f)
    pure (found.mapError .discovery)

/-- Finds out all that the master holds, and keeps it. -/
def refreshSchema : Operation (Except Fault (List Database)) := do
  match ← discover .all with
  | .error e => pure (.error e)
  | .ok found =>
    Process.update fun c => { c with supervisor := { c.supervisor with schema := found } }
    pure (.ok found)

/-- Creates databases on the slave. -/
def replicateSchema (ds : List Database) : Operation (Except Fault ReplicationReport) := do
  let c ← Process.get
  match connection c.slave with
  | .error e => pure (.error e)
  | .ok slave =>
    let report ← Process.ofRoutine (Schema.replicate slave ds)
    if !report.isClean then
      Process.log (Log.warn ("Schema replication finished with " ++
        toString report.errors.length ++ " errors"))
    pure (.ok report)

/-- The policies of databases, in order. -/
def policiesOf (ds : List Database) : List (Database × Schema.Policy) :=
  ds.flatMap fun d => d.policies.map fun p => (d, p)

/-- Syncs policies one after another; those without measurements are passed over, and a sync
that is refused is logged. -/
def syncPolicies (s : Settings) (master slave : Endpoint)
    (window : Schema.Policy → Process Cluster Outcome (Instant × Instant)) :
    List (Database × Schema.Policy) → Operation (List Report)
  | [] => pure []
  | (d, p) :: rest => do
    if p.measurements.isEmpty then
      Process.log (Log.debug (d.name ++ "." ++ p.name ++ " has no measurements, skipping"))
      syncPolicies s master slave window rest
    else
      let (start, stop) ← window p
      match ← Sync.sync s.sync (.ofPolicy master slave d p start stop s.order) with
      | .ok report =>
        let reports ← syncPolicies s master slave window rest
        pure (report :: reports)
      | .error e =>
        Process.log (Log.error ("Sync of " ++ d.name ++ "." ++ p.name ++ " failed: " ++ e.message))
        syncPolicies s master slave window rest

/-- Syncs all policies of databases, each over its own window. -/
def replicateWith (s : Settings) (ds : List Database)
    (window : Schema.Policy → Process Cluster Outcome (Instant × Instant)) :
    Operation (Except Fault (List Report)) := do
  let master := connection (← Process.get).master
  let slave := connection (← Process.get).slave
  match master, slave with
  | .ok master, .ok slave =>
    let reports ← syncPolicies s master slave window (policiesOf ds)
    pure (.ok reports)
  | .error e, _ => pure (.error e)
  | .ok _, .error e => pure (.error e)

/-- Syncs all policies over one window. -/
def replicateData (s : Settings) (ds : List Database) (start stop : Instant) :
    Operation (Except Fault (List Report)) :=
  replicateWith s ds fun _ => pure (start, stop)

/-- Syncs all policies over all they can hold. -/
def replicateAll (s : Settings) (ds : List Database) : Operation (Except Fault (List Report)) :=
  replicateWith s ds fun p => do
    let now ← Process.clock
    pure (p.fullWindow s.sync.maxRetention now.wall)

private def initialName : Agent.Initial → String
  | .none => "None"
  | .schema => "Schema"
  | .data => "Data"
  | .both => "Both"

/-- Replicates what is configured before the watch begins. -/
def initialReplication (s : Settings) (mode : Agent.Initial) : Operation (Except Fault Unit) := do
  if mode = .none then pure (.ok ())
  else
    Process.log (Log.info ("Running initial replication (" ++ initialName mode ++ ")"))
    match ← refreshSchema with
    | .error e => pure (.error e)
    | .ok ds =>
      match ← schemaStep mode ds with
      | .error e => pure (.error e)
      | .ok () => dataStep mode ds
where
  schemaStep (mode : Agent.Initial) (ds : List Database) : Operation (Except Fault Unit) := do
    if mode.includesSchema then
      let report ← replicateSchema ds
      pure (report.map fun _ => ())
    else pure (.ok ())
  dataStep (mode : Agent.Initial) (ds : List Database) : Operation (Except Fault Unit) := do
    if mode.includesData then
      match ← replicateAll s ds with
      | .error e => pure (.error e)
      | .ok reports =>
        Process.log (Log.info ("Initial data replication moved " ++
          toString ((reports.map (·.totalPoints)).foldr (· + ·) 0) ++ " points"))
        pure (.ok ())
    else pure (.ok ())

end SeriesReplica.Cluster
