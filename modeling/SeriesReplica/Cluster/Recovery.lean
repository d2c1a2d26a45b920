import SeriesReplica.Cluster.Replication

/-!
Checks of a cluster. A check looks at both nodes and decides in one step; when the slave is back
from an outage, the check replays what the slave has missed, and whatever fails there, the
cluster is fine again afterwards.
-/
namespace SeriesReplica.Cluster
open Concurrent Time Schema Sync

/-- What a check did. -/
inductive Transition where
  | steady
  | slaveDown
  | stillDown
  | recovered
  | stillRecovering
  deriving DecidableEq, Repr

def Transition.name : Transition → String
  | .steady => "Steady"
  | .slaveDown => "SlaveDown"
  | .stillDown => "StillDown"
  | .recovered => "Recovered"
  | .stillRecovering => "StillRecovering"

/-- What is logged about the syncs of a recovery. -/
private def movedNotice (reports : List Report) : Log.Line :=
  let lost := (reports.map (·.unrecoveredWindows.length)).foldr (· + ·) 0
  let points := (reports.map (·.totalPoints)).foldr (· + ·) 0
  if 0 < lost then
    Log.error ("Recovery finished with " ++ toString lost ++ " unrecovered chunks (" ++
      toString points ++ " points moved)")
  else Log.info ("Recovery moved " ++ toString points ++ " points")

/-- The schema for a recovery: a new one, or the one that was kept. -/
def recoverySchema : Operation (List Database) := do
  match ← refreshSchema with
  | .ok found => pure found
  | .error e =>
    Process.log (Log.warn ("Schema refresh failed, using cached schema: " ++ e.message))
    let c ← Process.get
    pure c.supervisor.schema

/-- Replays a window. -/
def replay (s : Settings) (ds : List Database) (start stop : Instant) : Operation Unit := do
  if start < stop then
    match ← replicateData s ds start stop with
    | .ok reports => Process.log (movedNotice reports)
    | .error e => Process.log (Log.error ("Recovery sync failed: " ++ e.message))
  else
    Process.log (Log.warn ("Empty recovery window " ++ start.text ++ " - " ++ stop.text ++
      ", nothing to replay"))

/-- A window that is not empty is replayed, whatever comes of it. -/
theorem replay_of_lt {start stop : Instant} (h : start < stop) :
    ∃ notice : Except Fault (List Report) → Log.Line, ∀ (s : Settings) (ds : List Database),
      replay s ds start stop =
        (replicateData s ds start stop).bind fun result => Process.log (notice result) := by
  refine ⟨fun
    | .ok reports => movedNotice reports
    | .error e => Log.error ("Recovery sync failed: " ++ e.message), fun s ds => ?_⟩
  rw [replay, if_pos h]
  refine congrArg (replicateData s ds start stop).bind (funext fun result => ?_)
  cases result <;> rfl

/-- Brings the slave up to date after an outage. Whatever fails, the cluster is fine again
afterwards. -/
def recover (s : Settings) (start stop : Instant) : Operation Unit := do
  let c ← Process.get
  Process.log (Log.info ("Slave " ++ c.slave.name ++ " is back, recovering data from " ++
    start.text ++ " to " ++ stop.text))
  let started ← Process.clock
  let before ← Process.getAndUpdate fun c => { c with slave := c.slave.refresh }
  if before.slave.probed.isNone then
    Process.log (Log.warn ("No probed connection to " ++ before.slave.name ++ " to refresh"))
  let ds ← recoverySchema
  replay s ds start stop
  let ended ← Process.clock
  let elapsed := ended.uptime - started.uptime
  let last ← Process.getAndUpdate fun c => { c with supervisor := c.supervisor.finish elapsed }
  Process.log (Log.info ("Recovery #" ++ toString (last.supervisor.recoveries + 1) ++ " done in " ++
    elapsed.text ++ ", cluster state OK"))

private def downNotice (name : String) (slave : Sighting) : Log.Line :=
  Log.info ("Slave " ++ name ++ " DOWN (last ok " ++ slave.lastOk.text ++
    "), cluster state SLAVE_SUSPECTED_DOWN")

private def stillDownNotice (name : String) (slave : Sighting) : Log.Line :=
  Log.debug ("Slave " ++ name ++ " still down for " ++ slave.since.text)

private def masterNotice (name : String) (master : Sighting) : List Log.Line :=
  if master.isUp then []
  else
    [Log.warn ("Master " ++ name ++ " is down (last ok " ++ master.lastOk.text ++
      "), not handled")]

/-- One check of the cluster: looks at both nodes, decides in one step, and recovers if that is
to be done. A check that fails has no answer. -/
def check (s : Settings) : Operation (Option Transition) := do
  let now ← Process.clock
  let c ← Process.get
  let master := c.master.sighting now.wall
  let slave := (← Process.get).slave.sighting now.wall
  let before ← Process.getAndUpdate fun c =>
    { c with supervisor := c.supervisor.step s.tick master slave }
  match before.supervisor.verdict s.tick slave with
  | .slaveDown =>
    Process.log (downNotice c.slave.name slave)
    pure (some .slaveDown)
  | .stillDown =>
    Process.log (stillDownNotice c.slave.name slave)
    pure (some .stillDown)
  | .recover start stop =>
    recover s start stop
    pure (some .recovered)
  | .stillRecovering =>
    Process.log (Log.info "Cluster still recovering")
    pure (some .stillRecovering)
  | .steady =>
    Process.logAll (masterNotice c.master.name master)
    pure (some .steady)
  | .overflow => pure none

/-- Checks the cluster over and over. A check that fails would be the last one; but with a tick
between one check and the next, none fails from 1970 on. -/
def supervise (s : Settings) (master slave : String) : Loop Cluster Outcome where
  period := s.tick
  hello := Process.log (Log.info ("Cluster supervisor started (" ++ master ++ " -> " ++ slave ++
    ", tick " ++ s.tick.text ++ ")"))
  tick := do
    let _ ← check s
    pure ()
  bye := Process.log (Log.info "Cluster supervisor stopped")

end SeriesReplica.Cluster
