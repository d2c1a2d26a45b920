import SeriesReplica.Cluster.Monitor
import SeriesReplica.Schema.Database

/-!
The supervisor of a master and its slave. While the slave is up the cluster is fine. Once it is
down, the cluster waits for it, and when it is back, all data since it was last seen, less a
margin of one tick, is to be replayed. The state is looked at and changed in one step, so no two
recoveries run at the same time; the master's health is observed and never acted on.
-/
namespace SeriesReplica.Cluster
open Time Schema

/-- The state of a cluster. -/
inductive State where
  | fine
  | slaveSuspected
  | recovering
  deriving DecidableEq, Repr, Inhabited

def State.name : State → String
  | .fine => "OK"
  | .slaveSuspected => "SLAVE_SUSPECTED_DOWN"
  | .recovering => "RECOVERING"

def State.ofName? : String → Option State
  | "OK" => some .fine
  | "SLAVE_SUSPECTED_DOWN" => some .slaveSuspected
  | "RECOVERING" => some .recovering
  | _ => none

/-- A node as the supervisor saw it last. -/
structure Tracked where
  isUp : Bool
  lastOk : Instant
  deriving DecidableEq

def Tracked.ofSighting (s : Sighting) : Tracked := ⟨s.isUp, s.lastOk⟩

/-- What the supervisor keeps from check to check. -/
structure Supervisor where
  state : State
  master : Tracked
  slave : Tracked
  recoveries : Nat
  lastRecovery : Span
  /-- The schema of the master at its last discovery. -/
  schema : List Database

/-- What a check finds to be done. -/
inductive Verdict where
  | steady
  | slaveDown
  | stillDown
  | recover (start stop : Instant)
  | stillRecovering
  /-- The slave is back, but the calendar has no moment a tick before it was last seen. There the
  check fails before anything has changed. -/
  | overflow
  deriving DecidableEq

namespace Supervisor

/-- A supervisor of nodes that look like this. -/
def ofSightings (master slave : Sighting) : Supervisor :=
  ⟨.fine, .ofSighting master, .ofSighting slave, 0, .zero, []⟩

/-- Takes note of both nodes. -/
def track (s : Supervisor) (master slave : Sighting) : Supervisor :=
  { s with master := .ofSighting master, slave := .ofSighting slave }

/-- How long before the slave was last seen a recovery starts. -/
def margin (tick : Span) : Span := if tick.fitsCalendar then tick else .zero

/-- What is to be done about the slave. -/
def verdict (s : Supervisor) (tick : Span) (slave : Sighting) : Verdict :=
  match s.state, slave.isUp with
  | .fine, false => .slaveDown
  | .slaveSuspected, false => .stillDown
  | .slaveSuspected, true =>
    match s.slave.lastOk.earlier? (margin tick) with
    | some start => .recover start slave.lastOk
    | none => .overflow
  | .recovering, _ => .stillRecovering
  | .fine, true => .steady

/-- The supervisor after it has come to a verdict. -/
def enter (s : Supervisor) (verdict : Verdict) (master slave : Sighting) : Supervisor :=
  match verdict with
  | .steady => s.track master slave
  | .slaveDown => { s.track master slave with state := .slaveSuspected }
  | .stillDown => s.track master slave
  | .recover _ _ => { s.track master slave with state := .recovering }
  | .stillRecovering | .overflow => s

/-- One step of the state. -/
def step (s : Supervisor) (tick : Span) (master slave : Sighting) : Supervisor :=
  s.enter (s.verdict tick slave) master slave

/-- The supervisor after a recovery. -/
def finish (s : Supervisor) (elapsed : Span) : Supervisor :=
  { s with state := .fine, recoveries := s.recoveries + 1, lastRecovery := elapsed }

end Supervisor

end SeriesReplica.Cluster
