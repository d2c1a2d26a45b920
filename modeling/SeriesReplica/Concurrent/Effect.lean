import SeriesReplica.Log
import SeriesReplica.Node.Error
import SeriesReplica.Query.Statement
import SeriesReplica.Query.Table
import SeriesReplica.Concurrent.Program
import SeriesReplica.Time.Instant

/-!
What the agent's programs do. A routine talks to nodes, sleeps, reads the clock and writes the
log, one thing after another. A process may also run routines side by side, a bounded number at
a time, and change a state it shares with other processes; each change is atomic.
-/
namespace SeriesReplica.Concurrent
open Time

/-- An open connection to a node. -/
structure Client where
  id : Nat
  deriving DecidableEq, Repr

/-- A named connection. -/
structure Endpoint where
  name : String
  client : Client
  deriving DecidableEq

/-- What a node tells when asked whether it is alive. -/
structure Pong where
  latency : Span
  version : String
  deriving DecidableEq, Repr

/-- A call to a node. -/
inductive NodeCall where
  | ping
  | query (request : Query.Request)
  | write (batch : Batch)

/-- What a call gives if it succeeds. -/
def NodeCall.Reply : NodeCall → Type
  | .ping => Pong
  | .query _ => Query.Response
  | .write _ => Unit

/-- A moment, on the clock that starts at zero, by which a call must have been answered. -/
structure Deadline where
  moment : Span
  /-- The time that was allowed, for the error. -/
  allowed : Span

/-- A reading of both clocks. -/
structure Clock where
  wall : Instant
  /-- Time since the start; it never goes back. -/
  uptime : Span

/-- An operation of a routine. -/
inductive Action where
  | connect (node : String) (deadline : Option Deadline)
  | call (client : Client) (call : NodeCall) (deadline : Option Deadline)
  | sleep (d : Span)
  | clock
  | log (line : Log.Line)

/-- What an operation of a routine answers. -/
abbrev Action.Answer : Action → Type
  | .connect .. => Except Node.Error Client
  | .call _ c _ => Except Node.Error c.Reply
  | .sleep _ => Unit
  | .clock => Clock
  | .log _ => Unit

/-- A sequential program of the agent. -/
abbrev Routine (α : Type) := Program Action Action.Answer α

/-- An operation of a process that shares a state `σ` and runs routines with results `ρ`. -/
inductive Effect (σ ρ : Type) where
  | act (action : Action)
  /-- Runs all jobs, at most `limit` at a time; answers their results in order. -/
  | pool (limit : Nat) (jobs : List (Routine ρ))
  /-- Changes the shared state; answers the state before. -/
  | update (change : σ → σ)

/-- What an operation of a process answers. -/
abbrev Effect.Answer {σ ρ : Type} : Effect σ ρ → Type
  | .act a => a.Answer
  | .pool _ _ => List ρ
  | .update _ => σ

/-- A program of the agent that may use other programs and a shared state. -/
abbrev Process (σ ρ α : Type) := Program (Effect σ ρ) Effect.Answer α

namespace Routine

def connect (node : String) (deadline : Option Deadline) : Routine (Except Node.Error Client) :=
  .ofOp (Action.connect node deadline)

def ping (client : Client) (deadline : Option Deadline) : Routine (Except Node.Error Pong) :=
  .ofOp (Action.call client .ping deadline)

def query (client : Client) (request : Query.Request) (deadline : Option Deadline) :
    Routine (Except Node.Error Query.Response) :=
  .ofOp (Action.call client (.query request) deadline)

def write (client : Client) (batch : Batch) : Routine (Except Node.Error Unit) :=
  .ofOp (Action.call client (.write batch) none)

def sleep (d : Span) : Routine Unit := .ofOp (Action.sleep d)

def clock : Routine Clock := .ofOp Action.clock

def log (line : Log.Line) : Routine Unit := .ofOp (Action.log line)

def logAll : List Log.Line → Routine Unit
  | [] => pure ()
  | line :: lines => do log line; logAll lines

end Routine

namespace Process
variable {σ τ ρ α : Type}

/-- A routine as a process. -/
def ofRoutine (r : Routine α) : Process σ ρ α :=
  match r with
  | .done a => .done a
  | .perform action next => .perform (.act action) fun answer => ofRoutine (next answer)

instance : MonadLift Routine (Process σ ρ) := ⟨ofRoutine⟩

def pool (limit : Nat) (jobs : List (Routine ρ)) : Process σ ρ (List ρ) :=
  .ofOp (Effect.pool limit jobs)

def update (change : σ → σ) : Process σ ρ Unit := .perform (Effect.update change) fun _ => .done ()

def get : Process σ ρ σ := .ofOp (Effect.update id)

/-- Changes the shared state and gives the state before. -/
def getAndUpdate (change : σ → σ) : Process σ ρ σ := .ofOp (Effect.update change)

def log (line : Log.Line) : Process σ ρ Unit := ofRoutine (.log line)

def logAll (lines : List Log.Line) : Process σ ρ Unit := ofRoutine (.logAll lines)

def clock : Process σ ρ Clock := ofRoutine .clock

/-- Lets a process work on a part of a larger state. -/
def within (read : σ → τ) (put : τ → σ → σ) (p : Process τ ρ α) : Process σ ρ α :=
  match p with
  | .done a => .done a
  | .perform (.act action) next =>
    .perform (.act action) fun answer => within read put (next answer)
  | .perform (.pool limit jobs) next =>
    .perform (.pool limit jobs) fun answer => within read put (next answer)
  | .perform (.update change) next =>
    .perform (.update fun s => put (change (read s)) s) fun s => within read put (next (read s))

/-- Lets a process work on a state of its own, which is given back with the result. -/
def withOwn (s : τ) (p : Process τ ρ α) : Process σ ρ (α × τ) :=
  match p with
  | .done a => .done (a, s)
  | .perform (.act action) next => .perform (.act action) fun answer => withOwn s (next answer)
  | .perform (.pool limit jobs) next =>
    .perform (.pool limit jobs) fun answer => withOwn s (next answer)
  | .perform (.update change) next => withOwn (change s) (next s)

end Process
end SeriesReplica.Concurrent
