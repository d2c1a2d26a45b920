import SeriesReplica.Concurrent.Effect
import SeriesReplica.Schema.Database

/-!
Creating databases and policies on a node, as far as they can be created: every statement is
sent whatever became of those before, and what exists already is no error.
-/
namespace SeriesReplica.Schema
open Concurrent Query

/-- What a replication of schemas did. -/
structure ReplicationReport where
  databases : Nat
  policies : Nat
  errors : List String
  deriving DecidableEq, Repr

namespace ReplicationReport

def empty : ReplicationReport := ⟨0, 0, []⟩

def isClean (r : ReplicationReport) : Bool := r.errors.isEmpty

/-- What two replications did one after the other. -/
def append (r s : ReplicationReport) : ReplicationReport :=
  ⟨r.databases + s.databases, r.policies + s.policies, r.errors ++ s.errors⟩

end ReplicationReport

/-- The statements that create a database with its policies, under the names of the copy: the
database with its default policy, that policy again should the database have existed, and the
others. -/
def Database.creation (d : Database) (default : Policy) : List Statement :=
  let spec := default.specNamed d.targetDefaultPolicy
  let others := d.policies.filter (·.name ≠ d.defaultPolicyName)
  [.createDatabase d.target spec, .createPolicy d.target spec true,
    .setDefaultPolicy d.target spec.name] ++
    others.map fun p => .createPolicy d.target (p.specNamed p.name) false

/-- Whether a database is left alone because of its name or the name of its copy. -/
def Database.isInternal (d : Database) : Bool :=
  d.name = internalDatabase || d.target = internalDatabase

namespace Replication

private def isPolicyCreation : Statement → Bool
  | .createPolicy .. => true
  | _ => false

/-- Sends one statement. -/
def execute (e : Endpoint) (s : Statement) : Routine ReplicationReport := do
  let done : ReplicationReport := ⟨0, if isPolicyCreation s then 1 else 0, []⟩
  match ← Routine.query e.client (.ofStatement s) none with
  | .ok _ =>
    Routine.log (Log.debug ("[" ++ e.name ++ "] " ++ s.text))
    pure done
  | .error cause =>
    if cause.isAlreadyExists then
      Routine.log (Log.debug ("[" ++ e.name ++ "] " ++ s.text ++ " (already exists)"))
      pure done
    else
      Routine.log (Log.error ("[" ++ e.name ++ "] " ++ s.text ++ " failed: " ++ cause.message))
      pure ⟨0, 0, [s.text ++ ": " ++ cause.message]⟩

/-- Sends statements one after another. -/
def executeAll (e : Endpoint) : List Statement → Routine ReplicationReport
  | [] => pure .empty
  | s :: ss => do
    let first ← execute e s
    let rest ← executeAll e ss
    pure (first.append rest)

/-- Creates one database. One without a default policy is skipped with an error. -/
def database (e : Endpoint) (d : Database) : Routine ReplicationReport := do
  if d.isInternal then pure .empty
  else
    match d.defaultPolicy? with
    | none =>
      let text := "database " ++ d.name ++ " has no default retention policy, skipping"
      Routine.log (Log.error ("[" ++ e.name ++ "] " ++ text))
      pure ⟨0, 0, [text]⟩
    | some default =>
      Routine.log (Log.info ("[" ++ e.name ++ "] replicating database " ++ d.name ++ " as " ++
        d.target ++ " (default rp " ++ d.targetDefaultPolicy ++ ")"))
      let report ← executeAll e (d.creation default)
      pure { report with databases := 1 }

end Replication

/-- Creates databases on a node. -/
def replicate (e : Endpoint) : List Database → Routine ReplicationReport
  | [] => pure .empty
  | d :: ds => do
    let first ← Replication.database e d
    let rest ← replicate e ds
    pure (first.append rest)

end SeriesReplica.Schema
