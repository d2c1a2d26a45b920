import SeriesReplica.Query.Statement
import SeriesReplica.Schema.Decode

/-!
What is replicated of a database: its retention policies with the measurements found in them,
and the names under which the copy is addressed.
-/
namespace SeriesReplica.Schema
open Time Query

/-- A retention policy and its measurements; a zero duration keeps data for ever. -/
structure Policy where
  name : String
  duration : Span
  shardDuration : Span
  replicas : UInt32
  isDefault : Bool
  /-- The declared fields of each measurement. The name that a measurement schema carries besides is
  always its key, so it is left out. -/
  measurements : Std.ExtTreeMap String FieldTypes
  deriving DecidableEq

namespace Policy

def isInfinite (p : Policy) : Bool := p.duration.isZero

/-- The parameters of the policy under another name. -/
def specNamed (p : Policy) (name : String) : PolicySpec :=
  ⟨name, p.duration, p.shardDuration, p.replicas⟩

/-- The length of the full-history window: what the policy keeps, but no more than `limit`. -/
def span (p : Policy) (limit : Span) : Span :=
  if p.isInfinite || decide (limit < p.duration) then limit else p.duration

/-- The length taken where calendar arithmetic does not take the right one. -/
def longSpan : Span := .ofSecs (36500 * 86400)

/-- The window of all data the policy can hold, ending now. -/
def fullWindow (p : Policy) (limit : Span) (now : Instant) : Instant × Instant :=
  let d := p.span limit
  ((now.earlier? (if d.fitsCalendar then d else longSpan)).getD .earliest, now)

end Policy

/-- A database to replicate, and the names its copy takes. -/
structure Database where
  name : String
  targetName : Option String
  defaultPolicyName : String
  targetDefaultPolicyName : Option String
  policies : List Policy
  deriving DecidableEq

namespace Database

/-- A database that keeps its names; its default policy is the first one marked so. -/
def ofPolicies (name : String) (policies : List Policy) : Database where
  name := name
  targetName := none
  defaultPolicyName := ((policies.find? (·.isDefault)).map (·.name)).getD ""
  targetDefaultPolicyName := none
  policies := policies

/-- Gives the copy other names; an empty name changes nothing. -/
def rename (d : Database) (database policy : Option String) : Database :=
  { d with
    targetName := database.filter (· ≠ "")
    targetDefaultPolicyName := policy.filter (· ≠ "") }

/-- The name of the copy. -/
def target (d : Database) : String := d.targetName.getD d.name

/-- The name of the copy's default policy. -/
def targetDefaultPolicy (d : Database) : String :=
  d.targetDefaultPolicyName.getD d.defaultPolicyName

/-- The name a policy has in the copy. -/
def targetPolicy (d : Database) (p : Policy) : String :=
  if p.name = d.defaultPolicyName then d.targetDefaultPolicy else p.name

/-- The policy marked default under the default policy's name. -/
def defaultPolicy? (d : Database) : Option Policy :=
  d.policies.find? fun p => p.isDefault && p.name = d.defaultPolicyName

end Database

/-- The database a server keeps for itself; it is never copied nor created. -/
def internalDatabase : String := "_internal"

end SeriesReplica.Schema
