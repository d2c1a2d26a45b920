import SeriesReplica.Cluster.Replication
import SeriesReplica.Proofs.Concurrent.Recording

/-! What is asked of a node to find out what it holds: to list it, and nothing that could change
it, whatever it answers. -/
namespace SeriesReplica
open Concurrent Query

/-- Lists what a node holds. -/
def Query.Statement.IsListing : Statement → Prop
  | .showDatabases | .showPolicies _ | .showMeasurements | .showFieldKeys .. => True
  | .selectWindow .. | .createDatabase .. | .createPolicy .. | .setDefaultPolicy .. => False

/-- A call that lists what a node holds. -/
def Concurrent.NodeCall.IsListing (_ : Client) : NodeCall → Prop
  | .query r => r.statement.IsListing
  | .ping | .write _ => False

theorem Concurrent.NodeCall.IsListing.harmless {c : Client} {call : NodeCall}
    (h : call.IsListing c) : call.Harmless c := by
  cases call with
  | query r =>
    obtain ⟨statement, database, policy⟩ := r
    cases statement with
    | showDatabases | showPolicies | showMeasurements | showFieldKeys => rfl
    | selectWindow | createDatabase | createPolicy | setDefaultPolicy => exact h.elim
  | ping | write => exact h.elim

namespace Schema

theorem policies_lists (e : Endpoint) (database : String) :
    (Discovery.policies e database).CallsOnly NodeCall.IsListing := by
  refine (Routine.callsOnly_query _ trivial).bind fun listed => ?_
  cases listed with
  | error cause => exact Routine.callsOnly_pure _
  | ok response => exact (Routine.callsOnly_logAll _).bind fun _ => Routine.callsOnly_pure _

theorem fillPolicy_lists (e : Endpoint) (database : String) (p : Policy) (names : List String) :
    (Discovery.fillPolicy e database p names).CallsOnly NodeCall.IsListing := by
  induction names generalizing p with
  | nil => exact Routine.callsOnly_pure _
  | cons m ms ih =>
    have hfields : (Discovery.fields e database p.name m).CallsOnly NodeCall.IsListing := by
      refine (Routine.callsOnly_query _ trivial).bind fun listed => ?_
      cases listed with
      | error cause => exact Routine.callsOnly_pure _
      | ok response => exact (Routine.callsOnly_logAll _).bind fun _ => Routine.callsOnly_pure _
    refine hfields.bind fun types => ?_
    cases types with
    | ok types => exact ih _
    | error cause => exact (Routine.callsOnly_log _).bind fun _ => ih p

theorem fillPolicies_lists (e : Endpoint) (f : Filter) (database : String)
    (names : List String) (ps : List Policy) :
    (Discovery.fillPolicies e f database names ps).CallsOnly NodeCall.IsListing := by
  induction ps with
  | nil => exact Routine.callsOnly_pure _
  | cons p ps ih =>
    rw [Discovery.fillPolicies]
    split
    · exact (fillPolicy_lists e database p names).bind fun _ =>
        ih.bind fun _ => Routine.callsOnly_pure _
    · exact (Routine.callsOnly_pure _).bind fun _ => ih.bind fun _ => Routine.callsOnly_pure _

theorem selectedMeasurements_lists (e : Endpoint) (f : Filter) (database : String) :
    (Discovery.selectedMeasurements e f database).CallsOnly NodeCall.IsListing := by
  have hlisted : (Discovery.measurements e database).CallsOnly NodeCall.IsListing := by
    refine (Routine.callsOnly_query _ trivial).bind fun listed => ?_
    cases listed <;> exact Routine.callsOnly_pure _
  refine hlisted.bind fun names => ?_
  cases names with
  | ok names => exact Routine.callsOnly_pure _
  | error cause => exact (Routine.callsOnly_log _).bind fun _ => Routine.callsOnly_pure _

theorem database_lists (e : Endpoint) (f : Filter) (name : String) :
    (Discovery.database e f name).CallsOnly NodeCall.IsListing := by
  refine (policies_lists e name).bind fun listed => ?_
  cases listed with
  | error cause => exact (Routine.callsOnly_log _).bind fun _ => Routine.callsOnly_pure _
  | ok ps =>
    dsimp only
    split
    · exact (Routine.callsOnly_log _).bind fun _ => Routine.callsOnly_pure _
    · exact (selectedMeasurements_lists e f name).bind fun _ =>
        (fillPolicies_lists ..).bind fun _ =>
          (Routine.callsOnly_log _).bind fun _ => Routine.callsOnly_pure _

theorem databases_lists (e : Endpoint) (f : Filter) (names : List String) :
    (Discovery.databases e f names).CallsOnly NodeCall.IsListing := by
  induction names with
  | nil => exact Routine.callsOnly_pure _
  | cons name names ih =>
    rw [Discovery.databases]
    split
    · exact ih
    · split
      · exact (Routine.callsOnly_log _).bind fun _ => ih
      · exact (database_lists e f name).bind fun _ =>
          ih.bind fun _ => Routine.callsOnly_pure _

/-- Finding out what a node holds asks it to list that. -/
theorem discover_lists (e : Endpoint) (f : Filter) :
    (discover e f).CallsOnly NodeCall.IsListing := by
  refine (Routine.callsOnly_query _ trivial).bind fun listed => ?_
  cases listed with
  | error cause => exact Routine.callsOnly_pure _
  | ok response => exact (databases_lists e f _).bind fun _ => Routine.callsOnly_pure _

end Schema

/-- What a cluster finds out about its master it asks it to list. -/
theorem Cluster.discover_lists (f : Schema.Filter) :
    (Cluster.discover f).CallsOnly NodeCall.IsListing := by
  refine Process.callsOnly_get.bind fun c => ?_
  split
  · exact Process.callsOnly_pure _
  · exact (Process.callsOnly_ofRoutine (Schema.discover_lists _ f)).bind fun _ =>
      Process.callsOnly_pure _

end SeriesReplica
