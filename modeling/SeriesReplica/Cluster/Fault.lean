import SeriesReplica.Schema.Discovery
import SeriesReplica.Sync.Plan

/-!
What can end an operation between two nodes.
-/
namespace SeriesReplica.Cluster

/-- Why an operation on the cluster did not run. -/
inductive Fault where
  | plan (cause : Sync.PlanError)
  | unknownOrder (text : String)
  | unconfigured (node : String)
  | unavailable (node : String) (cause : Node.Error)
  | unconnected (node : String)
  /-- Only a single database can be given another name. -/
  | ambiguousRename (selected : Nat)
  | filter (cause : Schema.FilterError)
  | discovery (cause : Schema.DiscoveryError)
  | call (cause : Node.Error)
  deriving DecidableEq

namespace Fault

def message : Fault → String
  | .plan cause => cause.message
  | .unknownOrder text => "Invalid copy order: " ++ text
  | .unconfigured node => "Node not configured: " ++ node
  | .unavailable node cause => "Node " ++ node ++ " unavailable: " ++ cause.message
  | .unconnected node => "No active connection to " ++ node
  | .ambiguousRename selected =>
    "Rename requires exactly one database, filters selected " ++ toString selected
  | .filter cause => "Invalid " ++ cause.kind.name ++ " filter '" ++ cause.pattern ++ "'"
  | .discovery cause => "Schema error: " ++ cause.message
  | .call cause => "Client error: " ++ cause.message

end Fault
end SeriesReplica.Cluster
