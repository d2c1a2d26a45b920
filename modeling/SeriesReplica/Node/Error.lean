import SeriesReplica.Text.Blank
import SeriesReplica.Time.Span

/-!
What can go wrong between the agent and a node.
-/
namespace SeriesReplica.Node
open Time

/-- Why a call to a node failed. -/
inductive Error where
  | http (detail : String)
  | timeout (limit : Span)
  | server (status : Nat) (message : String)
  | statement (message : String)
  | protocol (message : String)
  | unavailable (reason : String)
  deriving DecidableEq, Repr

namespace Error

def message : Error → String
  | .http detail => "HTTP error: " ++ detail
  | .timeout limit => "Request timed out after " ++ limit.text
  | .server status text => "Server error (" ++ toString status ++ "): " ++ text
  | .statement text => "Statement error: " ++ text
  | .protocol text => "Protocol error: " ++ text
  | .unavailable reason => "Node unavailable: " ++ reason

/-- Whether a server refused to create what is there already. -/
def isAlreadyExists : Error → Bool
  | .statement text | .server _ text => Text.contains text.toList "already exists".toList
  | _ => false

end Error
end SeriesReplica.Node
