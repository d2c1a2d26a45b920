import SeriesReplica.Cluster.Basic
import SeriesReplica.Json.Value
import SeriesReplica.Text.Blank

/-!
The status of a cluster, and the small web service that tells it.
-/
namespace SeriesReplica.Cluster
open Time Json

/-- The status of a cluster. -/
structure Status where
  state : State
  recoveries : Nat
  lastRecoveryMillis : Nat
  master : String
  slave : String
  masterUp : Bool
  masterLastOk : Instant
  slaveUp : Bool
  slaveLastOk : Instant

namespace Status

/-- The status by what the supervisor knows. -/
def ofCluster (c : Cluster) : Status where
  state := c.supervisor.state
  recoveries := c.supervisor.recoveries
  lastRecoveryMillis := c.supervisor.lastRecovery.millis % Nat.pow 2 64
  master := c.master.name
  slave := c.slave.name
  masterUp := c.supervisor.master.isUp
  masterLastOk := c.supervisor.master.lastOk
  slaveUp := c.supervisor.slave.isUp
  slaveLastOk := c.supervisor.slave.lastOk

/-- The names of the nodes that are up. -/
def activeNodes (s : Status) : List String :=
  (if s.masterUp then [s.master] else []) ++ (if s.slaveUp then [s.slave] else [])

def toJson (s : Status) : Value :=
  .object [
    ("cluster_state", .string s.state.name),
    ("cluster_num_recovers", .nat s.recoveries),
    ("cluster_last_recover_duration_ms", .nat s.lastRecoveryMillis),
    ("mid", .string s.master),
    ("sid", .string s.slave),
    ("master_state", .bool s.masterUp),
    ("master_last_ok", .string s.masterLastOk.rfc3339),
    ("slave_state", .bool s.slaveUp),
    ("slave_last_ok", .string s.slaveLastOk.rfc3339)]

/-- The status line and the body for a request; what follows a question mark in the path does
not count. -/
def route (s : Status) (method path : String) : String × String :=
  let path := String.ofList (path.toList.takeWhile (· ≠ '?'))
  match method, path with
  | "GET", "/api/health" => ("200 OK", s.toJson.pretty)
  | "GET", "/api/queryactive" =>
    ("200 OK", (Value.array (s.activeNodes.map .string)).compact)
  | _, _ => ("404 Not Found", (Value.object [("error", .string "not found")]).compact)

/-- The whole answer of the service to a request: its first line names the method and the
path. -/
def respond (s : Status) (request : String) : String :=
  let words := Text.words (request.toList.takeWhile (· ≠ '\n'))
  let word (i : Nat) : String := String.ofList (words[i]?.getD [])
  let (status, body) := s.route (word 0) (word 1)
  "HTTP/1.1 " ++ status ++ "\r\nContent-Type: application/json\r\nContent-Length: " ++
    toString body.utf8ByteSize ++ "\r\nConnection: close\r\n\r\n" ++ body

end Status
end SeriesReplica.Cluster
