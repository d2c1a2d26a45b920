import SeriesReplica.Agent.Config
import SeriesReplica.Log
import SeriesReplica.Toml.Document

/-!
Configurations as TOML documents. Everything but the name and location of a node may be
missing, unknown keys are skipped, and a record may also be an array of its values in order.
-/
namespace SeriesReplica.Agent
open Toml

namespace Config

/-- Values of a record by the names of its members, as far as they are given. -/
private def record? (names : List String) : Value → Option (List (String × Value))
  | .table ms => some ms
  | .array items => some (names.zip items)
  | _ => none

private def member {α : Type} (ms : List (String × Value)) (name : String) (missing : α)
    (read : Value → Option α) : Option α :=
  match ms.lookup name with
  | some v => read v
  | none => some missing

private def string? : Value → Option String
  | .string s => some s
  | _ => none

private def nat? : Value → Option Nat
  | .integer i => if 0 ≤ i then some i.toNat else none
  | _ => none

private def word? (v : Value) : Option UInt32 :=
  (nat? v).bind fun n => if n < Nat.pow 2 32 then some (.ofNat n) else none

private def isHollow : Value → Bool
  | .table [] | .array [] => true
  | _ => false

/-- A name, or a table with the name as its only key and nothing under it. -/
private def initial? : Value → Option Initial
  | .string s => Initial.ofName? s
  | .table [(s, v)] => if isHollow v then Initial.ofName? s else none
  | _ => none

private def generalNames : List String :=
  ["instance_id", "log_level", "log_dir", "master_db", "slave_db", "check_interval_secs",
    "min_sync_interval_secs", "initial_replication", "data_chunk_duration_secs",
    "max_retention_interval_secs", "rw_max_retries", "rw_retry_delay_secs", "num_workers",
    "max_points_on_single_write"]

private def general? (v : Value) : Option General := do
  let ms ← record? generalNames v
  let d : General := {}
  pure {
    instanceId := ← member ms "instance_id" d.instanceId string?
    logLevel := ← member ms "log_level" d.logLevel string?
    logDir := ← member ms "log_dir" d.logDir string?
    master := ← member ms "master_db" d.master string?
    slave := ← member ms "slave_db" d.slave string?
    checkInterval := ← member ms "check_interval_secs" d.checkInterval nat?
    syncInterval := ← member ms "min_sync_interval_secs" d.syncInterval nat?
    initial := ← member ms "initial_replication" d.initial initial?
    chunk := ← member ms "data_chunk_duration_secs" d.chunk nat?
    maxRetention := ← member ms "max_retention_interval_secs" d.maxRetention nat?
    attempts := ← member ms "rw_max_retries" d.attempts word?
    retryDelay := ← member ms "rw_retry_delay_secs" d.retryDelay nat?
    workers := ← member ms "num_workers" d.workers nat?
    maxPoints := ← member ms "max_points_on_single_write" d.maxPoints nat? }

private def statusAddress? (v : Value) : Option String := do
  member (← record? ["bind_addr"] v) "bind_addr" ({} : Config).statusAddress string?

private def nodeNames : List String :=
  ["name", "location", "admin_user", "admin_passwd", "timeout_secs"]

private def nodeEntry? (v : Value) : Option NodeConfig := do
  let ms ← record? nodeNames v
  let d : NodeConfig := { name := "" }
  pure {
    name := ← (ms.lookup "name").bind string?
    location := ← (ms.lookup "location").bind string?
    user := ← member ms "admin_user" d.user string?
    password := ← member ms "admin_passwd" d.password string?
    timeoutSecs := ← member ms "timeout_secs" d.timeoutSecs nat? }

private def nodes? : Value → Option (List NodeConfig)
  | .array items => items.mapM nodeEntry?
  | _ => none

/-- Reads a document. -/
def ofToml? : Value → Option Config
  | .table ms => do
    pure {
      general := ← member ms "general" {} general?
      statusAddress := ← member ms "http" ({} : Config).statusAddress statusAddress?
      nodes := ← member ms "influxdb" [] nodes? }
  | _ => none

/-- Why a text is no configuration. -/
inductive ReadError where
  | malformed
  | fault (fault : ConfigFault)
  deriving DecidableEq, Repr

/-- Reads and checks a configuration. -/
def read (s : String) : Except ReadError Config :=
  match (Value.read? s).bind ofToml? with
  | none => .error .malformed
  | some c =>
    match c.fault? with
    | some f => .error (.fault f)
    | none => .ok c

/-- Why a file gives no configuration. -/
inductive LoadError where
  | unreadable (path : String)
  | refused (path : String) (error : ReadError)
  deriving DecidableEq, Repr

def LoadError.message : LoadError → String
  | .unreadable path => "Failed to read config file: " ++ path
  | .refused path .malformed => "Failed to parse config file: " ++ path
  | .refused path (.fault f) => "Failed to parse config file: " ++ path ++ ": " ++ f.message

/-- The configuration in a file with the given content, if there is such a file. -/
def load (path : String) (content : Option String) : Except LoadError Config :=
  match content with
  | none => .error (.unreadable path)
  | some s => (read s).mapError (.refused path)

/-- What is logged about a configuration from a file. -/
def loadNotice (c : Config) (path : String) : Log.Line :=
  Log.info ("Loaded configuration from " ++ path ++ " (" ++ toString c.nodes.length ++ " nodes)")

private def textLine (key value : String) : List Char :=
  key.toList ++ " = ".toList ++ Value.quoted value.toList ++ ['\n']

private def natLine (key : String) (value : Nat) : List Char :=
  key.toList ++ " = ".toList ++ Text.Numeral.ofNat value ++ ['\n']

private def generalLines (g : General) : List Char :=
  "[general]\n".toList ++ textLine "instance_id" g.instanceId ++
    textLine "log_level" g.logLevel ++ textLine "log_dir" g.logDir ++
    textLine "master_db" g.master ++ textLine "slave_db" g.slave ++
    natLine "check_interval_secs" g.checkInterval ++
    natLine "min_sync_interval_secs" g.syncInterval ++
    textLine "initial_replication" g.initial.name ++
    natLine "data_chunk_duration_secs" g.chunk ++
    natLine "max_retention_interval_secs" g.maxRetention ++
    natLine "rw_max_retries" g.attempts.toNat ++ natLine "rw_retry_delay_secs" g.retryDelay ++
    natLine "num_workers" g.workers ++ natLine "max_points_on_single_write" g.maxPoints

private def nodeLines (n : NodeConfig) : List Char :=
  "\n[[influxdb]]\n".toList ++ textLine "name" n.name ++ textLine "location" n.location ++
    textLine "admin_user" n.user ++ textLine "admin_passwd" n.password ++
    natLine "timeout_secs" n.timeoutSecs

/-- The text of a configuration. A document without nodes starts with their empty array. -/
def text (c : Config) : String :=
  String.ofList ((if c.nodes.isEmpty then "influxdb = []\n\n".toList else []) ++
    generalLines c.general ++ "\n[http]\n".toList ++ textLine "bind_addr" c.statusAddress ++
    c.nodes.flatMap nodeLines)

end Config
end SeriesReplica.Agent
