import SeriesReplica.Sync.Settings
import SeriesReplica.Text.Blank
import SeriesReplica.Url.Basic

/-!
The configuration of an agent: general settings, the address of the status service, and the
nodes it knows. A configuration is checked before it is used; the first fault in a fixed order
is reported.
-/
namespace SeriesReplica.Agent
open Time

/-- What is replicated before monitoring starts. -/
inductive Initial where
  | none
  | schema
  | data
  | both
  deriving DecidableEq, Repr, Inhabited

namespace Initial

def includesSchema : Initial → Bool
  | .schema | .both => true
  | _ => false

def includesData : Initial → Bool
  | .data | .both => true
  | _ => false

def name : Initial → String
  | .none => "none"
  | .schema => "schema"
  | .data => "data"
  | .both => "both"

def ofName? : String → Option Initial
  | "none" => some .none
  | "schema" => some .schema
  | "data" => some .data
  | "both" => some .both
  | _ => Option.none

end Initial

/-- General settings; lengths of time are in seconds. -/
structure General where
  instanceId : String := "fluxsync01"
  logLevel : String := "info"
  logDir : String := "./log"
  master : String := "influxdb01"
  slave : String := "influxdb02"
  /-- Between two probes of a node. -/
  checkInterval : Nat := 10
  /-- Between two checks of the cluster. -/
  syncInterval : Nat := 20
  initial : Initial := .none
  chunk : Nat := 3600
  maxRetention : Nat := 2592000
  /-- Attempts of a read or write; zero stands for the usual number. -/
  attempts : UInt32 := 5
  /-- Between two attempts; zero stands for the usual delay. -/
  retryDelay : Nat := 10
  workers : Nat := 4
  maxPoints : Nat := 50000
  deriving DecidableEq

namespace General

def usualAttempts : UInt32 := 5

def usualDelay : Nat := 10

/-- How reads and writes are repeated. -/
def retry (g : General) : Sync.RetryPolicy :=
  .ofAttempts (if g.attempts = 0 then usualAttempts else g.attempts)
    (.ofSecs (if g.retryDelay = 0 then usualDelay else g.retryDelay))

/-- How syncs are run. There is at least one worker and one point a write. -/
def syncSettings (g : General) : Sync.Settings where
  chunk := .ofSecs g.chunk
  maxRetention := .ofSecs g.maxRetention
  workers := max g.workers 1
  maxPoints := max g.maxPoints 1
  retry := g.retry

end General

/-- A node and how to reach it. -/
structure NodeConfig where
  name : String
  location : String := "http://127.0.0.1:8086/"
  user : String := ""
  password : String := ""
  timeoutSecs : Nat := 10
  deriving DecidableEq

/-- How long a call to the node may take; at least one second. -/
def NodeConfig.timeout (n : NodeConfig) : Span := .ofSecs (max n.timeoutSecs 1)

/-- A configuration. -/
structure Config where
  general : General := {}
  /-- Where the status service listens. -/
  statusAddress : String := "0.0.0.0:4090"
  nodes : List NodeConfig := []
  deriving DecidableEq

/-- A setting that must not be zero. -/
inductive Setting where
  | checkInterval
  | syncInterval
  | chunk
  | maxRetention
  | workers
  | maxPoints
  deriving DecidableEq, Repr

/-- What is wrong with a configuration. -/
inductive ConfigFault where
  | zero (setting : Setting)
  | unnamedNode
  | duplicateNode (name : String)
  | badLocation (name location : String)
  | badScheme (name location : String)
  deriving DecidableEq, Repr

namespace ConfigFault

private def settingName : Setting → String
  | .checkInterval => "Check interval"
  | .syncInterval => "Minimum sync interval"
  | .chunk => "Data chunk duration"
  | .maxRetention => "Max retention interval"
  | .workers => "Number of workers"
  | .maxPoints => "Max points on single write"

def message : ConfigFault → String
  | .zero setting => settingName setting ++ " cannot be 0"
  | .unnamedNode => "Node name cannot be empty"
  | .duplicateNode name => "Duplicate node name: " ++ name
  | .badLocation name location => "Invalid location for node " ++ name ++ ": " ++ location
  | .badScheme name location =>
    "Node " ++ name ++ " location must use http or https: " ++ location

end ConfigFault

namespace Config

/-- The settings that must not be zero, with their values. -/
private def counts (g : General) : List (Setting × Nat) :=
  [(.checkInterval, g.checkInterval), (.syncInterval, g.syncInterval), (.chunk, g.chunk),
    (.maxRetention, g.maxRetention), (.workers, g.workers), (.maxPoints, g.maxPoints)]

private def locationFault? (n : NodeConfig) : Option ConfigFault :=
  match Url.read? n.location with
  | none => some (.badLocation n.name n.location)
  | some u =>
    if u.scheme = "http" ∨ u.scheme = "https" then none else some (.badScheme n.name n.location)

/-- The first fault among nodes, after those with the given names. -/
private def nodeFault? (seen : List String) : List NodeConfig → Option ConfigFault
  | [] => none
  | n :: ns =>
    if Text.trim n.name = "" then some .unnamedNode
    else if n.name ∈ seen then some (.duplicateNode n.name)
    else locationFault? n <|> nodeFault? (n.name :: seen) ns

/-- The first fault of a configuration. -/
def fault? (c : Config) : Option ConfigFault :=
  ((counts c.general).find? (·.2 = 0)).map (fun (setting, _) => .zero setting) <|>
    nodeFault? [] c.nodes

/-- A configuration without faults has no setting that is zero. -/
theorem settings_ne_zero {c : Config} (h : c.fault? = none) :
    c.general.checkInterval ≠ 0 ∧ c.general.syncInterval ≠ 0 ∧ c.general.chunk ≠ 0 ∧
      c.general.maxRetention ≠ 0 ∧ c.general.workers ≠ 0 ∧ c.general.maxPoints ≠ 0 := by
  have hfind : (counts c.general).find? (·.2 = 0) = none := by
    cases hzero : (counts c.general).find? (·.2 = 0) with
    | none => rfl
    | some s =>
      rw [fault?, hzero] at h
      cases h
  simpa [counts] using hfind

/-- The node of the given name. -/
def node? (c : Config) (name : String) : Option NodeConfig := c.nodes.find? (·.name = name)

end Config
end SeriesReplica.Agent
