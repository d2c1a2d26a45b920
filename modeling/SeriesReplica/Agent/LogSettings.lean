import SeriesReplica.Log

/-!
How the agent's log is set up: the level by its name, the level for a count of `-v` flags, and
the file.
-/
namespace SeriesReplica.Agent.LogSettings

/-- A letter as a capital. A small i without a dot counts as an i. -/
private def capital (c : Char) : Char := if c = 'ı' then 'I' else c.toUpper

/-- The level of a name in any case; an unknown name stands for the usual level. -/
def level (name : String) : Log.Level :=
  match String.ofList (name.toList.map capital) with
  | "ERROR" => .error
  | "WARN" | "WARNING" => .warn
  | "DEBUG" => .debug
  | "TRACE" => .trace
  | _ => .info

/-- The name of the level for a count of flags. -/
def levelForVerbosity : Nat → String
  | 0 => "warn"
  | 1 => "info"
  | 2 => "debug"
  | _ => "trace"

/-- The name of the log file. -/
def fileName : String := "fluxsync.log"

/-- The log file in a directory. -/
def file (directory : String) : String :=
  if directory = "" ∨ directory.toList.getLast? = some '/' then directory ++ fileName
  else directory ++ "/" ++ fileName

end SeriesReplica.Agent.LogSettings
