/-!
Log lines: a level and a text. Severe lines come first in the order of the levels.
-/
namespace SeriesReplica

namespace Log

/-- How severe a line is. -/
inductive Level where
  | error
  | warn
  | info
  | debug
  | trace
  deriving DecidableEq, Repr

namespace Level

def name : Level → String
  | .error => "ERROR"
  | .warn => "WARN"
  | .info => "INFO"
  | .debug => "DEBUG"
  | .trace => "TRACE"

/-- Less severe levels have larger ranks. -/
def rank : Level → Nat
  | .error => 0
  | .warn => 1
  | .info => 2
  | .debug => 3
  | .trace => 4

/-- Whether a log kept at `least` shows lines of the level. -/
def shownAt (level least : Level) : Bool := level.rank ≤ least.rank

end Level

/-- One line of a log. -/
structure Line where
  level : Level
  text : String
  deriving DecidableEq, Repr

def error (text : String) : Line := ⟨.error, text⟩
def warn (text : String) : Line := ⟨.warn, text⟩
def info (text : String) : Line := ⟨.info, text⟩
def debug (text : String) : Line := ⟨.debug, text⟩

end Log
end SeriesReplica
