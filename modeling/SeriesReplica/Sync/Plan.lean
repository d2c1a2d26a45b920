import SeriesReplica.Log
import SeriesReplica.Time.Text

/-!
Cutting a window of time into chunks. Chunks have one length, except that the last one to be
walked may be shorter; together they cover the planned range once. A cap on the length of the
window keeps its latest part.
-/
namespace SeriesReplica.Sync
open Time

/-- The order in which chunks are walked. -/
inductive Order where
  /-- Latest chunk first. -/
  | reverse
  /-- Oldest chunk first. -/
  | forward
  deriving DecidableEq, Repr, Inhabited

namespace Order

def name : Order → String
  | .reverse => "reverse"
  | .forward => "forward"

/-- Reads the name of an order in any case, or the refused name in lower case. -/
def read (s : String) : Except String Order :=
  match String.ofList (s.toList.map Char.toLower) with
  | "reverse" | "backward" => .ok .reverse
  | "forward" => .ok .forward
  | other => .error other

end Order

/-- The window of one chunk, from `start` up to but not including `stop`; the position in
walking order counts from one. -/
structure Window where
  index : Nat
  total : Nat
  start : Instant
  stop : Instant
  deriving DecidableEq

/-- Whether another window lies within this one. -/
def Window.contains (w other : Window) : Bool :=
  decide (w.start ≤ other.start) && decide (other.stop ≤ w.stop)

/-- Why a window cannot be cut into chunks. -/
inductive PlanError where
  | invalidChunk (chunk : Span)
  | invalidWindow (start stop : Instant)
  deriving DecidableEq

def PlanError.message : PlanError → String
  | .invalidChunk chunk => "Invalid chunk duration: " ++ chunk.text
  | .invalidWindow start stop =>
    "Invalid time window: start " ++ start.text ++ " is not before end " ++ stop.text

/-- The quotient rounded up. -/
def ceilDiv (a b : Nat) : Nat := (a + b - 1) / b

/-- Where chunks lie, in nanoseconds since 1970: `count` chunks, the range ending at `stop`. -/
structure Grid where
  first : Int
  stop : Int
  chunk : Nat
  count : Nat

namespace Grid

/-- The range of the `i`-th chunk to be walked. -/
def range (g : Grid) (order : Order) (i : Nat) : Int × Int :=
  match order with
  | .reverse => (max (g.stop - (i + 1) * g.chunk) g.first, g.stop - i * g.chunk)
  | .forward => (g.first + i * g.chunk, min (g.first + (i + 1) * g.chunk) g.stop)

/-- The window of the `i`-th chunk to be walked. -/
def window (g : Grid) (order : Order) (i : Nat) : Window :=
  let (a, b) := g.range order i
  ⟨i + 1, g.count, .ofEpochNanos (Int64.ofInt a), .ofEpochNanos (Int64.ofInt b)⟩

/-- The windows of all chunks in walking order. -/
def windows (g : Grid) (order : Order) : List Window := (List.range g.count).map (g.window order)

/-- The grid of a whole window. -/
def whole (start stop : Instant) (chunk : Span) : Grid :=
  let first := start.epochNanos.toInt
  let stop := stop.epochNanos.toInt
  ⟨first, stop, chunk.nanos, ceilDiv (stop - first).toNat chunk.nanos⟩

/-- The number of chunks a limit allows, if it is one. -/
def cap? (chunk limit : Span) : Option Nat :=
  if limit.nanos = 0 then none else some (max (ceilDiv limit.nanos chunk.nanos) 1)

/-- The latest chunks of a grid, no more than the cap. -/
def capped (g : Grid) (cap : Option Nat) : Grid :=
  match cap with
  | some n => if n < g.count then { g with first := g.stop - n * g.chunk, count := n } else g
  | none => g

end Grid

/-- The chunks of a window, of which a limit may keep only the latest. -/
structure Plan where
  windows : List Window
  log : List Log.Line

/-- What is logged if a limit applies. -/
private def capNotice (start stop : Instant) (limit : Span) (g : Grid) (cap : Option Nat) :
    List Log.Line :=
  match cap with
  | some n =>
    if n < g.count then
      [Log.warn ("Window " ++ start.text ++ " - " ++ stop.text ++ " needs " ++ toString g.count ++
        " chunks, capped at " ++ toString n ++ " by max retention " ++ limit.text)]
    else []
  | none => []

/-- Cuts the window from `start` to `stop` into chunks of the given length. A zero limit does
not limit. -/
def plan (start stop : Instant) (chunk limit : Span) (order : Order) : Except PlanError Plan :=
  if chunk.nanos = 0 then .error (.invalidChunk chunk)
  else if stop ≤ start then .error (.invalidWindow start stop)
  else
    let g := Grid.whole start stop chunk
    let cap := Grid.cap? chunk limit
    .ok ⟨(g.capped cap).windows order, capNotice start stop limit g cap⟩

/-- Nothing is logged where the limit allows all chunks. -/
theorem log_eq_nil_of_plan {start stop : Instant} {chunk limit : Span} {order : Order} {p : Plan}
    (h : plan start stop chunk limit order = .ok p)
    (hallowed : ∀ n ∈ Grid.cap? chunk limit, (Grid.whole start stop chunk).count ≤ n) :
    p.log = [] := by
  rw [plan] at h
  split at h
  · cases h
  split at h
  · cases h
  obtain rfl := Except.ok.inj h
  dsimp only
  cases hcap : Grid.cap? chunk limit with
  | none => rfl
  | some n => exact if_neg (Nat.not_lt.2 (hallowed n hcap))

/-- The chunk length at which a failed chunk is replayed: a tenth, if that is something. -/
def replayChunk (chunk : Span) : Span :=
  let fine : Span := ⟨chunk.nanos / 10⟩
  if fine.nanos = 0 then chunk else fine

end SeriesReplica.Sync
