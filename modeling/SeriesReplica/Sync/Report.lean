import SeriesReplica.Schema.DatabaseJson
import SeriesReplica.Sync.Plan

/-!
What a sync did: one report for every chunk of both passes, and what follows from them about
the chunks that were not recovered.
-/
namespace SeriesReplica.Sync
open Time Json

/-- A failed chunk of the initial pass is gone over again in the replay pass. -/
inductive Pass where
  | initial
  | replay
  deriving DecidableEq, Repr

def Pass.name : Pass → String
  | .initial => "Initial"
  | .replay => "Replay"

/-- What was done in one chunk. -/
structure ChunkReport where
  pass : Pass
  window : Window
  measurements : Nat
  points : Nat
  /-- Points of a failed initial chunk, which its replay writes again and counts. -/
  superseded : Nat
  readErrors : Nat
  writeErrors : Nat
  elapsed : Span
  deriving DecidableEq

namespace ChunkReport

def isBad (c : ChunkReport) : Bool := 0 < c.readErrors || 0 < c.writeErrors

/-- Progress through the pass. -/
def percent (c : ChunkReport) : Nat :=
  if c.window.total = 0 then 100 else c.window.index * 100 / c.window.total

/-- The report of a failed chunk once its points are left to the replay. -/
def supersede (c : ChunkReport) : ChunkReport := { c with superseded := c.points, points := 0 }

def logLine (c : ChunkReport) : Log.Line :=
  let w := c.window
  let text := "Processed Chunk [" ++ toString w.index ++ "/" ++ toString w.total ++ "](" ++
    toString c.percent ++ "%) from [" ++ toString w.start.secs ++ "] to [" ++
    toString w.stop.secs ++ "] (" ++ toString c.points ++ ") Points Took [" ++ c.elapsed.text ++
    "] ERRORS[R:" ++ toString c.readErrors ++ "|W:" ++ toString c.writeErrors ++ "]"
  if c.isBad then Log.warn text
  else match c.pass with
    | .replay => Log.info ("[replay] " ++ text)
    | .initial => Log.info text

def toJson (c : ChunkReport) : Value :=
  .object [
    ("pass", .string c.pass.name),
    ("window", .object [
      ("index", .nat c.window.index),
      ("total", .nat c.window.total),
      ("start", .string c.window.start.rfc3339),
      ("end", .string c.window.stop.rfc3339)]),
    ("measurements", .nat c.measurements),
    ("points", .nat c.points),
    ("superseded_points", .nat c.superseded),
    ("read_errors", .nat c.readErrors),
    ("write_errors", .nat c.writeErrors),
    ("elapsed", Schema.spanToJson c.elapsed)]

end ChunkReport

/-- The ends of a transfer: nodes, databases and policies. -/
structure Route where
  source : String
  destination : String
  sourceDatabase : String
  destinationDatabase : String
  sourcePolicy : String
  destinationPolicy : String
  deriving DecidableEq

/-- What a sync did. -/
structure Report where
  route : Route
  start : Instant
  stop : Instant
  totalPoints : Nat
  elapsed : Span
  /-- Chunks of both passes, the initial ones first. -/
  chunks : List ChunkReport
  /-- Chunks that failed in the initial pass. -/
  initialBad : List ChunkReport
  /-- Chunks that failed in the replay pass. -/
  bad : List ChunkReport
  deriving DecidableEq

namespace Report

/-- Initial chunks that hold a chunk of the replay that failed. -/
def unrecovered (r : Report) : List ChunkReport :=
  r.initialBad.filter fun parent => r.bad.any fun b => parent.window.contains b.window

def unrecoveredWindows (r : Report) : List Window := r.unrecovered.map (·.window)

/-- Read errors, write errors and their sum over the unrecovered chunks. -/
def errors (r : Report) : Nat × Nat × Nat :=
  let reads := (r.unrecovered.map (·.readErrors)).foldr (· + ·) 0
  let writes := (r.unrecovered.map (·.writeErrors)).foldr (· + ·) 0
  (reads, writes, reads + writes)

def isClean (r : Report) : Bool := r.bad.isEmpty

def logLine (r : Report) : Log.Line :=
  let (reads, writes, _) := r.errors
  let text := "Sync " ++ r.route.source ++ ":" ++ r.route.sourceDatabase ++ "." ++
    r.route.sourcePolicy ++ " -> " ++ r.route.destination ++ ":" ++
    r.route.destinationDatabase ++ "." ++ r.route.destinationPolicy ++ " [" ++ r.start.text ++
    " - " ++ r.stop.text ++ "]: " ++ toString r.totalPoints ++ " points in " ++
    r.elapsed.text ++ ", " ++ toString r.unrecovered.length ++ " bad chunks (R:" ++
    toString reads ++ "|W:" ++ toString writes ++ ")"
  if r.isClean then Log.info text else Log.error text

def toJson (r : Report) : Value :=
  .object [
    ("source", .string r.route.source),
    ("destination", .string r.route.destination),
    ("src_db", .string r.route.sourceDatabase),
    ("dst_db", .string r.route.destinationDatabase),
    ("src_rp", .string r.route.sourcePolicy),
    ("dst_rp", .string r.route.destinationPolicy),
    ("start", .string r.start.rfc3339),
    ("end", .string r.stop.rfc3339),
    ("total_points", .nat r.totalPoints),
    ("elapsed", Schema.spanToJson r.elapsed),
    ("chunks", .array (r.chunks.map ChunkReport.toJson)),
    ("initial_bad_chunks", .array (r.initialBad.map ChunkReport.toJson)),
    ("bad_chunks", .array (r.bad.map ChunkReport.toJson))]

end Report
end SeriesReplica.Sync
