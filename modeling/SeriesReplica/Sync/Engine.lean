import SeriesReplica.Sync.Report
import SeriesReplica.Sync.Transfer

/-!
Syncing one retention policy over a window. Chunks are walked one after another, and within a
chunk a bounded number of measurements is moved at a time. Chunks with errors are replayed once
in finer chunks. A failure of a read or a write is reported and never ends the sync.
-/
namespace SeriesReplica.Sync
open Time Concurrent Schema

/-- One policy to sync over a window. -/
structure Job where
  source : Endpoint
  destination : Endpoint
  sourceDatabase : String
  destinationDatabase : String
  sourcePolicy : Policy
  destinationPolicy : String
  start : Instant
  stop : Instant
  order : Order

namespace Job

/-- The job for a policy of a database, under the names of its copy. -/
def ofPolicy (source destination : Endpoint) (d : Database) (p : Policy) (start stop : Instant)
    (order : Order) : Job where
  source := source
  destination := destination
  sourceDatabase := d.name
  destinationDatabase := d.target
  sourcePolicy := p
  destinationPolicy := d.targetPolicy p
  start := start
  stop := stop
  order := order

def route (j : Job) : Route :=
  ⟨j.source.name, j.destination.name, j.sourceDatabase, j.destinationDatabase,
    j.sourcePolicy.name, j.destinationPolicy⟩

/-- The measurements to move, in order of their names. -/
def measurements (j : Job) : List (String × FieldTypes) := j.sourcePolicy.measurements.toList

def context (j : Job) (s : Settings) : TransferContext where
  source := j.source.client
  destination := j.destination.client
  sourceDatabase := j.sourceDatabase
  sourcePolicy := j.sourcePolicy.name
  destinationDatabase := j.destinationDatabase
  destinationPolicy := j.destinationPolicy
  retry := s.retry
  maxPoints := s.maxPoints

end Job

variable {σ : Type}

/-- The sum of what was done in a chunk. -/
def ChunkReport.ofOutcomes (pass : Pass) (w : Window) (measurements : Nat)
    (outcomes : List Outcome) (elapsed : Span) : ChunkReport where
  pass := pass
  window := w
  measurements := measurements
  points := (outcomes.map (·.points)).foldr (· + ·) 0
  superseded := 0
  readErrors := outcomes.countP (·.readFailed)
  writeErrors := outcomes.countP (·.writeFailed)
  elapsed := elapsed

/-- Moves all measurements within one chunk. -/
def syncChunk (s : Settings) (j : Job) (pass : Pass) (w : Window) :
    Process σ Outcome ChunkReport := do
  let started ← Process.clock
  let ctx := j.context s
  let jobs := j.measurements.map fun (name, types) => ctx.transfer w name types
  let outcomes ← Process.pool s.workers jobs
  let ended ← Process.clock
  let report := ChunkReport.ofOutcomes pass w jobs.length outcomes (ended.uptime - started.uptime)
  Process.log report.logLine
  pure report

/-- Walks chunks one after another. -/
def syncChunks (s : Settings) (j : Job) (pass : Pass) :
    List Window → Process σ Outcome (List ChunkReport)
  | [] => pure []
  | w :: ws => do
    let report ← syncChunk s j pass w
    let reports ← syncChunks s j pass ws
    pure (report :: reports)

/-- Walks the chunks of an earlier pass again in finer chunks. -/
def replayChunks (s : Settings) (j : Job) (chunk : Span) :
    List Window → Process σ Outcome (Except PlanError (List ChunkReport))
  | [] => pure (.ok [])
  | w :: ws => do
    match plan w.start w.stop chunk .zero j.order with
    | .error e => pure (.error e)
    | .ok p =>
      let reports ← syncChunks s j .replay p.windows
      match ← replayChunks s j chunk ws with
      | .error e => pure (.error e)
      | .ok more => pure (.ok (reports ++ more))

private def syncNotice (j : Job) (chunks : Nat) : Log.Line :=
  Log.info ("Syncing " ++ j.source.name ++ ":" ++ j.sourceDatabase ++ "." ++
    j.sourcePolicy.name ++ " -> " ++ j.destination.name ++ ":" ++ j.destinationDatabase ++ "." ++
    j.destinationPolicy ++ " from " ++ j.start.text ++ " to " ++ j.stop.text ++ " (" ++
    toString chunks ++ " chunks, " ++ toString j.measurements.length ++ " measurements, " ++
    j.order.name ++ ")")

private def replayNotice (bad : Nat) (chunk : Span) : Log.Line :=
  Log.warn ("Replaying " ++ toString bad ++ " bad chunks at " ++ chunk.text ++ " granularity")

/-- The report of both passes. The points of chunks that were replayed are left to the
replay. -/
def Report.ofPasses (j : Job) (initial replayed : List ChunkReport) (elapsed : Span) : Report :=
  let chunks := initial.map (fun c => if c.isBad then c.supersede else c) ++ replayed
  { route := j.route
    start := j.start
    stop := j.stop
    totalPoints := (chunks.map (·.points)).foldr (· + ·) 0
    elapsed := elapsed
    chunks := chunks
    initialBad := initial.filter (·.isBad)
    bad := replayed.filter (·.isBad) }

/-- Syncs a policy. Only a chunk length of zero or an empty window is an error. -/
def sync (s : Settings) (j : Job) : Process σ Outcome (Except PlanError Report) := do
  match plan j.start j.stop s.chunk s.maxRetention j.order with
  | .error e => pure (.error e)
  | .ok p =>
    Process.logAll p.log
    let started ← Process.clock
    Process.log (syncNotice j p.windows.length)
    let initial ← syncChunks s j .initial p.windows
    let bad := initial.filter (·.isBad)
    if !bad.isEmpty then
      Process.log (replayNotice bad.length (replayChunk s.chunk))
    match ← replayChunks s j (replayChunk s.chunk) (bad.map (·.window)) with
    | .error e => pure (.error e)
    | .ok replayed =>
      let ended ← Process.clock
      let report := Report.ofPasses j initial replayed (ended.uptime - started.uptime)
      Process.log report.logLine
      pure (.ok report)

end SeriesReplica.Sync
