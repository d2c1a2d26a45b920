import SeriesReplica.Schema.Decode
import SeriesReplica.Sync.Plan
import SeriesReplica.Sync.Settings

/-!
Moving the points of one measurement within one window: read, decode, write in batches. Every
read and every write is retried; a transfer ends at the first one that is given up.
-/
namespace SeriesReplica.Sync
open Concurrent Query Schema

/-- Where a transfer reads and writes, and how. -/
structure TransferContext where
  source : Client
  destination : Client
  sourceDatabase : String
  sourcePolicy : String
  destinationDatabase : String
  destinationPolicy : String
  retry : RetryPolicy
  maxPoints : Nat

/-- What a transfer did. -/
structure Outcome where
  points : Nat
  readFailed : Bool
  writeFailed : Bool
  deriving DecidableEq, Inhabited

namespace TransferContext

/-- The request for the rows of a measurement within a window. -/
def select (ctx : TransferContext) (measurement : String) (w : Window) : Request :=
  ⟨.selectWindow ctx.sourcePolicy measurement w.start w.stop, some ctx.sourceDatabase,
    some ctx.sourcePolicy⟩

private def gaveUp (what : String) (w : Window) (e : Node.Error) : Log.Line :=
  Log.error (what ++ " [" ++ w.start.text ++ " - " ++ w.stop.text ++ "] gave up: " ++ e.message)

/-- The points of a series, and what is logged about those that are dropped. -/
def decode (measurement : String) (types : FieldTypes) (s : Series) :
    List Point × List Log.Line :=
  match decodeSeries measurement types s with
  | .ok d =>
    let summary :=
      if 0 < d.droppedFields ∨ 0 < d.droppedPoints then
        [Log.debug (measurement ++ ": dropped " ++ toString d.droppedFields ++ " fields and " ++
          toString d.droppedPoints ++ " points while decoding")]
      else []
    (d.points, d.log ++ summary)
  | .error e => ([], [Log.warn (measurement ++ ": skipping series: " ++ e.message)])

/-- Writes batches one after another, up to the first that fails. -/
def writeAll (ctx : TransferContext) (what : String) (w : Window) (written : Nat) :
    List Batch → Routine Outcome
  | [] => pure ⟨written, false, false⟩
  | b :: bs => do
    match ← ctx.retry.run what Node.Error.message (Routine.write ctx.destination b) with
    | .ok () => writeAll ctx what w (written + b.points.length) bs
    | .error e =>
      Routine.log (gaveUp what w e)
      pure ⟨written, false, true⟩

/-- Moves the points of a measurement within a window. -/
def transfer (ctx : TransferContext) (w : Window) (measurement : String) (types : FieldTypes) :
    Routine Outcome := do
  let readWhat := "read " ++ ctx.sourceDatabase ++ "." ++ ctx.sourcePolicy ++ "." ++ measurement
  match ← ctx.retry.run readWhat Node.Error.message
      (Routine.query ctx.source (ctx.select measurement w) none) with
  | .error e =>
    Routine.log (gaveUp readWhat w e)
    pure ⟨0, true, false⟩
  | .ok response =>
    let decoded := response.series.map (decode measurement types)
    Routine.logAll (decoded.flatMap (·.2))
    let points := decoded.flatMap (·.1)
    if points.isEmpty then pure ⟨0, false, false⟩
    else
      let writeWhat := "write " ++ ctx.destinationDatabase ++ "." ++ ctx.destinationPolicy ++
        "." ++ measurement
      let batch : Batch := ⟨ctx.destinationDatabase, ctx.destinationPolicy, points⟩
      ctx.writeAll writeWhat w 0 (batch.split ctx.maxPoints)

end TransferContext
end SeriesReplica.Sync
