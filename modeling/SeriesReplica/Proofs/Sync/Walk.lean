import SeriesReplica.Concurrent.Effect
import SeriesReplica.Sync.Engine

/-! What a sync is made of. Besides its chunks a sync only reads the clock and writes the log, so
what holds of every chunk holds of a sync, if it is kept when one process goes on after another. -/
namespace SeriesReplica
open Time Concurrent

/-- A property of processes that is kept when one goes on after another, and that those have which
only read the clock or write the log. -/
structure Concurrent.Process.Composes {σ ρ : Type} (P : ∀ {α : Type}, Process σ ρ α → Prop) :
    Prop where
  pure : ∀ {α : Type} (a : α), P (pure a : Process σ ρ α)
  bind : ∀ {α β : Type} {p : Process σ ρ α} {f : α → Process σ ρ β}, P p → (∀ a, P (f a)) →
    P (p >>= f)
  clock : P (Process.clock : Process σ ρ Clock)
  log : ∀ line, P (Process.log line : Process σ ρ Unit)

namespace Sync
variable {σ : Type} {P : ∀ {α : Type}, Process σ Outcome α → Prop} {s : Settings} {j : Job}

/-- The replay of the chunks that failed, and the report of both passes. -/
def replay (s : Settings) (j : Job) (initial : List ChunkReport) (started : Clock) :
    Process σ Outcome (Except PlanError Report) := do
  match ← replayChunks s j (replayChunk s.chunk) ((initial.filter (·.isBad)).map (·.window)) with
  | .error e => pure (.error e)
  | .ok replayed =>
    let ended ← Process.clock
    let report := Report.ofPasses j initial replayed (ended.uptime - started.uptime)
    Process.log report.logLine
    pure (.ok report)

private theorem logAll_of (hP : Process.Composes P) (lines : List Log.Line) :
    P (Process.logAll lines : Process σ Outcome Unit) := by
  induction lines with
  | nil => exact hP.pure ()
  | cons line lines ih => exact hP.bind (hP.log line) fun _ => ih

private theorem syncChunks_of (hP : Process.Composes P) {pass : Pass}
    (hchunk : ∀ w, P (syncChunk s j pass w : Process σ Outcome _)) (ws : List Window) :
    P (syncChunks s j pass ws : Process σ Outcome _) := by
  induction ws with
  | nil => exact hP.pure _
  | cons w ws ih =>
    exact hP.bind (hchunk w) fun _ => hP.bind ih fun _ => hP.pure _

private theorem replayChunks_of (hP : Process.Composes P)
    (hchunk : ∀ w, P (syncChunk s j .replay w : Process σ Outcome _)) (chunk : Span)
    (ws : List Window) : P (replayChunks s j chunk ws : Process σ Outcome _) := by
  induction ws with
  | nil => exact hP.pure _
  | cons w ws ih =>
    rw [replayChunks]
    split
    · exact hP.pure _
    · refine hP.bind (syncChunks_of hP hchunk _) fun _ => hP.bind ih fun more => ?_
      cases more <;> exact hP.pure _

/-- What holds of every chunk holds of a sync. -/
theorem sync_of_chunks (hP : Process.Composes P)
    (hchunk : ∀ pass w, P (syncChunk s j pass w : Process σ Outcome _)) :
    P (sync s j : Process σ Outcome _) := by
  rw [sync]
  split
  · exact hP.pure _
  · refine hP.bind (logAll_of hP _) fun _ => hP.bind hP.clock fun started =>
      hP.bind (hP.log _) fun _ => hP.bind (syncChunks_of hP (hchunk .initial) _) fun initial => ?_
    have hreplay : P (replay s j initial started : Process σ Outcome _) := by
      refine hP.bind (replayChunks_of hP (hchunk .replay) _ _) fun replayed => ?_
      cases replayed with
      | error e => exact hP.pure _
      | ok replayed => exact hP.bind hP.clock fun _ => hP.bind (hP.log _) fun _ => hP.pure _
    dsimp only
    split
    · exact hP.bind (hP.log _) fun _ => hreplay
    · exact hreplay

end Sync
end SeriesReplica
