import SeriesReplica.Cluster.Recovery
import SeriesReplica.Proofs.Cluster.Outage
import SeriesReplica.Proofs.Concurrent.Outcome
import SeriesReplica.Proofs.Sync.Walk

/-! What the programs of a cluster do to a watch. A probe of the slave is seen or missed, a check is
one step of the supervisor, and a recovery, whatever becomes of its data, ends once. -/
namespace SeriesReplica
open Concurrent Time

namespace Sync
open Concurrent.Process
variable {σ : Type}

theorem isReading_syncChunk (s : Settings) (j : Job) (pass : Pass) (w : Window) :
    (syncChunk s j pass w : Process σ Outcome ChunkReport).IsReading := by
  rw [syncChunk]
  refine isReading_clock.bind fun started => (isReading_pool _ _).bind fun outcomes => ?_
  exact isReading_clock.bind fun ended => (isReading_log _).bind fun _ => isReading_pure _

/-- A sync does not touch what its process shares with others. -/
theorem isReading_sync (s : Settings) (j : Job) :
    (sync s j : Process σ Outcome _).IsReading :=
  sync_of_chunks (P := fun p => p.IsReading) ⟨isReading_pure, fun hp hf => hp.bind hf,
    isReading_clock, isReading_log⟩ (isReading_syncChunk s j)

end Sync

namespace Cluster
open Sync Concurrent.Process

variable {ν : Type} {host : Host ν} {start : Instant}

/-- A probe that ends answers what it has found, and the node is seen or missed at its end. -/
theorem probe_yields {ρ : Type} {result : Except Node.Error Pong} {s last : Scene ν Monitor}
    (h : (probe : Process Monitor ρ _).Yields host start result last s) :
    ∃ found, host.exec start (probeOnce s.shared.name ⟨s.now + s.shared.timeout, s.shared.timeout⟩)
        (s.nodes, s.now) = (found, last.nodes, last.now) ∧ result = found.map (·.2) ∧
      last.shared = match found with
        | .ok (client, pong) => s.shared.succeed client pong (start.later last.now)
        | .error e => s.shared.fail e := by
  rw [probe] at h
  obtain ⟨m, s₁, ⟨rfl, rfl⟩, h⟩ := Process.yields_bind.1 h
  obtain ⟨c, s₂, hc, h⟩ := Process.yields_bind.1 h
  obtain ⟨rfl, rfl⟩ := Process.yields_clock.1 hc
  obtain ⟨found, s₃, hfound, h⟩ := Process.yields_bind.1 h
  obtain ⟨rfl, hexec⟩ := Process.yields_ofRoutine.1 hfound
  refine ⟨found, ?_⟩
  cases found with
  | ok found =>
    obtain ⟨now, s₄, hnow, h⟩ := Process.yields_bind.1 h
    obtain ⟨rfl, rfl⟩ := Process.yields_clock.1 hnow
    obtain ⟨u, s₅, hupdate, h⟩ := Process.yields_bind.1 h
    obtain rfl := Process.yields_update.1 hupdate
    obtain ⟨rfl, rfl⟩ := h
    exact ⟨Prod.ext hexec rfl, rfl, rfl⟩
  | error e =>
    obtain ⟨u, s₄, hupdate, h⟩ := Process.yields_bind.1 h
    obtain rfl := Process.yields_update.1 hupdate
    obtain ⟨rfl, rfl⟩ := h
    exact ⟨Prod.ext hexec rfl, rfl, rfl⟩

/-- The watch of a cluster's slave. -/
def watched (c : Cluster) : Watched := ⟨c.slave, c.supervisor⟩

/-- A check is one step of the supervisor, and then it recovers what the verdict says. -/
theorem check_yields {s : Cluster.Settings} {t : Option Transition} {scene last : Scene ν Cluster}
    (h : (check s).Yields host start t last scene) :
    let now := start.later scene.now
    let mid : Cluster := { scene.shared with
      supervisor := scene.shared.supervisor.step s.tick (scene.shared.master.sighting now)
        (scene.shared.slave.sighting now) }
    mid.watched = scene.shared.watched.next s.tick
        (now, .checked (scene.shared.master.sighting now)) ∧
      ((∃ lo hi, scene.shared.watched.verdict s.tick now = .recover lo hi ∧
          t = some .recovered ∧
          (recover s lo hi).Yields host start () last { scene with shared := mid }) ∨
        (∀ lo hi, scene.shared.watched.verdict s.tick now ≠ .recover lo hi) ∧
          last = { scene with shared := mid }) := by
  intro now mid
  refine ⟨rfl, ?_⟩
  rw [check] at h
  obtain ⟨c, s₁, hc, h⟩ := Process.yields_bind.1 h
  obtain ⟨hs₁, rfl⟩ := Process.yields_clock.1 hc
  subst s₁
  obtain ⟨_, _, ⟨rfl, rfl⟩, h⟩ := Process.yields_bind.1 h
  obtain ⟨_, _, ⟨rfl, rfl⟩, h⟩ := Process.yields_bind.1 h
  obtain ⟨_, _, ⟨rfl, rfl⟩, h⟩ := Process.yields_bind.1 h
  dsimp only [id] at h
  have hverdict : scene.shared.watched.verdict s.tick now = scene.shared.supervisor.verdict s.tick
      (scene.shared.slave.sighting (start.later scene.now)) := rfl
  rw [hverdict]
  match hv : scene.shared.supervisor.verdict s.tick
    (scene.shared.slave.sighting (start.later scene.now)) with
  | .recover lo hi =>
    rw [hv] at h
    obtain ⟨u, _, hrecover, rfl, rfl⟩ := Process.yields_bind.1 h
    exact .inl ⟨lo, hi, rfl, rfl, hrecover⟩
  | .slaveDown | .stillDown | .stillRecovering | .steady =>
    rw [hv] at h
    obtain ⟨u, _, hlog, rfl, rfl⟩ := Process.yields_bind.1 h
    refine .inr ⟨fun lo hi heq => (nomatch heq), ?_⟩
    first | exact Process.yields_log.1 hlog | exact Process.yields_logAll.1 hlog
  | .overflow =>
    rw [hv] at h
    exact .inr ⟨fun lo hi heq => (nomatch heq), h.2.symm⟩

theorem isReading_syncPolicies (s : Cluster.Settings) (master slave : Endpoint)
    {window : Schema.Policy → Process Cluster Outcome (Instant × Instant)}
    (hwindow : ∀ p, (window p).IsReading) (ps : List (Schema.Database × Schema.Policy)) :
    (syncPolicies s master slave window ps).IsReading := by
  induction ps with
  | nil => exact isReading_pure _
  | cons p ps ih =>
    rw [syncPolicies]
    split
    · exact (isReading_log _).bind fun _ => ih
    · refine (hwindow _).bind fun w => (isReading_sync s.sync _).bind fun result => ?_
      cases result with
      | ok report => exact ih.bind fun reports => isReading_pure _
      | error e => exact (isReading_log _).bind fun _ => ih

theorem isReading_replay (s : Cluster.Settings) (ds : List Schema.Database) (lo hi : Instant) :
    (replay s ds lo hi).IsReading := by
  rw [replay]
  split
  · refine IsReading.bind ?_ fun result => ?_
    · rw [replicateData, replicateWith]
      refine isReading_get.bind fun c => isReading_get.bind fun d => ?_
      dsimp only
      split
      · refine (isReading_syncPolicies s _ _ (fun _ => isReading_pure _) _).bind fun reports => ?_
        exact isReading_pure _
      · exact isReading_pure _
      · exact isReading_pure _
    · cases result <;> exact isReading_log _
  · exact isReading_log _

/-- What a recovery does before its end: it may find another schema. -/
private def Rediscovered (before after : Cluster) : Prop :=
  after.slave = before.slave ∧
    ∃ schema, after.supervisor = { before.supervisor with schema := schema }

private theorem refreshSchema_yields {result : Except Fault (List Schema.Database)}
    {scene last : Scene ν Cluster} (h : refreshSchema.Yields host start result last scene) :
    Rediscovered scene.shared last.shared := by
  rw [refreshSchema] at h
  obtain ⟨found, s₁, hfound, h⟩ := Process.yields_bind.1 h
  have hreading : (discover .all).IsReading := by
    rw [discover]
    refine isReading_get.bind fun c => ?_
    split
    · exact isReading_pure _
    · exact (isReading_ofRoutine _).bind fun found => isReading_pure _
  have hshared := hreading.shared_eq hfound
  cases found with
  | error e =>
    obtain ⟨rfl, rfl⟩ := h
    rw [← hshared]
    exact ⟨rfl, _, rfl⟩
  | ok ds =>
    obtain ⟨u, s₂, hupdate, rfl, rfl⟩ := Process.yields_bind.1 h
    obtain rfl := Process.yields_update.1 hupdate
    rw [← hshared]
    exact ⟨rfl, ds, rfl⟩

private theorem recoverySchema_yields {ds : List Schema.Database} {scene last : Scene ν Cluster}
    (h : recoverySchema.Yields host start ds last scene) :
    Rediscovered scene.shared last.shared := by
  rw [recoverySchema] at h
  obtain ⟨found, s₁, hfound, h⟩ := Process.yields_bind.1 h
  have hfirst := refreshSchema_yields hfound
  cases found with
  | ok found =>
    obtain ⟨rfl, rfl⟩ := h
    exact hfirst
  | error e =>
    obtain ⟨u, s₂, hlog, h⟩ := Process.yields_bind.1 h
    obtain rfl := Process.yields_log.1 hlog
    obtain ⟨_, _, ⟨rfl, rfl⟩, rfl, rfl⟩ := Process.yields_bind.1 h
    exact hfirst

/-- What a recovery does that has started, once the slave is refreshed. -/
def recoverSince (s : Cluster.Settings) (lo hi : Instant) (started : Clock) : Operation Unit := do
  let ds ← recoverySchema
  replay s ds lo hi
  let ended ← Process.clock
  let elapsed := ended.uptime - started.uptime
  let last ← Process.getAndUpdate fun c => { c with supervisor := c.supervisor.finish elapsed }
  Process.log (Log.info ("Recovery #" ++ toString (last.supervisor.recoveries + 1) ++ " done in " ++
    elapsed.text ++ ", cluster state OK"))

/-- The two halves of a recovery. -/
theorem recover_eq (s : Cluster.Settings) (lo hi : Instant) : recover s lo hi = (do
    let c ← Process.get
    Process.log (Log.info ("Slave " ++ c.slave.name ++ " is back, recovering data from " ++
      lo.text ++ " to " ++ hi.text))
    let started ← Process.clock
    let before ← Process.getAndUpdate fun c => { c with slave := c.slave.refresh }
    (if before.slave.probed.isNone then
      Process.log (Log.warn ("No probed connection to " ++ before.slave.name ++ " to refresh"))
    else pure ())
    recoverSince s lo hi started) := by
  rw [recover]
  refine congrArg _ (funext fun c => congrArg _ (funext fun _ => ?_))
  refine congrArg _ (funext fun started => congrArg _ (funext fun before => ?_))
  dsimp only
  split <;> rfl

theorem recoverSince_yields {s : Cluster.Settings} {lo hi : Instant} {started : Clock}
    {scene last : Scene ν Cluster}
    (h : (recoverSince s lo hi started).Yields host start () last scene) :
    last.shared.slave = scene.shared.slave ∧ ∃ schema elapsed, last.shared.supervisor =
      Supervisor.finish { scene.shared.supervisor with schema := schema } elapsed := by
  obtain ⟨ds, s₁, hds, h⟩ := Process.yields_bind.1 h
  obtain ⟨u, s₂, hreplay, h⟩ := Process.yields_bind.1 h
  obtain ⟨c, s₃, hc, h⟩ := Process.yields_bind.1 h
  obtain ⟨rfl, rfl⟩ := Process.yields_clock.1 hc
  obtain ⟨_, _, ⟨rfl, rfl⟩, h⟩ := Process.yields_bind.1 h
  obtain rfl := Process.yields_log.1 h
  obtain ⟨hslave, schema, hsupervisor⟩ := recoverySchema_yields hds
  have hshared := (isReading_replay s ds lo hi).shared_eq hreplay
  dsimp only
  rw [hshared]
  exact ⟨hslave, schema, _, by rw [hsupervisor]⟩

/-- A recovery that ends leaves the slave and its supervisor as the end of a recovery does, but
for the connection and the schema. -/
theorem recover_yields {s : Cluster.Settings} {lo hi : Instant} {scene last : Scene ν Cluster}
    (h : (recover s lo hi).Yields host start () last scene) :
    last.shared.slave = scene.shared.slave.refresh ∧
      ∃ schema elapsed, last.shared.supervisor =
        Supervisor.finish { scene.shared.supervisor with schema := schema } elapsed := by
  rw [recover_eq] at h
  obtain ⟨_, _, ⟨rfl, rfl⟩, h⟩ := Process.yields_bind.1 h
  obtain ⟨_, s₁, hlog, h⟩ := Process.yields_bind.1 h
  obtain rfl := Process.yields_log.1 hlog
  obtain ⟨c, s₂, hc, h⟩ := Process.yields_bind.1 h
  obtain ⟨hs₂, rfl⟩ := Process.yields_clock.1 hc
  subst s₂
  obtain ⟨_, _, ⟨rfl, rfl⟩, h⟩ := Process.yields_bind.1 h
  obtain ⟨u, s₁, hwarned, h⟩ := Process.yields_bind.1 h
  dsimp only [id] at hwarned
  split at hwarned
  · obtain rfl := Process.yields_log.1 hwarned
    exact recoverSince_yields h
  · obtain ⟨-, rfl⟩ := Process.yields_pure.1 hwarned
    exact recoverSince_yields h

end Cluster
end SeriesReplica
