import SeriesReplica.Proofs.Node.Listing
import SeriesReplica.Proofs.Sync.Recovered

/-! A sync between memory nodes without failures. The report is clean, every planned row has been
copied and no other one, and the report counts each of them once. -/
namespace SeriesReplica.Sync
open Time Concurrent Node Point Query Schema

variable {σ : Type} {s : Settings} {j : Job} {source destination : Store} {begin : Instant}

/-- What is left when nothing fails: the rows that are planned have been written, and counted. -/
structure Complete (s : Settings) (j : Job) (source destination : Store) (r : Report)
    (after : Store) (U : Finset RowKey) : Prop where
  clean : r.isClean = true
  counted : r.totalPoints = U.card
  overlaid : destination.Overlaid j.destinationDatabase j.destinationPolicy (j.decoded source) U
    after
  mem_iff : ∀ k, k ∈ U ↔ j.Planned source
    (plannedFirst j.start j.stop s.chunk s.maxRetention) j.stop.epochNanos.toInt k

/-- Where nothing was, the destination holds what has been decoded of the planned rows. -/
theorem Complete.row?_iff {r : Report} {after : Store} {U : Finset RowKey}
    (h : Complete s j source destination r after U)
    (hnone : ∀ k, destination.row? j.destinationDatabase j.destinationPolicy k = none)
    (k : RowKey) (row : Fields) :
    after.row? j.destinationDatabase j.destinationPolicy k = some row ↔
      j.Planned source (plannedFirst j.start j.stop s.chunk s.maxRetention)
        j.stop.epochNanos.toInt k ∧ row = j.decoded source k := by
  rw [h.overlaid.row?_eq, hnone, Option.getD_none, empty_overlay, ← h.mem_iff]
  split
  case isTrue hk => exact ⟨fun heq => ⟨hk, (Option.some.inj heq).symm⟩, fun heq => by rw [heq.2]⟩
  case isFalse hk => exact iff_of_false (by simp) fun heq => hk heq.1

/-- Whatever fails, a sync with a plan leaves its source and writes only rows of the planned range
over its destination. Nothing is clean that has not copied and counted all of them. -/
theorem sync_overlays {ν : Type} {host : Host ν} {network : ν → Network} {faulty : Prop}
    {fields : RowKey → Fields} (hserving : Serving host network faulty)
    (hcarries : j.Carries fields source destination) (hwindow : j.start < j.stop)
    (hnanos : j.start.epochNanos < j.stop.epochNanos) (hchunk : s.chunk.nanos ≠ 0)
    {scene last : Scene ν σ}
    (h : CopyingBy j fields source destination (plannedFirst j.start j.stop s.chunk s.maxRetention)
      j.stop.epochNanos.toInt faulty ∅ (network scene.nodes))
    {result : Except PlanError Report}
    (hyields : (sync s j : Process σ Outcome _).Yields host begin result last scene) :
    ∃ r U, result = .ok r ∧
      CopyingBy j fields source destination (plannedFirst j.start j.stop s.chunk s.maxRetention)
        j.stop.epochNanos.toInt faulty U (network last.nodes) ∧
      (r.isClean = true → r.totalPoints = U.card ∧ ∀ k, k ∈ U ↔ InRange fields
        (plannedFirst j.start j.stop s.chunk s.maxRetention) j.stop.epochNanos.toInt k) ∧
      (r.isClean = false → faulty) := by
  have hensures : (sync s j : Process σ Outcome _).Ensures host begin _ _ ∅ :=
    sync_ensures (hcarries.backed hserving s _ _) hwindow hnanos hchunk (hcarries.decodes _ _)
  obtain ⟨U, -, hcopying, r, rfl, haccounts⟩ := hensures scene result last h hyields
  refine ⟨r, U, rfl, hcopying, fun hclean => ?_, haccounts.faulty_of_unclean⟩
  obtain ⟨C, hCU, -, hcard, hall⟩ := haccounts.copied
  have hcopied : ∀ k, InRange fields _ _ k → k ∈ C := hall (by rw [hclean]; rfl)
  obtain rfl : C = U := hCU.antisymm fun k hk => hcopied k (hcopying.planned k hk)
  exact ⟨hcard.symm, fun k => ⟨hcopying.planned k, hcopied k⟩⟩

/-- A sync without failures copies all that is planned. -/
theorem sync_copies (hfits : j.Fits source destination) (hwindow : j.start < j.stop)
    (hnanos : j.start.epochNanos < j.stop.epochNanos) (hchunk : s.chunk.nanos ≠ 0)
    (hpolicy : (destination.policy? j.destinationDatabase j.destinationPolicy).isSome)
    {scene last : Scene Network σ} (hsource : scene.nodes.Serves j.source.client source)
    (hdestination : scene.nodes.Serves j.destination.client destination)
    {result : Except PlanError Report}
    (h : (sync s j : Process σ Outcome _).Yields Network.host begin result last scene) :
    ∃ r after U, result = .ok r ∧ Complete s j source destination r after U ∧
      last.nodes.Serves j.source.client source ∧
      last.nodes.Serves j.destination.client after := by
  obtain ⟨p, hp⟩ := Option.isSome_iff_exists.1 hpolicy
  obtain ⟨n, hn, hhealthy, rfl⟩ := hsource
  obtain ⟨d, hd, hdhealthy, rfl⟩ := hdestination
  have hinitial : Copying j n.store d.store
      (plannedFirst j.start j.stop s.chunk s.maxRetention) j.stop.epochNanos.toInt False ∅
        scene.nodes :=
    ⟨⟨n, hn, rfl, fun _ => hhealthy⟩, ⟨d, hd, .refl hp _, fun _ => hdhealthy⟩, by simp⟩
  obtain ⟨r, U, rfl, hcopying, hcopied, hfaulty⟩ :=
    sync_overlays Network.serving hfits.carries hwindow hnanos hchunk hinitial h
  have hclean : r.isClean = true := Bool.eq_true_of_not_eq_false hfaulty
  obtain ⟨hcounted, hmem⟩ := hcopied hclean
  obtain ⟨⟨n', hn', hstore, hhealthy'⟩, ⟨d', hd', hoverlaid, hdhealthy'⟩, -⟩ := hcopying
  exact ⟨r, d'.store, U, rfl, ⟨hclean, hcounted, hoverlaid, hmem⟩,
    ⟨n', hn', hhealthy' id, hstore⟩, ⟨d', hd', hdhealthy' id, rfl⟩⟩

end SeriesReplica.Sync
