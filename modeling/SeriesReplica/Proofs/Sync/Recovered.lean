import SeriesReplica.Proofs.Concurrent.Adequacy
import SeriesReplica.Proofs.Sync.Backing

/-! A sync under arbitrary failures. Whichever calls fail and in whatever order the workers run,
the destination is overlaid with rows of the source, among them every row of the planned range
outside the windows that are reported as not recovered. -/
namespace SeriesReplica.Sync
open Time Concurrent Node Point Query Schema

/-- A network after a sync, which has written the rows of `U` and reports of them. -/
structure Synced (s : Settings) (j : Job) (source destination : Store) (r : Report)
    (U : Finset RowKey) (net : Network) : Prop where
  source_eq : ∃ n, net.node? j.source.client = some (.memory n) ∧ n.store = source
  overlaid : ∃ n, net.node? j.destination.client = some (.memory n) ∧
    destination.Overlaid j.destinationDatabase j.destinationPolicy (j.decoded source) U n.store
  planned : ∀ k ∈ U, j.Planned source (plannedFirst j.start j.stop s.chunk s.maxRetention)
    j.stop.epochNanos.toInt k
  recovered : ∀ k, j.Planned source (plannedFirst j.start j.stop s.chunk s.maxRetention)
    j.stop.epochNanos.toInt k →
    (∀ w ∈ r.unrecoveredWindows, ¬ w.Holds k.timestamp.toInt) → k ∈ U
  counted : r.totalPoints ≤ U.card
  all_counted : r.isClean = true → r.totalPoints = U.card

variable {s : Settings} {j : Job} {source destination : Store} {faulty : Prop} {r : Report}
  {U : Finset RowKey} {net : Network}

/-- A report that accounts for the planned range, after everything has been copied. -/
theorem Accounts.synced (h : Accounts (j.decoded source) faulty
      (plannedFirst j.start j.stop s.chunk s.maxRetention) j.stop.epochNanos.toInt r U)
    (hcopying : Copying j source destination
      (plannedFirst j.start j.stop s.chunk s.maxRetention) j.stop.epochNanos.toInt faulty U net) :
    Synced s j source destination r U net := by
  obtain ⟨⟨n, hn, hstore, -⟩, ⟨d, hd, hoverlaid, -⟩, hplanned⟩ := hcopying
  obtain ⟨C, hCU, -, hcard, hall⟩ := h.copied
  refine ⟨⟨n, hn, hstore⟩, ⟨d, hd, hoverlaid⟩, hplanned,
    fun k hk => h.recovered k hk.1.1 hk.1.2 hk.2, ?_, fun hclean => ?_⟩
  · rw [← hcard]
    exact Finset.card_le_card hCU
  · have hUC : U ⊆ C := fun k hk => hall (by rw [hclean]; rfl) k (hplanned k hk)
    rw [← hcard, hCU.antisymm hUC]

/-- Whichever calls fail, however long they take and in whatever order the workers run, a sync
between two memory nodes ends and reports what has been recovered. -/
theorem sync_recovers {σ : Type} (f : Faults) (s : Settings) (j : Job) (net : Network)
    (calls : Nat) (start : Instant) (shared : σ) {source destination : MemoryNode}
    (hsource : net.node? j.source.client = some (.memory source))
    (hdestination : net.node? j.destination.client = some (.memory destination))
    (hapart : j.source.client ≠ j.destination.client) (hreachable : source.Reachable)
    (hpolicy : (destination.store.policy? j.destinationDatabase j.destinationPolicy).isSome)
    (hnamed : j.destinationPolicy ≠ "")
    (hagrees : ∀ p, destination.store.policy? j.destinationDatabase j.destinationPolicy = some p →
      ∀ m f t t', p.type? m f = some t → j.type? m f = some t' → t = t')
    (htime : ∀ name types m, (name, types) ∈ j.measurements →
      source.store.measurement? j.sourceDatabase j.sourcePolicy.name name = some m →
      m.types["time"]? = none)
    (hwindow : j.start < j.stop) (hnanos : j.start.epochNanos < j.stop.epochNanos)
    (hchunk : s.chunk.nanos ≠ 0) :
    ((Machine.initial start ⟨net, calls⟩ shared).launch (sync s j)).Inevitably f.host fun m =>
      ∃ r U, m.answer? 0 = some (.ok r) ∧
        Synced s j source.store destination.store r U m.nodes.network := by
  have hfits : j.Fits source.store destination.store :=
    ⟨hapart, hnamed, hreachable.sound, htime, hagrees⟩
  obtain ⟨p, hp⟩ := Option.isSome_iff_exists.1 hpolicy
  have hinitial : Copying j source.store destination.store
      (plannedFirst j.start j.stop s.chunk s.maxRetention) j.stop.epochNanos.toInt True ∅ net :=
    ⟨⟨source, hsource, rfl, fun h => absurd trivial h⟩,
      ⟨destination, hdestination, .refl hp _, fun h => absurd trivial h⟩, by simp⟩
  have hensures : (sync s j : Process σ Outcome _).Ensures f.host start _ _ ∅ :=
    sync_ensures (hfits.backed f.serving s _ _) hwindow hnanos hchunk (hfits.decodes _ _)
  refine (Machine.launch_inevitably f.host start ⟨net, calls⟩ shared (sync s j)).mono ?_
  rintro m ⟨result, last, hyields, -, hanswers, hnodes, -⟩
  obtain ⟨U, -, hcopying, r, rfl, haccounts⟩ := hensures _ result last hinitial hyields
  refine ⟨r, U, ?_, hnodes ▸ haccounts.synced hcopying⟩
  rw [Machine.answer?, hanswers]
  rfl

private def samplePolicy : PolicySpec := ⟨"weekly", .zero, .zero, 1⟩

/-- A node with a policy that holds nothing. -/
private def emptyNode : MemoryNode := (MemoryNode.ofName "b").addPolicy "app" samplePolicy true

/-- A node with a policy that holds one row. -/
private def oneRowNode : MemoryNode :=
  (((MemoryNode.ofName "a").addPolicy "app" samplePolicy true).insert
    ⟨"app", "weekly", [⟨"cpu", ∅, (∅ : Fields).insert "load" (.integer 7), 5⟩]⟩).2

/-- The copy of the first hour from one node to the other. -/
private def sampleJob : Job where
  source := ⟨"a", ⟨0⟩⟩
  destination := ⟨"b", ⟨1⟩⟩
  sourceDatabase := "app"
  destinationDatabase := "app"
  sourcePolicy := ⟨"weekly", .zero, .zero, 1, true,
    (∅ : Std.ExtTreeMap String FieldTypes).insert "cpu" ((∅ : FieldTypes).insert "load" .integer)⟩
  destinationPolicy := "weekly"
  start := .epoch
  stop := .ofEpochNanos 3600000000000
  order := .reverse

/-- A copy of one row, in chunks of ten minutes, while every other call fails. -/
theorem sync_recovers_one_row :
    ((Machine.initial .epoch ⟨⟨[.memory oneRowNode, .memory emptyNode]⟩, 0⟩ ()).launch
        (sync ⟨.ofSecs 600, .zero, 2, 100, ⟨2, .ofSecs 1⟩⟩ sampleJob)).Inevitably
      (Faults.host ⟨fun n _ _ => if n % 2 = 0 then some (.unavailable "busy") else none,
        fun _ => .zero⟩) fun m =>
      ∃ r U, m.answer? 0 = some (.ok r) ∧
        Synced ⟨.ofSecs 600, .zero, 2, 100, ⟨2, .ofSecs 1⟩⟩ sampleJob oneRowNode.store
          emptyNode.store r U m.nodes.network := by
  have hempty : emptyNode.store.policy? sampleJob.destinationDatabase
      sampleJob.destinationPolicy = some (.ofSpec samplePolicy) := rfl
  have htypes : (oneRowNode.store.measurement? sampleJob.sourceDatabase
      sampleJob.sourcePolicy.name "cpu").map (·.types["time"]?) = some none := rfl
  refine sync_recovers _ _ _ _ 0 .epoch () rfl rfl (by decide) ?_ (by rw [hempty]; rfl) (by decide)
    (fun p hp => ?_) (fun name types m hmem hm => ?_) (by decide) (by decide) (by decide)
  · exact .insert _ (.addPolicy _ _ _ (.ofName "a"))
  · obtain rfl := Option.some.inj (hempty.symm.trans hp)
    intro m f t t' ht
    simp [StoredPolicy.type?, StoredPolicy.ofSpec] at ht
  · obtain rfl : name = "cpu" := by
      rw [Job.mem_measurements, sampleJob, Std.ExtTreeMap.getElem?_insert] at hmem
      split at hmem
      case isTrue heq => exact (Std.LawfulEqCmp.eq_of_compare heq).symm
      case isFalse => simp at hmem
    rw [hm] at htypes
    exact Option.some.inj htypes

end SeriesReplica.Sync
