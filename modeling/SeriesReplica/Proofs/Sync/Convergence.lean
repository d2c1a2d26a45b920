import SeriesReplica.Proofs.Node.Contents
import SeriesReplica.Proofs.Sync.Copied

/-! Syncing again. A sync only ever writes rows of its source as they are read, so that one without
failures brings the destination to where it would have been brought at once, whatever an earlier
one has left behind and however the two go about it. -/
namespace SeriesReplica.Sync
open Time Concurrent Node Point Query Schema

/-- How a job is run: the settings and the order of its chunks, the calls that fail on the way, and
the moment and the number of calls at which it begins. -/
structure Run where
  settings : Settings
  order : Order
  faults : Faults
  begin : Instant
  calls : Nat

variable {σ : Type} {j : Job} {x : Run} {fields : RowKey → Fields} {source before : Store}
  {net : Network}

namespace Run

/-- The job as it is run. -/
def job (x : Run) (j : Job) : Job := { j with order := x.order }

/-- Every schedule of a run from a network ends, with a result and a network that have a
property. -/
def Ends (x : Run) (j : Job) (shared : σ) (net : Network)
    (P : Except PlanError Report → Network → Prop) : Prop :=
  ((Machine.initial x.begin ⟨net, x.calls⟩ shared).launch
    (sync x.settings (x.job j))).Inevitably x.faults.host
    fun m => ∃ result, m.answer? 0 = some result ∧ P result m.nodes.network

/-- A run without failures whose limit does not cut the window. -/
structure IsWhole (x : Run) (j : Job) : Prop where
  quiet : x.faults.Quiet
  chunk_ne_zero : x.settings.chunk.nanos ≠ 0
  within : x.settings.maxRetention.nanos = 0 ∨
    j.stop.epochNanos.toInt - j.start.epochNanos.toInt ≤ x.settings.maxRetention.nanos

theorem IsWhole.plannedFirst_eq (h : x.IsWhole j) :
    plannedFirst j.start j.stop x.settings.chunk x.settings.maxRetention =
      j.start.epochNanos.toInt := by
  rcases h.within with hzero | hspan
  · exact if_neg fun hcut => hcut.1 hzero
  · exact plannedFirst_eq_start h.chunk_ne_zero hspan

/-- A run ends with what its sync yields. -/
theorem ends_of_yields {shared : σ} {P : Except PlanError Report → Network → Prop}
    (h : ∀ result (last : Scene Unreliable σ),
      (sync x.settings (x.job j) : Process σ Outcome _).Yields x.faults.host x.begin result last
        ⟨⟨net, x.calls⟩, .zero, shared⟩ → P result last.nodes.network) :
    x.Ends j shared net P := by
  refine (Machine.launch_inevitably _ _ _ _ _).mono ?_
  rintro m ⟨result, last, hyields, -, hanswers, hnodes, -⟩
  refine ⟨result, ?_, hnodes ▸ h result last hyields⟩
  rw [Machine.answer?, hanswers]
  rfl

/-- The order in which its chunks are walked is nothing to what a job carries. -/
private theorem carries_job (h : j.Carries fields source before) (x : Run) :
    (x.job j).Carries fields source before :=
  ⟨h.apart, h.named, h.agrees, h.decoded, h.known, h.typed⟩

/-- Whatever fails, a run leaves its source and has written rows of the window over the
destination. -/
private theorem ends_overlaid (hcarries : j.Carries fields source before)
    (hwindow : j.start < j.stop) (hnanos : j.start.epochNanos < j.stop.epochNanos) (shared : σ)
    {s d : MemoryNode} (hs : net.node? j.source.client = some (.memory s))
    (hsource : s.store = source) (hd : net.node? j.destination.client = some (.memory d))
    (hbefore : before.Overlaid j.destinationDatabase j.destinationPolicy fields ∅ d.store) :
    x.Ends j shared net fun _ net' => ∃ s' d' U,
      net'.node? j.source.client = some (.memory s') ∧ s'.store = source ∧
      net'.node? j.destination.client = some (.memory d') ∧
      before.Overlaid j.destinationDatabase j.destinationPolicy fields U d'.store ∧
      ∀ k ∈ U, InRange fields j.start.epochNanos.toInt j.stop.epochNanos.toInt k := by
  refine ends_of_yields fun result last hyields => ?_
  by_cases hchunk : x.settings.chunk.nanos = 0
  -- Chunks without length are refused before any call is made.
  · have hrefused : plan (x.job j).start (x.job j).stop x.settings.chunk
        x.settings.maxRetention (x.job j).order = .error (.invalidChunk x.settings.chunk) :=
      if_pos hchunk
    simp only [sync, hrefused] at hyields
    obtain ⟨-, rfl⟩ := hyields
    exact ⟨s, d, ∅, hs, hsource, hd, hbefore, by simp⟩
  · obtain ⟨r, U, -, ⟨⟨s', hs', hstore, -⟩, ⟨d', hd', hoverlaid, -⟩, hplanned⟩, -⟩ :=
      sync_overlays x.faults.serving (carries_job hcarries x) hwindow hnanos hchunk
        ⟨⟨s, hs, hsource, fun h => absurd trivial h⟩, ⟨d, hd, hbefore, fun h => absurd trivial h⟩,
          by simp⟩ hyields
    refine ⟨s', d', U, hs', hstore, hd', hoverlaid, fun k hk => ?_⟩
    obtain ⟨⟨hfirst, hpast⟩, hne⟩ := hplanned k hk
    exact ⟨⟨(start_le_plannedFirst hnanos hchunk _).trans hfirst, hpast⟩, hne⟩

/-- A run without failures is clean and has written and counted every row of the window. -/
private theorem IsWhole.ends_copied (h : x.IsWhole j) (hcarries : j.Carries fields source before)
    (hwindow : j.start < j.stop) (hnanos : j.start.epochNanos < j.stop.epochNanos) (shared : σ)
    (hsource : net.Serves j.source.client source)
    (hbefore : net.Serves j.destination.client before)
    (hpolicy : (before.policy? j.destinationDatabase j.destinationPolicy).isSome) :
    x.Ends j shared net fun result net' => ∃ r after U, result = .ok r ∧ r.isClean = true ∧
      r.totalPoints = U.card ∧ net'.Serves j.destination.client after ∧
      before.Overlaid j.destinationDatabase j.destinationPolicy fields U after ∧
      ∀ k, k ∈ U ↔ InRange fields j.start.epochNanos.toInt j.stop.epochNanos.toInt k := by
  obtain ⟨p, hp⟩ := Option.isSome_iff_exists.1 hpolicy
  obtain ⟨n, hn, hhealthy, rfl⟩ := hsource
  obtain ⟨d, hd, hdhealthy, rfl⟩ := hbefore
  refine ends_of_yields fun result last hyields => ?_
  obtain ⟨r, U, rfl, ⟨-, ⟨d', hd', hoverlaid, hhealthy'⟩, -⟩, hcopied, hfaulty⟩ :=
    sync_overlays h.quiet.serving (carries_job hcarries x) hwindow hnanos h.chunk_ne_zero
      ⟨⟨n, hn, rfl, fun _ => hhealthy⟩, ⟨d, hd, .refl hp _, fun _ => hdhealthy⟩, by simp⟩ hyields
  have hclean : r.isClean = true := Bool.eq_true_of_not_eq_false hfaulty
  obtain ⟨hcounted, hmem⟩ := hcopied hclean
  rw [show plannedFirst (x.job j).start (x.job j).stop x.settings.chunk x.settings.maxRetention =
    j.start.epochNanos.toInt from h.plannedFirst_eq] at hmem
  exact ⟨r, d'.store, U, rfl, hclean, hcounted, ⟨d', hd', hhealthy' id, rfl⟩, hoverlaid, hmem⟩

end Run

/-- A run that may fail in any way, followed by one without failures, leaves the destination as the
one alone would, and the report of the second is clean and counts as many points. Settings and
orders need not be the same. -/
theorem sync_converges (shared : σ) (first second single : Run) (j : Job)
    {source destination : MemoryNode}
    (hsource : net.node? j.source.client = some (.memory source))
    (hdestination : net.node? j.destination.client = some (.memory destination))
    (hapart : j.source.client ≠ j.destination.client) (hreachable : source.Reachable)
    (hpolicy : (destination.store.policy? j.destinationDatabase j.destinationPolicy).isSome)
    (hnamed : j.destinationPolicy ≠ "")
    (hagrees : ∀ p, destination.store.policy? j.destinationDatabase j.destinationPolicy = some p →
      ∀ m f t t', p.type? m f = some t → j.type? m f = some t' → t = t')
    (hwindow : j.start < j.stop) (hnanos : j.start.epochNanos < j.stop.epochNanos)
    (hsecond : second.IsWhole j) (hsingle : single.IsWhole j) :
    first.Ends j shared net fun _ net₁ => ∃ source₁ destination₁,
      net₁.node? j.source.client = some (.memory source₁) ∧ source₁.store = source.store ∧
      net₁.node? j.destination.client = some (.memory destination₁) ∧
      ∀ again alone : Network,
        again.Serves j.source.client source₁.store →
        again.Serves j.destination.client destination₁.store →
        alone.Serves j.source.client source.store →
        alone.Serves j.destination.client destination.store →
        second.Ends j shared again fun result net₂ => ∃ r copy,
          result = .ok r ∧ r.isClean = true ∧ net₂.Serves j.destination.client copy ∧
          single.Ends j shared alone fun result' net₃ => ∃ r' copy',
            result' = .ok r' ∧ net₃.Serves j.destination.client copy' ∧
            copy.SameContents copy' ∧ r.totalPoints = r'.totalPoints := by
  obtain ⟨p, hp⟩ := Option.isSome_iff_exists.1 hpolicy
  have hcarries := Job.readout_carries hapart hnamed hreachable.sound hagrees
  refine (Run.ends_overlaid hcarries hwindow hnanos shared hsource rfl hdestination
    (.refl hp _)).mono ?_
  rintro m ⟨result, hanswer, s', d', U, hs', hstore, hd', hoverlaid, hU⟩
  refine ⟨result, hanswer, s', d', hs', hstore, hd', fun again alone hs hd hs₀ hd₀ => ?_⟩
  rw [hstore] at hs
  -- What the first run has written declares only types that the job knows.
  have hcarries' : j.Carries (j.readout source.store) source.store d'.store := by
    refine Job.readout_carries hapart hnamed hreachable.sound fun q hq => ?_
    obtain ⟨p₀, q', hp₀, hq', hover⟩ := hoverlaid.policy?_eq
    obtain rfl := Option.some.inj (hq.symm.trans hq')
    exact hover.agrees hcarries.typed (hagrees p₀ hp₀)
  have hpolicy' : (d'.store.policy? j.destinationDatabase j.destinationPolicy).isSome := by
    obtain ⟨-, q, -, hq, -⟩ := hoverlaid.policy?_eq
    rw [hq]
    rfl
  refine (hsecond.ends_copied hcarries' hwindow hnanos shared hs hd hpolicy').mono ?_
  rintro m₂ ⟨result₂, hanswer₂, r, copy, V, rfl, hclean, hcount, hserves, hcopy, hV⟩
  refine ⟨_, hanswer₂, r, copy, rfl, hclean, hserves, ?_⟩
  refine (hsingle.ends_copied hcarries hwindow hnanos shared hs₀ hd₀ hpolicy).mono ?_
  rintro m₃ ⟨result₃, hanswer₃, r', copy', V', rfl, -, hcount', hserves', hcopy', hV'⟩
  -- Both write all rows of the window, and those of the first run are among these.
  obtain rfl : V = V' := Finset.ext fun k => (hV k).trans (hV' k).symm
  have hUV : U ∪ V = V := Finset.union_eq_right.2 fun k hk => (hV k).2 (hU k hk)
  exact ⟨_, hanswer₃, r', copy', rfl, hserves', (hUV ▸ hoverlaid.trans hcopy).same hcopy',
    hcount.trans hcount'.symm⟩

private def weekly : PolicySpec := ⟨"weekly", .zero, .zero, 1⟩

/-- A row with a field that is keyed as its time is. -/
private def timedPoint : Point :=
  ⟨"cpu", ∅, ((∅ : Fields).insert "load" (.integer 7)).insert "time" (.boolean true), 5⟩

private def timedSource : MemoryNode :=
  (((MemoryNode.ofName "a").addPolicy "app" weekly true).insert ⟨"app", "weekly", [timedPoint]⟩).2

private def vacantNode : MemoryNode := (MemoryNode.ofName "b").addPolicy "app" weekly true

/-- The copy of the first hour from one node to the other. -/
private def hourJob : Job where
  source := ⟨"a", ⟨0⟩⟩
  destination := ⟨"b", ⟨1⟩⟩
  sourceDatabase := "app"
  destinationDatabase := "app"
  sourcePolicy := ⟨"weekly", .zero, .zero, 1, true, (∅ : Std.ExtTreeMap String FieldTypes).insert
    "cpu" (((∅ : FieldTypes).insert "load" .integer).insert "time" .boolean)⟩
  destinationPolicy := "weekly"
  start := .epoch
  stop := .ofEpochNanos 3600000000000
  order := .reverse

/-- A run in chunks of ten minutes while every other call fails. -/
private def failingRun : Run :=
  ⟨⟨.ofSecs 600, .zero, 2, 100, ⟨2, .ofSecs 1⟩⟩, .reverse,
    ⟨fun n _ _ => if n % 2 = 0 then some (.unavailable "busy") else none, fun _ => .zero⟩,
    .epoch, 0⟩

/-- A run in chunks of a given length without failures. -/
private def quietRun (chunk : Span) (order : Order) : Run :=
  ⟨⟨chunk, .ofSecs 3600, 1, 10, ⟨0, .zero⟩⟩, order, ⟨fun _ _ _ => none, fun _ => .ofSecs 1⟩,
    .epoch, 0⟩

/-- A failing copy that is repeated in other chunks the other way round, next to one copy at
once. -/
theorem sync_converges_one_row :
    failingRun.Ends hourJob () ⟨[.memory timedSource, .memory vacantNode]⟩ fun _ net₁ =>
      ∃ source₁ destination₁, net₁.node? ⟨0⟩ = some (.memory source₁) ∧
        source₁.store = timedSource.store ∧ net₁.node? ⟨1⟩ = some (.memory destination₁) ∧
        ∀ again alone : Network, again.Serves ⟨0⟩ source₁.store →
          again.Serves ⟨1⟩ destination₁.store → alone.Serves ⟨0⟩ timedSource.store →
          alone.Serves ⟨1⟩ vacantNode.store →
          (quietRun (.ofSecs 1500) .forward).Ends hourJob () again fun result net₂ => ∃ r copy,
            result = .ok r ∧ r.isClean = true ∧ net₂.Serves ⟨1⟩ copy ∧
            (quietRun (.ofSecs 3600) .reverse).Ends hourJob () alone fun result' net₃ =>
              ∃ r' copy', result' = .ok r' ∧ net₃.Serves ⟨1⟩ copy' ∧
                copy.SameContents copy' ∧ r.totalPoints = r'.totalPoints := by
  have hvacant : vacantNode.store.policy? hourJob.destinationDatabase
      hourJob.destinationPolicy = some (.ofSpec weekly) := rfl
  have hspan : hourJob.stop.epochNanos.toInt - hourJob.start.epochNanos.toInt ≤
      (Span.ofSecs 3600).nanos := by decide
  have hwhole : ∀ chunk order, chunk.nanos ≠ 0 → (quietRun chunk order).IsWhole hourJob :=
    fun chunk order hchunk => ⟨fun _ _ _ => rfl, hchunk, .inr hspan⟩
  refine sync_converges () _ _ _ hourJob rfl rfl (by decide) ?_ (by rw [hvacant]; rfl) (by decide)
    (fun p hp => ?_) (by decide) (by decide) (hwhole _ _ (by decide)) (hwhole _ _ (by decide))
  · exact .insert _ (.addPolicy _ _ _ (.ofName "a"))
  · obtain rfl := Option.some.inj (hvacant.symm.trans hp)
    intro m f t t' ht
    simp [StoredPolicy.type?, StoredPolicy.ofSpec] at ht

end SeriesReplica.Sync
