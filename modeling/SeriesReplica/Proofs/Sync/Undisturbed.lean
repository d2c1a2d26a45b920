import SeriesReplica.Proofs.Sync.Absorption
import SeriesReplica.Proofs.Sync.Confluence
import SeriesReplica.Proofs.Sync.Convergence

/-! Syncs that failures make no difference to. A source of which fewer reads fail than there are
attempts, and a destination of which fewer writes do, are synced with the report and the contents
that there are without failures, whichever of the workers come upon these. -/
namespace SeriesReplica.Sync
open Time Concurrent Node Point Query Schema

variable {σ ν : Type} {host : Host ν} {begin : Instant} {network : ν → Network} {s : Settings}
  {j : Job} {fields : RowKey → Fields} {source before : Store} {first past : Int} {net : Network}

/-- A source and a destination that are on line, with failures ahead of them. -/
structure FailsAhead (j : Job) {n : Nat} (a : Ahead n) (net : Network) : Prop where
  reads : ∃ m, net.node? j.source.client = some (.memory m) ∧ m.isOnline = true ∧
    m.readFailures = a.reads
  writes : ∃ m, net.node? j.destination.client = some (.memory m) ∧ m.isOnline = true ∧
    m.writeFailures = a.writes

/-- The nodes while a job copies, with failures ahead of them. -/
def CopyingAhead (j : Job) (fields : RowKey → Fields) (source before : Store) (first past : Int)
    {n : Nat} (a : Ahead n) (net : Network) : Prop :=
  (∃ U, CopyingBy j fields source before first past True U net) ∧ FailsAhead j a net

section Calls
variable {n : Nat} {a : Ahead n}

/-- A window read answers the rows of the source unless it uses up a failure. -/
theorem CopyingAhead.query (h : CopyingAhead j fields source before first past a net)
    (hapart : j.source.client ≠ j.destination.client) {r : Request} {policy measurement : String}
    {lo hi : Instant} (hr : r.statement = .selectWindow policy measurement lo hi) :
    let answered := net.call j.source.client (.query r)
    ∃ b, a ≤ b ∧ CopyingAhead j fields source before first past b answered.2 ∧
      (answered.1.2 = .ok (source.selectWindow r.database policy measurement lo hi) ∨
        (∃ e, answered.1.2 = .error e) ∧ b.reads < a.reads) := by
  obtain ⟨⟨U, hcopying⟩, ⟨m, hm, honline, hreads⟩, ⟨d, hd, hopen, hwrites⟩⟩ := h
  obtain ⟨hnext, hanswer⟩ := hcopying.query hapart hr
  rw [Network.call_memory hm] at hnext hanswer ⊢
  have hd' := (Network.node?_put_ne hapart (.memory (m.call (.query r)).2)).trans hd
  obtain ⟨honline', hanswered⟩ := MemoryNode.query_window_online honline hr
  rcases hanswered with ⟨hok, hleft⟩ | ⟨hfailed, hleft⟩
  · refine ⟨a, le_rfl, ⟨⟨U, hnext⟩, ⟨_, Network.node?_put_self hm _, honline', ?_⟩,
      ⟨d, hd', hopen, hwrites⟩⟩, .inl ?_⟩
    · exact hleft.trans hreads
    · refine hanswer.resolve_left fun ⟨_, e, he⟩ => ?_
      exact absurd (hok.symm.trans he) (by simp)
  · have hless : (m.query r).2.readFailures < a.reads := by omega
    exact ⟨⟨(m.query r).2.readFailures, a.writes, hless.trans a.reads_lt, a.writes_lt⟩,
      ⟨hless.le, le_rfl⟩, ⟨⟨U, hnext⟩, ⟨_, Network.node?_put_self hm _, honline', rfl⟩,
        ⟨d, hd', hopen, hwrites⟩⟩, .inr ⟨hfailed, hless⟩⟩

/-- A batch of planned rows is written unless the write uses up a failure. -/
theorem CopyingAhead.write (h : CopyingAhead j fields source before first past a net)
    (hcarries : j.Carries fields source before) {ps : List Point}
    (hps : ∀ p ∈ ps, Moves fields first past p) :
    let answered := net.call j.destination.client
      (.write ⟨j.destinationDatabase, j.destinationPolicy, ps⟩)
    ∃ b, a ≤ b ∧ CopyingAhead j fields source before first past b answered.2 ∧
      (answered.1.2 = .ok () ∨ (∃ e, answered.1.2 = .error e) ∧ b.writes < a.writes) := by
  obtain ⟨⟨U, hcopying⟩, ⟨m, hm, honline, hreads⟩, ⟨d, hd, hopen, hwrites⟩⟩ := h
  obtain ⟨after, hwrite, -⟩ := hcopying.takes hcarries hd hps
  have hnext : ∃ V, CopyingBy j fields source before first past True V (net.call
      j.destination.client (.write ⟨j.destinationDatabase, j.destinationPolicy, ps⟩)).2 :=
    (hcopying.write hcarries hps).elim (fun h => ⟨_, h.1⟩) fun h => ⟨_, h.1⟩
  rw [Network.call_memory hd] at hnext ⊢
  have hm' := fun d' => (Network.node?_put_ne hcarries.apart.symm d').trans hm
  obtain ⟨hopen', hanswered⟩ := MemoryNode.write_online hopen (congrArg Prod.snd hwrite)
  rcases hanswered with ⟨hok, hleft⟩ | ⟨hfailed, hleft⟩
  · exact ⟨a, le_rfl, ⟨hnext, ⟨m, hm' _, honline, hreads⟩,
      ⟨_, Network.node?_put_self hd _, hopen', hleft.trans hwrites⟩⟩, .inl hok⟩
  · set left := (d.write ⟨j.destinationDatabase, j.destinationPolicy, ps⟩).2.writeFailures
    have hless : left < a.writes := by omega
    exact ⟨⟨a.reads, left, a.reads_lt, hless.trans a.writes_lt⟩, ⟨le_rfl, hless.le⟩,
      ⟨hnext, ⟨m, hm' _, honline, hreads⟩, ⟨_, Network.node?_put_self hd _, hopen', rfl⟩⟩,
      .inr ⟨hfailed, hless⟩⟩

end Calls

/-- Memory nodes only fail where failures are ahead. -/
theorem Job.Carries.absorbing (h : j.Carries fields source before)
    (hserving : Serving host network False) (s : Settings) (first past : Int) :
    Absorbing host begin (j.context s) source (Moves fields first past)
      (fun a nodes => CopyingAhead j fields source before first past a (network nodes)) where
  read a now nodes measurement w hcopying := by
    obtain ⟨hf, -⟩ | ⟨hnext, hreply⟩ := hserving.call j.source.client
      (.query ((j.context s).select measurement w)) nodes
    · exact hf.elim
    · obtain ⟨b, hb, hcopying, hanswer⟩ := hcopying.query h.apart
        (r := (j.context s).select measurement w) rfl
      exact ⟨b, hb, hnext.symm ▸ hcopying, hreply.symm ▸ hanswer⟩
  write a now nodes ps hcopying hps := by
    obtain ⟨hf, -⟩ | ⟨hnext, hreply⟩ := hserving.call j.destination.client
      (.write ⟨j.destinationDatabase, j.destinationPolicy, ps⟩) nodes
    · exact hf.elim
    · obtain ⟨b, hb, hcopying, hanswer⟩ := hcopying.write h hps
      exact ⟨b, hb, hnext.symm ▸ hcopying, hreply.symm ▸ hanswer⟩

/-- The report of a chunk that has not failed: its points are all the rows that are due in it. -/
structure Settled (j : Job) (fields : RowKey → Fields) (pass : Pass) (U : Finset RowKey)
    (w : Window) (c : ChunkReport) : Prop where
  tally : c.IsTally j pass w
  not_bad : c.isBad = false
  copied : Copied (DueIn fields w) c.points false U

/-- All rows of a kind that have been copied are counted the same each time. -/
theorem Copied.points_eq {P : RowKey → Prop} {m n : Nat} {U V : Finset RowKey}
    (h : Copied P m false U) (h' : Copied P n false V) : m = n := by
  obtain ⟨C, -, hC, rfl, hall⟩ := h
  obtain ⟨D, -, hD, rfl, hall'⟩ := h'
  exact congrArg Finset.card (Finset.ext fun k => ⟨fun hk => hall' rfl k (hC k hk),
    fun hk => hall rfl k (hD k hk)⟩)

theorem ChunkReport.isBad_eq_false {c : ChunkReport} :
    c.isBad = false ↔ c.readErrors = 0 ∧ c.writeErrors = 0 := by
  rw [ChunkReport.isBad, Bool.or_eq_false_iff, decide_eq_false_iff_not, decide_eq_false_iff_not,
    Nat.not_lt, Nat.not_lt, Nat.le_zero, Nat.le_zero]

/-- The report of a chunk that has not failed is fixed by the rows that are due in it, but for the
time it took. -/
theorem Settled.untimed_eq {pass : Pass} {U V : Finset RowKey} {w : Window} {c d : ChunkReport}
    (h : Settled j fields pass U w c) (h' : Settled j fields pass V w d) :
    c.untimed = d.untimed := by
  obtain ⟨hpass, hwindow, hmeasurements, hsuperseded, -⟩ := h.tally
  obtain ⟨hpass', hwindow', hmeasurements', hsuperseded', -⟩ := h'.tally
  obtain ⟨hreads, hwrites⟩ := ChunkReport.isBad_eq_false.1 h.not_bad
  obtain ⟨hreads', hwrites'⟩ := ChunkReport.isBad_eq_false.1 h'.not_bad
  rw [ChunkReport.untimed, ChunkReport.untimed, ChunkReport.mk.injEq]
  exact ⟨hpass.trans hpass'.symm, hwindow.trans hwindow'.symm,
    hmeasurements.trans hmeasurements'.symm, h.copied.points_eq h'.copied,
    hsuperseded.trans hsuperseded'.symm, hreads.trans hreads'.symm, hwrites.trans hwrites'.symm,
    rfl⟩

theorem settled_sameReports {pass : Pass} {U V : Finset RowKey} {ws : List Window}
    {cs ds : List ChunkReport} (h : List.Forall₂ (Settled j fields pass U) ws cs)
    (h' : List.Forall₂ (Settled j fields pass V) ws ds) : SameReports cs ds := by
  induction h generalizing ds with
  | nil =>
    obtain rfl := List.forall₂_nil_left_iff.1 h'
    rfl
  | cons hc _ ih =>
    obtain ⟨d, ds, hd, hds, rfl⟩ := List.forall₂_cons_left_iff.1 h'
    rw [SameReports, List.map_cons, List.map_cons, hc.untimed_eq hd, ih hds]

/-- A sync of some chunks of which none has failed: what it reports, and the destination with all
rows of them. -/
structure Undisturbed (j : Job) (fields : RowKey → Fields) (before : Store) (ws : List Window)
    (r : Report) (net : Network) : Prop where
  report : ∃ cs U elapsed, r = .ofPasses j cs [] elapsed ∧
    List.Forall₂ (Settled j fields .initial U) ws cs
  overlaid : ∃ d U, net.node? j.destination.client = some (.memory d) ∧
    before.Overlaid j.destinationDatabase j.destinationPolicy fields U d.store ∧
    ∀ k, k ∈ U ↔ ∃ w ∈ ws, DueIn fields w k

namespace Undisturbed
variable {ws : List Window} {r r' : Report} {net' : Network}

/-- Nothing is replayed. -/
theorem once (h : Undisturbed j fields before ws r net) : r.initialBad = [] ∧ r.bad = [] ∧
    ∀ c ∈ r.chunks, c.pass = .initial ∧ c.readErrors = 0 ∧ c.writeErrors = 0 := by
  obtain ⟨cs, U, elapsed, rfl, hcs⟩ := h.report
  have hgood : ∀ c ∈ cs, c.pass = .initial ∧ c.isBad = false := by
    intro c hc
    obtain ⟨w, -, hw⟩ := exists_left hcs hc
    exact ⟨hw.tally.pass_eq, hw.not_bad⟩
  have hchunks : (Report.ofPasses j cs [] elapsed).chunks = cs := by
    refine (List.append_nil _).trans ((List.map_congr_left fun c hc => ?_).trans (List.map_id cs))
    rw [(hgood c hc).2]
    rfl
  refine ⟨List.filter_eq_nil_iff.2 fun c hc => by simp [(hgood c hc).2], rfl, fun c hc => ?_⟩
  rw [hchunks] at hc
  exact ⟨(hgood c hc).1, ChunkReport.isBad_eq_false.1 (hgood c hc).2⟩

theorem untimed_eq (h : Undisturbed j fields before ws r net)
    (h' : Undisturbed j fields before ws r' net') : r.untimed = r'.untimed := by
  obtain ⟨cs, U, elapsed, rfl, hcs⟩ := h.report
  obtain ⟨ds, V, elapsed', rfl, hds⟩ := h'.report
  rw [untimed_ofPasses, untimed_ofPasses, settled_sameReports hcs hds]

theorem sameContents (h : Undisturbed j fields before ws r net)
    (h' : Undisturbed j fields before ws r' net') :
    ∃ d d', net.node? j.destination.client = some (.memory d) ∧
      net'.node? j.destination.client = some (.memory d') ∧ d.store.SameContents d'.store := by
  obtain ⟨d, U, hd, hU, hmem⟩ := h.overlaid
  obtain ⟨d', V, hd', hV, hmem'⟩ := h'.overlaid
  obtain rfl : U = V := Finset.ext fun k => (hmem k).trans (hmem' k).symm
  exact ⟨d, d', hd, hd', hU.same hV⟩

end Undisturbed

/-- The planned chunks lie in a range that has just the rows that are due in them. -/
theorem planned_range (start stop : Instant) {chunk : Span} (hchunk : chunk.nanos ≠ 0)
    (limit : Span) (order : Order) : ∃ first past,
      (∀ w ∈ (plannedGrid start stop chunk limit).windows order,
        first ≤ w.first ∧ w.past ≤ past) ∧
      ∀ fields k, (∃ w ∈ (plannedGrid start stop chunk limit).windows order, DueIn fields w k) ↔
        InRange fields first past k := by
  by_cases hnanos : start.epochNanos < stop.epochNanos
  · have hpartitions := (plannedGrid_isExact hnanos hchunk limit).partitions order
    exact ⟨_, _, hpartitions.within, hpartitions.dueIn_iff⟩
  · rw [planned_eq_nil hnanos]
    refine ⟨0, 0, by simp, fun fields k => iff_of_false (by simp) ?_⟩
    rintro ⟨⟨hfirst, hpast⟩, -⟩
    omega

/-- The nodes while a job copies, with the rows that have been copied and the failures ahead. -/
abbrev Settling (j : Job) (fields : RowKey → Fields) (source before : Store) (first past : Int)
    {n : Nat} (x : Finset RowKey × Unit × Ahead n) (net : Network) : Prop :=
  CopyingBy j fields source before first past True x.1 net ∧ True ∧
    CopyingAhead j fields source before first past x.2.2 net

/-- Whatever failures are ahead, no chunk fails. -/
theorem syncChunk_settles (hserving : Serving host network False)
    (hcarries : j.Carries fields source before) (pass : Pass) {w : Window}
    (hw : first ≤ w.first ∧ w.past ≤ past) (x : Finset RowKey × Unit × Ahead s.retry.total) :
    (syncChunk s j pass w : Process σ Outcome ChunkReport).Ensures host begin
      (fun x nodes => Settling j fields source before first past x (network nodes))
      (fun c x => Settled j fields pass x.1 w c) x := by
  obtain ⟨U, ⟨⟩, a⟩ := x
  have hfaulty : Serving host network True := ⟨fun c call nodes =>
    .inr ((hserving.call c call nodes).resolve_left fun h => h.1)⟩
  have hdecodes := hcarries.decodes first past
  refine ((syncChunk_ensures (hcarries.backed hfaulty s first past) hdecodes pass hw U).both
    ((syncChunk_isTally pass w).both (syncChunk_succeeds
      (hcarries.absorbing hserving s first past) hdecodes pass hw a))).mono fun c x _ h => ?_
  obtain ⟨hwalked, htally, hgood⟩ := h
  exact ⟨htally, hgood, hgood ▸ hwalked.copied⟩

/-- Whatever failures are ahead, a sync with a plan is undisturbed. -/
theorem sync_isUndisturbed (hserving : Serving host network False)
    (hcarries : j.Carries fields source before) (hchunk : s.chunk.nanos ≠ 0)
    (hwindow : j.start < j.stop) {a : Ahead s.retry.total} {scene last : Scene ν σ}
    {result : Except PlanError Report}
    (hcopying : ∀ first past, CopyingBy j fields source before first past True ∅
      (network scene.nodes)) (hahead : FailsAhead j a (network scene.nodes))
    (hyields : (sync s j : Process σ Outcome _).Yields host begin result last scene) :
    ∃ r, result = .ok r ∧ Undisturbed j fields before
      ((plannedGrid j.start j.stop s.chunk s.maxRetention).windows j.order) r
      (network last.nodes) := by
  obtain ⟨p, hplan, hwindows⟩ := plan_eq_ok hwindow hchunk s.maxRetention j.order
  obtain ⟨first, past, hwithin, hdue⟩ :=
    planned_range j.start j.stop hchunk s.maxRetention j.order
  rw [← hwindows] at hwithin hdue ⊢
  have hproper : ∀ w ∈ p.windows, w.IsProper := fun w hw => planned_isProper hchunk (hwindows ▸ hw)
  have hensures : (sync s j : Process σ Outcome _).Ensures host begin _ _ (∅, (), a) :=
    sync_ensures_passes (R := fun pass w c x => Settled j fields pass (Prod.fst x) w c)
      (fun _ _ _ _ _ hle h => ⟨h.tally, h.not_bad, h.copied.mono (And.left hle)⟩)
      (fun _ _ _ _ h => h.tally.window_eq) hplan hchunk (fun w hw => (hproper w hw).1)
      (fun w hw => syncChunk_settles hserving hcarries .initial (hwithin w hw))
      (fun w hw x hx => syncChunk_settles hserving hcarries .replay ?_) (∅, (), a)
  · obtain ⟨⟨U, _, _⟩, -, ⟨hlast, -⟩, initial, css, elapsed, rfl, hinitial, hreplayed⟩ :=
      hensures scene result last ⟨hcopying first past, trivial, ⟨∅, hcopying first past⟩, hahead⟩
        hyields
    have hnone : initial.filter (·.isBad) = [] := List.filter_eq_nil_iff.2 fun c hc => by
      obtain ⟨w, -, hsettled⟩ := exists_left hinitial hc
      simp [hsettled.not_bad]
    rw [hnone, List.map_nil, List.forall₂_nil_left_iff] at hreplayed
    subst hreplayed
    obtain ⟨-, ⟨d, hd, hoverlaid, -⟩, hplanned⟩ := hlast
    refine ⟨_, rfl, ⟨initial, U, elapsed, rfl, hinitial⟩, d, U, hd, hoverlaid,
      fun k => ⟨fun hk => (hdue fields k).2 (hplanned k hk), ?_⟩⟩
    rintro ⟨w, hw, hk⟩
    obtain ⟨c, -, hsettled⟩ := exists_right hinitial hw
    obtain ⟨C, hC, -, -, hall⟩ := hsettled.copied
    exact hC (hall rfl k hk)
  · obtain ⟨hlo, hhi⟩ := ((hproper w hw).partitions (replayChunk_ne_zero hchunk) j.order).within
      x hx
    exact ⟨(hwithin w hw).1.trans hlo, hhi.trans (hwithin w hw).2⟩

section Trouble
variable {source destination : MemoryNode}

/-- A network in which reads of the source and writes of the destination of a job have been made
to fail. -/
def troubled (net : Network) (j : Job) (source destination : MemoryNode) (reads writes : Nat) :
    Network :=
  (net.put j.source.client (.memory (source.failReads reads))).put j.destination.client
    (.memory (destination.failWrites writes))

theorem troubled_source (hapart : j.source.client ≠ j.destination.client)
    (hsource : net.node? j.source.client = some (.memory source)) (d : MemoryNode)
    (reads writes : Nat) : (troubled net j source d reads writes).node? j.source.client =
      some (.memory (source.failReads reads)) :=
  (Network.node?_put_ne hapart.symm _).trans (Network.node?_put_self hsource _)

theorem troubled_destination (hapart : j.source.client ≠ j.destination.client)
    (hdestination : net.node? j.destination.client = some (.memory destination)) (n : MemoryNode)
    (reads writes : Nat) :
    (troubled net j n destination reads writes).node? j.destination.client =
      some (.memory (destination.failWrites writes)) :=
  Network.node?_put_self ((Network.node?_put_ne hapart _).trans hdestination) _

/-- Every schedule of a sync with a plan is undisturbed. -/
theorem ends_undisturbed (shared : σ) {f : Faults} (hquiet : f.Quiet)
    (hcarries : j.Carries fields source.store destination.store)
    (hsource : net.node? j.source.client = some (.memory source))
    (hdestination : net.node? j.destination.client = some (.memory destination))
    (honline : source.isOnline = true) (hopen : destination.isOnline = true)
    (hpolicy : (destination.store.policy? j.destinationDatabase j.destinationPolicy).isSome)
    (hchunk : s.chunk.nanos ≠ 0) (hwindow : j.start < j.stop) (workers : Nat) (begin : Instant)
    (calls : Nat) {reads writes : Nat} (hreads : reads < s.retry.total)
    (hwrites : writes < s.retry.total) :
    Run.Ends ⟨{ s with workers := workers }, j.order, f, begin, calls⟩ j shared
      (troubled net j source destination reads writes) fun answer net' => ∃ r, answer = .ok r ∧
        Undisturbed j fields destination.store
          ((plannedGrid j.start j.stop s.chunk s.maxRetention).windows j.order) r net' := by
  obtain ⟨q, hq⟩ := Option.isSome_iff_exists.1 hpolicy
  have hs := troubled_source hcarries.apart hsource destination reads writes
  have hd := troubled_destination hcarries.apart hdestination source reads writes
  have hahead : FailsAhead j ⟨reads, writes, hreads, hwrites⟩
      (troubled net j source destination reads writes) :=
    ⟨⟨_, hs, honline, rfl⟩, ⟨_, hd, hopen, rfl⟩⟩
  have hcopying : ∀ first past, CopyingBy j fields source.store destination.store first past True ∅
      (troubled net j source destination reads writes) := fun first past =>
    ⟨⟨_, hs, rfl, fun h => absurd trivial h⟩, ⟨_, hd, .refl hq _, fun h => absurd trivial h⟩,
      by simp⟩
  exact Run.ends_of_yields fun result last hyields =>
    sync_isUndisturbed (s := { s with workers := workers }) hquiet.serving hcarries hchunk hwindow
      hcopying hahead hyields

/-- Whatever reads of its source and writes of its destination have been made to fail, fewer of
each than there are attempts, and however many workers come upon these in whatever order, a sync
ends as it does when there are none of them: no chunk is bad and none is replayed, and but for the
times it took it reports the same and leaves the same. -/
theorem sync_undisturbed (shared : σ) (s : Settings) (j : Job)
    (hsource : net.node? j.source.client = some (.memory source))
    (hdestination : net.node? j.destination.client = some (.memory destination))
    (honline : source.isOnline = true) (hopen : destination.isOnline = true)
    (hapart : j.source.client ≠ j.destination.client) (hreachable : source.Reachable)
    (hpolicy : (destination.store.policy? j.destinationDatabase j.destinationPolicy).isSome)
    (hnamed : j.destinationPolicy ≠ "")
    (hagrees : ∀ p, destination.store.policy? j.destinationDatabase j.destinationPolicy = some p →
      ∀ m f t t', p.type? m f = some t → j.type? m f = some t' → t = t') :
    ∃ (result : Except PlanError Report) (copy : Store),
      ∀ (f : Faults) (workers : Nat) (begin : Instant) (calls reads writes : Nat), f.Quiet →
        reads < s.retry.total → writes < s.retry.total →
        Run.Ends ⟨{ s with workers := workers }, j.order, f, begin, calls⟩ j shared
          (troubled net j source destination reads writes) fun answer net' =>
            answer.map Report.untimed = result ∧
            (∀ r, answer = .ok r → r.initialBad = [] ∧ r.bad = [] ∧
              ∀ c ∈ r.chunks, c.pass = .initial ∧ c.readErrors = 0 ∧ c.writeErrors = 0) ∧
            ∃ d, net'.node? j.destination.client = some (.memory d) ∧
              d.store.SameContents copy := by
  cases hplan : plan j.start j.stop s.chunk s.maxRetention j.order with
  | error e =>
    refine ⟨.error e, destination.store, fun f workers begin calls reads writes _ _ _ =>
      Run.ends_of_yields fun result last hyields => ?_⟩
    rw [sync] at hyields
    simp only [Run.job, hplan] at hyields
    obtain ⟨rfl, rfl⟩ := hyields
    refine ⟨rfl, fun r hr => ?_, _,
      troubled_destination hapart hdestination source reads writes, .refl _⟩
    cases hr
  | ok p =>
    obtain ⟨hchunk, hwindow⟩ := of_plan_eq_ok hplan
    have hcarries := Job.readout_carries hapart hnamed hreachable.sound hagrees
    have hends := fun {f : Faults} (hquiet : f.Quiet) => ends_undisturbed shared hquiet hcarries
      hsource hdestination honline hopen hpolicy hchunk hwindow
    have hcalm : (⟨fun _ _ _ => none, fun _ => .zero⟩ : Faults).Quiet := fun _ _ _ => rfl
    have hzero : 0 < s.retry.total := Nat.lt_of_lt_of_le Nat.zero_lt_one (Nat.le_max_right _ _)
    -- What a sync without failures ends with is what every other one does.
    obtain ⟨m, result, -, r, rfl, hundisturbed⟩ :=
      (hends hcalm s.workers .epoch 0 hzero hzero).exists
    obtain ⟨d, U, hd, -⟩ := hundisturbed.overlaid
    refine ⟨.ok r.untimed, d.store, fun f workers begin calls reads writes hquiet hreads hwrites =>
      (hends hquiet workers begin calls hreads hwrites).mono ?_⟩
    rintro m' ⟨_, hanswer, r', rfl, hundisturbed'⟩
    obtain ⟨e, e', he, he', hsame⟩ := hundisturbed'.sameContents hundisturbed
    obtain rfl : e' = d := by simpa [hd] using he'.symm
    refine ⟨_, hanswer, congrArg Except.ok (hundisturbed'.untimed_eq hundisturbed),
      fun r hr => ?_, e, he, hsame⟩
    obtain rfl := Except.ok.inj hr
    exact hundisturbed'.once

end Trouble

private def monthly : PolicySpec := ⟨"monthly", .zero, .zero, 1⟩

/-- A node with a row of each of two measurements. -/
private def busySource : MemoryNode :=
  let row (measurement : String) (timestamp : Int64) : Point :=
    ⟨measurement, ∅, (∅ : Fields).insert "load" (.integer 7), timestamp⟩
  (((MemoryNode.ofName "a").addPolicy "app" monthly true).insert
    ⟨"app", "monthly", [row "cpu" 5, row "disk" 1800000000000]⟩).2

private def busyTarget : MemoryNode := (MemoryNode.ofName "b").addPolicy "app" monthly true

/-- The copy of the first hour of both measurements. -/
private def busyJob : Job where
  source := ⟨"a", ⟨0⟩⟩
  destination := ⟨"b", ⟨1⟩⟩
  sourceDatabase := "app"
  destinationDatabase := "app"
  sourcePolicy := ⟨"monthly", .zero, .zero, 1, true,
    ((∅ : Std.ExtTreeMap String FieldTypes).insert "cpu"
      ((∅ : FieldTypes).insert "load" .integer)).insert "disk"
      ((∅ : FieldTypes).insert "load" .integer)⟩
  destinationPolicy := "monthly"
  start := .epoch
  stop := .ofEpochNanos 3600000000000
  order := .forward

/-- A copy in chunks of ten minutes with three attempts, of which up to two of each kind fail. -/
theorem sync_undisturbed_two_failures :
    ∃ (result : Except PlanError Report) (copy : Store), ∀ (workers : Nat) (failures : Fin 3),
      Run.Ends ⟨⟨.ofSecs 600, .zero, workers, 100, ⟨3, .ofSecs 1⟩⟩, .forward,
          ⟨fun _ _ _ => none, fun n => .ofSecs n⟩, .epoch, 0⟩ busyJob ()
        (troubled ⟨[.memory busySource, .memory busyTarget]⟩ busyJob busySource busyTarget failures
          failures) fun answer net' =>
          answer.map Report.untimed = result ∧
          (∀ r, answer = .ok r → r.initialBad = [] ∧ r.bad = [] ∧
            ∀ c ∈ r.chunks, c.pass = .initial ∧ c.readErrors = 0 ∧ c.writeErrors = 0) ∧
          ∃ d, net'.node? ⟨1⟩ = some (.memory d) ∧ d.store.SameContents copy := by
  have hpolicy : busyTarget.store.policy? busyJob.destinationDatabase busyJob.destinationPolicy =
      some (.ofSpec monthly) := rfl
  have hreachable : busySource.Reachable := .insert _ (.addPolicy _ _ _ (.ofName "a"))
  have hagrees : ∀ p, busyTarget.store.policy? busyJob.destinationDatabase
      busyJob.destinationPolicy = some p →
      ∀ m f t t', p.type? m f = some t → busyJob.type? m f = some t' → t = t' := by
    intro p hp m f t t' ht
    obtain rfl := Option.some.inj (hpolicy.symm.trans hp)
    simp [StoredPolicy.type?, StoredPolicy.ofSpec] at ht
  have hsource : Network.node? ⟨[.memory busySource, .memory busyTarget]⟩ busyJob.source.client =
      some (.memory busySource) := rfl
  obtain ⟨result, copy, hends⟩ := sync_undisturbed ()
    ⟨.ofSecs 600, .zero, 1, 100, ⟨3, .ofSecs 1⟩⟩ busyJob hsource rfl rfl rfl (by decide) hreachable
    (by rw [hpolicy]; rfl) (by decide) hagrees
  exact ⟨result, copy, fun workers failures => hends _ workers .epoch 0 failures failures
    (fun _ _ _ => rfl) failures.isLt failures.isLt⟩

end SeriesReplica.Sync
