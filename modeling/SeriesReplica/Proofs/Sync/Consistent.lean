import Mathlib.Order.CompletePartialOrder
import SeriesReplica.Proofs.Concurrent.Adequacy
import SeriesReplica.Proofs.Sync.Account

/-! Reports that fit together. Whatever the nodes answer, a sync with a plan reports on every
planned chunk and on the finer chunks of each one that failed, and the lists, counts and verdicts
of its report agree with each other. -/
namespace SeriesReplica.Sync
open Time Concurrent

variable {σ ν : Type} {host : Host ν} {begin : Instant} {s : Settings} {j : Job}

/-- Whatever a routine is answered, it comes to its end. -/
private theorem achieves_something {α : Type} (r : Routine α) :
    r.Achieves host begin (fun (_ : Unit) _ => True) (fun _ _ => True) () := by
  induction r with
  | done a => trivial
  | perform action next ih => exact fun _ _ now nodes _ => ⟨(), le_rfl, trivial, ih _⟩

/-- A transfer in which at most one of reading and writing has failed. -/
private def Outcome.FailsOnce (o : Outcome) : Prop := o.readFailed = false ∨ o.writeFailed = false

private theorem writeAll_failsOnce (ctx : TransferContext) (what : String) (w : Window)
    (written : Nat) (bs : List Batch) :
    (ctx.writeAll what w written bs).Achieves host begin (fun (_ : Unit) _ => True)
      (fun o _ => o.FailsOnce) () := by
  induction bs generalizing written with
  | nil => exact .inl rfl
  | cons b bs ih =>
    rw [TransferContext.writeAll]
    refine Routine.Achieves.bind ((achieves_something _).mono fun result _ _ _ => ?_)
    cases result with
    | ok _ => exact ih _
    | error e => exact Routine.Achieves.bind (Routine.achieves_log fun _ _ => .inl rfl)

private theorem transfer_failsOnce (ctx : TransferContext) (w : Window) (measurement : String)
    (types : Schema.FieldTypes) :
    (ctx.transfer w measurement types).Achieves host begin (fun (_ : Unit) _ => True)
      (fun o _ => o.FailsOnce) () := by
  rw [TransferContext.transfer]
  refine Routine.Achieves.bind ((achieves_something _).mono fun result _ _ _ => ?_)
  cases result with
  | error e => exact Routine.Achieves.bind (Routine.achieves_log fun _ _ => .inr rfl)
  | ok response =>
    refine Routine.Achieves.bind (Routine.achieves_logAll fun _ _ => ?_)
    dsimp only
    split
    · exact .inl rfl
    · exact writeAll_failsOnce ctx _ w 0 _

private theorem countP_failed_le {os : List Outcome} (h : ∀ o ∈ os, o.FailsOnce) :
    os.countP (·.readFailed) + os.countP (·.writeFailed) ≤ os.length := by
  induction os with
  | nil => exact Nat.le_refl 0
  | cons o os ih =>
    have hrest := ih fun p hp => h p (List.mem_cons_of_mem _ hp)
    rw [List.countP_cons, List.countP_cons, List.length_cons]
    rcases h o List.mem_cons_self with ho | ho
    · simp only [ho, Bool.false_eq_true, if_false]
      split <;> omega
    · simp only [ho, Bool.false_eq_true, if_false]
      split <;> omega

namespace ChunkReport

/-- A report of a chunk as it is made once all measurements have been moved. -/
structure IsTally (j : Job) (pass : Pass) (w : Window) (c : ChunkReport) : Prop where
  pass_eq : c.pass = pass
  window_eq : c.window = w
  measurements_eq : c.measurements = j.measurements.length
  superseded_eq : c.superseded = 0
  errors_le : c.readErrors + c.writeErrors ≤ c.measurements

end ChunkReport

theorem syncChunk_isTally (pass : Pass) (w : Window) :
    (syncChunk s j pass w : Process σ Outcome ChunkReport).Ensures host begin
      (fun (_ : Unit) _ => True) (fun c _ => c.IsTally j pass w) () := by
  rw [syncChunk]
  refine Process.Ensures.bind (Process.ensures_clock fun started => ?_)
  refine Process.Ensures.bind (Process.ensures_pool (P := fun _ o _ => o.FailsOnce)
    (fun _ _ _ _ _ h => h) (fun x _ => transfer_failsOnce (j.context s) w x.1 x.2)
    fun outcomes _ _ houtcomes => ?_)
  refine Process.Ensures.bind (Process.ensures_clock fun ended => ?_)
  refine Process.Ensures.bind (Process.ensures_log ?_)
  refine Process.ensures_pure ⟨rfl, rfl, List.length_map _, rfl, ?_⟩
  have hlength : outcomes.length = j.measurements.length := houtcomes.length_eq.symm
  have hle := countP_failed_le fun o ho => (exists_left houtcomes ho).choose_spec.2
  rw [hlength] at hle
  simpa [ChunkReport.ofOutcomes] using hle

/-- The report of a sync, next to the reports of its chunks as they were made: one for every planned
window, and for each of these that failed those of its replay. -/
structure Report.Consistent (s : Settings) (j : Job) (planned : List Window)
    (initial : List ChunkReport) (replays : List (List ChunkReport)) (r : Report) : Prop where
  /-- The points of a failed chunk are left to its replay. -/
  chunks_eq : r.chunks =
    initial.map (fun c => if c.isBad then c.supersede else c) ++ replays.flatten
  planned_eq : initial.map (·.window) = planned
  tallies : (∀ c ∈ initial, c.IsTally j .initial c.window) ∧
    ∀ c ∈ replays.flatten, c.IsTally j .replay c.window
  initialBad_eq : r.initialBad = initial.filter (·.isBad)
  bad_eq : r.bad = replays.flatten.filter (·.isBad)
  replayed : List.Forall₂ (fun parent cs => Partitions j.order parent.window.first
    parent.window.past (replayChunk s.chunk).nanos cs.length (cs.map (·.window))) r.initialBad
    replays
  errors_le : ∀ c ∈ r.chunks, c.readErrors + c.writeErrors ≤ c.measurements
  total_eq : r.totalPoints = (r.chunks.map (·.points)).sum
  clean_iff : r.isClean = true ↔ r.unrecoveredWindows = []
  errors_iff : r.errors = (0, 0, 0) ↔ r.unrecoveredWindows = []
  /-- Not recovered are the chunks with a failure in their own replay. -/
  unrecovered_eq : r.unrecoveredWindows =
    ((r.initialBad.zip replays).filter fun x => x.2.any (·.isBad)).map (·.1.window)
  sublist : r.unrecoveredWindows.Sublist (r.initialBad.map (·.window))
  nodup : r.unrecoveredWindows.Nodup

/-- Windows apart that are not empty are distinct. -/
private theorem Apart.nodup {ws : List Window} (h : Apart ws) (hne : ∀ w ∈ ws, w.first < w.past) :
    ws.Nodup := by
  refine List.Pairwise.imp_of_mem (fun {v w} hv _ hvw heq => ?_) h
  exact hvw v.first ⟨le_rfl, hne v hv⟩ (heq ▸ ⟨le_rfl, hne v hv⟩)

/-- Without errors there is nothing that was not recovered, as each chunk of it has one. -/
private theorem errors_eq_zero_iff (r : Report) (hbad : ∀ c ∈ r.initialBad, c.isBad = true) :
    r.errors = (0, 0, 0) ↔ r.unrecoveredWindows = [] := by
  have hsum : r.errors = ((r.unrecovered.map (·.readErrors)).sum,
      (r.unrecovered.map (·.writeErrors)).sum,
      (r.unrecovered.map (·.readErrors)).sum + (r.unrecovered.map (·.writeErrors)).sum) := rfl
  rw [hsum, Report.unrecoveredWindows, List.map_eq_nil_iff]
  constructor
  · intro h
    simp only [Prod.mk.injEq, List.sum_eq_zero_iff_forall_eq_nat, List.mem_map,
      forall_exists_index, and_imp, forall_apply_eq_imp_iff₂] at h
    refine List.eq_nil_iff_forall_not_mem.2 fun c hc => ?_
    have hc' := hbad c (List.mem_of_mem_filter hc)
    simp [ChunkReport.isBad, h.1 c hc, h.2.1 c hc] at hc'
  · intro h
    simp [h]

/-- Replays of failed chunks, each with the reports of the finer chunks of its window. -/
private structure Replays (s : Settings) (j : Job) (bad : List ChunkReport)
    (replays : List (List ChunkReport)) : Prop where
  counted : ∀ c ∈ bad, c.window.IsCounted ∧ c.window.first < c.window.past
  apart : Apart (bad.map (·.window))
  length_eq : bad.length = replays.length
  pieces : ∀ c cs, (c, cs) ∈ bad.zip replays →
    cs.map (·.window) = c.window.pieces (replayChunk s.chunk) j.order

namespace Replays
variable {bad : List ChunkReport} {replays : List (List ChunkReport)} {c d : ChunkReport}
  {cs : List ChunkReport}

private theorem partitions (h : Replays s j bad replays) (hchunk : s.chunk.nanos ≠ 0)
    (hc : (c, cs) ∈ bad.zip replays) : Partitions j.order c.window.first c.window.past
      (replayChunk s.chunk).nanos cs.length (cs.map (·.window)) := by
  obtain ⟨hcounted, hlt⟩ := h.counted c (List.of_mem_zip hc).1
  have hpartitions := (hcounted.isProper hlt).partitions (replayChunk_ne_zero hchunk) j.order
  have hlength := hpartitions.length_eq
  rw [← h.pieces c cs hc] at hpartitions hlength
  rwa [← hlength, List.length_map] at hpartitions

/-- The window of a finer chunk is not empty and lies in the window of its own chunk. -/
private theorem contains (h : Replays s j bad replays) (hchunk : s.chunk.nanos ≠ 0)
    (hc : (c, cs) ∈ bad.zip replays) (hd : d ∈ cs) :
    c.window.contains d.window = true ∧ d.window.first < d.window.past := by
  have hpartitions := h.partitions hchunk hc
  have hmem : d.window ∈ cs.map (·.window) := List.mem_map_of_mem hd
  have hcounted : d.window.IsCounted :=
    Window.isCounted_of_mem (h.pieces c cs hc ▸ hmem)
  exact ⟨((h.counted c (List.of_mem_zip hc).1).1.contains_iff hcounted).2
    (hpartitions.within _ hmem), hpartitions.nonempty _ hmem⟩

/-- A finer chunk that lies in a failed chunk belongs to the replay of that chunk. -/
private theorem mem_of_contains (h : Replays s j bad replays) (hchunk : s.chunk.nanos ≠ 0)
    (hc : (c, cs) ∈ bad.zip replays) (hd : d ∈ replays.flatten)
    (hcontains : c.window.contains d.window = true) : d ∈ cs := by
  obtain ⟨ds, hds, hd⟩ := List.mem_flatten.1 hd
  obtain ⟨i, hi, hci⟩ := List.mem_iff_getElem.1 hc
  obtain ⟨k, hk, rfl⟩ := List.mem_iff_getElem.1 hds
  have hkbad : k < bad.length := h.length_eq ▸ hk
  rw [List.length_zip, ← h.length_eq, Nat.min_self] at hi
  rw [List.getElem_zip, Prod.mk.injEq] at hci
  obtain ⟨rfl, rfl⟩ := hci
  have hkmem : (bad[k], replays[k]) ∈ bad.zip replays :=
    List.mem_iff_getElem.2 ⟨k, by simp [hkbad, hk], List.getElem_zip⟩
  obtain ⟨hparent, hne⟩ := h.contains hchunk hkmem hd
  have hmem : d.window ∈ replays[k].map (·.window) := List.mem_map_of_mem hd
  have hcounted : d.window.IsCounted := Window.isCounted_of_mem (h.pieces _ _ hkmem ▸ hmem)
  -- The first nanosecond of the finer chunk is in both windows, which are apart unless they are
  -- one.
  have hholds : ∀ x ∈ bad, x.window.contains d.window = true → x.window.Holds d.window.first := by
    intro x hx hin
    obtain ⟨hfirst, hpast⟩ := ((h.counted x hx).1.contains_iff hcounted).1 hin
    exact ⟨hfirst, lt_of_lt_of_le hne hpast⟩
  have hi' := hholds _ (List.getElem_mem hi) hcontains
  have hk' := hholds _ (List.getElem_mem hkbad) hparent
  have hapart := List.pairwise_map.1 h.apart
  rw [List.pairwise_iff_getElem] at hapart
  rcases Nat.lt_trichotomy i k with hlt | rfl | hlt
  · exact absurd hk' (hapart i k hi hkbad hlt _ hi')
  · exact hd
  · exact absurd hi' (hapart k i hkbad hi hlt _ hk')

/-- A failed chunk holds a finer chunk that failed again if its own replay has one. -/
private theorem any_contains (h : Replays s j bad replays) (hchunk : s.chunk.nanos ≠ 0)
    (hc : (c, cs) ∈ bad.zip replays) :
    ((replays.flatten.filter (·.isBad)).any fun d => c.window.contains d.window) =
      cs.any (·.isBad) := by
  rw [Bool.eq_iff_iff, List.any_eq_true, List.any_eq_true]
  constructor
  · rintro ⟨d, hd, hcontains⟩
    obtain ⟨hd, hbad⟩ := List.mem_filter.1 hd
    exact ⟨d, h.mem_of_contains hchunk hc hd hcontains, hbad⟩
  · rintro ⟨d, hd, hbad⟩
    refine ⟨d, List.mem_filter.2 ⟨?_, hbad⟩, (h.contains hchunk hc hd).1⟩
    exact List.mem_flatten.2 ⟨cs, (List.of_mem_zip hc).2, hd⟩

private theorem map_fst_zip (h : Replays s j bad replays) : (bad.zip replays).map Prod.fst = bad :=
  List.map_fst_zip h.length_eq.le

/-- The failed chunks that hold a finer chunk that failed again are those whose replay has one. -/
private theorem filter_contains (h : Replays s j bad replays) (hchunk : s.chunk.nanos ≠ 0) :
    bad.filter (fun c => (replays.flatten.filter (·.isBad)).any fun d =>
        c.window.contains d.window) =
      ((bad.zip replays).filter fun x => x.2.any (·.isBad)).map Prod.fst := by
  conv_lhs => rw [← h.map_fst_zip, List.filter_map]
  refine congrArg _ (List.filter_congr fun x hx => ?_)
  exact h.any_contains hchunk (show (x.1, x.2) ∈ bad.zip replays from hx)

/-- A failed chunk whose replay has failed is there as soon as any finer chunk has failed. -/
private theorem filter_zip_eq_nil (h : Replays s j bad replays) :
    ((bad.zip replays).filter fun x => x.2.any (·.isBad)) = [] ↔
      replays.flatten.filter (·.isBad) = [] := by
  have hsnd : (bad.zip replays).map Prod.snd = replays := List.map_snd_zip h.length_eq.ge
  rw [List.filter_eq_nil_iff, List.filter_eq_nil_iff]
  constructor
  · intro hnone d hd hbad
    obtain ⟨cs, hcs, hd⟩ := List.mem_flatten.1 hd
    obtain ⟨x, hx, rfl⟩ := List.mem_map.1 (hsnd.symm ▸ hcs)
    exact hnone x hx (List.any_eq_true.2 ⟨d, hd, hbad⟩)
  · intro hnone x hx hbad
    obtain ⟨d, hd, hbad⟩ := List.any_eq_true.1 hbad
    exact hnone d (List.mem_flatten.2 ⟨x.2, (List.of_mem_zip hx).2, hd⟩) hbad

end Replays

private theorem windows_eq {pass : Pass} {ws : List Window} {cs : List ChunkReport}
    (h : List.Forall₂ (fun w c => ChunkReport.IsTally j pass w c) ws cs) :
    cs.map (·.window) = ws ∧ ∀ c ∈ cs, c.IsTally j pass c.window := by
  induction h with
  | nil => simp
  | @cons w c ws cs hc _ ih =>
    refine ⟨by rw [List.map_cons, hc.window_eq, ih.1], fun d hd => ?_⟩
    rcases List.mem_cons.1 hd with rfl | hd
    · exact hc.window_eq.symm ▸ hc
    · exact ih.2 d hd

/-- The chunks that failed, and what came of them when they were walked again. -/
private theorem Passes.replays (hchunk : s.chunk.nanos ≠ 0) {initial : List ChunkReport}
    {replays : List (List ChunkReport)}
    (h : Passes s j (fun pass w c => c.IsTally j pass w)
      ((plannedGrid j.start j.stop s.chunk s.maxRetention).windows j.order) initial replays) :
    Replays s j (initial.filter (·.isBad)) replays ∧
      ∀ c ∈ replays.flatten, c.IsTally j .replay c.window := by
  obtain ⟨hinitial, hreplays⟩ := h
  obtain ⟨hwindows, -⟩ := windows_eq hinitial
  rw [List.forall₂_map_left_iff, List.forall₂_iff_zip] at hreplays
  obtain ⟨hlength, hpieces⟩ := hreplays
  refine ⟨⟨fun c hc => ?_, ?_, hlength, fun c cs hc => (windows_eq (hpieces hc)).1⟩,
    fun d hd => ?_⟩
  · have hplanned : c.window ∈
        (plannedGrid j.start j.stop s.chunk s.maxRetention).windows j.order := by
      rw [← hwindows]
      exact List.mem_map_of_mem (List.mem_of_mem_filter hc)
    exact planned_isCounted hchunk hplanned
  · refine List.Pairwise.sublist ((List.filter_sublist).map _) ?_
    rw [hwindows]
    exact planned_apart j.start j.stop hchunk s.maxRetention j.order
  · obtain ⟨cs, hcs, hd⟩ := List.mem_flatten.1 hd
    have hsnd : ((initial.filter (·.isBad)).zip replays).map Prod.snd = replays :=
      List.map_snd_zip hlength.ge
    obtain ⟨x, hx, rfl⟩ := List.mem_map.1 (hsnd.symm ▸ hcs)
    exact (windows_eq (hpieces hx)).2 d hd

/-- The report of both passes is consistent. -/
private theorem ofPasses_consistent (hchunk : s.chunk.nanos ≠ 0) {initial : List ChunkReport}
    {replays : List (List ChunkReport)}
    (h : Passes s j (fun pass w c => c.IsTally j pass w)
      ((plannedGrid j.start j.stop s.chunk s.maxRetention).windows j.order) initial replays)
    (elapsed : Span) :
    (Report.ofPasses j initial replays.flatten elapsed).Consistent s j
      ((plannedGrid j.start j.stop s.chunk s.maxRetention).windows j.order) initial replays := by
  obtain ⟨hwindows, hinitial⟩ := windows_eq h.1
  obtain ⟨hreplays, hagain⟩ := h.replays hchunk
  set r := Report.ofPasses j initial replays.flatten elapsed with hr
  have hunrecovered : r.unrecoveredWindows =
      ((r.initialBad.zip replays).filter fun x => x.2.any (·.isBad)).map (·.1.window) := by
    rw [Report.unrecoveredWindows, Report.unrecovered,
      show r.bad = replays.flatten.filter (·.isBad) from rfl,
      show r.initialBad = initial.filter (·.isBad) from rfl, hreplays.filter_contains hchunk,
      List.map_map]
    rfl
  have hbad : ∀ c ∈ r.initialBad, c.isBad = true := fun c hc => (List.mem_filter.1 hc).2
  have hsublist : r.unrecoveredWindows.Sublist (r.initialBad.map (·.window)) :=
    (List.filter_sublist).map _
  refine ⟨rfl, hwindows, ⟨hinitial, hagain⟩, rfl, rfl, ?_, fun c hc => ?_, rfl, ?_,
    errors_eq_zero_iff r hbad, hunrecovered, hsublist, hsublist.nodup ?_⟩
  · exact List.forall₂_iff_zip.2 ⟨hreplays.length_eq, hreplays.partitions hchunk⟩
  · rcases List.mem_append.1 hc with hc | hc
    · obtain ⟨d, hd, rfl⟩ := List.mem_map.1 hc
      have hle := (hinitial d hd).errors_le
      split
      · exact hle
      · exact hle
    · exact (hagain c hc).errors_le
  · rw [hunrecovered, List.map_eq_nil_iff]
    exact List.isEmpty_iff.trans hreplays.filter_zip_eq_nil.symm
  · refine hreplays.apart.nodup fun w hw => ?_
    obtain ⟨c, hc, rfl⟩ := List.mem_map.1 hw
    exact (hreplays.counted c hc).2

/-- A sync is refused if its chunks have no length or its window is empty, and otherwise it
answers with a consistent report, whatever its nodes answer and in whatever order its workers
run. -/
theorem sync_reports (host : Host ν) (begin : Instant) (nodes : ν) (shared : σ) (s : Settings)
    (j : Job) :
    ((Machine.initial begin nodes shared).launch (sync s j)).Inevitably host fun m =>
      (s.chunk.nanos = 0 → m.answer? 0 = some (.error (.invalidChunk s.chunk))) ∧
      (s.chunk.nanos ≠ 0 → j.stop ≤ j.start →
        m.answer? 0 = some (.error (.invalidWindow j.start j.stop))) ∧
      (s.chunk.nanos ≠ 0 → j.start < j.stop → ∃ p r initial replays,
        plan j.start j.stop s.chunk s.maxRetention j.order = .ok p ∧
          m.answer? 0 = some (.ok r) ∧ r.Consistent s j p.windows initial replays) := by
  refine (Machine.launch_inevitably host begin nodes shared (sync s j)).mono ?_
  rintro m ⟨result, last, hyields, -, hanswers, -⟩
  have hanswer : m.answer? 0 = some result := by
    rw [Machine.answer?, hanswers]
    rfl
  have hrefused : ∀ e, plan j.start j.stop s.chunk s.maxRetention j.order = .error e →
      m.answer? 0 = some (.error e) := by
    intro e he
    simp only [sync, he] at hyields
    rw [hanswer, ← hyields.1]
  refine ⟨fun hchunk => hrefused _ (if_pos hchunk), fun hchunk hempty => hrefused _ ?_,
    fun hchunk hwindow => ?_⟩
  · rw [plan, if_neg hchunk, if_pos hempty]
  · obtain ⟨p, hplan, hwindows⟩ := plan_eq_ok hwindow hchunk s.maxRetention j.order
    have hensures : (sync s j : Process σ Outcome _).Ensures host begin
        (fun (_ : Unit) _ => True) _ () :=
      sync_ensures_passes (R := fun pass w c _ => c.IsTally j pass w) (fun _ _ _ _ _ _ h => h)
        (fun _ _ _ _ h => h.window_eq) hplan hchunk
        (fun w hw => ((planned_isCounted hchunk (hwindows ▸ hw)).1.isProper
          (planned_isCounted hchunk (hwindows ▸ hw)).2).1)
        (fun w _ _ => syncChunk_isTally .initial w)
        (fun _ _ w _ _ => syncChunk_isTally .replay w) ()
    obtain ⟨-, -, -, initial, replays, elapsed, rfl, hpasses⟩ :=
      hensures _ result last trivial hyields
    refine ⟨p, _, initial, replays, hplan, hanswer, ?_⟩
    rw [hwindows] at hpasses ⊢
    exact ofPasses_consistent hchunk hpasses elapsed

/-- The window lies between two moments, counted in nanoseconds. -/
def Window.LiesIn (w : Window) (start stop : Instant) : Prop :=
  start.epochNanos.toInt ≤ w.first ∧ w.past ≤ stop.epochNanos.toInt

instance (w : Window) (start stop : Instant) : Decidable (w.LiesIn start stop) :=
  inferInstanceAs (Decidable (_ ∧ _))

theorem planned_liesIn {start stop : Instant} {chunk limit : Span} (hchunk : chunk.nanos ≠ 0)
    {order : Order} {w : Window} (hw : w ∈ (plannedGrid start stop chunk limit).windows order) :
    w.LiesIn start stop := by
  by_cases hnanos : start.epochNanos < stop.epochNanos
  · have hpartitions := (plannedGrid_isExact hnanos hchunk limit).partitions order
    obtain ⟨hfirst, hpast⟩ := hpartitions.within w hw
    exact ⟨(start_le_plannedFirst hnanos hchunk limit).trans hfirst, hpast⟩
  · simp [planned_eq_nil hnanos] at hw

/-- What a sync has not recovered lies in its window. -/
theorem sync_unrecovered_liesIn {r : Report} {scene last : Scene ν σ}
    (h : (sync s j : Process σ Outcome _).Yields host begin (.ok r) last scene) :
    ∀ w ∈ r.unrecoveredWindows, w.LiesIn j.start j.stop := by
  cases hplan : plan j.start j.stop s.chunk s.maxRetention j.order with
  | error e =>
    simp only [sync, hplan] at h
    cases h.1
  | ok p =>
    obtain ⟨hchunk, hwindow⟩ := of_plan_eq_ok hplan
    obtain ⟨_, hplan', hwindows⟩ := plan_eq_ok hwindow hchunk s.maxRetention j.order
    obtain rfl := Except.ok.inj (hplan.symm.trans hplan')
    have hensures : (sync s j : Process σ Outcome _).Ensures host begin
        (fun (_ : Unit) _ => True) _ () :=
      sync_ensures_passes (R := fun _ w c _ => c.window = w) (fun _ _ _ _ _ _ h => h)
        (fun _ _ _ _ h => h) hplan hchunk
        (fun w hw => (planned_isProper hchunk (hwindows ▸ hw)).1)
        (fun w _ _ => (syncChunk_isTally .initial w).mono fun _ _ _ hc => hc.window_eq)
        (fun _ _ w _ _ => (syncChunk_isTally .replay w).mono fun _ _ _ hc => hc.window_eq) ()
    obtain ⟨-, -, -, initial, replays, elapsed, hresult, hinitial, -⟩ :=
      hensures _ _ last trivial h
    obtain rfl := Except.ok.inj hresult
    intro w hw
    obtain ⟨c, hc, rfl⟩ := List.mem_map.1 hw
    obtain ⟨w, hw, rfl⟩ := exists_left hinitial (List.mem_of_mem_filter (List.mem_of_mem_filter hc))
    exact planned_liesIn hchunk (hwindows ▸ hw)

end SeriesReplica.Sync
