import SeriesReplica.Proofs.Concurrent.Adequacy
import SeriesReplica.Proofs.Sync.Asking
import SeriesReplica.Proofs.Sync.Passes

/-! Workers make no difference. Transfers only ask about their own measurement. If that alone
decides how the nodes answer, the report of a sync, but for the times it took, and what the
nodes hold in the end are the same for any number of workers and every order of their calls. -/
namespace SeriesReplica.Sync
open Time Concurrent Node Point Query Schema

/-- A report without the time it took. -/
def ChunkReport.untimed (c : ChunkReport) : ChunkReport := { c with elapsed := .zero }

/-- A report without any of the times it took. -/
def Report.untimed (r : Report) : Report :=
  { r with
    elapsed := .zero
    chunks := r.chunks.map (·.untimed)
    initialBad := r.initialBad.map (·.untimed)
    bad := r.bad.map (·.untimed) }

/-- Reports of the same chunks, but for the times they took. -/
def SameReports (cs ds : List ChunkReport) : Prop := cs.map (·.untimed) = ds.map (·.untimed)

private theorem untimed_filter (cs : List ChunkReport) :
    (cs.filter (·.isBad)).map (·.untimed) = (cs.map (·.untimed)).filter (·.isBad) := by
  rw [List.filter_map]
  rfl

private theorem points_untimed (cs : List ChunkReport) :
    (cs.map (·.untimed)).map (·.points) = cs.map (·.points) := List.map_map

private theorem windows_untimed (cs : List ChunkReport) :
    (cs.map (·.untimed)).map (·.window) = cs.map (·.window) := List.map_map

theorem SameReports.append {cs ds cs' ds' : List ChunkReport} (h : SameReports cs ds)
    (h' : SameReports cs' ds') : SameReports (cs ++ cs') (ds ++ ds') := by
  rw [SameReports, List.map_append, List.map_append, h, h']

/-- The chunks that failed are the same as well. -/
theorem SameReports.bad {cs ds : List ChunkReport} (h : SameReports cs ds) :
    SameReports (cs.filter (·.isBad)) (ds.filter (·.isBad)) := by
  rw [SameReports, untimed_filter, untimed_filter, h]

theorem SameReports.windows_eq {cs ds : List ChunkReport} (h : SameReports cs ds) :
    cs.map (·.window) = ds.map (·.window) := by
  rw [← windows_untimed, h, windows_untimed]

/-- Without times, a report is made of the reports of its chunks without times. -/
theorem untimed_ofPasses (j : Job) (initial replayed : List ChunkReport) (elapsed : Span) :
    (Report.ofPasses j initial replayed elapsed).untimed =
      Report.ofPasses j (initial.map (·.untimed)) (replayed.map (·.untimed)) .zero := by
  have hsupersede : ∀ c : ChunkReport, (if c.isBad then c.supersede else c).untimed =
      if c.untimed.isBad then c.untimed.supersede else c.untimed := by
    intro c
    rw [show c.untimed.isBad = c.isBad from rfl]
    split <;> rfl
  have hchunks : (initial.map (fun c => if c.isBad then c.supersede else c) ++ replayed).map
      (·.untimed) = (initial.map (·.untimed)).map (fun c => if c.isBad then c.supersede else c) ++
        replayed.map (·.untimed) := by
    rw [List.map_append, List.map_map, List.map_map]
    exact congrArg (· ++ _) (List.map_congr_left fun c _ => hsupersede c)
  simp only [Report.ofPasses, Report.untimed, untimed_filter, ← hchunks, points_untimed]

section Passes
variable {s : Settings} {j : Job} {σ ν τ : Type} {host : Host ν} {begin : Instant}
  {part : String → ν → τ}

/-- The transfers of a chunk are about measurements of their own. -/
private theorem transfers_separate (s : Settings) (j : Job) (w : Window) :
    Separate j.Asks (fun i => (j.measurements.map Prod.fst)[i]?.getD "")
      (j.measurements.map fun x => (j.context s).transfer w x.1 x.2) := by
  have hkey : ∀ (i : Nat) x, j.measurements[i]? = some x →
      (j.measurements.map Prod.fst)[i]?.getD "" = x.1 := by
    intro i x hx
    rw [List.getElem?_map, hx]
    rfl
  refine ⟨fun i r hr => ?_, fun i l hi hl heq => ?_⟩
  · rw [List.getElem?_map] at hr
    obtain ⟨x, hx, rfl⟩ := Option.map_eq_some_iff.1 hr
    rw [hkey i x hx]
    exact transfer_keepsTo s j w x.1 x.2
  · rw [List.length_map] at hi hl
    rw [hkey i _ (List.getElem?_eq_getElem hi), hkey l _ (List.getElem?_eq_getElem hl)] at heq
    have hinjective := List.nodup_iff_injective_get.1 (nodup_measurements j)
    exact congrArg Fin.val (@hinjective ⟨i, by simpa using hi⟩ ⟨l, by simpa using hl⟩
      (by simpa using heq))

private theorem syncChunk_agree (h : Independent host j.Asks part) (workers : Nat) (pass : Pass)
    (w : Window) :
    (syncChunk s j pass w : Process σ Outcome _).Agree host begin part
      (fun c d => c.untimed = d.untimed) (syncChunk { s with workers := workers } j pass w) := by
  rw [syncChunk, syncChunk]
  refine Process.agree_clock.bind fun _ _ _ => ?_
  refine (Process.agree_pool h (transfers_separate s j w) _ _).bind fun outcomes _ heq => ?_
  subst heq
  refine Process.agree_clock.bind fun _ _ _ => ?_
  refine (Process.agree_log _ _).bind fun _ _ _ => ?_
  exact Process.agree_pure rfl

private theorem syncChunks_agree (h : Independent host j.Asks part) (workers : Nat) (pass : Pass)
    (ws : List Window) :
    (syncChunks s j pass ws : Process σ Outcome _).Agree host begin part SameReports
      (syncChunks { s with workers := workers } j pass ws) := by
  induction ws with
  | nil => exact Process.agree_pure rfl
  | cons w ws ih =>
    rw [syncChunks, syncChunks]
    refine (syncChunk_agree h workers pass w).bind fun c d hc => ?_
    refine ih.bind fun cs ds hcs => Process.agree_pure ?_
    rw [SameReports, List.map_cons, List.map_cons, hc, hcs]

private theorem replayChunks_agree (h : Independent host j.Asks part) (workers : Nat)
    (chunk : Span) (ws : List Window) :
    (replayChunks s j chunk ws : Process σ Outcome _).Agree host begin part
      (fun a b => a.map (·.map (·.untimed)) = b.map (·.map (·.untimed)))
      (replayChunks { s with workers := workers } j chunk ws) := by
  induction ws with
  | nil => exact Process.agree_pure rfl
  | cons w ws ih =>
    rw [replayChunks, replayChunks]
    split
    · exact Process.agree_pure rfl
    · refine (syncChunks_agree h workers .replay _).bind fun cs ds hcs => ?_
      refine ih.bind fun a b hab => ?_
      cases a with
      | error e =>
        cases b with
        | error e' => exact Process.agree_pure (Except.error.inj hab ▸ rfl)
        | ok _ => cases hab
      | ok more =>
        cases b with
        | error _ => cases hab
        | ok more' =>
          have hmore : SameReports more more' := Except.ok.inj hab
          exact Process.agree_pure (congrArg Except.ok (SameReports.append hcs hmore))

private theorem replay_agree (h : Independent host j.Asks part) (workers : Nat)
    {initial initial' : List ChunkReport} (hinitial : SameReports initial initial')
    (started started' : Clock) :
    (replay s j initial started : Process σ Outcome _).Agree host begin part
      (fun a b => a.map Report.untimed = b.map Report.untimed)
      (replay { s with workers := workers } j initial' started') := by
  rw [replay, replay, ← hinitial.bad.windows_eq]
  refine (replayChunks_agree h workers _ _).bind fun a b hab => ?_
  cases a with
  | error e =>
    cases b with
    | error e' => exact Process.agree_pure (congrArg Except.error (Except.error.inj hab))
    | ok _ => cases hab
  | ok replayed =>
    cases b with
    | error _ => cases hab
    | ok replayed' =>
      have hreplayed : SameReports replayed replayed' := Except.ok.inj hab
      refine Process.agree_clock.bind fun _ _ _ => ?_
      refine (Process.agree_log _ _).bind fun _ _ _ => Process.agree_pure ?_
      change Except.ok (Report.untimed _) = Except.ok (Report.untimed _)
      rw [untimed_ofPasses, untimed_ofPasses, hinitial, hreplayed]

/-- Whatever the number of workers, a sync reports the same and leaves the same. -/
theorem sync_agree (h : Independent host j.Asks part) (s : Settings) (workers : Nat) :
    (sync s j : Process σ Outcome _).Agree host begin part
      (fun a b => a.map Report.untimed = b.map Report.untimed)
      (sync { s with workers := workers } j) := by
  match hplan : plan j.start j.stop s.chunk s.maxRetention j.order with
  | .error e =>
    simp only [sync, hplan]
    exact Process.agree_pure rfl
  | .ok p =>
    simp only [sync, hplan]
    refine (Process.agree_logAll _ _).bind fun _ _ _ => ?_
    refine Process.agree_clock.bind fun started started' _ => ?_
    refine (Process.agree_log _ _).bind fun _ _ _ => ?_
    refine (syncChunks_agree h workers .initial p.windows).bind fun cs ds hcs => ?_
    have hreplay : (replay s j cs started : Process σ Outcome _).Agree host begin part _
        (replay { s with workers := workers } j ds started') :=
      replay_agree h workers hcs started started'
    have hempty : (cs.filter (·.isBad)).isEmpty = (ds.filter (·.isBad)).isEmpty := by
      rw [← List.isEmpty_map, hcs.bad, List.isEmpty_map]
    simp only [hempty]
    split
    · exact (Process.agree_log _ _).bind fun _ _ _ => hreplay
    · exact hreplay

/-- For any nodes whose answers about a measurement depend on that measurement alone, the report
of a sync, but for the times it took, and what the nodes hold in the end of each measurement are
the same for every number of workers and every order in which these make their calls. -/
theorem sync_confluent (h : Independent host j.Asks part) (begin : Instant) (nodes : ν)
    (shared : σ) (s : Settings) :
    ∃ (result : Except PlanError Report) (parts : String → τ), ∀ workers,
      ((Machine.initial begin nodes shared).launch
        (sync { s with workers := workers } j)).Inevitably host fun m =>
          ∃ r, m.answer? 0 = some r ∧ r.map Report.untimed = result ∧
            ∀ measurement, part measurement m.nodes = parts measurement := by
  obtain ⟨m, result, last, hyields, -⟩ :=
    (Machine.launch_inevitably host begin nodes shared (sync s j)).exists
  refine ⟨result.map Report.untimed, fun measurement => part measurement last.nodes,
    fun workers => ?_⟩
  refine (Machine.launch_inevitably host begin nodes shared _).mono ?_
  rintro m ⟨result', last', hyields', -, hanswers, hnodes, -⟩
  obtain ⟨hresult, hparts⟩ :=
    sync_agree h s workers _ _ _ _ _ _ (fun _ => rfl) hyields hyields'
  refine ⟨result', ?_, hresult.symm, fun measurement => ?_⟩
  · rw [Machine.answer?, hanswers]
    rfl
  · rw [hnodes]
    exact (hparts measurement).symm

end Passes

/-- Nodes whose first reads fail, whose answers show a point of every measurement in each half of
an hour, and which take no second batch of the second measurement. -/
private def fussyNodes : Purposes (List Point) where
  attempts := 2
  onRead p :=
    if p.attempt = 0 then (.ofSecs 1, .error (.unavailable "busy"))
    else (.zero, .ok (.single [.untagged p.measurement ["time", "load"]
      [[.int p.start.epochNanos.toInt, .int 7], [.int (p.start.epochNanos.toInt + 1), .int 8]]]))
  onWrite p :=
    if p.measurement = "mem" ∧ p.batch = 1 then (.zero, .error (.unavailable "full"))
    else (.ofSecs 2, .ok ())
  store b points := points ++ b.points

/-- The copy of the first hour of two measurements. -/
private def twoJob : Job where
  source := ⟨"a", ⟨0⟩⟩
  destination := ⟨"b", ⟨1⟩⟩
  sourceDatabase := "app"
  destinationDatabase := "app"
  sourcePolicy := ⟨"weekly", .zero, .zero, 1, true,
    ((∅ : Std.ExtTreeMap String FieldTypes).insert "cpu"
      ((∅ : FieldTypes).insert "load" .integer)).insert
        "mem" ((∅ : FieldTypes).insert "load" .integer)⟩
  destinationPolicy := "weekly"
  start := .epoch
  stop := .ofEpochNanos 3600000000000
  order := .reverse

/-- A copy in half hours and batches of one point, of which one measurement always fails in part. -/
theorem sync_confluent_two_measurements :
    ∃ (result : Except PlanError Report) (parts : String → Standing (List Point)), ∀ workers,
      ((Machine.initial .epoch (fun _ => ⟨none, []⟩) ()).launch
        (sync ⟨.ofSecs 1800, .zero, workers, 1, ⟨2, .ofSecs 1⟩⟩ twoJob)).Inevitably
          fussyNodes.host fun m => ∃ r, m.answer? 0 = some r ∧ r.map Report.untimed = result ∧
            ∀ measurement, m.nodes measurement = parts measurement :=
  sync_confluent (fussyNodes.independent twoJob) .epoch _ ()
    ⟨.ofSecs 1800, .zero, 0, 1, ⟨2, .ofSecs 1⟩⟩

end SeriesReplica.Sync
