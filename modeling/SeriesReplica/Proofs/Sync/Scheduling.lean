import SeriesReplica.Proofs.Concurrent.Discipline
import SeriesReplica.Proofs.Sync.Account
import SeriesReplica.Proofs.Sync.Exchanges

/-! The schedules of a sync. Whatever the nodes answer and after what time, and whichever worker
takes the next step, every schedule of a sync comes to its end. No more transfers run at a time than
there are workers, each chunk moves every measurement once, a chunk is over before the next one
begins, and the replay comes after the initial pass. -/
namespace SeriesReplica.Sync
open Time Concurrent Schema

variable {σ ν : Type} {s : Settings} {j : Job}

/-- What is left of a chunk: its report and the trace of its calls. -/
structure ChunkTrace where
  report : ChunkReport
  events : List Event

/-- The trace of a chunk: all calls belong to the transfer of a measurement, those of one transfer
come one after another, and every measurement has been moved once, with the outcome that is
reported. -/
structure ChunkTrace.IsOf (s : Settings) (j : Job) (pass : Pass) (w : Window) (t : ChunkTrace) :
    Prop where
  owned : ∀ e ∈ t.events, ∃ i < j.measurements.length, e.job = some i
  atMost : Event.AtMost (max s.workers 1) t.events
  inTurn : ∀ i, (Event.ofJob i t.events).Pairwise fun e e' => e.ended ≤ e'.begun
  moved : ∃ outcomes elapsed,
    t.report = .ofOutcomes pass w j.measurements.length outcomes elapsed ∧
      outcomes.length = j.measurements.length ∧
      ∀ (i : Nat) (name : String) (types : FieldTypes) (o : Outcome),
        j.measurements[i]? = some (name, types) → outcomes[i]? = some o →
          (j.context s).Moved w name types o ((Event.ofJob i t.events).map Event.exchange)

/-- The trace of a sync and its result. Without a plan there are no calls. Otherwise the trace is
that of the planned chunks and then that of the finer chunks of each chunk that failed, and each
chunk is over when the next one begins. -/
def IsTraceOf (s : Settings) (j : Job) (es : List Event) (result : Except PlanError Report) : Prop :=
  match plan j.start j.stop s.chunk s.maxRetention j.order with
  | .error e => result = .error e ∧ es = []
  | .ok p => ∃ (initial : List ChunkTrace) (replayed : List (List ChunkTrace)) (elapsed : Span),
    result = .ok (.ofPasses j (initial.map ChunkTrace.report)
      (replayed.flatten.map ChunkTrace.report) elapsed) ∧
    es = (initial ++ replayed.flatten).flatMap ChunkTrace.events ∧
    (initial ++ replayed.flatten).Pairwise (fun t t' => Precedes t.events t'.events) ∧
    List.Forall₂ (ChunkTrace.IsOf s j .initial) p.windows initial ∧
    List.Forall₂ (fun t ts => List.Forall₂ (ChunkTrace.IsOf s j .replay)
      (t.report.window.pieces (replayChunk s.chunk) j.order) ts)
      (initial.filter (·.report.isBad)) replayed

/-- A sync leaves all calls to the transfers of its chunks. -/
theorem sync_delegates (s : Settings) (j : Job) :
    (sync s j : Process σ Outcome _).Delegates (max s.workers 1) := by
  refine sync_of_chunks (P := fun p => p.Delegates (max s.workers 1)) ⟨Process.delegates_pure,
    Process.Delegates.bind, Process.delegates_clock, Process.delegates_log⟩ fun pass w => ?_
  exact Process.delegates_clock.bind fun _ => (Process.delegates_pool _ (Nat.le_refl _)).bind
    fun _ => Process.delegates_clock.bind fun _ => (Process.delegates_log _).bind
      fun _ => Process.delegates_pure _

section Phases
variable {pass : Pass} {qs : List (Phase Outcome)}

/-- The pool of a chunk, once it has been run, has moved every measurement. -/
private theorem isOf_phase {w : Window} {q : Phase Outcome} (hq : q.IsComplete (max s.workers 1))
    (hjobs : q.jobs = j.measurements.map fun (name, types) => (j.context s).transfer w name types)
    (elapsed : Span) : ChunkTrace.IsOf s j pass w
      ⟨.ofOutcomes pass w j.measurements.length q.results elapsed, q.events⟩ where
  owned e he := by simpa [hjobs] using hq.owned e he
  atMost := hq.atMost
  inTurn := hq.inTurn
  moved := by
    refine ⟨q.results, elapsed, rfl, by rw [hq.length, hjobs, List.length_map],
      fun i name types o hi ho => transfer_talks (hq.talks i _ o ?_ ho)⟩
    rw [hjobs, List.getElem?_map, hi]
    rfl

/-- A chunk goes through one phase. -/
theorem syncChunk_goesThrough {w : Window} {c : ChunkReport}
    (h : (syncChunk s j pass w : Process σ Outcome _).GoesThrough c qs) :
    ∃ t, ChunkTrace.IsOf s j pass w t ∧ t.report = c ∧ qs.map Phase.events = [t.events] := by
  rw [syncChunk] at h
  obtain ⟨started, _, us, rfl, hstarted, h₁⟩ := Process.goesThrough_bind.1 h
  obtain ⟨results, _, vs, rfl, hpool, h₂⟩ := Process.goesThrough_bind.1 h₁
  obtain ⟨ended, _, ws, rfl, hended, h₃⟩ := Process.goesThrough_bind.1 h₂
  obtain ⟨_, _, _, rfl, hlog, rfl, rfl⟩ := Process.goesThrough_bind.1 h₃
  obtain rfl := Process.goesThrough_ofRoutine hstarted
  obtain rfl := Process.goesThrough_ofRoutine hended
  obtain rfl := Process.goesThrough_ofRoutine hlog
  obtain ⟨q, rfl, hq, hjobs, rfl⟩ := Process.goesThrough_pool.1 hpool
  refine ⟨_, isOf_phase hq hjobs (ended.uptime - started.uptime), ?_, rfl⟩
  rw [List.length_map]

/-- A walk goes through one phase for each chunk, one after another. -/
theorem syncChunks_goesThrough {ws : List Window} {cs : List ChunkReport}
    (h : (syncChunks s j pass ws : Process σ Outcome _).GoesThrough cs qs) :
    ∃ ts, List.Forall₂ (ChunkTrace.IsOf s j pass) ws ts ∧ ts.map ChunkTrace.report = cs ∧
      ts.map ChunkTrace.events = qs.map Phase.events := by
  induction ws generalizing cs qs with
  | nil =>
    obtain ⟨rfl, rfl⟩ := Process.goesThrough_pure.1 h
    exact ⟨[], .nil, rfl, rfl⟩
  | cons w ws ih =>
    rw [syncChunks] at h
    obtain ⟨c, us, vs, rfl, hchunk, h₁⟩ := Process.goesThrough_bind.1 h
    obtain ⟨_, _, _, rfl, hrest, rfl, rfl⟩ := Process.goesThrough_bind.1 h₁
    obtain ⟨t, ht, rfl, hevents⟩ := syncChunk_goesThrough hchunk
    obtain ⟨ts, hts, rfl, hmore⟩ := ih hrest
    exact ⟨t :: ts, .cons ht hts, rfl, by simp [hevents, hmore]⟩

/-- What the replay of chunks goes through: all of them can be cut again, and each finer chunk is
one phase. -/
theorem replayChunks_goesThrough {chunk : Span} (hchunk : chunk.nanos ≠ 0) {ws : List Window}
    (hws : ∀ w ∈ ws, w.start < w.stop) {result : Except PlanError (List ChunkReport)}
    (h : (replayChunks s j chunk ws : Process σ Outcome _).GoesThrough result qs) :
    ∃ tss, List.Forall₂ (fun w ts => List.Forall₂ (ChunkTrace.IsOf s j .replay)
        (w.pieces chunk j.order) ts) ws tss ∧
      result = .ok (tss.flatten.map ChunkTrace.report) ∧
      tss.flatten.map ChunkTrace.events = qs.map Phase.events := by
  induction ws generalizing result qs with
  | nil =>
    obtain ⟨rfl, rfl⟩ := Process.goesThrough_pure.1 h
    exact ⟨[], .nil, rfl, rfl⟩
  | cons w ws ih =>
    obtain ⟨p, hplan, hpieces⟩ := plan_eq_ok (hws w List.mem_cons_self) hchunk .zero j.order
    simp only [replayChunks, hplan] at h
    obtain ⟨cs, us, vs, rfl, hwalk, h₁⟩ := Process.goesThrough_bind.1 h
    obtain ⟨more, _, _, rfl, hrest, h₂⟩ := Process.goesThrough_bind.1 h₁
    obtain ⟨ts, hts, rfl, hevents⟩ := syncChunks_goesThrough hwalk
    obtain ⟨tss, htss, rfl, hmore⟩ := ih (fun v hv => hws v (List.mem_cons_of_mem w hv)) hrest
    obtain ⟨rfl, rfl⟩ := Process.goesThrough_pure.1 h₂
    rw [hpieces] at hts
    exact ⟨ts :: tss, .cons hts htss, by simp, by simp [hevents, hmore]⟩

/-- The planned chunks of a sync are not empty, so a failed one can be cut again. -/
private theorem start_lt_stop {p : Plan}
    (hplan : plan j.start j.stop s.chunk s.maxRetention j.order = .ok p) {initial : List ChunkTrace}
    (hinitial : List.Forall₂ (ChunkTrace.IsOf s j .initial) p.windows initial) :
    ∀ w ∈ ((initial.map ChunkTrace.report).filter (·.isBad)).map (·.window), w.start < w.stop := by
  obtain ⟨hchunk, hwindow⟩ := of_plan_eq_ok hplan
  obtain ⟨p', hplan', hwindows⟩ := plan_eq_ok hwindow hchunk s.maxRetention j.order
  obtain rfl : p = p' := Except.ok.inj (hplan.symm.trans hplan')
  intro w hw
  obtain ⟨c, hc, rfl⟩ := List.mem_map.1 hw
  obtain ⟨t, ht, rfl⟩ := List.mem_map.1 (List.mem_of_mem_filter hc)
  obtain ⟨v, hv, hvt⟩ := exists_left hinitial ht
  obtain ⟨outcomes, elapsed, hreport, -⟩ := hvt.moved
  rw [hreport]
  exact (planned_isProper hchunk (hwindows ▸ hv)).1

private theorem replay_goesThrough (hchunk : s.chunk.nanos ≠ 0) {cs : List ChunkReport}
    (hcs : ∀ w ∈ (cs.filter (·.isBad)).map (·.window), w.start < w.stop) {started : Clock}
    {result : Except PlanError Report}
    (h : (replay s j cs started : Process σ Outcome _).GoesThrough result qs) :
    ∃ tss elapsed, List.Forall₂ (fun w ts => List.Forall₂ (ChunkTrace.IsOf s j .replay)
        (w.pieces (replayChunk s.chunk) j.order) ts) ((cs.filter (·.isBad)).map (·.window)) tss ∧
      result = .ok (.ofPasses j cs (tss.flatten.map ChunkTrace.report) elapsed) ∧
      tss.flatten.map ChunkTrace.events = qs.map Phase.events := by
  rw [replay] at h
  obtain ⟨replayed, us, vs, rfl, hreplayed, h₁⟩ := Process.goesThrough_bind.1 h
  obtain ⟨tss, htss, rfl, hevents⟩ :=
    replayChunks_goesThrough (replayChunk_ne_zero hchunk) hcs hreplayed
  obtain ⟨ended, _, ws, rfl, hended, h₂⟩ := Process.goesThrough_bind.1 h₁
  obtain ⟨_, _, _, rfl, hlog, rfl, rfl⟩ := Process.goesThrough_bind.1 h₂
  obtain rfl := Process.goesThrough_ofRoutine hended
  obtain rfl := Process.goesThrough_ofRoutine hlog
  exact ⟨tss, _, htss, rfl, by simpa using hevents⟩

/-- The phases of a sync, if each is over before the next one begins, make up a trace of it. -/
theorem sync_goesThrough {result : Except PlanError Report}
    (h : (sync s j : Process σ Outcome _).GoesThrough result qs)
    (hordered : qs.Pairwise fun q q' => Precedes q.events q'.events) :
    IsTraceOf s j (qs.flatMap Phase.events) result := by
  rw [sync] at h
  rw [IsTraceOf]
  split
  case h_1 e hplan =>
    rw [hplan] at h
    obtain ⟨rfl, rfl⟩ := Process.goesThrough_pure.1 h
    exact ⟨rfl, rfl⟩
  case h_2 p hplan =>
    simp only [hplan] at h
    obtain ⟨_, _, us, rfl, hlog, h₁⟩ := Process.goesThrough_bind.1 h
    obtain ⟨started, _, vs, rfl, hstarted, h₂⟩ := Process.goesThrough_bind.1 h₁
    obtain ⟨_, _, ws, rfl, hnotice, h₃⟩ := Process.goesThrough_bind.1 h₂
    obtain ⟨cs, xs, ys, rfl, hwalk, h₄⟩ := Process.goesThrough_bind.1 h₃
    obtain rfl := Process.goesThrough_ofRoutine hlog
    obtain rfl := Process.goesThrough_ofRoutine hstarted
    obtain rfl := Process.goesThrough_ofRoutine hnotice
    obtain ⟨initial, hinitial, rfl, hevents⟩ := syncChunks_goesThrough hwalk
    have hreplay : (replay s j (initial.map ChunkTrace.report) started :
        Process σ Outcome _).GoesThrough result ys := by
      split at h₄
      · obtain ⟨_, _, zs, rfl, hwarn, h₅⟩ := Process.goesThrough_bind.1 h₄
        obtain rfl := Process.goesThrough_ofRoutine hwarn
        exact h₅
      · exact h₄
    obtain ⟨tss, elapsed, htss, rfl, hmore⟩ := replay_goesThrough (of_plan_eq_ok hplan).1
      (start_lt_stop hplan hinitial) hreplay
    have hall : (initial ++ tss.flatten).map ChunkTrace.events = (xs ++ ys).map Phase.events := by
      rw [List.map_append, List.map_append, hevents, hmore]
    simp only [List.nil_append] at hordered ⊢
    refine ⟨initial, tss, elapsed, rfl, ?_, ?_, hinitial, ?_⟩
    · rw [List.flatMap_def, List.flatMap_def, hall]
    · rw [← List.pairwise_map (f := Phase.events) (R := Precedes), ← hall] at hordered
      exact List.pairwise_map.1 hordered
    · rwa [List.filter_map, List.map_map, List.forall₂_map_left_iff] at htss

end Phases

/-- Every schedule of a sync comes to its end with a result, whatever the calls are answered and
after what time. At every moment no more transfers run than there are workers. The trace of the
calls is a trace of the sync: each chunk moves every measurement once, whatever fails, the calls of
a transfer come one after another in their order, a chunk is over before the next one begins, and
the replay comes after the initial pass. -/
theorem sync_disciplined (host : Host ν) (begin : Instant) (nodes : ν) (shared : σ) (s : Settings)
    (j : Job) :
    let launched : Machine ν σ Outcome (Except PlanError Report) :=
      (Machine.initial begin nodes shared).launch (sync s j)
    (launched.Inevitably host fun m => m.fibers = [] ∧ ∃ result, m.answer? 0 = some result) ∧
      ∀ es m, Machine.Traced host launched es m → m.running ≤ max s.workers 1 ∧
        (m.fibers = [] → ∃ result, m.answer? 0 = some result ∧ IsTraceOf s j es result) := by
  intro launched
  constructor
  · refine (Machine.launch_inevitably host begin nodes shared (sync s j)).mono ?_
    rintro m ⟨result, -, -, hfibers, hanswers, -⟩
    exact ⟨hfibers, result, by simp [Machine.answer?, hanswers]⟩
  · intro es m htraced
    have hfollows := htraced.follows (sync_delegates s j)
    refine ⟨hfollows.running_le, fun hfibers => ?_⟩
    obtain ⟨result, qs, hanswer, hgoes, rfl, hordered⟩ := hfollows.at_end hfibers
    exact ⟨result, hanswer, sync_goesThrough hgoes hordered⟩

end SeriesReplica.Sync
