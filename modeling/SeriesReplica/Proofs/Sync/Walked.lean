import SeriesReplica.Node.Network
import SeriesReplica.Proofs.Sync.Consistent

/-! Windows that are accepted and then not walked. A window is accepted by the calendar times of its
ends and cut into chunks by their counts of nanoseconds, which saturate and do not tell a leap
second from the second after it. Where the two disagree there is nothing to cut. -/
namespace SeriesReplica

namespace Time.Instant

/-- No nanosecond lies between two moments, by their counts: both are before the first count or
after the last one, or the first one is a leap second that reaches as far as the second one. -/
def Uncounted (start stop : Instant) : Prop :=
  stop.totalNanos ≤ Int64.minValue.toInt ∨ Int64.maxValue.toInt ≤ start.totalNanos ∨
    (stop.secs = start.secs + 1 ∧ stop.nanos + nanosPerSec ≤ start.nanos)

instance (start stop : Instant) : Decidable (Uncounted start stop) :=
  inferInstanceAs (Decidable (_ ∨ _ ∨ _))

/-- Moments in order have counts in order, unless there is nothing to count between them. -/
theorem epochNanos_lt_iff {start stop : Instant} (h : start < stop) :
    start.epochNanos < stop.epochNanos ↔ ¬ Uncounted start stop := by
  have hstart : start.nanos < 2000000000 := start.valid.2.2
  have hstop : stop.nanos < 2000000000 := stop.valid.2.2
  have hmin : Int64.minValue.toInt = -9223372036854775808 := by decide
  have hmax : Int64.maxValue.toInt = 9223372036854775807 := by decide
  rw [lt_def] at h
  rw [Int64.lt_iff_toInt_lt, toInt_epochNanos, toInt_epochNanos, Uncounted, hmin, hmax]
  simp only [totalNanos, nanosPerSec]
  omega

end Time.Instant

namespace Sync
open Time Concurrent

variable {ν σ : Type} {host : Host ν} {begin : Instant} {s : Settings} {j : Job}

/-- An accepted window has a plan, which is empty exactly if there is nothing to count in it. -/
theorem windows_eq_nil_iff {start stop : Instant} {chunk : Span} (hwindow : start < stop)
    (hchunk : chunk.nanos ≠ 0) (limit : Span) (order : Order) :
    ∃ p, plan start stop chunk limit order = .ok p ∧
      (p.windows = [] ↔ start.Uncounted stop) := by
  obtain ⟨p, hplan, hwindows⟩ := plan_eq_ok hwindow hchunk limit order
  refine ⟨p, hplan, ?_⟩
  by_cases hnanos : start.epochNanos < stop.epochNanos
  · have hpos := (plannedGrid_isExact hnanos hchunk limit).count_pos
    have hne : p.windows ≠ [] := by
      rw [hwindows, ← List.length_pos_iff, Grid.length_windows]
      exact hpos
    exact iff_of_false hne ((Instant.epochNanos_lt_iff hwindow).1 hnanos)
  · rw [hwindows, planned_eq_nil hnanos]
    exact iff_of_true rfl (not_not.1 (mt (Instant.epochNanos_lt_iff hwindow).2 hnanos))

/-- A sync without chunks reports that all is well, and asks nobody. -/
theorem sync_yields_unwalked {p : Plan}
    (hplan : plan j.start j.stop s.chunk s.maxRetention j.order = .ok p) (hnil : p.windows = [])
    {result : Except PlanError Report} {scene last : Scene ν σ}
    (h : (sync s j : Process σ Outcome _).Yields host begin result last scene) :
    ∃ elapsed, result = .ok (.ofPasses j [] [] elapsed) ∧ last.nodes = scene.nodes := by
  simp only [sync, hplan, hnil, syncChunks] at h
  obtain ⟨_, planned, hlog, h⟩ := Process.yields_bind.1 h
  cases Process.yields_logAll.1 hlog
  obtain ⟨started, _, hstarted, h⟩ := Process.yields_bind.1 h
  cases (Process.yields_clock.1 hstarted).1
  obtain ⟨_, _, hlog, h⟩ := Process.yields_bind.1 h
  cases Process.yields_log.1 hlog
  obtain ⟨_, _, ⟨rfl, rfl⟩, h⟩ := Process.yields_bind.1 h
  obtain ⟨_, _, ⟨rfl, rfl⟩, h⟩ := Process.yields_bind.1 h
  obtain ⟨ended, _, hended, h⟩ := Process.yields_bind.1 h
  cases (Process.yields_clock.1 hended).1
  obtain ⟨_, _, hlog, rfl, rfl⟩ := Process.yields_bind.1 h
  cases Process.yields_log.1 hlog
  exact ⟨_, rfl, rfl⟩

/-- In the report of a sync there is a chunk for every planned window. -/
theorem exists_chunk_of_sync_yields {p : Plan}
    (hplan : plan j.start j.stop s.chunk s.maxRetention j.order = .ok p)
    {result : Except PlanError Report} {scene last : Scene ν σ}
    (h : (sync s j : Process σ Outcome _).Yields host begin result last scene) :
    ∃ r, result = .ok r ∧ ∀ w ∈ p.windows, ∃ c ∈ r.chunks, c.window = w := by
  obtain ⟨hchunk, hwindow⟩ := of_plan_eq_ok hplan
  obtain ⟨_, hplan', hwindows⟩ := plan_eq_ok hwindow hchunk s.maxRetention j.order
  obtain rfl := Except.ok.inj (hplan.symm.trans hplan')
  have hensures : (sync s j : Process σ Outcome _).Ensures host begin
      (fun (_ : Unit) _ => True) _ () :=
    sync_ensures_passes (R := fun _ w c _ => c.window = w) (fun _ _ _ _ _ _ h => h)
      (fun _ _ _ _ h => h) hplan hchunk
      (fun w hw => (planned_isProper hchunk (hwindows ▸ hw)).1)
      (fun w _ _ => (syncChunk_isTally .initial w).mono fun _ _ _ hc => hc.window_eq)
      (fun _ _ w _ _ => (syncChunk_isTally .replay w).mono fun _ _ _ hc => hc.window_eq) ()
  obtain ⟨-, -, -, initial, replays, elapsed, rfl, hinitial, -⟩ := hensures _ _ last trivial h
  refine ⟨_, rfl, fun w hw => ?_⟩
  obtain ⟨c, hc, hcw⟩ := exists_right hinitial hw
  refine ⟨if c.isBad then c.supersede else c, ?_, by split <;> exact hcw⟩
  exact List.mem_append_left _ (List.mem_map_of_mem hc)

/-- An accepted window is walked, whatever the limit and the order, unless there is nothing to count
in it. A sync of such a window answers that all is well, with no chunk in its report, and has
changed nothing on its nodes. -/
theorem accepted_window_is_walked_iff (host : Host ν) (begin : Instant) (nodes : ν) (shared : σ)
    (s : Settings) (j : Job) (hwindow : j.start < j.stop) (hchunk : s.chunk.nanos ≠ 0) :
    (∀ limit order, ∃ p, plan j.start j.stop s.chunk limit order = .ok p ∧
      (p.windows ≠ [] ↔ ¬ j.start.Uncounted j.stop)) ∧
    ((Machine.initial begin nodes shared).launch (sync s j)).Inevitably host fun m =>
      ∃ r, m.answer? 0 = some (.ok r) ∧ (r.chunks ≠ [] ↔ ¬ j.start.Uncounted j.stop) ∧
        (j.start.Uncounted j.stop → r.isClean = true ∧ r.totalPoints = 0 ∧ m.nodes = nodes) := by
  refine ⟨fun limit order => ?_, ?_⟩
  · obtain ⟨p, hplan, hnil⟩ := windows_eq_nil_iff hwindow hchunk limit order
    exact ⟨p, hplan, not_congr hnil⟩
  obtain ⟨p, hplan, hnil⟩ := windows_eq_nil_iff hwindow hchunk s.maxRetention j.order
  refine (Machine.launch_inevitably host begin nodes shared (sync s j)).mono ?_
  rintro m ⟨result, last, hyields, -, hanswers, hnodes, -⟩
  have hanswer : m.answer? 0 = some result := by
    rw [Machine.answer?, hanswers]
    rfl
  by_cases huncounted : j.start.Uncounted j.stop
  · obtain ⟨elapsed, rfl, hlast⟩ := sync_yields_unwalked hplan (hnil.2 huncounted) hyields
    exact ⟨_, hanswer, iff_of_false (fun h => h rfl) (not_not.2 huncounted),
      fun _ => ⟨rfl, rfl, hnodes.trans hlast⟩⟩
  · obtain ⟨r, rfl, hchunks⟩ := exists_chunk_of_sync_yields hplan hyields
    obtain ⟨w, hw⟩ := List.exists_mem_of_ne_nil _ (mt hnil.1 huncounted)
    obtain ⟨c, hc, -⟩ := hchunks w hw
    exact ⟨r, hanswer, iff_of_true (List.ne_nil_of_mem hc) huncounted, fun h => absurd h huncounted⟩

/-- An hour of 2023 whose ends were given in milliseconds and read as seconds. -/
theorem plan_milliseconds_eq_nil :
    (⟨1700000000000, 0, by decide⟩ : Instant) < ⟨1700003600000, 0, by decide⟩ ∧
      (Span.ofSecs 3600).nanos ≠ 0 ∧
      ∃ p, plan ⟨1700000000000, 0, by decide⟩ ⟨1700003600000, 0, by decide⟩ (.ofSecs 3600) .zero
        .forward = .ok p ∧ p.windows = [] := by
  have hwindow : (⟨1700000000000, 0, by decide⟩ : Instant) < ⟨1700003600000, 0, by decide⟩ := by
    decide
  have hchunk : (Span.ofSecs 3600).nanos ≠ 0 := by decide
  obtain ⟨p, hplan, hnil⟩ := windows_eq_nil_iff hwindow hchunk .zero .forward
  exact ⟨hwindow, hchunk, p, hplan, hnil.2 (by decide)⟩

/-- A copy that begins in the middle of the leap second of 2016 and ends in the second after it. -/
private def leapJob : Job where
  source := ⟨"a", ⟨0⟩⟩
  destination := ⟨"b", ⟨1⟩⟩
  sourceDatabase := "app"
  destinationDatabase := "app"
  sourcePolicy := ⟨"weekly", .zero, .zero, 1, true, ∅⟩
  destinationPolicy := "weekly"
  start := ⟨1483228799, 1500000000, by decide⟩
  stop := ⟨1483228800, 200000000, by decide⟩
  order := .reverse

/-- A copy of a fifth of a second, which reports that all is well. -/
theorem sync_leap_second_is_unwalked :
    leapJob.start < leapJob.stop ∧ leapJob.start.Uncounted leapJob.stop ∧
      ((Machine.initial .epoch (⟨[]⟩ : Node.Network) ()).launch
        (sync ⟨.ofSecs 600, .zero, 2, 100, ⟨2, .ofSecs 1⟩⟩ leapJob)).Inevitably Node.Network.host
        fun m => ∃ r, m.answer? 0 = some (.ok r) ∧ r.chunks = [] ∧ r.isClean = true := by
  have huncounted : leapJob.start.Uncounted leapJob.stop := by decide
  refine ⟨by decide, huncounted, ?_⟩
  refine (accepted_window_is_walked_iff Node.Network.host .epoch ⟨[]⟩ ()
    ⟨.ofSecs 600, .zero, 2, 100, ⟨2, .ofSecs 1⟩⟩ leapJob (by decide) (by decide)).2.mono ?_
  rintro m ⟨r, hanswer, hchunks, hclean⟩
  exact ⟨r, hanswer, not_not.1 (mt hchunks.1 (not_not.2 huncounted)), (hclean huncounted).1⟩

end Sync
end SeriesReplica
