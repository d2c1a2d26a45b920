import SeriesReplica.Agent.Config
import SeriesReplica.Schema.Database
import SeriesReplica.Proofs.Sync.Partition

/-! The window of a whole history is planned whole. It is taken to be no longer than the longest
window of a sync, and a checked configuration allows windows and chunks that have a length. -/
namespace SeriesReplica.Schema
open Time

namespace Policy
variable {p : Policy} {limit : Span}

/-- The length of the window is no longer than the limit. -/
theorem span_le (p : Policy) (limit : Span) : (p.span limit).nanos ≤ limit.nanos := by
  rw [span]
  split
  case isTrue => exact le_rfl
  case isFalse h =>
    have hduration : ¬ limit.nanos < p.duration.nanos := by
      simp only [Bool.or_eq_true, decide_eq_true_eq, not_or] at h
      exact h.2
    omega

theorem span_ne_zero (p : Policy) (hlimit : limit.nanos ≠ 0) : (p.span limit).nanos ≠ 0 := by
  rw [span]
  split
  case isTrue => exact hlimit
  case isFalse h =>
    simp only [Bool.or_eq_true, not_or, isInfinite, Span.isZero, decide_eq_true_eq] at h
    exact h.1

/-- The length that is taken off the present: that of the window, or a shorter one if the calendar
does not take that. -/
def shift (p : Policy) (limit : Span) : Span :=
  if (p.span limit).fitsCalendar then p.span limit else longSpan

theorem fullWindow_eq (p : Policy) (limit : Span) (now : Instant) :
    p.fullWindow limit now = ((now.earlier? (p.shift limit)).getD .earliest, now) := rfl

theorem shift_le (p : Policy) (limit : Span) : (p.shift limit).nanos ≤ limit.nanos := by
  have hspan := p.span_le limit
  rw [shift]
  split
  case isTrue => exact hspan
  case isFalse h =>
    have hlong : longSpan.nanos ≤ maxShiftNanos := by decide
    simp only [Span.fitsCalendar, decide_eq_true_eq] at h
    omega

theorem shift_ne_zero (p : Policy) (hlimit : limit.nanos ≠ 0) : (p.shift limit).nanos ≠ 0 := by
  rw [shift]
  split
  case isTrue => exact p.span_ne_zero hlimit
  case isFalse => decide

/-- The window of a whole history is not empty, as instants and as nanoseconds. -/
theorem fullWindow_lt (p : Policy) (hlimit : limit.nanos ≠ 0) {now : Instant}
    (hafter : 0 < now.totalNanos) :
    (p.fullWindow limit now).1 < now ∧
      (p.fullWindow limit now).1.totalNanos < now.totalNanos := by
  have hshift := p.shift_ne_zero hlimit
  have hspec := now.earlier?_spec (p.shift limit)
  rw [fullWindow_eq]
  cases hback : now.earlier? (p.shift limit) with
  | none =>
    have hnanos : now.nanos < 2 * nanosPerSec := now.valid.2.2
    have hearliest : Instant.earliest.totalNanos < 0 := by decide
    refine ⟨?_, hearliest.trans hafter⟩
    simp only [Instant.totalNanos, nanosPerSec] at hafter hnanos
    rw [Option.getD_none, Instant.lt_def, Instant.earliest]
    dsimp only [minSecs]
    omega
  | some u =>
    refine ⟨Instant.earlier?_lt hshift hback, ?_⟩
    obtain ⟨v, hv, htotal⟩ | ⟨hnone, -⟩ := hback ▸ hspec
    · obtain rfl := Option.some.inj hv
      dsimp only [Option.getD_some]
      omega
    · cases hnone

/-- The window of a whole history is no longer than the limit. -/
theorem fullWindow_length_le (p : Policy) (limit : Span) (now : Instant) :
    now.epochNanos.toInt - (p.fullWindow limit now).1.epochNanos.toInt ≤ limit.nanos := by
  have hshift := p.shift_le limit
  have hback := now.sub_le_toInt_earlier (p.shift limit)
  rw [fullWindow_eq]
  dsimp only
  omega

end Policy
end SeriesReplica.Schema

namespace SeriesReplica.Agent
open Time Sync

/-- A plan that a limit leaves whole walks all chunks of its window and logs nothing. -/
theorem plan_whole {start stop : Instant} {chunk limit : Span} (hwindow : start < stop)
    (hnanos : start.epochNanos < stop.epochNanos) (hchunk : chunk.nanos ≠ 0)
    (hwhole : ¬ IsCut start stop chunk limit) (order : Order) :
    ∃ planned, plan start stop chunk limit order = .ok planned ∧ planned.log = [] ∧
      Partitions order start.epochNanos.toInt stop.epochNanos.toInt chunk.nanos
        (fillingCount start stop chunk) planned.windows := by
  obtain ⟨-, -, hplans⟩ := plan_partitions hwindow hnanos hchunk limit
  obtain ⟨planned, hplan, hparts⟩ := hplans order
  have hfirst : plannedFirst start stop chunk limit = start.epochNanos.toInt := if_neg hwhole
  have hcount : plannedCount start stop chunk limit = fillingCount start stop chunk :=
    if_neg hwhole
  rw [hfirst, hcount] at hparts
  refine ⟨planned, hplan, log_eq_nil_of_plan hplan fun n hn => ?_, hparts⟩
  rw [Grid.cap?] at hn
  split at hn
  case isTrue => cases hn
  case isFalse hlimit =>
    obtain rfl := Option.some.inj hn
    have hallowed : ¬ allowedCount chunk limit < fillingCount start stop chunk :=
      fun hlt => hwhole ⟨hlimit, hlt⟩
    exact (Nat.not_lt.1 hallowed).trans (max_comm _ _).le

/-- With a checked configuration, the whole history of every policy is copied: its window ends now
and is not empty, the longest window of a sync leaves out nothing of it, and in either order the
planned chunks cover it from its start, or from the first moment that can be asked for. -/
theorem full_history_is_planned {c : Config} (hc : c.fault? = none) (p : Schema.Policy)
    {now : Instant} (hafter : 0 < now.totalNanos)
    (hrange : now.totalNanos ≤ Int64.maxValue.toInt) :
    let s := c.general.syncSettings
    let start := (p.fullWindow s.maxRetention now).1
    start < now ∧ (p.fullWindow s.maxRetention now).2 = now ∧
      ¬ IsCut start now s.chunk s.maxRetention ∧
      ∀ order, ∃ planned, plan start now s.chunk s.maxRetention order = .ok planned ∧
        planned.log = [] ∧
        Partitions order (max Int64.minValue.toInt start.totalNanos) now.totalNanos s.chunk.nanos
          (fillingCount start now s.chunk) planned.windows := by
  intro s start
  obtain ⟨-, -, hchunk, hretention, -, -⟩ := Config.settings_ne_zero hc
  have hchunk : s.chunk.nanos ≠ 0 := Nat.mul_ne_zero hchunk (by decide)
  have hretention : s.maxRetention.nanos ≠ 0 := Nat.mul_ne_zero hretention (by decide)
  obtain ⟨hwindow, htotal⟩ : start < now ∧ start.totalNanos < now.totalNanos :=
    p.fullWindow_lt hretention hafter
  have hwhole : ¬ IsCut start now s.chunk s.maxRetention :=
    not_isCut hchunk (p.fullWindow_length_le s.maxRetention now)
  -- Only the start of the window can lie outside 64 bits.
  have hmin : Int64.minValue.toInt < 0 := by decide
  have hnow : now.epochNanos.toInt = now.totalNanos := by
    rw [Instant.toInt_epochNanos]
    omega
  have hstart : start.epochNanos.toInt = max Int64.minValue.toInt start.totalNanos := by
    rw [Instant.toInt_epochNanos]
    omega
  have hnanos : start.epochNanos < now.epochNanos := by
    rw [Int64.lt_iff_toInt_lt]
    omega
  refine ⟨hwindow, rfl, hwhole, fun order => ?_⟩
  rw [← hstart, ← hnow]
  exact plan_whole hwindow hnanos hchunk hwhole order

/-- All that a policy without end holds at a point in time, with the longest retention that fits 64
bits: no calendar takes that length back, and the window begins one hundred years earlier. -/
theorem full_history_is_planned_endless :
    let c : Config := { general := { maxRetention := 18446744073709551615 } }
    let p : Schema.Policy := ⟨"raw", .zero, .zero, 1, true, ∅⟩
    let now := Instant.ofEpochNanos 1700000000000000000
    let s := c.general.syncSettings
    let start := (p.fullWindow s.maxRetention now).1
    c.fault? = none ∧ 0 < now.totalNanos ∧ now.totalNanos ≤ Int64.maxValue.toInt ∧
      start.totalNanos = -1453600000000000000 ∧ ¬ IsCut start now s.chunk s.maxRetention ∧
      ∀ order, ∃ planned, plan start now s.chunk s.maxRetention order = .ok planned ∧
        planned.log = [] ∧
        Partitions order (-1453600000000000000) 1700000000000000000 3600000000000 876000
          planned.windows := by
  intro c p now s start
  have hc : c.fault? = none := by decide
  have hafter : 0 < now.totalNanos := by decide
  have hrange : now.totalNanos ≤ Int64.maxValue.toInt := by decide
  have hstart : start.totalNanos = -1453600000000000000 := by decide
  have hfirst : max Int64.minValue.toInt start.totalNanos = -1453600000000000000 := by decide
  have hnow : now.totalNanos = 1700000000000000000 := by decide
  have hchunk : s.chunk.nanos = 3600000000000 := by decide
  have hcount : fillingCount start now s.chunk = 876000 := by decide
  obtain ⟨-, -, hwhole, hplans⟩ := full_history_is_planned hc p hafter hrange
  refine ⟨hc, hafter, hrange, hstart, hwhole, fun order => ?_⟩
  rw [← hfirst, ← hnow, ← hchunk, ← hcount]
  exact hplans order

end SeriesReplica.Agent
