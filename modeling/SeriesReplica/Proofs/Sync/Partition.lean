import Mathlib.Algebra.Order.Floor.Div
import Mathlib.Tactic.Linarith
import SeriesReplica.Proofs.Time.EpochNanos
import SeriesReplica.Sync.Plan

/-! Chunks partition the planned range. Both walking orders cut the same range into the same
number of half-open chunks, and only the chunk at the far end of the walk may be shorter. -/
namespace SeriesReplica.Sync
open Time

namespace Window

/-- The first nanosecond of a window. -/
def first (w : Window) : Int := w.start.epochNanos.toInt

/-- The nanosecond that ends a window and is no longer part of it. -/
def past (w : Window) : Int := w.stop.epochNanos.toInt

/-- Whether a nanosecond is part of a window. -/
def Holds (w : Window) (t : Int) : Prop := w.first ≤ t ∧ t < w.past

instance (w : Window) (t : Int) : Decidable (w.Holds t) := inferInstanceAs (Decidable (_ ∧ _))

/-- Whether a walk through the nanoseconds from `first` to `past` begins with the window. -/
def BeginsWalk (order : Order) (first past : Int) (w : Window) : Prop :=
  match order with
  | .reverse => w.past = past
  | .forward => w.first = first

/-- Whether the window lies where such a walk ends. -/
def EndsWalk (order : Order) (first past : Int) (w : Window) : Prop :=
  match order with
  | .reverse => w.first = first
  | .forward => w.past = past

/-- Whether a window comes before another one in walking order. -/
def Precedes (order : Order) (v w : Window) : Prop :=
  match order with
  | .reverse => w.first < v.first
  | .forward => v.first < w.first

end Window

/-- Windows that cut the nanoseconds from `first` up to but not including `past` into `n` chunks
of the given length, in walking order. -/
structure Partitions (order : Order) (first past : Int) (chunk n : Nat) (ws : List Window) :
    Prop where
  length_eq : ws.length = n
  numbered : ∀ i (h : i < ws.length), ws[i].index = i + 1 ∧ ws[i].total = n
  covers : ∀ t, first ≤ t → t < past → ∃! i : Fin ws.length, ws[i].Holds t
  within : ∀ w ∈ ws, first ≤ w.first ∧ w.past ≤ past
  nonempty : ∀ w ∈ ws, w.first < w.past
  atMost : ∀ w ∈ ws, w.past - w.first ≤ chunk
  shorter : ∀ w ∈ ws, w.past - w.first < chunk → w.EndsWalk order first past
  begins : ∀ w ∈ ws.head?, w.BeginsWalk order first past
  ordered : ws.Pairwise (Window.Precedes order)

namespace Grid

/-- A grid of non-empty chunks within 64 bits, of which only one may be shorter. -/
structure IsExact (g : Grid) : Prop where
  chunk_pos : 0 < g.chunk
  count_pos : 0 < g.count
  lower : Int64.minValue.toInt ≤ g.first
  upper : g.stop ≤ Int64.maxValue.toInt
  reaches : g.stop ≤ g.first + g.count * g.chunk
  tight : g.first + g.count * g.chunk < g.stop + g.chunk

/-- The position in walking order of the chunk that holds a nanosecond. -/
def slot (g : Grid) (order : Order) (t : Int) : Int :=
  match order with
  | .reverse => (g.stop - 1 - t) / g.chunk
  | .forward => (t - g.first) / g.chunk

variable {g : Grid} {order : Order} {i : Nat}

private theorem steps_le (hi : i < g.count) :
    (i : Int) * g.chunk + g.chunk ≤ g.count * g.chunk := by
  have h : (i + 1) * g.chunk ≤ g.count * g.chunk := Nat.mul_le_mul_right _ hi
  have hz : ((i + 1 : Nat) : Int) * g.chunk ≤ g.count * g.chunk := by exact_mod_cast h
  have he : ((i + 1 : Nat) : Int) * g.chunk = i * g.chunk + g.chunk := by
    rw [Nat.cast_succ, Int.add_mul, Int.one_mul]
  omega

private theorem range_reverse (g : Grid) (i : Nat) : g.range .reverse i =
    (max (g.stop - i * g.chunk - g.chunk) g.first, g.stop - i * g.chunk) := by
  rw [range, Int.add_mul, Int.one_mul, Int.sub_sub]

private theorem range_forward (g : Grid) (i : Nat) : g.range .forward i =
    (g.first + i * g.chunk, min (g.first + i * g.chunk + g.chunk) g.stop) := by
  rw [range, Int.add_mul, Int.one_mul, Int.add_assoc]

/-- A chunk is not empty, lies in the range of the grid and has the length of the grid. -/
theorem IsExact.range_bounds (h : g.IsExact) (order : Order) (hi : i < g.count) :
    g.first ≤ (g.range order i).1 ∧ (g.range order i).1 < (g.range order i).2 ∧
      (g.range order i).2 ≤ g.stop ∧ (g.range order i).2 - (g.range order i).1 ≤ g.chunk := by
  have hs := steps_le hi
  have hn : 0 ≤ (i : Int) * g.chunk := by positivity
  have hc := h.chunk_pos
  have ht := h.tight
  cases order with
  | reverse =>
    rw [range_reverse]
    exact ⟨by omega, by omega, by omega, by omega⟩
  | forward =>
    rw [range_forward]
    exact ⟨by omega, by omega, by omega, by omega⟩

/-- A nanosecond is in the chunk at its slot and in no other one. -/
theorem IsExact.mem_range_iff (h : g.IsExact) (hi : i < g.count) (t : Int) :
    ((g.range order i).1 ≤ t ∧ t < (g.range order i).2) ↔
      (g.first ≤ t ∧ t < g.stop) ∧ g.slot order t = i := by
  have hs := steps_le hi
  have hn : 0 ≤ (i : Int) * g.chunk := by positivity
  have hc : 0 < (g.chunk : Int) := by exact_mod_cast h.chunk_pos
  have ht := h.tight
  cases order with
  | reverse =>
    rw [range_reverse, slot, Int.ediv_eq_iff_of_pos hc]
    dsimp only
    omega
  | forward =>
    rw [range_forward, slot, Int.ediv_eq_iff_of_pos hc]
    dsimp only
    omega

/-- Every nanosecond of the range has a slot. -/
theorem IsExact.slot_lt (h : g.IsExact) (order : Order) {t : Int} (hlo : g.first ≤ t)
    (hhi : t < g.stop) :
    ∃ i, i < g.count ∧ g.slot order t = i := by
  have hc : 0 < (g.chunk : Int) := by exact_mod_cast h.chunk_pos
  have hr := h.reaches
  have hb : 0 ≤ g.slot order t ∧ g.slot order t < g.count := by
    cases order with
    | reverse =>
      exact ⟨Int.ediv_nonneg (by omega) hc.le, Int.ediv_lt_of_lt_mul hc (by omega)⟩
    | forward =>
      exact ⟨Int.ediv_nonneg (by omega) hc.le, Int.ediv_lt_of_lt_mul hc (by omega)⟩
  exact ⟨(g.slot order t).toNat, by omega, by omega⟩

/-- The bounds of a window are those of its chunk. -/
theorem IsExact.window_bounds (h : g.IsExact) (order : Order) (hi : i < g.count) :
    (g.window order i).first = (g.range order i).1 ∧
      (g.window order i).past = (g.range order i).2 := by
  have hr := h.range_bounds order hi
  have hlo := h.lower
  have hhi := h.upper
  have hmin : Int64.minValue.toInt = -2 ^ 63 := by decide
  have hmax : Int64.maxValue.toInt = 2 ^ 63 - 1 := by decide
  simp only [Window.first, Window.past, window, Instant.epochNanos_ofEpochNanos]
  constructor
  · exact Int64.toInt_ofInt_of_le (by omega) (by omega)
  · exact Int64.toInt_ofInt_of_le (by omega) (by omega)

theorem IsExact.window_holds_iff (h : g.IsExact) (hi : i < g.count) (t : Int) :
    (g.window order i).Holds t ↔ (g.first ≤ t ∧ t < g.stop) ∧ g.slot order t = i := by
  obtain ⟨hfirst, hpast⟩ := h.window_bounds order hi
  rw [Window.Holds, hfirst, hpast, h.mem_range_iff hi]

@[simp] theorem length_windows (g : Grid) (order : Order) :
    (g.windows order).length = g.count := by
  simp [windows]

@[simp] theorem getElem_windows (g : Grid) (order : Order) (i : Nat)
    (h : i < (g.windows order).length) : (g.windows order)[i] = g.window order i := by
  simp [windows]

theorem mem_windows {w : Window} :
    w ∈ g.windows order ↔ ∃ i < g.count, g.window order i = w := by
  simp [windows]

private theorem IsExact.covers (h : g.IsExact) (order : Order) {t : Int} (hlo : g.first ≤ t)
    (hhi : t < g.stop) : ∃! i : Fin (g.windows order).length, (g.windows order)[i].Holds t := by
  obtain ⟨i, hi, hslot⟩ := h.slot_lt order hlo hhi
  refine ⟨⟨i, by rwa [length_windows]⟩, ?_, ?_⟩
  · simpa [h.window_holds_iff hi] using ⟨⟨hlo, hhi⟩, hslot⟩
  · rintro ⟨j, hj⟩ hholds
    rw [length_windows] at hj
    have hslot' := ((h.window_holds_iff hj t).1 (by simpa using hholds)).2
    exact Fin.ext (by rw [hslot] at hslot'; exact_mod_cast hslot'.symm)

private theorem IsExact.shorter (h : g.IsExact) (hi : i < g.count)
    (hlt : (g.window order i).past - (g.window order i).first < g.chunk) :
    (g.window order i).EndsWalk order g.first g.stop := by
  obtain ⟨hfirst, hpast⟩ := h.window_bounds order hi
  rw [hfirst, hpast] at hlt
  cases order with
  | reverse =>
    rw [range_reverse] at hlt hfirst
    rw [Window.EndsWalk, hfirst]
    dsimp only at hlt ⊢
    omega
  | forward =>
    rw [range_forward] at hlt hpast
    rw [Window.EndsWalk, hpast]
    dsimp only at hlt ⊢
    omega

private theorem IsExact.ordered (h : g.IsExact) (order : Order) :
    (g.windows order).Pairwise (Window.Precedes order) := by
  have hc : 0 < (g.chunk : Int) := by exact_mod_cast h.chunk_pos
  have ht := h.tight
  rw [List.pairwise_iff_getElem]
  intro i j hi hj hij
  rw [getElem_windows, getElem_windows]
  rw [length_windows] at hi hj
  have hstep := steps_le (g := ⟨0, 0, g.chunk, j⟩) hij
  have hlast := steps_le hj
  dsimp only at hstep
  cases order with
  | reverse =>
    rw [Window.Precedes, (h.window_bounds _ hi).1, (h.window_bounds _ hj).1, range_reverse,
      range_reverse]
    dsimp only
    omega
  | forward =>
    rw [Window.Precedes, (h.window_bounds _ hi).1, (h.window_bounds _ hj).1, range_forward,
      range_forward]
    dsimp only
    omega

private theorem IsExact.begins (h : g.IsExact) (order : Order) :
    ∀ w ∈ (g.windows order).head?, w.BeginsWalk order g.first g.stop := by
  intro w hw
  have hpos : 0 < (g.windows order).length := by simpa using h.count_pos
  rw [Option.mem_def, List.head?_eq_getElem?, List.getElem?_eq_getElem hpos,
    getElem_windows] at hw
  obtain rfl := Option.some.inj hw
  obtain ⟨hfirst, hpast⟩ := h.window_bounds order h.count_pos
  cases order with
  | reverse => simp [Window.BeginsWalk, hpast, range_reverse]
  | forward => simp [Window.BeginsWalk, hfirst, range_forward]

/-- An exact grid partitions its range, whatever the order. -/
theorem IsExact.partitions (h : g.IsExact) (order : Order) :
    Partitions order g.first g.stop g.chunk g.count (g.windows order) where
  length_eq := length_windows g order
  numbered i hi := by simp [window]
  covers t hlo hhi := h.covers order hlo hhi
  within w hw := by
    obtain ⟨i, hi, rfl⟩ := mem_windows.1 hw
    rw [(h.window_bounds _ hi).1, (h.window_bounds _ hi).2]
    have := h.range_bounds order hi
    exact ⟨this.1, this.2.2.1⟩
  nonempty w hw := by
    obtain ⟨i, hi, rfl⟩ := mem_windows.1 hw
    rw [(h.window_bounds _ hi).1, (h.window_bounds _ hi).2]
    exact (h.range_bounds order hi).2.1
  atMost w hw := by
    obtain ⟨i, hi, rfl⟩ := mem_windows.1 hw
    rw [(h.window_bounds _ hi).1, (h.window_bounds _ hi).2]
    exact (h.range_bounds order hi).2.2.2
  shorter w hw hlt := by
    obtain ⟨i, hi, rfl⟩ := mem_windows.1 hw
    exact h.shorter hi hlt
  begins := h.begins order
  ordered := h.ordered order

end Grid

/-- The number of chunks that fill a window. -/
def fillingCount (start stop : Instant) (chunk : Span) : Nat :=
  (stop.epochNanos.toInt - start.epochNanos.toInt).toNat ⌈/⌉ chunk.nanos

/-- The number of chunks that a limit allows. -/
def allowedCount (chunk limit : Span) : Nat := max 1 (limit.nanos ⌈/⌉ chunk.nanos)

/-- Whether a limit leaves out a part of a window. -/
def IsCut (start stop : Instant) (chunk limit : Span) : Prop :=
  limit.nanos ≠ 0 ∧ allowedCount chunk limit < fillingCount start stop chunk

instance (start stop : Instant) (chunk limit : Span) : Decidable (IsCut start stop chunk limit) :=
  inferInstanceAs (Decidable (_ ∧ _))

/-- The number of chunks that are planned. -/
def plannedCount (start stop : Instant) (chunk limit : Span) : Nat :=
  if IsCut start stop chunk limit then allowedCount chunk limit
  else fillingCount start stop chunk

/-- The first nanosecond that is planned: that of the window, or as far before its end as the
chunks that are allowed reach. -/
def plannedFirst (start stop : Instant) (chunk limit : Span) : Int :=
  if IsCut start stop chunk limit then
    stop.epochNanos.toInt - plannedCount start stop chunk limit * chunk.nanos
  else start.epochNanos.toInt

/-- The grid of the planned range. -/
def plannedGrid (start stop : Instant) (chunk limit : Span) : Grid :=
  ⟨plannedFirst start stop chunk limit, stop.epochNanos.toInt, chunk.nanos,
    plannedCount start stop chunk limit⟩

/-- A limit leaves out nothing of a window that is no longer. -/
theorem not_isCut {start stop : Instant} {chunk limit : Span} (hchunk : chunk.nanos ≠ 0)
    (hspan : stop.epochNanos.toInt - start.epochNanos.toInt ≤ limit.nanos) :
    ¬ IsCut start stop chunk limit := by
  intro hcut
  have hfill : fillingCount start stop chunk ≤ limit.nanos ⌈/⌉ chunk.nanos := by
    have hpos := Nat.pos_of_ne_zero hchunk
    have hlimit : limit.nanos ≤ chunk.nanos * (limit.nanos ⌈/⌉ chunk.nanos) :=
      (ceilDiv_le_iff_le_mul hpos).1 le_rfl
    exact (ceilDiv_le_iff_le_mul hpos).2 (by omega)
  exact absurd hcut.2 (Nat.not_lt.2 (hfill.trans (le_max_right 1 _)))

/-- A window that is no longer than the limit is planned from its start. -/
theorem plannedFirst_eq_start {start stop : Instant} {chunk limit : Span}
    (hchunk : chunk.nanos ≠ 0)
    (hspan : stop.epochNanos.toInt - start.epochNanos.toInt ≤ limit.nanos) :
    plannedFirst start stop chunk limit = start.epochNanos.toInt :=
  if_neg (not_isCut hchunk hspan)

private theorem capped_whole (start stop : Instant) (chunk limit : Span) :
    (Grid.whole start stop chunk).capped (Grid.cap? chunk limit) =
      plannedGrid start stop chunk limit := by
  have hfill : ceilDiv (stop.epochNanos.toInt - start.epochNanos.toInt).toNat chunk.nanos =
      fillingCount start stop chunk := rfl
  have hallow : max (ceilDiv limit.nanos chunk.nanos) 1 = allowedCount chunk limit :=
    Nat.max_comm _ _
  by_cases hl : limit.nanos = 0
  · simp [Grid.whole, Grid.cap?, Grid.capped, plannedGrid, plannedFirst, plannedCount, IsCut, hl,
      hfill]
  · rw [Grid.cap?, if_neg hl, Grid.capped]
    simp only [Grid.whole, hfill, hallow, plannedGrid, plannedFirst, plannedCount, IsCut, ne_eq, hl,
      not_false_eq_true, true_and]
    split <;> rfl

/-- A window in order has a plan, which walks the chunks of the planned grid. -/
theorem plan_eq_ok {start stop : Instant} {chunk : Span} (hwindow : start < stop)
    (hchunk : chunk.nanos ≠ 0) (limit : Span) (order : Order) :
    ∃ p, plan start stop chunk limit order = .ok p ∧
      p.windows = (plannedGrid start stop chunk limit).windows order := by
  rw [plan, if_neg hchunk, if_neg (by rwa [Instant.not_le_iff])]
  exact ⟨_, rfl, by rw [capped_whole]⟩

variable {start stop : Instant} {chunk : Span}

/-- Only a window that is not empty has a plan, and only for chunks that have a length. -/
theorem of_plan_eq_ok {limit : Span} {order : Order} {p : Plan}
    (h : plan start stop chunk limit order = .ok p) : chunk.nanos ≠ 0 ∧ start < stop := by
  rw [plan] at h
  split at h
  · cases h
  · split at h
    · cases h
    · exact ⟨‹_›, Instant.not_le_iff.1 ‹_›⟩

private theorem filling_bounds (hnanos : start.epochNanos < stop.epochNanos)
    (hchunk : 0 < chunk.nanos) :
    0 < fillingCount start stop chunk ∧
      stop.epochNanos.toInt ≤
        start.epochNanos.toInt + fillingCount start stop chunk * chunk.nanos ∧
      start.epochNanos.toInt + fillingCount start stop chunk * chunk.nanos <
        stop.epochNanos.toInt + chunk.nanos := by
  rw [Int64.lt_iff_toInt_lt] at hnanos
  have hlen : ((stop.epochNanos.toInt - start.epochNanos.toInt).toNat : Int) =
      stop.epochNanos.toInt - start.epochNanos.toInt := Int.toNat_of_nonneg (by omega)
  have hup := Nat.div_mul_le_self
    ((stop.epochNanos.toInt - start.epochNanos.toInt).toNat + chunk.nanos - 1) chunk.nanos
  have hlow := Nat.lt_div_mul_add hchunk
    (a := (stop.epochNanos.toInt - start.epochNanos.toInt).toNat + chunk.nanos - 1)
  change fillingCount start stop chunk * chunk.nanos ≤ _ at hup
  change _ < fillingCount start stop chunk * chunk.nanos + chunk.nanos at hlow
  have hcast : ((fillingCount start stop chunk * chunk.nanos : Nat) : Int) =
      fillingCount start stop chunk * chunk.nanos := Nat.cast_mul _ _
  refine ⟨Nat.pos_of_ne_zero fun hz => ?_, by omega, by omega⟩
  rw [hz, Nat.zero_mul] at hlow
  omega

/-- Where the limit cuts, the planned range begins after the window does. -/
private theorem first_lt_of_isCut (hnanos : start.epochNanos < stop.epochNanos)
    (hchunk : 0 < chunk.nanos) {limit : Span} (h : IsCut start stop chunk limit) :
    start.epochNanos.toInt < plannedFirst start stop chunk limit := by
  obtain ⟨-, -, htight⟩ := filling_bounds hnanos hchunk
  -- Fewer chunks than those that fill the window do not reach back to its start.
  have hsteps := Grid.steps_le (g := ⟨0, 0, chunk.nanos, fillingCount start stop chunk⟩) h.2
  rw [plannedFirst, plannedCount, if_pos h, if_pos h]
  dsimp only at hsteps
  omega

/-- What is planned lies within the window. -/
theorem start_le_plannedFirst (hnanos : start.epochNanos < stop.epochNanos)
    (hchunk : chunk.nanos ≠ 0) (limit : Span) :
    start.epochNanos.toInt ≤ plannedFirst start stop chunk limit := by
  by_cases h : IsCut start stop chunk limit
  · exact (first_lt_of_isCut hnanos (Nat.pos_of_ne_zero hchunk) h).le
  · exact (if_neg h).ge

/-- The planned grid of a window that is not empty, in either count, is exact. -/
theorem plannedGrid_isExact (hnanos : start.epochNanos < stop.epochNanos)
    (hchunk : chunk.nanos ≠ 0) (limit : Span) : (plannedGrid start stop chunk limit).IsExact := by
  have hpos := Nat.pos_of_ne_zero hchunk
  obtain ⟨hcount, hreach, htight⟩ := filling_bounds hnanos hpos
  by_cases h : IsCut start stop chunk limit
  · have hlt := first_lt_of_isCut hnanos hpos h
    have hfirst : plannedFirst start stop chunk limit =
        stop.epochNanos.toInt - plannedCount start stop chunk limit * chunk.nanos := if_pos h
    have hlow := start.epochNanos.minValue_le_toInt
    refine ⟨hpos, ?_, ?_, stop.epochNanos.toInt_le, ?_, ?_⟩
    · simp only [plannedGrid, plannedCount, if_pos h, allowedCount]
      omega
    · exact hlow.trans hlt.le
    · simp only [plannedGrid, hfirst]
      omega
    · simp only [plannedGrid, hfirst]
      omega
  · refine ⟨hpos, ?_, ?_, stop.epochNanos.toInt_le, ?_, ?_⟩
    · simpa only [plannedGrid, plannedCount, if_neg h] using hcount
    · simpa only [plannedGrid, plannedFirst, if_neg h] using start.epochNanos.minValue_le_toInt
    · simpa only [plannedGrid, plannedFirst, plannedCount, if_neg h] using hreach
    · simpa only [plannedGrid, plannedFirst, plannedCount, if_neg h] using htight

/-- A plan walks non-empty chunks that hold every nanosecond of the planned range once. The
range and the number of chunks do not depend on the order, and a limit that applies keeps the
latest part of the window. -/
theorem plan_partitions {start stop : Instant} {chunk : Span} (hwindow : start < stop)
    (hnanos : start.epochNanos < stop.epochNanos) (hchunk : chunk.nanos ≠ 0) (limit : Span) :
    (IsCut start stop chunk limit →
      start.epochNanos.toInt < plannedFirst start stop chunk limit) ∧
    0 < plannedCount start stop chunk limit ∧
    ∀ order, ∃ p, plan start stop chunk limit order = .ok p ∧
      Partitions order (plannedFirst start stop chunk limit) stop.epochNanos.toInt chunk.nanos
        (plannedCount start stop chunk limit) p.windows := by
  have hexact := plannedGrid_isExact hnanos hchunk limit
  refine ⟨first_lt_of_isCut hnanos (Nat.pos_of_ne_zero hchunk), hexact.count_pos, fun order => ?_⟩
  obtain ⟨p, hp, hwindows⟩ := plan_eq_ok hwindow hchunk limit order
  exact ⟨p, hp, hwindows ▸ hexact.partitions order⟩

/-- Ten hours in chunks of one hour, of which a limit of a little over two hours keeps three. -/
theorem plan_partitions_ten_hours :
    Instant.epoch < Instant.ofEpochNanos 36000000000000 ∧
    Instant.epoch.epochNanos < (Instant.ofEpochNanos 36000000000000).epochNanos ∧
    (Span.ofSecs 3600).nanos ≠ 0 ∧
    ∀ order, ∃ p, plan .epoch (.ofEpochNanos 36000000000000) (.ofSecs 3600)
        (.ofParts 7200 1) order = .ok p ∧
      Partitions order 25200000000000 36000000000000 3600000000000 3 p.windows := by
  have hwindow : Instant.epoch < Instant.ofEpochNanos 36000000000000 := by decide
  have hnanos : Instant.epoch.epochNanos < (Instant.ofEpochNanos 36000000000000).epochNanos := by
    decide
  have hchunk : (Span.ofSecs 3600).nanos ≠ 0 := by decide
  exact ⟨hwindow, hnanos, hchunk, (plan_partitions hwindow hnanos hchunk (.ofParts 7200 1)).2.2⟩

end SeriesReplica.Sync
