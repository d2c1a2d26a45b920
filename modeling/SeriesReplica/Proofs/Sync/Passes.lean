import SeriesReplica.Proofs.Sync.Transfer
import SeriesReplica.Proofs.Sync.Walk

/-! What the passes of a sync bring about. The report of a chunk without errors stands for all
rows of its window; a chunk with errors is walked again in finer chunks, which partition it. -/
namespace SeriesReplica.Sync
open Time Concurrent Node Point Query Schema

variable {σ ν : Type} {host : Host ν} {start : Instant} {s : Settings} {j : Job} {source : Store}
  {fields : RowKey → Fields} {Takes : Point → Prop} {Inv : Finset RowKey → ν → Prop}
  {faulty : Prop} {first past : Int}

/-- The rows within a window of which something is decoded. -/
def DueIn (fields : RowKey → Fields) (w : Window) (k : RowKey) : Prop :=
  w.Holds k.timestamp.toInt ∧ (fields k).isEmpty = false

/-- What a sync relies on besides its transfers: the fields of rows are those that the job's
measurements decode, and the destination takes the points of the planned range. -/
structure Decodes (j : Job) (source : Store) (fields : RowKey → Fields) (Takes : Point → Prop)
    (first past : Int) : Prop where
  decoded : ∀ name types, (name, types) ∈ j.measurements →
    DecodedFrom fields source j.sourceDatabase j.sourcePolicy.name name types
  known : ∀ k, (fields k).isEmpty = false → ∃ types, (k.measurement, types) ∈ j.measurements
  takes : ∀ p, p.fields = fields (.ofPoint p) → p.fields.isEmpty = false →
    first ≤ p.timestamp.toInt → p.timestamp.toInt < past → Takes p

/-- The report of a chunk that has been walked. -/
structure Walked (fields : RowKey → Fields) (faulty : Prop) (pass : Pass) (U : Finset RowKey)
    (w : Window) (c : ChunkReport) : Prop where
  pass_eq : c.pass = pass
  window_eq : c.window = w
  faulty_of_bad : c.isBad = true → faulty
  copied : Copied (DueIn fields w) c.points c.isBad U

theorem Walked.mono {pass : Pass} {U V : Finset RowKey} {w : Window} {c : ChunkReport}
    (h : Walked fields faulty pass U w c) (hUV : U ⊆ V) : Walked fields faulty pass V w c :=
  ⟨h.pass_eq, h.window_eq, h.faulty_of_bad, h.copied.mono hUV⟩

/-- What the transfer of each measurement of a chunk has copied, they have copied together. -/
private theorem copied_sum {xs : List (String × FieldTypes)} {outcomes : List Outcome}
    {w : Window} {U : Finset RowKey} (hnodup : (xs.map Prod.fst).Nodup)
    (h : List.Forall₂ (fun x o => ((o.readFailed || o.writeFailed) = true → faulty) ∧
      Copied (Due fields x.1 w) o.points (o.readFailed || o.writeFailed) U) xs outcomes) :
    ((outcomes.any fun o => o.readFailed || o.writeFailed) = true → faulty) ∧
      Copied (fun k => ∃ x ∈ xs, Due fields x.1 w k) (outcomes.map (·.points)).sum
        (outcomes.any fun o => o.readFailed || o.writeFailed) U := by
  induction h with
  | nil => exact ⟨fun h => (nomatch h), (copied_nothing _ U).congr (by simp)⟩
  | @cons x o xs outcomes hx _ ih =>
    rw [List.map_cons, List.nodup_cons] at hnodup
    obtain ⟨hfaulty, hcopied⟩ := ih hnodup.2
    rw [List.any_cons, List.map_cons, List.sum_cons]
    refine ⟨fun h => ?_, (hx.2.or hcopied fun k hk hex => ?_).congr fun k => ?_⟩
    · rcases Bool.or_eq_true_iff.1 h with h | h
      · exact hx.1 h
      · exact hfaulty h
    · obtain ⟨y, hy, hky⟩ := hex
      exact hnodup.1 (List.mem_map.2 ⟨y, hy, hky.1.symm.trans hk.1⟩)
    · simp

theorem isBad_ofOutcomes (pass : Pass) (w : Window) (n : Nat) (outcomes : List Outcome)
    (elapsed : Span) : (ChunkReport.ofOutcomes pass w n outcomes elapsed).isBad =
      outcomes.any fun o => o.readFailed || o.writeFailed := by
  rw [Bool.eq_iff_iff]
  simp only [ChunkReport.isBad, ChunkReport.ofOutcomes, Bool.or_eq_true, decide_eq_true_eq,
    List.countP_pos_iff, List.any_eq_true, and_or_left, exists_or]

theorem nodup_measurements (j : Job) : (j.measurements.map Prod.fst).Nodup := by
  rw [Job.measurements, Std.ExtTreeMap.map_fst_toList_eq_keys]
  exact Std.ExtTreeMap.nodup_keys

theorem syncChunk_ensures (hbacked : Backed host start (j.context s) source Takes Inv faulty)
    (hdecodes : Decodes j source fields Takes first past) (pass : Pass) {w : Window}
    (hw : first ≤ w.first ∧ w.past ≤ past) (U : Finset RowKey) :
    (syncChunk s j pass w : Process σ Outcome ChunkReport).Ensures host start Inv
      (fun c V => Walked fields faulty pass V w c) U := by
  rw [syncChunk]
  refine Process.Ensures.bind (Process.ensures_clock fun started => ?_)
  have htransfer : ∀ x ∈ j.measurements,
      ((j.context s).transfer w x.1 x.2).Achieves host start Inv
        (fun o V => ((o.readFailed || o.writeFailed) = true → faulty) ∧
          Copied (Due fields x.1 w) o.points (o.readFailed || o.writeFailed) V) U := by
    refine fun x hx => transfer_achieves hbacked (hdecodes.decoded x.1 x.2 hx) ?_ U
    rintro p hp ⟨-, ⟨hlo, hhi⟩, hne⟩
    exact hdecodes.takes p hp (hp ▸ hne) (hw.1.trans hlo) (lt_of_lt_of_le hhi hw.2)
  refine Process.Ensures.bind (Process.ensures_pool
    (fun x o V W hVW h => ⟨h.1, h.2.mono hVW⟩) htransfer fun outcomes V hUV houtcomes => ?_)
  refine Process.Ensures.bind (Process.ensures_clock fun ended => ?_)
  refine Process.Ensures.bind (Process.ensures_log ?_)
  refine Process.ensures_pure ?_
  obtain ⟨hfaulty, hcopied⟩ := copied_sum (nodup_measurements j) houtcomes
  refine ⟨rfl, rfl, ?_, ?_⟩
  · rwa [isBad_ofOutcomes]
  · rw [isBad_ofOutcomes]
    refine hcopied.congr fun k => ⟨fun ⟨x, _, hk⟩ => hk.2, fun hk => ?_⟩
    obtain ⟨types, htypes⟩ := hdecodes.known k hk.2
    exact ⟨(k.measurement, types), htypes, rfl, hk⟩

namespace Window

/-- A window that is not empty, with bounds that nanoseconds tell apart. -/
def IsProper (w : Window) : Prop :=
  w.start < w.stop ∧ w.start.epochNanos < w.stop.epochNanos

/-- The finer chunks of a window. -/
def pieces (w : Window) (chunk : Span) (order : Order) : List Window :=
  (plannedGrid w.start w.stop chunk .zero).windows order

/-- The finer chunks of a window partition it. -/
theorem IsProper.partitions {w : Window} (hw : w.IsProper) {chunk : Span}
    (hchunk : chunk.nanos ≠ 0) (order : Order) :
    Partitions order w.first w.past chunk.nanos (plannedCount w.start w.stop chunk .zero)
      (w.pieces chunk order) := by
  have hfirst : plannedFirst w.start w.stop chunk .zero = w.first :=
    if_neg fun h => h.1 rfl
  rw [← hfirst]
  exact (plannedGrid_isExact hw.2 hchunk .zero).partitions order

/-- Both bounds of a window are given by their nanoseconds. -/
def IsCounted (w : Window) : Prop :=
  w.start = .ofEpochNanos w.start.epochNanos ∧ w.stop = .ofEpochNanos w.stop.epochNanos

theorem isCounted_of_mem {g : Grid} {order : Order} {w : Window} (hw : w ∈ g.windows order) :
    w.IsCounted := by
  obtain ⟨i, -, rfl⟩ := Grid.mem_windows.1 hw
  simp [IsCounted, Grid.window]

theorem IsCounted.isProper {w : Window} (h : w.IsCounted) (hlt : w.first < w.past) :
    w.IsProper := by
  refine ⟨?_, Int64.lt_iff_toInt_lt.2 hlt⟩
  rw [h.1, h.2, Instant.ofEpochNanos_lt_iff]
  exact hlt

theorem IsCounted.contains_iff {v w : Window} (hw : w.IsCounted) (hv : v.IsCounted) :
    w.contains v = true ↔ w.first ≤ v.first ∧ v.past ≤ w.past := by
  rw [Window.contains, hw.1, hw.2, hv.1, hv.2, Bool.and_eq_true, decide_eq_true_eq,
    decide_eq_true_eq, Instant.ofEpochNanos_le_iff, Instant.ofEpochNanos_le_iff]
  simp [first, past]

end Window

theorem exists_right {α β : Type} {R : α → β → Prop} {xs : List α} {ys : List β}
    (h : List.Forall₂ R xs ys) {x : α} (hx : x ∈ xs) : ∃ y ∈ ys, R x y := by
  induction h with
  | nil => simp at hx
  | @cons a b xs ys hab _ ih =>
    rcases List.mem_cons.1 hx with rfl | hx
    · exact ⟨b, List.mem_cons_self, hab⟩
    · obtain ⟨y, hy, hxy⟩ := ih hx
      exact ⟨y, List.mem_cons_of_mem _ hy, hxy⟩

theorem exists_left {α β : Type} {R : α → β → Prop} {xs : List α} {ys : List β}
    (h : List.Forall₂ R xs ys) {y : β} (hy : y ∈ ys) : ∃ x ∈ xs, R x y :=
  exists_right h.flip hy

/-- The reports of the finer chunks in which a chunk has been walked again. -/
def Replayed (j : Job) (chunk : Span) (fields : RowKey → Fields) (faulty : Prop)
    (U : Finset RowKey) (w : Window) (cs : List ChunkReport) : Prop :=
  List.Forall₂ (Walked fields faulty .replay U) (w.pieces chunk j.order) cs

section Walk
variable {W : Type} [Preorder W] {Inv : W → ν → Prop}
  {R : Pass → Window → ChunkReport → W → Prop}

/-- What holds of the report of every chunk holds of the reports of a walk. -/
theorem syncChunks_ensures (hmono : ∀ pass w c u v, u ≤ v → R pass w c u → R pass w c v)
    {pass : Pass} {ws : List Window}
    (hchunks : ∀ w ∈ ws, ∀ u, (syncChunk s j pass w : Process σ Outcome ChunkReport).Ensures host
      start Inv (R pass w) u) (u : W) :
    (syncChunks s j pass ws : Process σ Outcome (List ChunkReport)).Ensures host start Inv
      (fun cs v => List.Forall₂ (fun w c => R pass w c v) ws cs) u := by
  induction ws generalizing u with
  | nil => exact Process.ensures_pure .nil
  | cons w ws ih =>
    have hrest := ih fun v hv => hchunks v (List.mem_cons_of_mem _ hv)
    rw [syncChunks]
    refine Process.Ensures.bind ((hchunks w List.mem_cons_self u).mono fun c v _ hc => ?_)
    refine Process.Ensures.bind ((hrest v).mono fun cs x hx hcs => ?_)
    exact Process.ensures_pure (.cons (hmono _ _ _ _ _ hx hc) hcs)

/-- The chunks of an earlier pass can all be cut again, and what holds of the report of every finer
chunk holds of the reports of their walk. -/
theorem replayChunks_ensures (hmono : ∀ pass w c u v, u ≤ v → R pass w c u → R pass w c v)
    {chunk : Span} (hchunk : chunk.nanos ≠ 0) {ws : List Window}
    (hwindows : ∀ w ∈ ws, w.start < w.stop)
    (hchunks : ∀ w ∈ ws, ∀ x ∈ w.pieces chunk j.order, ∀ u,
      (syncChunk s j .replay x : Process σ Outcome ChunkReport).Ensures host start Inv
        (R .replay x) u) (u : W) :
    (replayChunks s j chunk ws : Process σ Outcome _).Ensures host start Inv
      (fun result v => ∃ css : List (List ChunkReport), result = .ok css.flatten ∧
        List.Forall₂ (fun w cs => List.Forall₂ (fun x c => R .replay x c v)
          (w.pieces chunk j.order) cs) ws css) u := by
  induction ws generalizing u with
  | nil => exact Process.ensures_pure ⟨[], rfl, .nil⟩
  | cons w ws ih =>
    have hrest := ih (fun v hv => hwindows v (List.mem_cons_of_mem _ hv))
      fun v hv => hchunks v (List.mem_cons_of_mem _ hv)
    obtain ⟨p, hplan, hpieces⟩ := plan_eq_ok (hwindows w List.mem_cons_self) hchunk .zero j.order
    have hhead := hchunks w List.mem_cons_self
    rw [Window.pieces, ← hpieces] at hhead
    simp only [replayChunks, hplan]
    refine Process.Ensures.bind ((syncChunks_ensures hmono hhead u).mono fun cs v _ hcs => ?_)
    refine Process.Ensures.bind ((hrest v).mono fun result x hx hresult => ?_)
    obtain ⟨css, rfl, hcss⟩ := hresult
    refine Process.ensures_pure ⟨cs :: css, by rw [List.flatten_cons], .cons ?_ hcss⟩
    rw [Window.pieces, ← hpieces]
    exact hcs.imp fun y c hc => hmono _ _ _ _ _ hx hc

theorem replayChunk_ne_zero {chunk : Span} (h : chunk.nanos ≠ 0) :
    (replayChunk chunk).nanos ≠ 0 := by
  rw [replayChunk]
  split
  · exact h
  · assumption

/-- The reports of both passes: one for every planned chunk, and those of the finer chunks of each
chunk that failed. -/
def Passes (s : Settings) (j : Job) (R : Pass → Window → ChunkReport → Prop)
    (planned : List Window) (initial : List ChunkReport) (css : List (List ChunkReport)) : Prop :=
  List.Forall₂ (R .initial) planned initial ∧
    List.Forall₂ (fun w cs => List.Forall₂ (R .replay) (w.pieces (replayChunk s.chunk) j.order) cs)
      ((initial.filter (·.isBad)).map (·.window)) css

/-- A sync with a plan reports on both passes, and what holds of the report of every chunk holds
of these reports. -/
theorem sync_ensures_passes (hmono : ∀ pass w c u v, u ≤ v → R pass w c u → R pass w c v)
    (hwindow : ∀ pass w c u, R pass w c u → c.window = w) {p : Plan}
    (hplan : plan j.start j.stop s.chunk s.maxRetention j.order = .ok p)
    (hchunk : s.chunk.nanos ≠ 0) (hwindows : ∀ w ∈ p.windows, w.start < w.stop)
    (hinitial : ∀ w ∈ p.windows, ∀ u, (syncChunk s j .initial w :
      Process σ Outcome ChunkReport).Ensures host start Inv (R .initial w) u)
    (hreplay : ∀ w ∈ p.windows, ∀ x ∈ w.pieces (replayChunk s.chunk) j.order, ∀ u,
      (syncChunk s j .replay x : Process σ Outcome ChunkReport).Ensures host start Inv
        (R .replay x) u) (u : W) :
    (sync s j : Process σ Outcome (Except PlanError Report)).Ensures host start Inv
      (fun result v => ∃ initial css elapsed,
        result = .ok (.ofPasses j initial css.flatten elapsed) ∧
          Passes s j (fun pass w c => R pass w c v) p.windows initial css) u := by
  simp only [sync, hplan]
  refine Process.Ensures.bind (Process.ensures_logAll ?_)
  refine Process.Ensures.bind (Process.ensures_clock fun started => ?_)
  refine Process.Ensures.bind (Process.ensures_log ?_)
  refine Process.Ensures.bind ((syncChunks_ensures hmono hinitial u).mono fun cs v _ hcs => ?_)
  have hmem : ∀ w ∈ (cs.filter (·.isBad)).map (·.window), w ∈ p.windows := by
    intro w hw
    obtain ⟨c, hc, rfl⟩ := List.mem_map.1 hw
    obtain ⟨x, hx, hxc⟩ := exists_left hcs (List.mem_of_mem_filter hc)
    exact hwindow _ _ _ _ hxc ▸ hx
  have hrest : (replay s j cs started : Process σ Outcome _).Ensures host start Inv
      (fun result v => ∃ initial css elapsed,
        result = .ok (.ofPasses j initial css.flatten elapsed) ∧
          Passes s j (fun pass w c => R pass w c v) p.windows initial css) v := by
    rw [replay]
    refine Process.Ensures.bind ((replayChunks_ensures hmono (replayChunk_ne_zero hchunk)
      (fun w hw => hwindows w (hmem w hw)) (fun w hw => hreplay w (hmem w hw)) v).mono
      fun result x hx hresult => ?_)
    obtain ⟨css, rfl, hcss⟩ := hresult
    refine Process.Ensures.bind (Process.ensures_clock fun ended => ?_)
    refine Process.Ensures.bind (Process.ensures_log ?_)
    exact Process.ensures_pure ⟨cs, css, _, rfl,
      hcs.imp fun y c hc => hmono _ _ _ _ _ hx hc, hcss⟩
  split
  · exact Process.Ensures.bind (Process.ensures_log hrest)
  · exact hrest

end Walk

end SeriesReplica.Sync
