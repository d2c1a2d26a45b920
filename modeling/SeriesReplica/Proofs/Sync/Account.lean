import SeriesReplica.Proofs.Sync.Passes

/-! What the report of a sync stands for. Every row of the planned range of which something is
decoded has been copied, unless it lies in a window that is reported as not recovered; points are
counted once, and without a window that failed twice all of them are. -/
namespace SeriesReplica.Sync
open Time Concurrent Node Point Query Schema

variable {σ ν : Type} {host : Host ν} {start : Instant} {s : Settings} {j : Job} {source : Store}
  {fields : RowKey → Fields} {Takes : Point → Prop} {Inv : Finset RowKey → ν → Prop}
  {faulty : Prop} {U : Finset RowKey}

/-- Windows of which no two hold the same nanosecond. -/
def Apart (ws : List Window) : Prop := ws.Pairwise fun v w => ∀ t, v.Holds t → ¬ w.Holds t

theorem Partitions.apart {order : Order} {first past : Int} {chunk n : Nat} {ws : List Window}
    (h : Partitions order first past chunk n ws) : Apart ws := by
  rw [Apart, List.pairwise_iff_getElem]
  intro i k hi hk hik t hv hw
  obtain ⟨hlo, hhi⟩ := h.within _ (List.getElem_mem hi)
  obtain ⟨x, -, hunique⟩ := h.covers t (hlo.trans hv.1) (lt_of_lt_of_le hv.2 hhi)
  have heq := (hunique ⟨i, hi⟩ hv).trans (hunique ⟨k, hk⟩ hw).symm
  exact Nat.ne_of_lt hik (Fin.mk.inj heq)

/-- The rows due in the windows of a partition are those due in its range. -/
theorem Partitions.dueIn_iff {order : Order} {first past : Int} {chunk n : Nat} {ws : List Window}
    (h : Partitions order first past chunk n ws) (fields : RowKey → Fields) (k : RowKey) :
    (∃ w ∈ ws, DueIn fields w k) ↔
      (first ≤ k.timestamp.toInt ∧ k.timestamp.toInt < past) ∧ (fields k).isEmpty = false := by
  constructor
  · rintro ⟨w, hw, ⟨hlo, hhi⟩, hne⟩
    obtain ⟨hfirst, hpast⟩ := h.within w hw
    exact ⟨⟨hfirst.trans hlo, lt_of_lt_of_le hhi hpast⟩, hne⟩
  · rintro ⟨⟨hlo, hhi⟩, hne⟩
    obtain ⟨i, hi, -⟩ := h.covers _ hlo hhi
    exact ⟨ws[i], List.getElem_mem _, hi, hne⟩

/-- What walks of windows apart have copied, they have copied together. -/
theorem copied_walked {pass : Pass} {ws : List Window} {cs : List ChunkReport}
    (h : List.Forall₂ (Walked fields faulty pass U) ws cs) (hapart : Apart ws) :
    Copied (fun k => ∃ w ∈ ws, DueIn fields w k) (cs.map (·.points)).sum (cs.any (·.isBad)) U := by
  induction h with
  | nil => exact (copied_nothing _ U).congr (by simp)
  | @cons w c ws cs hc _ ih =>
    obtain ⟨hhead, htail⟩ := List.pairwise_cons.1 hapart
    refine (hc.copied.or (ih htail) fun k hk hex => ?_).congr fun k => by simp
    obtain ⟨v, hv, hkv⟩ := hex
    exact hhead v hv _ hk.1 hkv.1

/-- A row that is due in a walked window has been copied, or the window is reported bad. -/
theorem Walked.mem_or_bad {pass : Pass} {w : Window} {c : ChunkReport}
    (h : Walked fields faulty pass U w c) {k : RowKey} (hk : DueIn fields w k) :
    k ∈ U ∨ c.isBad = true := by
  obtain ⟨C, hC, -, -, hall⟩ := h.copied
  cases hbad : c.isBad with
  | true => exact .inr rfl
  | false => exact .inl (hC (hall hbad k hk))

/-- A window that is walked again in finer chunks has been copied, but for the chunks that fail
once more; each of these lies within the window. -/
theorem Replayed.copied {chunk : Span} {w : Window} {cs : List ChunkReport}
    (h : Replayed j chunk fields faulty U w cs) (hchunk : chunk.nanos ≠ 0) (hw : w.IsCounted)
    (hlt : w.first < w.past) :
    Copied (DueIn fields w) (cs.map (·.points)).sum (cs.any (·.isBad)) U ∧
      (cs.any (·.isBad) = true → faulty) ∧
      ∀ k, DueIn fields w k →
        k ∈ U ∨ ∃ c ∈ cs, c.isBad = true ∧ w.contains c.window = true := by
  have hpartitions := (hw.isProper hlt).partitions hchunk j.order
  refine ⟨(copied_walked h hpartitions.apart).congr fun k => hpartitions.dueIn_iff fields k,
    fun hbad => ?_, fun k hk => ?_⟩
  · obtain ⟨c, hc, hbad⟩ := List.any_eq_true.1 hbad
    obtain ⟨v, -, hvc⟩ := exists_left h hc
    exact hvc.faulty_of_bad hbad
  · obtain ⟨v, hv, hkv⟩ := (hpartitions.dueIn_iff fields k).2 hk
    obtain ⟨c, hc, hvc⟩ := exists_right h hv
    refine (hvc.mem_or_bad hkv).imp_right fun hbad => ⟨c, hc, hbad, ?_⟩
    obtain ⟨hfirst, hpast⟩ := hpartitions.within v hv
    rw [hvc.window_eq]
    exact (hw.contains_iff (Window.isCounted_of_mem hv)).2 ⟨hfirst, hpast⟩

/-- The points that a chunk of the initial pass counts in the end. -/
private def keptPoints (c : ChunkReport) : Nat := if c.isBad then 0 else c.points

/-- Both passes over windows apart, and what they have copied together. -/
private theorem passes_copied {chunk : Span} (hchunk : chunk.nanos ≠ 0) {ws : List Window}
    {initial : List ChunkReport} {css : List (List ChunkReport)}
    (hinitial : List.Forall₂ (Walked fields faulty .initial U) ws initial)
    (hreplayed : List.Forall₂ (Replayed j chunk fields faulty U)
      ((initial.filter (·.isBad)).map (·.window)) css)
    (hcounted : ∀ w ∈ ws, w.IsCounted ∧ w.first < w.past) (hapart : Apart ws) :
    Copied (fun k => ∃ w ∈ ws, DueIn fields w k)
        ((initial.map keptPoints).sum + (css.flatten.map (·.points)).sum)
        (css.flatten.any (·.isBad)) U ∧
      (css.flatten.any (·.isBad) = true → faulty) ∧
      ∀ k, (∃ w ∈ ws, DueIn fields w k) → k ∈ U ∨ ∃ c ∈ initial, c.isBad = true ∧
        c.window.Holds k.timestamp.toInt ∧
        ∃ d ∈ css.flatten, d.isBad = true ∧ c.window.contains d.window = true := by
  induction hinitial generalizing css with
  | nil =>
    obtain rfl := List.forall₂_nil_left_iff.1 hreplayed
    exact ⟨(copied_nothing _ U).congr (by simp), fun h => (nomatch h), by simp⟩
  | @cons w c ws initial hc _ ih =>
    obtain ⟨hhead, htail⟩ := List.pairwise_cons.1 hapart
    obtain ⟨hw, hlt⟩ := hcounted w List.mem_cons_self
    have hcounted' := fun v hv => hcounted v (List.mem_cons_of_mem _ hv)
    have hseparate : ∀ k, DueIn fields w k → ¬ ∃ v ∈ ws, DueIn fields v k := by
      rintro k hk ⟨v, hv, hkv⟩
      exact hhead v hv _ hk.1 hkv.1
    have hsplit : ∀ k, (∃ v ∈ w :: ws, DueIn fields v k) ↔
        DueIn fields w k ∨ ∃ v ∈ ws, DueIn fields v k := fun k => by simp
    cases hbad : c.isBad with
    -- Only bad chunks are walked again, so the replays are all those of the other chunks.
    | false =>
      rw [List.filter_cons_of_neg (by simp [hbad])] at hreplayed
      obtain ⟨hcopied, hfaulty, hmissed⟩ := ih hreplayed hcounted' htail
      have hboth := hc.copied.or hcopied hseparate
      rw [hbad, Bool.false_or, ← Nat.add_assoc] at hboth
      refine ⟨?_, hfaulty, fun k hk => ?_⟩
      · rw [List.map_cons, List.sum_cons, keptPoints, hbad]
        exact hboth.congr fun k => (hsplit k).symm
      · rcases (hsplit k).1 hk with hk | hk
        · exact .inl ((hc.mem_or_bad hk).resolve_right (by simp [hbad]))
        · obtain hk | ⟨d, hd, hrest⟩ := hmissed k hk
          · exact .inl hk
          · exact .inr ⟨d, List.mem_cons_of_mem _ hd, hrest⟩
    -- The points of a bad chunk no longer count; those of its replay do.
    | true =>
      rw [List.filter_cons_of_pos hbad, List.map_cons, hc.window_eq] at hreplayed
      obtain ⟨cs, css', hcs, hcss, rfl⟩ := List.forall₂_cons_left_iff.1 hreplayed
      obtain ⟨hcopied, hfaulty, hmissed⟩ := ih hcss hcounted' htail
      obtain ⟨hcopied', hfaulty', hmissed'⟩ := hcs.copied hchunk hw hlt
      have hboth := hcopied'.or hcopied hseparate
      rw [List.flatten_cons, List.map_append, List.sum_append, List.any_append]
      refine ⟨?_, fun h => ?_, fun k hk => ?_⟩
      · rw [List.map_cons, List.sum_cons, keptPoints, hbad, if_pos rfl, Nat.zero_add,
          Nat.add_left_comm]
        exact hboth.congr fun k => (hsplit k).symm
      · exact (Bool.or_eq_true_iff.1 h).elim hfaulty' hfaulty
      · rcases (hsplit k).1 hk with hk | hk
        · obtain hk' | ⟨d, hd, hdbad, hcontains⟩ := hmissed' k hk
          · exact .inl hk'
          · exact .inr ⟨c, List.mem_cons_self, hbad, hc.window_eq ▸ hk.1, d,
              List.mem_append_left _ hd, hdbad, hc.window_eq ▸ hcontains⟩
        · obtain hk | ⟨d, hd, hdbad, hholds, e, he, hrest⟩ := hmissed k hk
          · exact .inl hk
          · exact .inr ⟨d, List.mem_cons_of_mem _ hd, hdbad, hholds, e,
              List.mem_append_right _ he, hrest⟩

/-- What a report says of the rows from `first` up to but not including `past`. -/
structure Accounts (fields : RowKey → Fields) (faulty : Prop) (first past : Int) (r : Report)
    (U : Finset RowKey) : Prop where
  copied : Copied (fun k => (first ≤ k.timestamp.toInt ∧ k.timestamp.toInt < past) ∧
    (fields k).isEmpty = false) r.totalPoints (!r.isClean) U
  recovered : ∀ k, first ≤ k.timestamp.toInt → k.timestamp.toInt < past →
    (fields k).isEmpty = false → (∀ w ∈ r.unrecoveredWindows, ¬ w.Holds k.timestamp.toInt) → k ∈ U
  faulty_of_unclean : r.isClean = false → faulty

private theorem totalPoints_ofPasses (j : Job) (initial replayed : List ChunkReport)
    (elapsed : Span) : (Report.ofPasses j initial replayed elapsed).totalPoints =
      (initial.map keptPoints).sum + (replayed.map (·.points)).sum := by
  change ((initial.map (fun c => if c.isBad then c.supersede else c) ++ replayed).map
    (·.points)).sum = _
  rw [List.map_append, List.sum_append, List.map_map]
  refine congrArg (· + _) (congrArg List.sum (List.map_congr_left fun c _ => ?_))
  rw [Function.comp_apply, keptPoints]
  split <;> rfl

private theorem isClean_ofPasses (j : Job) (initial replayed : List ChunkReport)
    (elapsed : Span) : (Report.ofPasses j initial replayed elapsed).isClean =
      !replayed.any (·.isBad) := by
  rw [Report.isClean, Report.ofPasses, Bool.eq_iff_iff, List.isEmpty_iff, List.filter_eq_nil_iff]
  simp

/-- The report of both passes accounts for the range that they partition. -/
theorem ofPasses_accounts {chunk : Span} (hchunk : chunk.nanos ≠ 0) {order : Order}
    {first past : Int} {n m : Nat} {ws : List Window} {initial : List ChunkReport}
    {css : List (List ChunkReport)} (hpartitions : Partitions order first past n m ws)
    (hcounted : ∀ w ∈ ws, w.IsCounted)
    (hinitial : List.Forall₂ (Walked fields faulty .initial U) ws initial)
    (hreplayed : List.Forall₂ (Replayed j chunk fields faulty U)
      ((initial.filter (·.isBad)).map (·.window)) css) (elapsed : Span) :
    Accounts fields faulty first past (Report.ofPasses j initial css.flatten elapsed) U := by
  obtain ⟨hcopied, hfaulty, hmissed⟩ := passes_copied hchunk hinitial hreplayed
    (fun w hw => ⟨hcounted w hw, hpartitions.nonempty w hw⟩) hpartitions.apart
  refine ⟨?_, fun k hlo hhi hne hunrecovered => ?_, fun hunclean => ?_⟩
  · rw [totalPoints_ofPasses, isClean_ofPasses, Bool.not_not]
    exact hcopied.congr fun k => hpartitions.dueIn_iff fields k
  · refine (hmissed k ((hpartitions.dueIn_iff fields k).2 ⟨⟨hlo, hhi⟩, hne⟩)).resolve_right ?_
    rintro ⟨c, hc, hbad, hholds, d, hd, hdbad, hcontains⟩
    refine hunrecovered c.window (List.mem_map_of_mem ?_) hholds
    refine List.mem_filter.2 ⟨List.mem_filter.2 ⟨hc, hbad⟩, List.any_eq_true.2 ⟨d, ?_, hcontains⟩⟩
    exact List.mem_filter.2 ⟨hd, hdbad⟩
  · rw [isClean_ofPasses, Bool.not_eq_false'] at hunclean
    exact hfaulty hunclean

/-- Bounds that the saturated count does not put in order leave nothing to plan. -/
theorem planned_eq_nil {start stop : Instant} (hnanos : ¬ start.epochNanos < stop.epochNanos)
    (chunk limit : Span) (order : Order) :
    (plannedGrid start stop chunk limit).windows order = [] := by
  have hcount : fillingCount start stop chunk = 0 := by
    rw [Int64.lt_iff_toInt_lt] at hnanos
    rw [fillingCount, Int.toNat_eq_zero.2 (by omega), zero_ceilDiv]
  refine List.eq_nil_iff_forall_not_mem.2 fun w hw => ?_
  obtain ⟨i, hi, -⟩ := Grid.mem_windows.1 hw
  simp [plannedGrid, plannedCount, IsCut, hcount] at hi

/-- The planned chunks of a window are not empty, and their bounds are given by nanoseconds. -/
theorem planned_isCounted {start stop : Instant} {chunk limit : Span} (hchunk : chunk.nanos ≠ 0)
    {order : Order} {w : Window} (hw : w ∈ (plannedGrid start stop chunk limit).windows order) :
    w.IsCounted ∧ w.first < w.past := by
  refine ⟨Window.isCounted_of_mem hw, ?_⟩
  by_cases hnanos : start.epochNanos < stop.epochNanos
  · exact ((plannedGrid_isExact hnanos hchunk limit).partitions order).nonempty w hw
  · simp [planned_eq_nil hnanos] at hw

theorem planned_isProper {start stop : Instant} {chunk limit : Span} (hchunk : chunk.nanos ≠ 0)
    {order : Order} {w : Window} (hw : w ∈ (plannedGrid start stop chunk limit).windows order) :
    w.IsProper :=
  (planned_isCounted hchunk hw).1.isProper (planned_isCounted hchunk hw).2

theorem planned_apart (start stop : Instant) {chunk : Span} (hchunk : chunk.nanos ≠ 0)
    (limit : Span) (order : Order) :
    Apart ((plannedGrid start stop chunk limit).windows order) := by
  by_cases hnanos : start.epochNanos < stop.epochNanos
  · exact ((plannedGrid_isExact hnanos hchunk limit).partitions order).apart
  · rw [planned_eq_nil hnanos]
    exact List.Pairwise.nil

/-- A sync answers with a report that accounts for the planned range. -/
theorem sync_ensures (hbacked : Backed host start (j.context s) source Takes Inv faulty)
    (hwindow : j.start < j.stop) (hnanos : j.start.epochNanos < j.stop.epochNanos)
    (hchunk : s.chunk.nanos ≠ 0)
    (hdecodes : Decodes j source fields Takes
      (plannedFirst j.start j.stop s.chunk s.maxRetention) j.stop.epochNanos.toInt) :
    (sync s j : Process σ Outcome (Except PlanError Report)).Ensures host start Inv
      (fun result V => ∃ r, result = .ok r ∧ Accounts fields faulty
        (plannedFirst j.start j.stop s.chunk s.maxRetention) j.stop.epochNanos.toInt r V) U := by
  obtain ⟨p, hplan, hwindows⟩ := plan_eq_ok hwindow hchunk s.maxRetention j.order
  have hpartitions := (plannedGrid_isExact hnanos hchunk s.maxRetention).partitions j.order
  rw [← hwindows] at hpartitions
  have hproper : ∀ w ∈ p.windows, w.IsProper := fun w hw => planned_isProper hchunk (hwindows ▸ hw)
  refine (sync_ensures_passes (R := fun pass w c U => Walked fields faulty pass U w c)
    (fun _ _ _ _ _ hUV h => h.mono hUV) (fun _ _ _ _ h => h.window_eq) hplan hchunk
    (fun w hw => (hproper w hw).1)
    (fun w hw => syncChunk_ensures hbacked hdecodes .initial (hpartitions.within w hw))
    (fun w hw x hx => syncChunk_ensures hbacked hdecodes .replay ?_) U).mono ?_
  · obtain ⟨hlo, hhi⟩ := ((hproper w hw).partitions (replayChunk_ne_zero hchunk) j.order).within
      x hx
    obtain ⟨hfirst, hpast⟩ := hpartitions.within w hw
    exact ⟨hfirst.trans hlo, hhi.trans hpast⟩
  · rintro result V - ⟨initial, css, elapsed, rfl, hinitial, hreplayed⟩
    exact ⟨_, rfl, ofPasses_accounts (replayChunk_ne_zero hchunk) hpartitions
      (fun w hw => (planned_isCounted hchunk (hwindows ▸ hw)).1) hinitial hreplayed elapsed⟩

end SeriesReplica.Sync
