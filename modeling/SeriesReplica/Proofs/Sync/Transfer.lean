import Mathlib.Data.Finset.Basic
import SeriesReplica.Proofs.Concurrent.Guarantee
import SeriesReplica.Proofs.Node.Select
import SeriesReplica.Proofs.Point.Parts
import SeriesReplica.Proofs.Sync.Partition

/-! What one transfer brings about. Reads and writes may fail at any time and are retried; what is
counted has been written, and a transfer that reports no failure has written every row of its
window of which something is decoded. -/
namespace SeriesReplica.Sync
open Time Concurrent Node Point Query Schema

/-- Rows that have been copied: so many rows with a property are among those that have been
written, and all rows with the property are unless something failed. -/
def Copied (P : RowKey → Prop) (points : Nat) (failed : Bool) (U : Finset RowKey) : Prop :=
  ∃ C : Finset RowKey, C ⊆ U ∧ (∀ k ∈ C, P k) ∧ C.card = points ∧
    (failed = false → ∀ k, P k → k ∈ C)

theorem Copied.mono {P : RowKey → Prop} {points : Nat} {failed : Bool} {U V : Finset RowKey}
    (h : Copied P points failed U) (hUV : U ⊆ V) : Copied P points failed V := by
  obtain ⟨C, hC, hP, hcard, hall⟩ := h
  exact ⟨C, hC.trans hUV, hP, hcard, hall⟩

theorem Copied.congr {P Q : RowKey → Prop} {points : Nat} {failed : Bool} {U : Finset RowKey}
    (h : Copied P points failed U) (hPQ : ∀ k, P k ↔ Q k) : Copied Q points failed U := by
  obtain ⟨C, hC, hP, hcard, hall⟩ := h
  exact ⟨C, hC, fun k hk => (hPQ k).1 (hP k hk), hcard, fun hf k hk => hall hf k ((hPQ k).2 hk)⟩

theorem copied_nothing (failed : Bool) (U : Finset RowKey) :
    Copied (fun _ => False) 0 failed U :=
  ⟨∅, Finset.empty_subset U, fun k hk => by simp at hk, rfl, fun _ k hk => hk.elim⟩

/-- Rows of two disjoint kinds that have been copied. -/
theorem Copied.or {P Q : RowKey → Prop} {m n : Nat} {f g : Bool} {U : Finset RowKey}
    (hp : Copied P m f U) (hq : Copied Q n g U) (hdisjoint : ∀ k, P k → ¬ Q k) :
    Copied (fun k => P k ∨ Q k) (m + n) (f || g) U := by
  obtain ⟨C, hC, hP, hcardC, hallC⟩ := hp
  obtain ⟨D, hD, hQ, hcardD, hallD⟩ := hq
  have hCD : Disjoint C D :=
    Finset.disjoint_left.2 fun k hkC hkD => hdisjoint k (hP k hkC) (hQ k hkD)
  refine ⟨C ∪ D, Finset.union_subset hC hD, fun k hk => ?_, ?_, fun hfg k hk => ?_⟩
  · exact (Finset.mem_union.1 hk).imp (hP k) (hQ k)
  · rw [Finset.card_union_of_disjoint hCD, hcardC, hcardD]
  · rw [Bool.or_eq_false_iff] at hfg
    exact Finset.mem_union.2 (hk.imp (hallC hfg.1 k) (hallD hfg.2 k))

section Retry
variable {ν ε α W : Type} [Preorder W] {host : Host ν} {start : Instant} {Inv : W → ν → Prop}
  {Q : Except ε α → W → Prop} {w : W}

private theorem succeed_achieves {what : String} {made : Nat} {value : α}
    (hmono : ∀ a u v, u ≤ v → Q a u → Q a v) (hQ : Q (.ok value) w) :
    (RetryPolicy.attempt.succeed what made value).Achieves host start Inv Q w := by
  rw [RetryPolicy.attempt.succeed]
  split
  · exact Routine.Achieves.bind (Routine.achieves_log fun u hu => hmono _ w u hu hQ)
  · exact hQ

private theorem attempt_achieves (p : RetryPolicy) (what : String) (message : ε → String)
    {operation : Routine (Except ε α)} (hmono : ∀ a u v, u ≤ v → Q a u → Q a v)
    (hoperation : ∀ u, w ≤ u → operation.Achieves host start Inv Q u) (made left : Nat) :
    (p.attempt what message operation made left).Achieves host start Inv Q w := by
  induction left generalizing made w with
  | zero =>
    rw [RetryPolicy.attempt]
    refine Routine.Achieves.bind ((hoperation w le_rfl).mono fun result u _ hQ => ?_)
    cases result with
    | ok value => exact succeed_achieves hmono hQ
    | error e => exact hQ
  | succ left ih =>
    rw [RetryPolicy.attempt]
    refine Routine.Achieves.bind ((hoperation w le_rfl).mono fun result u hu hQ => ?_)
    cases result with
    | ok value => exact succeed_achieves hmono hQ
    | error e =>
      refine Routine.Achieves.bind (Routine.achieves_log fun v hv => ?_)
      refine Routine.Achieves.bind (Routine.achieves_sleep fun x hx => ?_)
      exact ih (fun y hy => hoperation y (hu.trans (hv.trans (hx.trans hy)))) (made + 1)

/-- A repeated operation achieves what the operation achieves at any time. -/
theorem run_achieves (p : RetryPolicy) (what : String) (message : ε → String)
    {operation : Routine (Except ε α)} (hmono : ∀ a u v, u ≤ v → Q a u → Q a v)
    (hoperation : ∀ u, w ≤ u → operation.Achieves host start Inv Q u) :
    (p.run what message operation).Achieves host start Inv Q w :=
  attempt_achieves p what message hmono hoperation 0 _

variable {value : α} {budget : W → Nat}

private theorem attempt_succeeds (p : RetryPolicy) (what : String) (message : ε → String)
    {operation : Routine (Except ε α)} (hbudget : Antitone budget)
    (hoperation : ∀ u, w ≤ u → operation.Achieves host start Inv (fun result v =>
      result = .ok value ∨ (∃ e, result = .error e) ∧ budget v < budget u) u)
    (made left : Nat) (hleft : budget w ≤ left) :
    (p.attempt what message operation made left).Achieves host start Inv
      (fun result _ => result = .ok value) w := by
  induction left generalizing made w with
  | zero =>
    rw [RetryPolicy.attempt]
    refine Routine.Achieves.bind ((hoperation w le_rfl).mono fun result u _ h => ?_)
    obtain rfl := h.resolve_right fun h => by omega
    exact succeed_achieves (fun _ _ _ _ h => h) rfl
  | succ left ih =>
    rw [RetryPolicy.attempt]
    refine Routine.Achieves.bind ((hoperation w le_rfl).mono fun result u hu h => ?_)
    rcases h with rfl | ⟨⟨e, rfl⟩, hless⟩
    · exact succeed_achieves (fun _ _ _ _ h => h) rfl
    -- One attempt and at least one failure are used up, whoever else uses up more of them.
    · refine Routine.Achieves.bind (Routine.achieves_log fun v hv => ?_)
      refine Routine.Achieves.bind (Routine.achieves_sleep fun x hx => ?_)
      have hx' : budget x ≤ budget u := hbudget (hv.trans hx)
      exact ih (fun y hy => hoperation y (hu.trans (hv.trans (hx.trans hy)))) (made + 1) (by omega)

/-- If each attempt that fails uses up some of a budget that nothing adds to, and there are more
attempts than there is budget, a repeated operation succeeds. -/
theorem run_succeeds (p : RetryPolicy) (what : String) (message : ε → String)
    {operation : Routine (Except ε α)} (hbudget : Antitone budget)
    (hoperation : ∀ u, w ≤ u → operation.Achieves host start Inv (fun result v =>
      result = .ok value ∨ (∃ e, result = .error e) ∧ budget v < budget u) u)
    (hless : budget w < p.total) :
    (p.run what message operation).Achieves host start Inv
      (fun result _ => result = .ok value) w :=
  attempt_succeeds p what message hbudget hoperation 0 _ (by omega)

end Retry

variable {ν : Type} {host : Host ν} {start : Instant} {ctx : TransferContext} {source : Store}
  {fields : RowKey → Fields} {Takes : Point → Prop} {Inv : Finset RowKey → ν → Prop}
  {faulty : Prop}

/-- What a transfer relies on. A read answers the rows of the source, and a write of points that
the destination takes copies their rows; a call that fails changes nothing, and none fails unless
there may be faults. -/
structure Backed (host : Host ν) (start : Instant) (ctx : TransferContext) (source : Store)
    (Takes : Point → Prop) (Inv : Finset RowKey → ν → Prop) (faulty : Prop) : Prop where
  read : ∀ U now nodes measurement w, Inv U nodes →
    let answered := host.answer start now nodes
      (.call ctx.source (.query (ctx.select measurement w)) none)
    Inv U answered.2 ∧ ((faulty ∧ ∃ e, answered.1.2 = .error e) ∨
      answered.1.2 = .ok (source.selectWindow (some ctx.sourceDatabase) ctx.sourcePolicy
        measurement w.start w.stop))
  write : ∀ U now nodes ps, Inv U nodes → (∀ p ∈ ps, Takes p) →
    let answered := host.answer start now nodes
      (.call ctx.destination (.write ⟨ctx.destinationDatabase, ctx.destinationPolicy, ps⟩) none)
    (Inv U answered.2 ∧ faulty ∧ ∃ e, answered.1.2 = .error e) ∨
      (Inv (U ∪ (ps.map .ofPoint).toFinset) answered.2 ∧ answered.1.2 = .ok ())

/-- A write that is repeated succeeds, or fails where there may be faults. -/
private theorem write_achieves (hbacked : Backed host start ctx source Takes Inv faulty)
    (what : String) (U : Finset RowKey) {ps : List Point} (hps : ∀ p ∈ ps, Takes p) :
    (ctx.retry.run what Node.Error.message (Routine.write ctx.destination
      ⟨ctx.destinationDatabase, ctx.destinationPolicy, ps⟩)).Achieves host start Inv
      (fun result V => U ⊆ V ∧ ((faulty ∧ ∃ e, result = .error e) ∨
        (result = .ok () ∧ (ps.map .ofPoint).toFinset ⊆ V))) U := by
  refine run_achieves _ _ _ (fun a V V' hV h => ?_) fun V hV W hW now nodes hinv => ?_
  · exact ⟨h.1.trans hV, h.2.imp_right fun h => ⟨h.1, h.2.trans hV⟩⟩
  · have hUW : U ⊆ W := hV.trans hW
    rcases hbacked.write W now nodes ps hinv hps with ⟨hinv', hfaulty, he⟩ | ⟨hinv', hok⟩
    · exact ⟨W, le_rfl, hinv', hUW, .inl ⟨hfaulty, he⟩⟩
    · exact ⟨_, Finset.subset_union_left, hinv', hUW.trans Finset.subset_union_left,
        .inr ⟨hok, Finset.subset_union_right⟩⟩

/-- Writing batches copies the rows of their points, up to the first batch that is given up. -/
theorem writeAll_achieves (hbacked : Backed host start ctx source Takes Inv faulty)
    (what : String) (w : Window) {D U : Finset RowKey} (hDU : D ⊆ U) {bs : List Batch}
    (hbs : ∀ b ∈ bs, b.database = ctx.destinationDatabase ∧ b.policy = ctx.destinationPolicy)
    (hps : ∀ p ∈ bs.flatMap (·.points), Takes p)
    (hnodup : ((bs.flatMap (·.points)).map RowKey.ofPoint).Nodup)
    (hfresh : ∀ p ∈ bs.flatMap (·.points), .ofPoint p ∉ D) :
    (ctx.writeAll what w D.card bs).Achieves host start Inv (fun o V =>
      o.readFailed = false ∧ (o.writeFailed = true → faulty) ∧
        Copied (fun k => k ∈ D ∨ ∃ p ∈ bs.flatMap (·.points), .ofPoint p = k) o.points
          o.writeFailed V) U := by
  induction bs generalizing D U with
  | nil =>
    refine ⟨rfl, fun h => (nomatch h), D, hDU, fun k hk => .inl hk, rfl, fun _ k hk => ?_⟩
    simpa using hk
  | cons b bs ih =>
    obtain ⟨database, policy, ps⟩ := b
    obtain ⟨rfl, rfl⟩ := hbs _ List.mem_cons_self
    rw [List.flatMap_cons] at hps hnodup hfresh
    rw [List.map_append, List.nodup_append] at hnodup
    obtain ⟨hnodupHead, hnodupTail, hapart⟩ := hnodup
    rw [TransferContext.writeAll]
    refine Routine.Achieves.bind ((write_achieves hbacked what U fun p hp =>
      hps p (List.mem_append_left _ hp)).mono fun result V _ h => ?_)
    obtain ⟨hUV, ⟨hfaulty, e, rfl⟩ | ⟨rfl, hkeys⟩⟩ := h
    · refine Routine.Achieves.bind (Routine.achieves_log fun X hX => ?_)
      exact ⟨rfl, fun _ => hfaulty, D, (hDU.trans hUV).trans hX, fun k hk => .inl hk, rfl,
        fun h => (nomatch h)⟩
    -- The batch has been written: its rows are new, so they are counted along with those of `D`.
    · set K := (ps.map RowKey.ofPoint).toFinset with hK
      have hDK : Disjoint D K := by
        refine Finset.disjoint_left.2 fun k hkD hkK => ?_
        obtain ⟨p, hp, rfl⟩ := List.mem_map.1 (List.mem_toFinset.1 hkK)
        exact hfresh p (List.mem_append_left _ hp) hkD
      have hcard : (D ∪ K).card = D.card + ps.length := by
        rw [Finset.card_union_of_disjoint hDK, hK, List.toFinset_card_of_nodup hnodupHead,
          List.length_map]
      have hrest := ih (D := D ∪ K) (Finset.union_subset (hDU.trans hUV) hkeys)
        (fun c hc => hbs c (List.mem_cons_of_mem _ hc))
        (fun p hp => hps p (List.mem_append_right _ hp)) hnodupTail fun p hp => ?_
      · rw [hcard] at hrest
        refine hrest.mono fun o X _ ho => ⟨ho.1, ho.2.1, ho.2.2.congr fun k => ?_⟩
        simp [hK, or_assoc, or_and_right, exists_or]
      · rw [Finset.mem_union, not_or]
        refine ⟨hfresh p (List.mem_append_right _ hp), fun hpK => ?_⟩
        exact hapart _ (List.mem_toFinset.1 hpK) _ (List.mem_map_of_mem hp) rfl

/-- The rows of a measurement within a window of which something is decoded. -/
def Due (fields : RowKey → Fields) (measurement : String) (w : Window) (k : RowKey) : Prop :=
  k.measurement = measurement ∧ w.Holds k.timestamp.toInt ∧ (fields k).isEmpty = false

/-- The fields of a measurement's rows are what is decoded of its rows in a store, each of which
is shown with all its fields. -/
structure DecodedFrom (fields : RowKey → Fields) (source : Store) (database policy : String)
    (measurement : String) (types : FieldTypes) : Prop where
  fields_eq : ∀ k, k.measurement = measurement → fields k =
    ((source.row? database policy k).map (readFields types k.timestamp)).getD ∅
  declares : ∀ m, source.measurement? database policy measurement = some m → m.Declares

/-- The points that are decoded from a window are those of the rows that are due. -/
theorem selected_points {database policy measurement : String} {types : FieldTypes}
    (h : DecodedFrom fields source database policy measurement types) (w : Window) :
    let ps := ((source.selectWindow (some database) policy measurement w.start w.stop).series.map
      (TransferContext.decode measurement types)).flatMap (·.1)
    (ps.map RowKey.ofPoint).Nodup ∧
      (∀ p ∈ ps, p.fields = fields (.ofPoint p)) ∧
      ∀ k, (∃ p ∈ ps, .ofPoint p = k) ↔ Due fields measurement w k := by
  have hnothing (hdue : ∀ k, ¬ Due fields measurement w k) :
      (([] : List Point).map RowKey.ofPoint).Nodup ∧
        (∀ p ∈ ([] : List Point), p.fields = fields (.ofPoint p)) ∧
        ∀ k, (∃ p ∈ ([] : List Point), .ofPoint p = k) ↔ Due fields measurement w k :=
    ⟨List.nodup_nil, by simp, fun k => iff_of_false (by simp) (hdue k)⟩
  match hm : source.measurement? database policy measurement with
  | none =>
    have hempty : (source.selectWindow (some database) policy measurement w.start
        w.stop).series = [] := by
      rw [Store.selectWindow, show source.addressedMeasurement? (some database) policy
        measurement = none from hm]
      rfl
    rw [hempty]
    refine hnothing fun k hk => ?_
    have hfields := h.fields_eq k hk.1
    rw [Store.row?_eq_measurement, hk.1, hm] at hfields
    simpa [hfields] using hk.2.2
  | some m =>
    have hfields : ∀ k, k.measurement = measurement → fields k =
        ((m.row? k.tags k.timestamp).map (readFields types k.timestamp)).getD ∅ := by
      intro k hk
      rw [h.fields_eq k hk, Store.row?_eq_measurement, hk, hm, Option.bind_some]
    by_cases hwindow : w.stop.epochNanos ≤ w.start.epochNanos
    · have hempty : (source.selectWindow (some database) policy measurement w.start
          w.stop).series = [] := by
        rw [Store.selectWindow, show source.addressedMeasurement? (some database) policy
          measurement = some m from hm]
        simp only [if_pos hwindow]
        rfl
      rw [hempty]
      refine hnothing fun k hk => ?_
      obtain ⟨hfirst, hpast⟩ := hk.2.1
      have hle := Int64.le_iff_toInt_le.1 hwindow
      simp only [Window.first, Window.past] at hfirst hpast
      omega
    · have hpoints : ((source.selectWindow (some database) policy measurement w.start
          w.stop).series.map (TransferContext.decode measurement types)).flatMap (·.1) =
          m.windowPoints types measurement w.start.epochNanos w.stop.epochNanos := by
        rw [Store.selectWindow, show source.addressedMeasurement? (some database) policy
          measurement = some m from hm, List.flatMap_map]
        simp only [if_neg hwindow]
        rw [← StoredMeasurement.decode_select (h.declares m hm)]
        simp [Response.single, Response.series]
      rw [hpoints]
      have hpoint : ∀ p, p ∈ m.windowPoints types measurement w.start.epochNanos
          w.stop.epochNanos → p.fields = fields (.ofPoint p) ∧
            Due fields measurement w (.ofPoint p) := by
        intro p hp
        obtain ⟨row, hrow, hstart, hstop, hp⟩ := StoredMeasurement.mem_windowPoints.1 hp
        obtain ⟨heq, hne⟩ := decodedPoint?_eq_some.1 hp
        have hmeasurement : (RowKey.ofPoint p).measurement = measurement := by rw [heq]; rfl
        have hfield : p.fields = fields (.ofPoint p) := by
          rw [hfields _ hmeasurement]
          simp only [RowKey.ofPoint, hrow, Option.map_some, Option.getD_some]
          rw [heq]
        exact ⟨hfield, hmeasurement,
          ⟨Int64.le_iff_toInt_le.1 hstart, Int64.lt_iff_toInt_lt.1 hstop⟩, hfield ▸ hne⟩
      refine ⟨m.windowPoints_nodup _ _ _ _,
        fun p hp => (hpoint p hp).1, fun k => ⟨?_, fun hk => ?_⟩⟩
      · rintro ⟨p, hp, rfl⟩
        exact (hpoint p hp).2
      · obtain ⟨rfl, ⟨hfirst, hpast⟩, hne⟩ := hk
        rw [hfields k rfl] at hne
        cases hrow : m.row? k.tags k.timestamp with
        | none => simp [hrow] at hne
        | some row =>
          rw [hrow, Option.map_some, Option.getD_some] at hne
          refine ⟨⟨k.measurement, k.tags, readFields types k.timestamp row, k.timestamp⟩,
            StoredMeasurement.mem_windowPoints.2 ⟨row, hrow, Int64.le_iff_toInt_le.2 hfirst,
              Int64.lt_iff_toInt_lt.2 hpast, decodedPoint?_eq_some.2 ⟨rfl, hne⟩⟩, rfl⟩

/-- A transfer copies the rows that are due, unless there is a fault. -/
theorem transfer_achieves (hbacked : Backed host start ctx source Takes Inv faulty)
    {measurement : String} {types : FieldTypes}
    (h : DecodedFrom fields source ctx.sourceDatabase ctx.sourcePolicy measurement types)
    {w : Window}
    (htakes : ∀ p, p.fields = fields (.ofPoint p) → Due fields measurement w (.ofPoint p) →
      Takes p) (U : Finset RowKey) :
    (ctx.transfer w measurement types).Achieves host start Inv (fun o V =>
      ((o.readFailed || o.writeFailed) = true → faulty) ∧
        Copied (Due fields measurement w) o.points (o.readFailed || o.writeFailed) V) U := by
  obtain ⟨hnodup, hpoints, hdue⟩ := selected_points h w
  set response := source.selectWindow (some ctx.sourceDatabase) ctx.sourcePolicy measurement
    w.start w.stop with hresponse
  rw [TransferContext.transfer]
  have hread : ∀ what : String, (ctx.retry.run what Node.Error.message
      (Routine.query ctx.source (ctx.select measurement w) none)).Achieves host start Inv
      (fun result V => (faulty ∧ ∃ e, result = .error e) ∨ result = .ok response) U := by
    refine fun what => run_achieves _ _ _ (fun _ _ _ _ h => h) fun V hV W hW now nodes hinv => ?_
    obtain ⟨hinv', hanswer⟩ := hbacked.read W now nodes measurement w hinv
    exact ⟨W, le_rfl, hinv', hanswer⟩
  refine Routine.Achieves.bind ((hread _).mono fun result V hV hresult => ?_)
  rcases hresult with ⟨hfaulty, e, rfl⟩ | rfl
  · refine Routine.Achieves.bind (Routine.achieves_log fun X hX => ?_)
    exact ⟨fun _ => hfaulty, ∅, Finset.empty_subset _, by simp, rfl, fun h => (nomatch h)⟩
  · refine Routine.Achieves.bind (Routine.achieves_logAll fun X hX => ?_)
    set ps := (response.series.map (TransferContext.decode measurement types)).flatMap (·.1)
    by_cases hempty : ps.isEmpty = true
    · simp only [if_pos hempty]
      refine ⟨fun h => (nomatch h), ∅, Finset.empty_subset _, by simp, rfl, fun _ k hk => ?_⟩
      obtain ⟨p, hp, -⟩ := (hdue k).2 hk
      simp [List.isEmpty_iff.1 hempty] at hp
    · simp only [if_neg hempty]
      have hsplit := Batch.flatMap_split ⟨ctx.destinationDatabase, ctx.destinationPolicy, ps⟩
        ctx.maxPoints
      refine (writeAll_achieves hbacked _ w (Finset.empty_subset X)
        (fun b hb => Batch.place_of_mem_split hb) ?_ ?_ (by simp)).mono fun o Y _ ho => ?_
      · rw [hsplit]
        exact fun p hp => htakes p (hpoints p hp) ((hdue _).1 ⟨p, hp, rfl⟩)
      · rwa [hsplit]
      · obtain ⟨hread, hwrite, hcopied⟩ := ho
        rw [hread, Bool.false_or]
        refine ⟨hwrite, hcopied.congr fun k => ?_⟩
        rw [hsplit, ← hdue k]
        simp

end SeriesReplica.Sync
