import Mathlib.Data.String.Basic
import SeriesReplica.Proofs.Node.History
import SeriesReplica.Proofs.Node.Serving

/-! What is read back. As long as every write is taken, a window selection shows for each tag set
and time the last value that was written to each field, whatever the batches were and in whatever
order their points came. -/
namespace SeriesReplica.Node
open Concurrent Point Query Schema Time

section Written
variable {ps qs : List Point} {p : Point} {tags : Tags} {time : Int64} {f : String}

/-- A point with fields has been written for a tag set and time. -/
def IsWritten (ps : List Point) (tags : Tags) (time : Int64) : Prop :=
  ∃ p ∈ ps, p.tags = tags ∧ p.timestamp = time ∧ p.fields.isEmpty = false

/-- What a point writes to a field at a tag set and time. -/
def valueAt (tags : Tags) (time : Int64) (f : String) (p : Point) : Option FieldValue :=
  if tags = p.tags ∧ time = p.timestamp then p.fields[f]? else none

/-- The last value that points have written to a field at a tag set and time. -/
def lastValue (ps : List Point) (tags : Tags) (time : Int64) (f : String) : Option FieldValue :=
  ps.reverse.findSome? (valueAt tags time f)

theorem lastValue_append_singleton (ps : List Point) (p : Point) (tags : Tags) (time : Int64)
    (f : String) :
    lastValue (ps ++ [p]) tags time f = (valueAt tags time f p).or (lastValue ps tags time f) := by
  rw [lastValue, List.reverse_append, List.findSome?_append]
  cases hv : valueAt tags time f p <;> simp [hv, lastValue]

theorem isWritten_append_singleton :
    IsWritten (ps ++ [p]) tags time ↔
      IsWritten ps tags time ∨ p.tags = tags ∧ p.timestamp = time ∧ p.fields.isEmpty = false := by
  simp only [IsWritten, List.mem_append, List.mem_singleton, or_and_right, exists_or,
    exists_eq_left]

end Written

namespace StoredMeasurement
variable {m : StoredMeasurement} {ps : List Point} {p : Point}

/-- A measurement that holds what the given points have written to it, and nothing else. -/
structure Holds (m : StoredMeasurement) (ps : List Point) : Prop where
  row_iff : ∀ tags time, (m.row? tags time).isSome = true ↔ IsWritten ps tags time
  value_eq : ∀ tags time (f : String), (m.row? tags time).bind (·[f]?) = lastValue ps tags time f
  declared_iff : ∀ f : String, f ∈ m.types ↔ ∃ p ∈ ps, f ∈ p.fields

theorem holds_empty : empty.Holds [] where
  row_iff tags time := by simp [IsWritten]
  value_eq tags time f := by simp [lastValue]
  declared_iff f := by simp [empty]

/-- A point without fields changes nothing. -/
theorem Holds.skip (h : m.Holds ps) (hempty : p.fields.isEmpty = true) : m.Holds (ps ++ [p]) where
  row_iff tags time := by simp [isWritten_append_singleton, h.row_iff, hempty]
  value_eq tags time f := by
    rw [h.value_eq, lastValue_append_singleton, valueAt, Std.ExtTreeMap.isEmpty_iff.1 hempty]
    simp
  declared_iff f := by
    simp [h.declared_iff, or_and_right, exists_or, Std.ExtTreeMap.isEmpty_iff.1 hempty]

/-- The fields of a point that is taken have the types that were declared before. -/
theorem fits_of_write (h : (m.write p).2 = none) : m.Fits p.fields := by
  intro f v t hv ht
  have hconflict : (declareFields m.types p.fields.toList).2 = none := by
    rw [write] at h
    cases hc : (declareFields m.types p.fields.toList).2 with
    | none => rfl
    | some c => simp [hc] at h
  obtain ⟨hkept, -, hdeclared⟩ := declareFields_spec m.types p.fields.toList
  have hnew := hdeclared hconflict f v (Std.ExtTreeMap.mem_toList_iff_getElem?_eq_some.2 hv)
  exact Option.some.inj ((hkept f t ht).symm.trans hnew)

/-- A point that is taken is the last to write its fields. -/
theorem Holds.write (h : m.Holds ps) (hp : (m.write p).2 = none)
    (hne : p.fields.isEmpty = false) : (m.write p).1.Holds (ps ++ [p]) := by
  obtain ⟨-, hrows, htypes⟩ := write_fits (fits_of_write hp)
  refine ⟨fun tags time => ?_, fun tags time f => ?_, fun f => ?_⟩
  · rw [hrows, isWritten_append_singleton, ← h.row_iff]
    split
    case isTrue hkey => simp [hkey, hne]
    case isFalse hkey =>
      refine (or_iff_left ?_).symm
      rintro ⟨rfl, rfl, -⟩
      exact hkey ⟨rfl, rfl⟩
  · rw [hrows, lastValue_append_singleton, valueAt, ← h.value_eq]
    split
    case isTrue hkey =>
      obtain ⟨rfl, rfl⟩ := hkey
      rw [Option.bind_some, getElem?_overlay]
      cases m.row? p.tags p.timestamp <;> simp
    case isFalse => simp
  · have hmem : ∀ (types : FieldTypes), f ∈ types ↔ ∃ t, types[f]? = some t := fun types => by
      rw [Std.ExtTreeMap.mem_iff_isSome_getElem?, Option.isSome_iff_exists]
    have hfields : f ∈ p.fields ↔ ∃ v, p.fields[f]? = some v := by
      rw [Std.ExtTreeMap.mem_iff_isSome_getElem?, Option.isSome_iff_exists]
    have hold := h.declared_iff f
    rw [hmem] at hold
    simp only [List.mem_append, List.mem_singleton, or_and_right, exists_or, exists_eq_left]
    rw [← hold, hfields, hmem]
    simp only [htypes, exists_or]
    exact or_congr_right ⟨fun ⟨_, v, hv, _⟩ => ⟨v, hv⟩, fun ⟨v, hv⟩ => ⟨v.type, v, hv, rfl⟩⟩

end StoredMeasurement

/-- How the last value of a field is shown: as null if there is none or it is a float that is not
finite. -/
def shown : Option FieldValue → Json.Value
  | none => .null
  | some (.float x) => if x.isFinite then .number (.float x) else .null
  | some (.integer i) => .number (.int i.toInt)
  | some (.boolean b) => .bool b
  | some (.string s) => .string s

theorem shown_eq (v? : Option FieldValue) : (v?.map (·.toJson)).getD .null = shown v? := by
  cases v? with
  | none => rfl
  | some v => cases v <;> rfl

/-- The table of a tag set, for a window of what points have written. -/
structure IsTable (ps : List Point) (measurement : String) (start stop : Int64)
    (fields : List String) (times : List Int64) (t : Series) : Prop where
  name_eq : t.name = measurement
  fields_ordered : fields.Pairwise (· < ·)
  fields_iff : ∀ f, f ∈ fields ↔ ∃ p ∈ ps, f ∈ p.fields
  times_ordered : times.Pairwise (· < ·)
  times_iff : ∀ time, time ∈ times ↔ start ≤ time ∧ time < stop ∧ IsWritten ps t.tags time
  columns_eq : t.columns = "time" :: fields
  rows_eq : t.rows = times.map fun time =>
    Json.Value.int time.toInt :: fields.map fun f => shown (lastValue ps t.tags time f)

/-- The tables for a window of what points have written: one for each tag set with a row in the
window, in the order of the tag sets. -/
structure IsSelection (ps : List Point) (measurement : String) (start stop : Int64)
    (tables : List Series) : Prop where
  ordered : (tables.map (·.tags)).Pairwise fun a b => Tags.compare a b = .lt
  tags_iff : ∀ tags, tags ∈ tables.map (·.tags) ↔
    ∃ time, start ≤ time ∧ time < stop ∧ IsWritten ps tags time
  table : ∀ t ∈ tables, ∃ fields times, IsTable ps measurement start stop fields times t

namespace StoredMeasurement
variable {m : StoredMeasurement} {ps : List Point} {measurement : String} {start stop : Int64}

/-- The tables of a selection are the series with rows in the window. -/
theorem mem_select {t : Series} :
    t ∈ m.select measurement start stop ↔
      ∃ rows, (t.tags, rows) ∈ m.series.toList ∧ cells m.types.keys start stop rows ≠ [] ∧
        t = ⟨measurement, t.tags, "time" :: m.types.keys,
          cells m.types.keys start stop rows⟩ := by
  simp only [select, List.mem_filterMap]
  constructor
  · rintro ⟨⟨tags, rows⟩, hrows, ht⟩
    split at ht
    · cases ht
    case isFalse hne =>
      cases ht
      exact ⟨rows, hrows, fun hnil => hne (List.isEmpty_iff.2 hnil), rfl⟩
  · rintro ⟨rows, hrows, hne, ht⟩
    refine ⟨(t.tags, rows), hrows, ?_⟩
    rw [if_neg fun hempty => hne (List.isEmpty_iff.1 hempty), ← ht]

/-- The times of a series within a window. -/
private def timesOf (start stop : Int64) (rows : Rows) : List Int64 :=
  (rows.toList.filter fun (t, _) => decide (start ≤ t) && decide (t < stop)).map Prod.fst

private theorem mem_timesOf {rows : Rows} {time : Int64} :
    time ∈ timesOf start stop rows ↔
      start ≤ time ∧ time < stop ∧ ∃ row, (time, row) ∈ rows.toList := by
  simp only [timesOf, List.mem_map, List.mem_filter, Bool.and_eq_true, decide_eq_true_eq]
  constructor
  · rintro ⟨⟨t, row⟩, ⟨hrow, hstart, hstop⟩, rfl⟩
    exact ⟨hstart, hstop, row, hrow⟩
  · rintro ⟨hstart, hstop, row, hrow⟩
    exact ⟨(time, row), ⟨hrow, hstart, hstop⟩, rfl⟩

/-- The rows of a series are those that are written for its tag set. -/
private theorem Holds.exists_row_iff (h : m.Holds ps) {tags : Tags} {rows : Rows}
    (hrows : (tags, rows) ∈ m.series.toList) (time : Int64) :
    (∃ row, (time, row) ∈ rows.toList) ↔ IsWritten ps tags time := by
  have hseries := Std.ExtTreeMap.mem_toList_iff_getElem?_eq_some.1 hrows
  rw [← h.row_iff, row?, hseries, Option.bind_some, Option.isSome_iff_exists]
  simp only [Std.ExtTreeMap.mem_toList_iff_getElem?_eq_some]

private theorem Holds.cells_eq (h : m.Holds ps) {tags : Tags} {rows : Rows}
    (hrows : (tags, rows) ∈ m.series.toList) :
    cells m.types.keys start stop rows = (timesOf start stop rows).map fun time =>
      Json.Value.int time.toInt :: m.types.keys.map fun f =>
        shown (lastValue ps tags time f) := by
  rw [cells, timesOf, List.map_map]
  refine List.map_congr_left fun x hx => ?_
  obtain ⟨time, row⟩ := x
  have hrow : m.row? tags time = some row :=
    row?_eq_some.2 ⟨rows, hrows, List.mem_of_mem_filter hx⟩
  refine congrArg (List.cons _) (List.map_congr_left fun f _ => ?_)
  rw [shown_eq, ← h.value_eq, hrow, Option.bind_some]

/-- A selection shows what the points have written. -/
theorem Holds.select (h : m.Holds ps) (measurement : String) (start stop : Int64) :
    IsSelection ps measurement start stop (m.select measurement start stop) := by
  refine ⟨?_, fun tags => ⟨fun htags => ?_, fun hwritten => ?_⟩, fun t ht => ?_⟩
  · rw [List.pairwise_map, StoredMeasurement.select, List.pairwise_filterMap]
    refine Std.ExtTreeMap.ordered_keys_toList.imp fun {a b} hlt t ht u hu => ?_
    have htags : ∀ (s : Tags × Rows) (v : Series), (if (cells m.types.keys start stop s.2).isEmpty
        then none else some (⟨measurement, s.1, "time" :: m.types.keys,
          cells m.types.keys start stop s.2⟩ : Series)) = some v → v.tags = s.1 := by
      intro s v hv
      split at hv
      · cases hv
      · exact (Option.some.inj hv) ▸ rfl
    rw [htags a t ht, htags b u hu]
    exact hlt
  · obtain ⟨t, ht, rfl⟩ := List.mem_map.1 htags
    obtain ⟨rows, hrows, hne, -⟩ := mem_select.1 ht
    obtain ⟨time, htime⟩ : ∃ time, time ∈ timesOf start stop rows :=
      List.exists_mem_of_ne_nil _ fun hnil => hne (by rw [h.cells_eq hrows, hnil, List.map_nil])
    obtain ⟨hstart, hstop, hrow⟩ := mem_timesOf.1 htime
    exact ⟨time, hstart, hstop, (h.exists_row_iff hrows time).1 hrow⟩
  · obtain ⟨time, hstart, hstop, hwritten⟩ := hwritten
    obtain ⟨row, hrow⟩ := Option.isSome_iff_exists.1 ((h.row_iff tags time).2 hwritten)
    obtain ⟨rows, hrows, hrow⟩ := row?_eq_some.1 hrow
    refine List.mem_map.2 ⟨⟨measurement, tags, "time" :: m.types.keys,
      cells m.types.keys start stop rows⟩, mem_select.2 ⟨rows, hrows, fun hnil => ?_, rfl⟩, rfl⟩
    rw [h.cells_eq hrows, List.map_eq_nil_iff] at hnil
    exact List.not_mem_nil (hnil ▸ mem_timesOf.2 ⟨hstart, hstop, row, hrow⟩)
  · obtain ⟨rows, hrows, -, ht⟩ := mem_select.1 ht
    refine ⟨m.types.keys, timesOf start stop rows, by rw [ht], ?_, fun f => ?_, ?_, fun time => ?_,
      by rw [ht], ?_⟩
    · refine List.Pairwise.imp (fun {a b} hlt => ?_) (Std.ExtTreeMap.ordered_keys (t := m.types))
      exact compare_lt_iff_lt.1 hlt
    · rw [Std.ExtTreeMap.mem_keys, h.declared_iff]
    · rw [timesOf, List.pairwise_map]
      exact (Std.ExtTreeMap.ordered_keys_toList.filter _).imp Std.compare_eq_lt.1
    · rw [mem_timesOf, h.exists_row_iff hrows]
    · rw [← h.cells_eq hrows, ht]

end StoredMeasurement

/-- The measurements of a policy hold what points have written to each of them. -/
def HoldsAll (measurements : Std.ExtTreeMap String StoredMeasurement) (ps : List Point) : Prop :=
  ∀ n : String, (measurements[n]?.getD .empty).Holds (ps.filter (·.measurement = n))

theorem HoldsAll.skip {measurements : Std.ExtTreeMap String StoredMeasurement} {ps : List Point}
    {p : Point} (h : HoldsAll measurements ps) (hempty : p.fields.isEmpty = true) :
    HoldsAll measurements (ps ++ [p]) := by
  intro n
  rw [List.filter_append]
  by_cases hn : p.measurement = n
  · simpa [hn] using (h n).skip hempty
  · simpa [hn] using h n

theorem HoldsAll.insert {measurements : Std.ExtTreeMap String StoredMeasurement} {ps : List Point}
    {p : Point} (h : HoldsAll measurements ps)
    {m : StoredMeasurement} (hm : measurements[p.measurement]?.getD .empty = m)
    (hok : (m.write p).2 = none) (hne : p.fields.isEmpty = false) :
    HoldsAll (measurements.insert p.measurement (m.write p).1) (ps ++ [p]) := by
  intro n
  rw [List.filter_append]
  by_cases hn : p.measurement = n
  · subst hn
    rw [Std.ExtTreeMap.getElem?_insert_self, Option.getD_some]
    simpa using (hm ▸ h p.measurement).write hok hne
  · rw [Std.ExtTreeMap.getElem?_insert, if_neg fun heq => hn (Std.LawfulEqCmp.eq_of_compare heq)]
    simpa [hn] using h n

/-- A batch that is taken adds its points to those that have been written. -/
theorem StoredPolicy.holdsAll_write {p : StoredPolicy} {ps : List Point}
    (h : HoldsAll p.measurements ps) {rest : List Point} (hok : (p.write rest).2 = .ok ()) :
    HoldsAll (p.write rest).1.measurements (ps ++ rest) := by
  induction rest generalizing p ps with
  | nil => rwa [List.append_nil]
  | cons pt rest ih =>
    rw [List.append_cons]
    rw [write] at hok ⊢
    split at hok
    case isTrue hempty =>
      rw [if_pos hempty]
      exact ih (h.skip hempty) hok
    case isFalse hne =>
      rw [if_neg hne]
      cases hconflict : ((p.measurements[pt.measurement]?.getD .empty).write pt).2 with
      | some c => simp [hconflict] at hok
      | none =>
        simp only [hconflict] at hok ⊢
        exact ih (HoldsAll.insert h rfl hconflict (Bool.eq_false_of_not_eq_true hne)) hok

/-- A point with the policy that it went to. -/
structure Written where
  database : String
  policy : String
  point : Point

/-- The points of those that have been written that went to a policy, in order. -/
def pointsIn (log : List Written) (database policy : String) : List Point :=
  (log.filter fun w => w.database = database ∧ w.policy = policy).map (·.point)

theorem pointsIn_append (log more : List Written) (database policy : String) :
    pointsIn (log ++ more) database policy =
      pointsIn log database policy ++ pointsIn more database policy := by
  rw [pointsIn, List.filter_append, List.map_append]
  rfl

/-- The points that went to a measurement of a policy, in order. -/
def pointsOf (log : List Written) (database policy measurement : String) : List Point :=
  (pointsIn log database policy).filter (·.measurement = measurement)

namespace Store
variable {s : Store} {log : List Written}

/-- The points of a batch, with the policy that takes them. -/
def taken (s : Store) (b : Batch) : List Written :=
  match s.database? b.database with
  | none => []
  | some d => b.points.map fun p => ⟨b.database, d.addressed b.policy, p⟩

/-- The measurements of a policy; there are none in a policy that is not there. -/
def measurements (s : Store) (database policy : String) :
    Std.ExtTreeMap String StoredMeasurement :=
  ((s.policy? database policy).map (·.measurements)).getD ∅

/-- A store that holds what has been written to each of its policies. -/
def Holds (s : Store) (log : List Written) : Prop :=
  ∀ database policy, HoldsAll (s.measurements database policy) (pointsIn log database policy)

theorem holds_empty : empty.Holds [] := by
  intro database policy n
  simpa [measurements, policy?, database?, empty, pointsIn] using StoredMeasurement.holds_empty

theorem Holds.congr {s' : Store} (h : s.Holds log)
    (heq : ∀ database policy, s'.measurements database policy = s.measurements database policy) :
    s'.Holds log := fun database policy => heq database policy ▸ h database policy

/-- The measurements of a database. -/
private theorem measurements_eq (s : Store) (database policy : String) :
    s.measurements database policy =
      ((((s.database? database).getD .empty).policies[policy]?).map (·.measurements)).getD ∅ := by
  rw [measurements, policy?]
  cases s.database? database <;> simp [StoredDatabase.empty]

/-- The measurements of a policy as they are after its database has been replaced. -/
private theorem measurements_put {n : String} {d : StoredDatabase}
    (h : ∀ policy : String, (d.policies[policy]?.map (·.measurements)).getD ∅ =
      s.measurements n policy) (database policy : String) :
    (s.put n d).measurements database policy = s.measurements database policy := by
  by_cases hn : database = n
  · subst hn
    rw [← h, measurements_eq, database?_put_self, Option.getD_some]
  · rw [measurements_eq, measurements_eq, database?_put_ne s hn]

/-- A policy that is added has no measurements. -/
private theorem measurements_addPolicy (d : StoredDatabase) (spec : PolicySpec)
    (makeDefault : Bool) (policy : String) :
    (((d.addPolicy spec makeDefault).policies[policy]?).map (·.measurements)).getD ∅ =
      (d.policies[policy]?.map (·.measurements)).getD ∅ := by
  rw [StoredDatabase.addPolicy, Std.ExtTreeMap.getElem?_insertIfNew]
  split
  case isTrue hnew =>
    obtain rfl := Std.LawfulEqCmp.eq_of_compare hnew.1
    have hnone : d.policies[spec.name]? = none := Std.ExtTreeMap.getElem?_eq_none hnew.2
    rw [hnone]
    rfl
  case isFalse => rfl

theorem Holds.addPolicy (h : s.Holds log) (n : String) (spec : PolicySpec) (makeDefault : Bool) :
    (s.addPolicy n spec makeDefault).Holds log := by
  refine h.congr (measurements_put fun policy => ?_)
  rw [measurements_addPolicy, measurements_eq]

theorem Holds.addDatabase (h : s.Holds log) (n : String) : (s.addDatabase n).Holds log := by
  refine h.congr fun database policy => ?_
  rw [measurements_eq, measurements_eq, database?, Store.addDatabase,
    Std.ExtTreeMap.getElem?_insertIfNew]
  split
  case isTrue hnew =>
    obtain rfl := Std.LawfulEqCmp.eq_of_compare hnew.1
    have hnone : s.database? n = none := Std.ExtTreeMap.getElem?_eq_none hnew.2
    rw [hnone]
    rfl
  case isFalse => rfl

/-- A statement writes nothing. -/
theorem Holds.execute (h : s.Holds log) (r : Request) : (s.execute r).1.Holds log := by
  rcases s.execute_cases r with hs | ⟨n, spec, hn, hs⟩ | ⟨n, d, spec, makeDefault, hd, hs⟩ |
    ⟨n, d, policy, hd, -, hs⟩ <;> rw [hs]
  · exact h
  · refine h.congr (measurements_put fun policy => ?_)
    rw [measurements_addPolicy, measurements_eq, hn, Option.getD_none]
  · refine h.congr (measurements_put fun policy => ?_)
    rw [measurements_addPolicy, measurements_eq, hd, Option.getD_some]
  · refine h.congr (measurements_put fun policy => ?_)
    rw [measurements_eq, hd, Option.getD_some]

/-- A batch that is taken is written. -/
theorem Holds.write (h : s.Holds log) {b : Batch} (hok : (s.write b).2 = .ok ()) :
    (s.write b).1.Holds (log ++ s.taken b) := by
  rw [Store.write] at hok ⊢
  cases hd : s.database? b.database with
  | none => simp [hd] at hok
  | some d =>
    cases hp : d.policies[d.addressed b.policy]? with
    | none => simp [hd, hp] at hok
    | some p =>
      simp only [hd, hp] at hok ⊢
      intro database policy
      rw [pointsIn_append]
      have hold : ∀ name : String,
          s.measurements b.database name = (d.policies[name]?.map (·.measurements)).getD ∅ := by
        intro name
        rw [measurements_eq, hd, Option.getD_some]
      by_cases hkey : b.database = database ∧ d.addressed b.policy = policy
      · obtain ⟨rfl, rfl⟩ := hkey
        have hbefore := h b.database (d.addressed b.policy)
        rw [hold, hp, Option.map_some, Option.getD_some] at hbefore
        rw [measurements_eq, database?_put_self, Option.getD_some,
          Std.ExtTreeMap.getElem?_insert_self]
        have hpoints : pointsIn (s.taken b) b.database (d.addressed b.policy) = b.points := by
          simp [pointsIn, taken, hd, List.filter_map, Function.comp_def]
        rw [hpoints]
        exact StoredPolicy.holdsAll_write hbefore hok
      · have hpoints : pointsIn (s.taken b) database policy = [] := by
          simp only [pointsIn, taken, hd, List.map_eq_nil_iff, List.filter_eq_nil_iff]
          simpa using fun _ _ => not_and.1 hkey
        rw [hpoints, List.append_nil]
        by_cases hdatabase : database = b.database
        · subst hdatabase
          rw [measurements_eq, database?_put_self, Option.getD_some,
            Std.ExtTreeMap.getElem?_insert, if_neg fun heq => hkey ⟨rfl,
              Std.LawfulEqCmp.eq_of_compare heq⟩, ← hold]
          exact h b.database policy
        · rw [measurements_eq, database?_put_ne s hdatabase, ← measurements_eq]
          exact h database policy

/-- A window that ends before it begins shows nothing. -/
private theorem select_eq_nil (m : StoredMeasurement) (measurement : String) {start stop : Int64}
    (h : stop ≤ start) : m.select measurement start stop = [] := by
  refine List.eq_nil_iff_forall_not_mem.2 fun t ht => ?_
  obtain ⟨rows, -, hne, -⟩ := StoredMeasurement.mem_select.1 ht
  refine hne (List.map_eq_nil_iff.2 (List.filter_eq_nil_iff.2 fun x _ hx => ?_))
  simp only [Bool.and_eq_true, decide_eq_true_eq] at hx
  exact absurd (Int64.lt_of_le_of_lt hx.1 hx.2) (Int64.not_lt.2 h)

/-- A window selection shows the measurement; one that is not there shows nothing. -/
theorem selectWindow_eq (s : Store) (database policy measurement : String)
    (start stop : Instant) :
    s.selectWindow (some database) policy measurement start stop =
      .single (((s.measurements database policy)[measurement]?.getD .empty).select measurement
        start.epochNanos stop.epochNanos) := by
  have hfound : s.addressedMeasurement? (some database) policy measurement =
      (s.measurements database policy)[measurement]? := by
    rw [addressedMeasurement?, Option.bind_some, measurement?, measurements]
    cases s.policy? database policy <;> simp
  rw [selectWindow, hfound]
  cases (s.measurements database policy)[measurement]? with
  | none => rfl
  | some m =>
    dsimp only [Option.getD_some]
    split
    case isTrue hinverted => rw [select_eq_nil m measurement hinverted]
    case isFalse => rfl

end Store

namespace MemoryNode
variable {n : MemoryNode} {log : List Written}

/-- The batch that an operation writes. -/
def Operation.batch? : Operation → Option Batch
  | .insert b => some b
  | .call (.write b) => some b
  | _ => none

/-- An operation that does not write, or whose batch is taken. -/
def Takes (n : MemoryNode) : Operation → Prop
  | .insert b => (n.insert b).1 = .ok ()
  | .call (.write b) => (n.write b).1 = .ok ()
  | _ => True

/-- Operations one after another whose batches are all taken. -/
def TakesAll : MemoryNode → List Operation → Prop
  | _, [] => True
  | n, op :: ops => n.Takes op ∧ TakesAll (n.after op) ops

/-- The points that operations one after another write, each with the policy it goes to. -/
def written : MemoryNode → List Operation → List Written
  | _, [] => []
  | n, op :: ops => (op.batch?.map n.store.taken).getD [] ++ written (n.after op) ops

private theorem ok_of_refused {result : Except StoreError Unit} (h : refused result = .ok ()) :
    result = .ok () := by
  cases result with
  | ok _ => rfl
  | error e => cases h

/-- What an operation writes is in the store after it. -/
theorem holds_after (h : n.store.Holds log) {op : Operation} (hop : n.Takes op) :
    (n.after op).store.Holds (log ++ (op.batch?.map n.store.taken).getD []) := by
  cases op with
  | setOnline online => exact (List.append_nil log).symm ▸ h
  | failReads count => exact (List.append_nil log).symm ▸ h
  | failWrites count => exact (List.append_nil log).symm ▸ h
  | addDatabase database => exact (List.append_nil log).symm ▸ h.addDatabase database
  | addPolicy database spec makeDefault =>
    exact (List.append_nil log).symm ▸ h.addPolicy database spec makeDefault
  | insert b => exact h.write (ok_of_refused hop)
  | call c =>
    cases c with
    | ping => exact (List.append_nil log).symm ▸ h
    | query r =>
      rw [show (n.after (.call (.query r))).store = (n.query r).2.store from rfl]
      refine (List.append_nil log).symm ▸ ?_
      rcases n.query_store r with hsame | hexecuted
      · exact hsame ▸ h
      · exact hexecuted ▸ h.execute r
    | write b =>
      have hok : (n.write b).1 = .ok () := hop
      rcases (n.write_cases b).1 with ⟨-, e, he⟩ | ⟨hstore, hresult⟩
      · exact nomatch he.symm.trans hok
      · rw [show (n.after (.call (.write b))).store = (n.write b).2.store from rfl, hstore]
        exact h.write (ok_of_refused (hresult.symm.trans hok))

theorem holds_run (h : n.store.Holds log) {ops : List Operation} (hops : n.TakesAll ops) :
    (n.run ops).store.Holds (log ++ n.written ops) := by
  induction ops generalizing n log with
  | nil => exact (List.append_nil log).symm ▸ h
  | cons op ops ih =>
    rw [written, ← List.append_assoc]
    exact ih (holds_after h hops.1) hops.2

/-- As long as all its writes are taken, a node that is on line and is not made to fail answers a
window selection with the last values that were written: a table for each tag set with a row in
the window, and in it the rows in the order of their times. -/
theorem query_shows_last_written (name : String) (ops : List Operation)
    (hops : (ofName name).TakesAll ops) (honline : ((ofName name).run ops).isOnline = true)
    (hreads : ((ofName name).run ops).readFailures = 0) (database policy measurement : String)
    (start stop : Instant) (addressed : Option String) :
    ∃ tables, (((ofName name).run ops).query
        ⟨.selectWindow policy measurement start stop, some database, addressed⟩).1 =
          .ok (.single tables) ∧
      IsSelection (pointsOf ((ofName name).written ops) database policy measurement) measurement
        start.epochNanos stop.epochNanos tables ∧
      (stop.epochNanos ≤ start.epochNanos → tables = []) := by
  set n := (ofName name).run ops with hn
  have hholds : n.store.Holds ((ofName name).written ops) := holds_run Store.holds_empty hops
  obtain ⟨-, ⟨hanswer, -⟩ | ⟨-, hfewer⟩⟩ := query_window_online honline
    (r := ⟨.selectWindow policy measurement start stop, some database, addressed⟩) rfl
  · rw [Store.selectWindow_eq] at hanswer
    refine ⟨_, hanswer, (hholds database policy measurement).select measurement _ _, fun h => ?_⟩
    exact Store.select_eq_nil _ measurement h
  · omega

/-- A point without tags. -/
private def untagged (time : Int64) (f : String) (i : Int64) : Point :=
  ⟨"cpu", ∅, (∅ : Fields).insert f (.integer i), time⟩

/-- Two batches, the second of which writes a field of the first again and adds one to its row. -/
private def rewrites : List Operation :=
  [.addPolicy "app" ⟨"monthly", .zero, .zero, 1⟩ true,
    .insert ⟨"app", "", [untagged 5 "load" 7, untagged 3 "load" 1]⟩,
    .call (.write ⟨"app", "monthly", [untagged 5 "load" 9, untagged 5 "idle" 2]⟩)]

theorem query_shows_rewritten :
    ∃ tables, (((ofName "a").run rewrites).query
        ⟨.selectWindow "monthly" "cpu" .epoch .latest, some "app", none⟩).1 =
          .ok (.single tables) ∧
      IsSelection (pointsOf ((ofName "a").written rewrites) "app" "monthly" "cpu") "cpu"
        Instant.epoch.epochNanos Instant.latest.epochNanos tables ∧
      (Instant.latest.epochNanos ≤ Instant.epoch.epochNanos → tables = []) :=
  query_shows_last_written "a" rewrites ⟨trivial, rfl, rfl, trivial⟩ rfl rfl "app" "monthly" "cpu"
    .epoch .latest none

end MemoryNode
end SeriesReplica.Node
