import Mathlib.Data.List.Nodup
import SeriesReplica.Proofs.Node.Rows
import SeriesReplica.Proofs.Schema.Decode
import SeriesReplica.Sync.Transfer

/-! What is read of a selection. Decoding the tables of a window gives one point for each row of
the window of which something fits the declared types, and no point twice. -/
namespace SeriesReplica.Node
open Point Query Schema Sync

/-- What is read of a row by declared types where it is shown behind its time: its own values that
fit, and for a field that is keyed as the time is and has none of its own, the time. -/
def readFields (types : FieldTypes) (time : Int64) (row : Fields) : Fields :=
  overlay (decodedFields types time ∅)
    (row.filterMap fun f v => types[f]?.bind fun t => decodeCell? t v.toJson)

theorem getElem?_readFields (types : FieldTypes) (time : Int64) (row : Fields) (f : String) :
    (readFields types time row)[f]? =
      (row[f]?.bind fun v => types[f]?.bind fun t => decodeCell? t v.toJson).or
        (decodedFields types time ∅)[f]? := by
  rw [readFields, getElem?_overlay, Std.ExtTreeMap.getElem?_filterMap']

theorem type_of_readFields {types : FieldTypes} {time : Int64} {row : Fields} {f : String}
    {v : FieldValue} (h : (readFields types time row)[f]? = some v) :
    types[f]? = some v.type := by
  rw [getElem?_readFields, Option.or_eq_some_iff] at h
  rcases h with h | ⟨-, h⟩
  · obtain ⟨u, -, h⟩ := Option.bind_eq_some_iff.1 h
    obtain ⟨t, ht, h⟩ := Option.bind_eq_some_iff.1 h
    rw [ht, decodeCell?_type h]
  · exact type_of_decodedFields h

/-- Of a row without such a field only what it shows is read. -/
theorem readFields_eq {types : FieldTypes} {time : Int64} {row : Fields}
    (htime : row["time"]? = none) : readFields types time row = decodedFields types time row := by
  refine Std.ExtTreeMap.ext_getElem? fun f => ?_
  simp only [getElem?_readFields, getElem?_decodedFields, Std.ExtTreeMap.getElem?_insert,
    Std.LawfulEqCmp.compare_eq_iff_eq]
  split
  case isTrue heq => rw [← heq, htime, Option.bind_none, Option.none_or]
  case isFalse => simp

/-- The point that declared types make of a row, if anything of the row fits them. -/
def decodedPoint? (types : FieldTypes) (measurement : String) (tags : Tags) (time : Int64)
    (row : Fields) : Option Point :=
  let fields := readFields types time row
  if fields.isEmpty then none else some ⟨measurement, tags, fields, time⟩

theorem decodedPoint?_eq_some {types : FieldTypes} {measurement : String} {tags : Tags}
    {time : Int64} {row : Fields} {p : Point} :
    decodedPoint? types measurement tags time row = some p ↔
      p = ⟨measurement, tags, readFields types time row, time⟩ ∧ p.fields.isEmpty = false := by
  rw [decodedPoint?]
  split
  case isTrue hempty =>
    refine iff_of_false (by simp) ?_
    rintro ⟨rfl, hne⟩
    exact absurd hempty (by simp [hne])
  case isFalse hne =>
    refine ⟨?_, fun h => congrArg some h.1.symm⟩
    rintro ⟨⟩
    exact ⟨rfl, Bool.eq_false_of_not_eq_true hne⟩

namespace StoredMeasurement

/-- Each field of a row has its type declared. -/
def Declares (m : StoredMeasurement) : Prop :=
  ∀ tags time row (f : String) v, m.row? tags time = some row → row[f]? = some v →
    m.types[f]? = some v.type

variable {m : StoredMeasurement} {types : FieldTypes} {measurement : String}

private theorem decodeTime?_int (t : Int64) : decodeTime? (.int t.toInt) = some t :=
  toInt64?_eq_some_iff.2 rfl

/-- A row that is shown behind its time is decoded to its point. -/
private theorem decodeRow_cells {columns : List String} {tags : Tags} {time : Int64}
    {row : Fields} (hcolumns : ∀ (f : String) v, row[f]? = some v → f ∈ columns) :
    (decodeRow measurement tags 0 (declaredColumns types ("time" :: columns))
      (Json.Value.int time.toInt ::
        columns.map fun f => (row[f]?.map (·.toJson)).getD .null)).point =
      decodedPoint? types measurement tags time row := by
  have hread : (decodeCells (Json.Value.int time.toInt ::
      columns.map fun f => (row[f]?.map (·.toJson)).getD .null)
        (declaredColumns types ("time" :: columns)) ∅).1 = readFields types time row := by
    refine Std.ExtTreeMap.ext_getElem? fun f => ?_
    rw [getElem?_decodeCells_shown types time hcolumns, getElem?_readFields]
  rw [decodeRow, List.getElem?_cons_zero]
  simp only [decodeTime?_int]
  rw [hread]
  rfl

/-- The points that are decoded from the rows of one series within a window. -/
def seriesPoints (types : FieldTypes) (measurement : String) (start stop : Int64) (tags : Tags)
    (rows : Rows) : List Point :=
  (rows.toList.filter fun (t, _) => decide (start ≤ t) && decide (t < stop)).filterMap
    fun (t, row) => decodedPoint? types measurement tags t row

/-- The points that are decoded from the rows of a window, series by series. -/
def windowPoints (m : StoredMeasurement) (types : FieldTypes) (measurement : String)
    (start stop : Int64) : List Point :=
  m.series.toList.flatMap fun s => seriesPoints types measurement start stop s.1 s.2

theorem row?_eq_some {tags : Tags} {time : Int64} {row : Fields} :
    m.row? tags time = some row ↔
      ∃ rows, (tags, rows) ∈ m.series.toList ∧ (time, row) ∈ rows.toList := by
  simp only [row?, Option.bind_eq_some_iff, Std.ExtTreeMap.mem_toList_iff_getElem?_eq_some]

/-- One table of a selection is decoded to the points of its rows. -/
private theorem decode_cells (types : FieldTypes) (measurement : String) {columns : List String}
    (tags : Tags) {rows : Rows} (start stop : Int64)
    (hcolumns : ∀ time row, (time, row) ∈ rows.toList →
      ∀ (f : String) v, row[f]? = some v → f ∈ columns) :
    (TransferContext.decode measurement types
        ⟨measurement, tags, "time" :: columns, cells columns start stop rows⟩).1 =
      seriesPoints types measurement start stop tags rows := by
  have htime : Series.column? ⟨measurement, tags, "time" :: columns,
      cells columns start stop rows⟩ "time" = some 0 := by
    simp [Series.column?, List.findIdx?_cons]
  rw [TransferContext.decode, decodeSeries, htime]
  simp only [DecodedSeries.points, cells, List.filterMap_map, List.map_map]
  refine List.filterMap_congr fun x hx => ?_
  exact decodeRow_cells (hcolumns x.1 x.2 (List.mem_of_mem_filter hx))

/-- The tables of a selection are decoded to the points of its window. -/
theorem decode_select (hdeclares : m.Declares) (start stop : Int64) :
    (m.select measurement start stop).flatMap
        (fun s => (TransferContext.decode measurement types s).1) =
      m.windowPoints types measurement start stop := by
  have hcolumns : ∀ tags rows, (tags, rows) ∈ m.series.toList → ∀ time row,
      (time, row) ∈ rows.toList → ∀ (f : String) v, row[f]? = some v → f ∈ m.types.keys := by
    intro tags rows hrows time row hrow f v hv
    have hdeclared := hdeclares tags time row f v (row?_eq_some.2 ⟨rows, hrows, hrow⟩) hv
    rw [Std.ExtTreeMap.mem_keys, Std.ExtTreeMap.mem_iff_isSome_getElem?, hdeclared]
    rfl
  rw [select, windowPoints]
  generalize m.series.toList = series at hcolumns
  induction series with
  | nil => rfl
  | cons s series ih =>
    obtain ⟨tags, rows⟩ := s
    have hhead := decode_cells types measurement tags start stop
      (hcolumns tags rows List.mem_cons_self)
    have htail := ih fun tags rows hrows => hcolumns tags rows (List.mem_cons_of_mem _ hrows)
    rw [List.flatMap_cons, ← htail, ← hhead, List.filterMap_cons]
    by_cases hempty : (cells m.types.keys start stop rows).isEmpty = true
    · simp only [hempty, if_true]
      rw [List.isEmpty_iff.1 hempty]
      simp [TransferContext.decode, decodeSeries, Series.column?, List.findIdx?_cons,
        DecodedSeries.points]
    · simp only [hempty, Bool.false_eq_true, if_false, List.flatMap_cons]

/-- The points of a window are those of its rows. -/
theorem mem_windowPoints {start stop : Int64} {p : Point} :
    p ∈ m.windowPoints types measurement start stop ↔
      ∃ row, m.row? p.tags p.timestamp = some row ∧ start ≤ p.timestamp ∧ p.timestamp < stop ∧
        decodedPoint? types measurement p.tags p.timestamp row = some p := by
  simp only [windowPoints, seriesPoints, List.mem_flatMap, List.mem_filterMap, List.mem_filter,
    Bool.and_eq_true, decide_eq_true_eq]
  constructor
  · rintro ⟨⟨tags, rows⟩, hrows, ⟨time, row⟩, ⟨hrow, hstart, hstop⟩, hp⟩
    obtain ⟨rfl, -⟩ := decodedPoint?_eq_some.1 hp
    exact ⟨row, row?_eq_some.2 ⟨rows, hrows, hrow⟩, hstart, hstop, hp⟩
  · rintro ⟨row, hrow, hstart, hstop, hp⟩
    obtain ⟨rows, hrows, hrow⟩ := row?_eq_some.1 hrow
    exact ⟨(p.tags, rows), hrows, (p.timestamp, row), ⟨hrow, hstart, hstop⟩, hp⟩

/-- No row has two points. -/
theorem windowPoints_nodup (m : StoredMeasurement) (types : FieldTypes) (measurement : String)
    (start stop : Int64) :
    ((m.windowPoints types measurement start stop).map RowKey.ofPoint).Nodup := by
  rw [List.Nodup, List.pairwise_map, windowPoints, List.pairwise_flatMap]
  constructor
  · rintro ⟨tags, rows⟩ -
    rw [seriesPoints, List.pairwise_filterMap]
    refine (rows.distinct_keys_toList.filter _).imp fun {a b} hne p hp q hq heq => hne ?_
    obtain ⟨rfl, -⟩ := decodedPoint?_eq_some.1 hp
    obtain ⟨rfl, -⟩ := decodedPoint?_eq_some.1 hq
    exact Std.LawfulEqCmp.compare_eq_iff_eq.2 (congrArg RowKey.timestamp heq)
  · refine m.series.distinct_keys_toList.imp fun {a b} hne p hp q hq heq => hne ?_
    obtain ⟨x, -, hp⟩ := List.mem_filterMap.1 hp
    obtain ⟨y, -, hq⟩ := List.mem_filterMap.1 hq
    obtain ⟨rfl, -⟩ := decodedPoint?_eq_some.1 hp
    obtain ⟨rfl, -⟩ := decodedPoint?_eq_some.1 hq
    exact Std.LawfulEqCmp.compare_eq_iff_eq.2 (congrArg RowKey.tags heq)

end StoredMeasurement
end SeriesReplica.Node
