import Mathlib.Data.Set.Card
import SeriesReplica.Proofs.Schema.Decode

/-! An account of all rows and cells of a decoded series. Each row becomes one point or is dropped:
a row is kept that tells its time and at least one value of a declared field, and every cell of a
declared column in a row that tells its time is passed over, read, or counted as dropped. -/
namespace SeriesReplica.Schema
open Point Query Json Text Time

/-- A cell tells a time in nanoseconds: an integer, a numeral of one, or an RFC 3339 text. -/
inductive TellsTime : Value → Int64 → Prop
  | integer (t : Int64) : TellsTime (.number (.int t.toInt)) t
  | numeral {s : String} {t : Int64} (denotes : Numeral.Denotes s.toList t.toInt) :
    TellsTime (.string s) t
  | date {s : String} {i : Instant} {t : Int64} (reads : Rfc3339.read? s = some i)
    (count : i.totalNanos = t.toInt) : TellsTime (.string s) t

/-- A cell of a row, not null, stands in a column of a declared field. -/
structure IsDeclared (types : FieldTypes) (columns : List String) (row : Row) (i : Nat) (f : String)
    (type : FieldType) (cell : Value) : Prop where
  column : columns[i]? = some f
  declared : types[f]? = some type
  present : row[i]? = some cell
  notNull : cell.isNull = false

/-- A cell of a row tells a value of a field. -/
def TellsField (types : FieldTypes) (columns : List String) (row : Row) (i : Nat) (f : String)
    (v : FieldValue) : Prop :=
  ∃ type cell, IsDeclared types columns row i f type cell ∧ decodeCell? type cell = some v

/-- A cell of a row does not fit the type that is declared for it. -/
def Misfits (types : FieldTypes) (columns : List String) (row : Row) (i : Nat) : Prop :=
  ∃ f type cell, IsDeclared types columns row i f type cell ∧ decodeCell? type cell = none

/-- The cell of a row in the first column of times tells a time. -/
def TimeOf (columns : List String) (row : Row) (t : Int64) : Prop :=
  ∃ (i : Nat) (cell : Value), columns[i]? = some "time" ∧ (∀ j < i, columns[j]? ≠ some "time") ∧
    row[i]? = some cell ∧ TellsTime cell t

/-- A row of a series is decoded as a point: it tells the time of the point and at least one value,
and of each field the point has the value that the last cell tells which tells one. -/
structure DecodesAs (measurement : String) (types : FieldTypes) (s : Series) (row : Row)
    (p : Point) : Prop where
  measurement : p.measurement = measurement
  tags : p.tags = s.tags
  time : TimeOf s.columns row p.timestamp
  fields : ∀ (f : String) v, p.fields[f]? = some v ↔ ∃ i, TellsField types s.columns row i f v ∧
    ∀ j w, i < j → ¬ TellsField types s.columns row j f w
  kept : ∃ i f v, TellsField types s.columns row i f v

/-- What has become of the rows of a series: its points are those of the rows that are decoded as
one, in their order, every other row is counted as dropped, and so is every cell that does not fit
its type, in the rows that tell their time. -/
structure Accounts (measurement : String) (types : FieldTypes) (s : Series) (d : DecodedSeries) :
    Prop where
  rows : d.points.length + d.droppedPoints = s.rows.length
  points : ∃ point? : Row → Option Point,
    (∀ row p, point? row = some p ↔ DecodesAs measurement types s row p) ∧
      d.points = s.rows.filterMap point?
  typed : ∀ p ∈ d.points, ∀ (f : String) v, p.fields[f]? = some v → types[f]? = some v.type
  cells : d.droppedFields = (s.rows.map fun row =>
    {i | (∃ t, TimeOf s.columns row t) ∧ Misfits types s.columns row i}.ncard).sum

/-- No text is a numeral and a date. -/
theorem read?_of_denotes {s : String} {n : Int} (h : Numeral.Denotes s.toList n) :
    Rfc3339.read? s = none := by
  refine Option.eq_none_iff_forall_ne_some.2 fun t ht => ?_
  have hdash : s.toList.tail[3]? = some '-' := by
    rw [List.getElem?_tail]
    exact Rfc3339.dash_of_readChars? ht
  exact absurd (h.isDigit_of_mem_tail (List.mem_of_getElem? hdash)) (by decide)

theorem decodeTime?_eq_some_iff {cell : Value} {t : Int64} :
    decodeTime? cell = some t ↔ TellsTime cell t := by
  constructor
  · intro h
    cases cell with
    | number n =>
      obtain rfl := toInt64?_eq_some_iff.1 h
      exact .integer t
    | string s =>
      rw [decodeTime?, Option.orElse_eq_some] at h
      obtain h | ⟨-, h⟩ := h
      · exact .numeral (Numeral.readInt64?_eq_some_iff.1 h)
      · obtain ⟨i, hread, hcount⟩ := Option.bind_eq_some_iff.1 h
        exact .date hread (Numeral.narrow_eq_some_iff.1 hcount)
    | null | bool | array | object => cases h
  · intro h
    cases h with
    | integer => exact toInt64?_eq_some_iff.2 rfl
    | numeral hdenotes =>
      rw [decodeTime?, Numeral.readInt64?_eq_some_iff.2 hdenotes]
      rfl
    | @date s i _ hread hcount =>
      have hnumeral : Numeral.readInt64? s.toList = none := by
        refine Option.eq_none_iff_forall_ne_some.2 fun n hn => ?_
        rw [read?_of_denotes (Numeral.readInt64?_eq_some_iff.1 hn)] at hread
        cases hread
      rw [decodeTime?, hnumeral, hread]
      exact Numeral.narrow_eq_some_iff.2 hcount

section Cells
variable {types : FieldTypes} {columns : List String} {row : Row} {f : String}

private theorem declaredColumns_pairwise (types : FieldTypes) (columns : List String) :
    (declaredColumns types columns).Pairwise (·.1 < ·.1) := by
  have hzip : columns.zipIdx.Pairwise (·.2 < ·.2) := by
    rw [← List.pairwise_map (f := Prod.snd) (R := (· < ·)), List.zipIdx_map_snd]
    exact List.pairwise_lt_range'
  refine hzip.filterMap _ ?_
  rintro ⟨f, i⟩ ⟨g, j⟩ hij c hc d hd
  obtain ⟨_, -, rfl⟩ := Option.map_eq_some_iff.1 hc
  obtain ⟨_, -, rfl⟩ := Option.map_eq_some_iff.1 hd
  exact hij

/-- A search from the end of an ordered list finds what nothing behind it gives. -/
private theorem findSome?_reverse_eq_some_iff {α β : Type} {position : α → Nat} {l : List α}
    (hl : l.Pairwise (position · < position ·)) {g : α → Option β} {v : β} :
    l.reverse.findSome? g = some v ↔
      ∃ a ∈ l, g a = some v ∧ ∀ b ∈ l, position a < position b → g b = none := by
  induction l with
  | nil => simp
  | cons c l ih =>
    obtain ⟨hc, hl⟩ := List.pairwise_cons.1 hl
    rw [List.reverse_cons, List.findSome?_append, List.findSome?_singleton, Option.or_eq_some_iff,
      ih hl]
    constructor
    · rintro (⟨a, ha, hv, hbehind⟩ | ⟨hnone, hv⟩)
      · refine ⟨a, List.mem_cons_of_mem c ha, hv, fun b hb hab => ?_⟩
        obtain rfl | hb := List.mem_cons.1 hb
        · exact absurd (hc a ha) (Nat.lt_asymm hab)
        · exact hbehind b hb hab
      · refine ⟨c, List.mem_cons_self, hv, fun b hb hcb => ?_⟩
        obtain rfl | hb := List.mem_cons.1 hb
        · exact absurd hcb (Nat.lt_irrefl _)
        · exact List.findSome?_eq_none_iff.1 hnone b (List.mem_reverse.2 hb)
    · rintro ⟨a, ha, hv, hbehind⟩
      obtain rfl | ha := List.mem_cons.1 ha
      · refine .inr ⟨List.findSome?_eq_none_iff.2 fun b hb => ?_, hv⟩
        have hb := List.mem_reverse.1 hb
        exact hbehind b (List.mem_cons_of_mem a hb) (hc b hb)
      · exact .inl ⟨a, ha, hv, fun b hb => hbehind b (List.mem_cons_of_mem c hb)⟩

private theorem tellsField_iff {i : Nat} {v : FieldValue} :
    TellsField types columns row i f v ↔
      ∃ c ∈ declaredColumns types columns, c.1 = i ∧ cellOf row f c = some v := by
  constructor
  · rintro ⟨type, cell, h, hv⟩
    refine ⟨(i, f, type), mem_declaredColumns.2 ⟨h.column, h.declared⟩, rfl, ?_⟩
    rw [cellOf, if_pos rfl, h.present]
    exact hv
  · rintro ⟨⟨i, g, type⟩, hc, rfl, hv⟩
    obtain ⟨hcolumn, hdeclared⟩ := mem_declaredColumns.1 hc
    rw [cellOf, Option.ite_none_right_eq_some] at hv
    obtain ⟨rfl, hv⟩ := hv
    obtain ⟨cell, hcell, hv⟩ := Option.bind_eq_some_iff.1 hv
    refine ⟨type, cell, ⟨hcolumn, hdeclared, hcell, ?_⟩, hv⟩
    cases cell with
    | null => rw [decodeCell?_null] at hv; cases hv
    | _ => rfl

/-- Of a field the last cell counts that tells its value. -/
theorem getElem?_decodeCells_iff {v : FieldValue} :
    (decodeCells row (declaredColumns types columns) ∅).1[f]? = some v ↔
      ∃ i, TellsField types columns row i f v ∧
        ∀ j w, i < j → ¬ TellsField types columns row j f w := by
  rw [getElem?_decodeCells, Std.ExtTreeMap.getElem?_empty, Option.or_none,
    findSome?_reverse_eq_some_iff (declaredColumns_pairwise types columns)]
  simp only [tellsField_iff]
  constructor
  · rintro ⟨c, hc, hv, hbehind⟩
    refine ⟨c.1, ⟨c, hc, rfl, hv⟩, ?_⟩
    rintro _ w hlt ⟨d, hd, rfl, hw⟩
    rw [hbehind d hd hlt] at hw
    cases hw
  · rintro ⟨_, ⟨c, hc, rfl, hv⟩, hbehind⟩
    refine ⟨c, hc, hv, fun d hd hlt => Option.eq_none_iff_forall_ne_some.2 fun w hw => ?_⟩
    exact hbehind d.1 w hlt ⟨d, hd, rfl, hw⟩

/-- Something is read of a row exactly if one of its cells tells a value. -/
theorem isEmpty_decodeCells_iff :
    (decodeCells row (declaredColumns types columns) ∅).1.isEmpty = false ↔
      ∃ i f v, TellsField types columns row i f v := by
  rw [Std.ExtTreeMap.isEmpty_eq_false_iff, Std.ExtTreeMap.eq_empty_iff_forall_not_mem, not_forall]
  simp only [not_not, Std.ExtTreeMap.mem_iff_isSome_getElem?, Option.isSome_iff_exists]
  constructor
  · rintro ⟨f, v, hv⟩
    obtain ⟨i, hi, -⟩ := getElem?_decodeCells_iff.1 hv
    exact ⟨i, f, v, hi⟩
  · rintro ⟨i, f, v, h⟩
    obtain ⟨c, hc, -, hv⟩ := tellsField_iff.1 h
    refine ⟨f, Option.isSome_iff_exists.1 ?_⟩
    rw [getElem?_decodeCells, Std.ExtTreeMap.getElem?_empty, Option.or_none,
      List.findSome?_isSome_iff]
    exact ⟨c, List.mem_reverse.2 hc, by rw [hv]; rfl⟩

/-- Whether the cell of a row in a declared column does not fit. -/
private def misfit (row : Row) (c : Nat × String × FieldType) : Bool :=
  row[c.1]?.any fun cell => !cell.isNull && (decodeCell? c.2.2 cell).isNone

private theorem countP_faults {count : DecodeError → Bool}
    (hcount : ∀ f type cell, count (.fieldType f type cell) = true) (row : Row)
    (cs : List (Nat × String × FieldType)) (fields : Fields) :
    (decodeCells row cs fields).2.countP count = cs.countP (misfit row) := by
  induction cs generalizing fields with
  | nil => rfl
  | cons c cs ih =>
    obtain ⟨i, f, type⟩ := c
    rw [decodeCells]
    cases hcell : row[i]? with
    | none =>
      rw [List.countP_cons_of_neg (by simp [misfit, hcell])]
      exact ih fields
    | some cell =>
      by_cases hnull : cell.isNull = true
      · rw [List.countP_cons_of_neg (by simp [misfit, hcell, hnull])]
        simp only [if_pos hnull]
        exact ih fields
      · simp only [if_neg hnull]
        cases hvalue : decodeCell? type cell with
        | some v =>
          rw [List.countP_cons_of_neg (by simp [misfit, hcell, hvalue])]
          exact ih _
        | none =>
          have hmisfit : misfit row (i, f, type) = true := by simp [misfit, hcell, hvalue, hnull]
          rw [List.countP_cons_of_pos hmisfit, List.countP_cons_of_pos (hcount f type cell),
            ih fields]

private theorem misfits_iff {i : Nat} :
    Misfits types columns row i ↔ ∃ c ∈ declaredColumns types columns, c.1 = i ∧
      misfit row c = true := by
  simp only [misfit, Option.any_eq_true, Bool.and_eq_true, Bool.not_eq_true',
    Option.isNone_iff_eq_none]
  constructor
  · rintro ⟨f, type, cell, h, hnone⟩
    exact ⟨(i, f, type), mem_declaredColumns.2 ⟨h.column, h.declared⟩, rfl, cell, h.present,
      h.notNull, hnone⟩
  · rintro ⟨⟨i, f, type⟩, hc, rfl, cell, hcell, hnull, hnone⟩
    obtain ⟨hcolumn, hdeclared⟩ := mem_declaredColumns.1 hc
    exact ⟨f, type, cell, ⟨hcolumn, hdeclared, hcell, hnull⟩, hnone⟩

/-- The cells that do not fit, by their positions, are as many as are found. -/
private theorem ncard_misfits (types : FieldTypes) (columns : List String) (row : Row) :
    {i | Misfits types columns row i}.ncard =
      (declaredColumns types columns).countP (misfit row) := by
  let positions := ((declaredColumns types columns).filter (misfit row)).map (·.1)
  have hnodup : positions.Nodup :=
    List.pairwise_map.2 (((declaredColumns_pairwise types columns).filter _).imp Nat.ne_of_lt)
  have hset : {i | Misfits types columns row i} = (positions.toFinset : Set Nat) := by
    ext i
    simp [positions, misfits_iff, and_comm]
  rw [hset, Set.ncard_coe_finset, List.toFinset_card_of_nodup hnodup, List.length_map,
    List.countP_eq_length_filter]

end Cells

section Rows
variable {measurement : String} {types : FieldTypes} {s : Series} {time : Nat} {row : Row}

private theorem timeOf_iff (htime : s.column? "time" = some time) {t : Int64} :
    TimeOf s.columns row t ↔ row[time]?.bind decodeTime? = some t := by
  obtain ⟨hlt, hname, hfirst⟩ := List.findIdx?_eq_some_iff_getElem.1 htime
  have hcolumn : s.columns[time]? = some "time" := by
    rw [List.getElem?_eq_getElem hlt, of_decide_eq_true hname]
  have hbefore : ∀ j < time, s.columns[j]? ≠ some "time" := by
    intro j hj heq
    obtain ⟨_, heq⟩ := List.getElem?_eq_some_iff.1 heq
    exact hfirst j hj (decide_eq_true heq)
  simp only [Option.bind_eq_some_iff, decodeTime?_eq_some_iff]
  constructor
  · rintro ⟨i, cell, hi, hnone, hcell⟩
    obtain rfl : i = time := by
      refine Nat.le_antisymm (Nat.le_of_not_lt fun hlt => hnone time hlt hcolumn) ?_
      exact Nat.le_of_not_lt fun hlt => hbefore i hlt hi
    exact ⟨cell, hcell⟩
  · rintro ⟨cell, hcell⟩
    exact ⟨time, cell, hcolumn, hbefore, hcell⟩

/-- What is made of a row without a time. -/
private theorem decodeRow_of_none (measurement : String) (tags : Tags)
    (columns : List (Nat × String × FieldType)) (h : row[time]?.bind decodeTime? = none) :
    (decodeRow measurement tags time columns row).point = none ∧
      ∀ e ∈ (decodeRow measurement tags time columns row).faults, ∃ cell, e = .timestamp cell := by
  rw [decodeRow]
  match hcell : row[time]? with
  | none => exact ⟨rfl, fun e he => nomatch he⟩
  | some cell =>
    rw [hcell, Option.bind_some] at h
    simp only [h]
    exact ⟨trivial, fun e he => ⟨cell, List.mem_singleton.1 he⟩⟩

/-- What is made of a row with a time. -/
private theorem decodeRow_of_some (measurement : String) (tags : Tags)
    (columns : List (Nat × String × FieldType)) {t : Int64}
    (h : row[time]?.bind decodeTime? = some t) :
    decodeRow measurement tags time columns row =
      ⟨if (decodeCells row columns ∅).1.isEmpty then none
        else some ⟨measurement, tags, (decodeCells row columns ∅).1, t⟩,
        (decodeCells row columns ∅).2⟩ := by
  obtain ⟨cell, hcell, ht⟩ := Option.bind_eq_some_iff.1 h
  rw [decodeRow, hcell]
  simp only [ht]

theorem point_decodeRow_iff (htime : s.column? "time" = some time) {p : Point} :
    (decodeRow measurement s.tags time (declaredColumns types s.columns) row).point = some p ↔
      DecodesAs measurement types s row p := by
  match h : row[time]?.bind decodeTime? with
  | none =>
    rw [(decodeRow_of_none measurement s.tags _ h).1]
    refine iff_of_false (fun hp => nomatch hp) fun hp => ?_
    rw [timeOf_iff htime |>.1 hp.time] at h
    cases h
  | some t =>
    rw [decodeRow_of_some measurement s.tags _ h, Option.ite_none_left_eq_some,
      Bool.not_eq_true, isEmpty_decodeCells_iff, Option.some.injEq]
    constructor
    · rintro ⟨hkept, rfl⟩
      exact ⟨rfl, rfl, timeOf_iff htime |>.2 h, fun f v => getElem?_decodeCells_iff, hkept⟩
    · intro hp
      refine ⟨hp.kept, ?_⟩
      obtain ⟨m, tags, fields, t'⟩ := p
      obtain rfl : m = measurement := hp.measurement
      obtain rfl : tags = s.tags := hp.tags
      obtain rfl : t = t' := Option.some.inj (h.symm.trans (timeOf_iff htime |>.1 hp.time))
      have hfields : (decodeCells row (declaredColumns types s.columns) ∅).1 = fields :=
        Std.ExtTreeMap.ext_getElem? fun f =>
          Option.ext fun v => getElem?_decodeCells_iff.trans (hp.fields f v).symm
      rw [hfields]

private theorem countP_decodeRow {count : DecodeError → Bool}
    (hfield : ∀ f type cell, count (.fieldType f type cell) = true)
    (htimestamp : ∀ cell, count (.timestamp cell) = false)
    (htime : s.column? "time" = some time) :
    (decodeRow measurement s.tags time (declaredColumns types s.columns) row).faults.countP count =
      {i | (∃ t, TimeOf s.columns row t) ∧ Misfits types s.columns row i}.ncard := by
  match h : row[time]?.bind decodeTime? with
  | none =>
    have hnone : ¬ ∃ t, TimeOf s.columns row t := by
      rintro ⟨t, ht⟩
      rw [timeOf_iff htime |>.1 ht] at h
      cases h
    simp only [hnone, false_and, Set.ofPred_false, Set.ncard_empty, List.countP_eq_zero]
    intro e he
    obtain ⟨cell, rfl⟩ := (decodeRow_of_none measurement s.tags _ h).2 e he
    rw [htimestamp]
    exact Bool.false_ne_true
  | some t =>
    have hsome : ∃ t, TimeOf s.columns row t := ⟨t, timeOf_iff htime |>.2 h⟩
    simp only [hsome, true_and, ncard_misfits]
    rw [decodeRow_of_some measurement s.tags _ h]
    exact countP_faults hfield row _ ∅

end Rows

namespace Accounts
variable {measurement : String} {types : FieldTypes} {s : Series} {time : Nat}

/-- The rows, decoded one by one, are accounted for. -/
theorem of_column (measurement : String) (types : FieldTypes)
    (htime : s.column? "time" = some time) :
    Accounts measurement types s ⟨measurement, s.rows.map
      (decodeRow measurement s.tags time (declaredColumns types s.columns))⟩ := by
  let decode := decodeRow measurement s.tags time (declaredColumns types s.columns)
  have hpoints : DecodedSeries.points ⟨measurement, s.rows.map decode⟩ =
      s.rows.filterMap fun row => (decode row).point := List.filterMap_map
  refine ⟨?rows, ⟨fun row => (decode row).point, fun row p => point_decodeRow_iff htime, hpoints⟩,
    ?typed, ?cells⟩
  case rows =>
    rw [hpoints, DecodedSeries.droppedPoints, List.countP_map, List.length_filterMap_eq_countP,
      List.length_eq_countP_add_countP fun row => (decode row).point.isSome]
    refine congrArg (_ + ·) (List.countP_congr fun row _ => ?_)
    change (decode row).point.isNone = true ↔ _
    cases (decode row).point <;> simp
  case typed =>
    intro p hp f v hv
    obtain ⟨row, -, hrow⟩ := List.mem_filterMap.1 (hpoints ▸ hp)
    have hdecodes : DecodesAs measurement types s row p := (point_decodeRow_iff htime).1 hrow
    obtain ⟨i, ⟨type, cell, hcell, hvalue⟩, -⟩ := (hdecodes.fields f v).1 hv
    rw [hcell.declared, decodeCell?_type hvalue]
  case cells =>
    rw [DecodedSeries.droppedFields, ← List.sum_eq_foldr, List.map_map]
    refine congrArg List.sum (List.map_congr_left fun row _ => ?_)
    exact countP_decodeRow (fun _ _ _ => rfl) (fun _ => rfl) htime

end Accounts

/-- Decoding accounts for every row and every cell of a series with a column of times. -/
theorem decodeSeries_accounts (measurement : String) (types : FieldTypes) (s : Series)
    (htime : "time" ∈ s.columns) :
    ∃ d, decodeSeries measurement types s = .ok d ∧ Accounts measurement types s d := by
  have hsome : (s.column? "time").isSome :=
    List.findIdx?_isSome.trans (List.any_eq_true.2 ⟨"time", htime, decide_eq_true rfl⟩)
  obtain ⟨time, htime⟩ := Option.isSome_iff_exists.1 hsome
  refine ⟨_, ?_, .of_column measurement types htime⟩
  rw [decodeSeries, htime]

/-- One declared field. -/
private def counted : FieldTypes := (∅ : FieldTypes).insert "count" FieldType.integer

/-- Two columns of one field. The second row tells no time, the third ends in a cell that does not
fit, and the last has nothing to tell. -/
private def ragged : Series :=
  .untagged "cpu" ["time", "count", "count"]
    [[.int 1, .int 7], [.bool false, .int 7], [.int 2, .int 8, .string "nine"], [.int 3, .null]]

theorem decodeSeries_accounts_ragged :
    "time" ∈ ragged.columns ∧
      ∃ d, decodeSeries "cpu" counted ragged = .ok d ∧ Accounts "cpu" counted ragged d ∧
        (d.points.length, d.droppedPoints, d.droppedFields) = (2, 2, 1) := by
  have htime : "time" ∈ ragged.columns := by decide
  have hcounts : ((decodeSeries "cpu" counted ragged).toOption.map fun d =>
      (d.points.length, d.droppedPoints, d.droppedFields)) = some (2, 2, 1) := by decide
  obtain ⟨d, hd, haccounts⟩ := decodeSeries_accounts "cpu" counted ragged htime
  rw [hd] at hcounts
  exact ⟨htime, d, hd, haccounts, Option.some.inj hcounts⟩

end SeriesReplica.Schema
