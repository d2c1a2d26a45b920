import SeriesReplica.Proofs.Text.Numeral
import SeriesReplica.Schema.Decode

/-! What a schema reads of a row. A row is shown as a table row, one cell a column, its time in a
column of its own; decoding gives back the values that fit the declared types of their columns. -/
namespace SeriesReplica.Schema
open Point Query Json Text

/-- What is read of a row and its time by declared types: the values that are shown in a form
that fits the type of their column. -/
def decodedFields (types : FieldTypes) (time : Int64) (row : Fields) : Fields :=
  (row.insert "time" (.integer time)).filterMap fun f v =>
    types[f]?.bind fun t => decodeCell? t v.toJson

theorem getElem?_decodedFields (types : FieldTypes) (time : Int64) (row : Fields) (f : String) :
    (decodedFields types time row)[f]? =
      (row.insert "time" (.integer time))[f]?.bind fun v =>
        types[f]?.bind fun t => decodeCell? t v.toJson := by
  rw [decodedFields, Std.ExtTreeMap.getElem?_filterMap']

theorem type_of_decodedFields {types : FieldTypes} {time : Int64} {row : Fields} {f : String}
    {v : FieldValue} (h : (decodedFields types time row)[f]? = some v) :
    types[f]? = some v.type := by
  rw [getElem?_decodedFields] at h
  obtain ⟨u, -, h⟩ := Option.bind_eq_some_iff.1 h
  obtain ⟨t, ht, h⟩ := Option.bind_eq_some_iff.1 h
  rw [ht, decodeCell?_type h]

/-- Nothing is read without types. -/
theorem decodedFields_untyped (time : Int64) (row : Fields) : decodedFields ∅ time row = ∅ := by
  refine Std.ExtTreeMap.ext_getElem? fun f => ?_
  rw [getElem?_decodedFields]
  simp

@[simp] theorem decodeCell?_null (t : FieldType) : decodeCell? t .null = none := by
  cases t <;> rfl

/-- What is read of the cell of a column, if it is that of a field. -/
def cellOf (row : Row) (f : String) (c : Nat × String × FieldType) : Option FieldValue :=
  if c.2.1 = f then row[c.1]?.bind (decodeCell? c.2.2) else none

/-- Of several columns of a field the last one counts of which something is read. -/
theorem getElem?_decodeCells (row : Row) (columns : List (Nat × String × FieldType))
    (fields : Fields) (f : String) :
    (decodeCells row columns fields).1[f]? =
      (columns.reverse.findSome? (cellOf row f)).or fields[f]? := by
  induction columns generalizing fields with
  | nil => rfl
  | cons c columns ih =>
    obtain ⟨i, name, type⟩ := c
    rw [List.reverse_cons, List.findSome?_append, List.findSome?_singleton, Option.or_assoc,
      decodeCells]
    -- Whatever makes the head give nothing, the rest reads as before.
    have hskip (hnone : row[i]?.bind (decodeCell? type) = none) :
        cellOf row f (i, name, type) = none := by
      rw [cellOf, hnone, ite_self]
    match hcell : row[i]? with
    | none =>
      rw [hskip (by rw [hcell]; rfl), Option.none_or]
      exact ih fields
    | some cell =>
      by_cases hnull : cell.isNull = true
      · obtain rfl : cell = .null := by cases cell <;> simp_all [Value.isNull]
        rw [hskip (by rw [hcell, Option.bind_some, decodeCell?_null]), Option.none_or]
        exact ih fields
      · simp only [if_neg hnull]
        match hvalue : decodeCell? type cell with
        | none =>
          rw [hskip (by rw [hcell, Option.bind_some, hvalue]), Option.none_or]
          exact ih fields
        | some u =>
          refine (ih _).trans (congrArg _ ?_)
          rw [cellOf, hcell, Option.bind_some, hvalue, Std.ExtTreeMap.getElem?_insert]
          simp only [Std.LawfulEqCmp.compare_eq_iff_eq]
          split <;> rfl

/-- The declared columns of a table from a position on. -/
private def columnsFrom (types : FieldTypes) (n : Nat) (columns : List String) :
    List (Nat × String × FieldType) :=
  (columns.zipIdx n).filterMap fun (name, i) => types[name]?.map fun type => (i, name, type)

private theorem mem_columnsFrom {types : FieldTypes} {columns : List String} {n i : Nat}
    {f : String} {t : FieldType} :
    (i, f, t) ∈ columnsFrom types n columns ↔
      (n ≤ i ∧ columns[i - n]? = some f) ∧ types[f]? = some t := by
  simp only [columnsFrom, List.mem_filterMap, Option.map_eq_some_iff, Prod.mk.injEq, Prod.exists,
    List.mk_mem_zipIdx_iff_le_and_getElem?_sub]
  constructor
  · rintro ⟨g, j, hg, u, hu, rfl, rfl, rfl⟩
    exact ⟨hg, hu⟩
  · rintro ⟨hf, ht⟩
    exact ⟨f, i, hf, t, ht, rfl, rfl, rfl⟩

theorem mem_declaredColumns {types : FieldTypes} {columns : List String} {i : Nat} {f : String}
    {t : FieldType} : (i, f, t) ∈ declaredColumns types columns ↔
      columns[i]? = some f ∧ types[f]? = some t := by
  rw [show declaredColumns types columns = columnsFrom types 0 columns from rfl, mem_columnsFrom]
  simp

private theorem declaredColumns_time (types : FieldTypes) (columns : List String) :
    declaredColumns types ("time" :: columns) =
      (types["time"]?.map fun t => (0, "time", t)).toList ++ columnsFrom types 1 columns := by
  rw [declaredColumns, List.zipIdx_cons, List.filterMap_cons]
  dsimp only [columnsFrom]
  cases types["time"]? <;> rfl

/-- A row as it is shown under columns, behind the cell of its time. -/
private def shownRow (columns : List String) (time : Int64) (row : Fields) : Row :=
  Value.int time.toInt :: columns.map fun f => (row[f]?.map (·.toJson)).getD .null

/-- The value of a field that is read of the columns behind the time. -/
private theorem findSome?_shownRow (types : FieldTypes) {columns : List String} (time : Int64)
    {row : Fields} (hcolumns : ∀ (f : String) v, row[f]? = some v → f ∈ columns) (f : String) :
    (columnsFrom types 1 columns).reverse.findSome? (cellOf (shownRow columns time row) f) =
      row[f]?.bind fun v => types[f]?.bind fun t => decodeCell? t v.toJson := by
  have hcell : ∀ i (g : String), columns[i]? = some g → ∀ t,
      (shownRow columns time row)[i + 1]?.bind (decodeCell? t) =
        row[g]?.bind fun v => decodeCell? t v.toJson := by
    intro i g hg t
    rw [shownRow, List.getElem?_cons_succ, List.getElem?_map, hg, Option.map_some,
      Option.bind_some]
    cases row[g]? with
    | none => exact decodeCell?_null t
    | some v => rfl
  -- Should there be several columns of the field, the same is read of each.
  have hevery : ∀ c ∈ (columnsFrom types 1 columns).reverse, ∀ v,
      cellOf (shownRow columns time row) f c = some v →
        (row[f]?.bind fun v => types[f]?.bind fun t => decodeCell? t v.toJson) = some v := by
    rintro ⟨i, g, t⟩ hc v hv
    obtain ⟨⟨hi, hg⟩, ht⟩ := mem_columnsFrom.1 (List.mem_reverse.1 hc)
    rw [cellOf] at hv
    split at hv
    case isTrue heq =>
      obtain rfl : g = f := heq
      rw [← Nat.sub_add_cancel hi] at hv
      rw [ht, ← hv]
      exact (hcell _ _ hg t).symm
    case isFalse => cases hv
  refine Option.ext fun v => ⟨fun hv => ?_, fun hv => ?_⟩
  · obtain ⟨c, hc, hv⟩ := List.exists_of_findSome?_eq_some hv
    exact hevery c hc v hv
  · obtain ⟨u, hu, hread⟩ := Option.bind_eq_some_iff.1 hv
    obtain ⟨t, ht, hread⟩ := Option.bind_eq_some_iff.1 hread
    obtain ⟨i, hi⟩ := List.getElem?_of_mem (hcolumns f u hu)
    have hc : (i + 1, f, t) ∈ (columnsFrom types 1 columns).reverse :=
      List.mem_reverse.2 (mem_columnsFrom.2 ⟨⟨Nat.le_add_left 1 i, by simpa using hi⟩, ht⟩)
    have hcellOf : cellOf (shownRow columns time row) f (i + 1, f, t) = some v := by
      rw [cellOf, if_pos rfl]
      exact (hcell i f hi t).trans (by rw [hu]; exact hread)
    have hsome : ((columnsFrom types 1 columns).reverse.findSome?
        (cellOf (shownRow columns time row) f)).isSome :=
      List.findSome?_isSome_iff.2 ⟨_, hc, by simp [hcellOf]⟩
    obtain ⟨w, hw⟩ := Option.isSome_iff_exists.1 hsome
    obtain ⟨d, hd, hdw⟩ := List.exists_of_findSome?_eq_some hw
    rw [hw, ← hevery d hd w hdw, hv]

/-- A row that is shown behind its time is read field by field. A field that is keyed as the time
is has two columns, and if nothing is read of its own the time is its value, as far as that
fits. -/
theorem getElem?_decodeCells_shown (types : FieldTypes) {columns : List String} (time : Int64)
    {row : Fields} (hcolumns : ∀ (f : String) v, row[f]? = some v → f ∈ columns) (f : String) :
    (decodeCells (Value.int time.toInt :: columns.map fun f => (row[f]?.map (·.toJson)).getD .null)
        (declaredColumns types ("time" :: columns)) ∅).1[f]? =
      (row[f]?.bind fun v => types[f]?.bind fun t => decodeCell? t v.toJson).or
        (decodedFields types time ∅)[f]? := by
  change (decodeCells (shownRow columns time row) _ ∅).1[f]? = _
  rw [getElem?_decodeCells, declaredColumns_time, List.reverse_append, List.findSome?_append,
    findSome?_shownRow types time hcolumns, Std.ExtTreeMap.getElem?_empty, Option.or_none,
    getElem?_decodedFields, Std.ExtTreeMap.getElem?_insert]
  refine congrArg _ ?_
  match htype : types["time"]? with
  | none =>
    simp only [Option.map_none, Option.toList_none, List.reverse_nil, List.findSome?_nil,
      Std.LawfulEqCmp.compare_eq_iff_eq]
    split
    case isTrue heq => rw [← heq, htype, Option.bind_some, Option.bind_none]
    case isFalse => simp
  | some t =>
    simp only [Option.map_some, Option.toList_some, List.reverse_singleton,
      List.findSome?_singleton, cellOf, Std.LawfulEqCmp.compare_eq_iff_eq]
    split
    case isTrue heq =>
      rw [← heq, htype, Option.bind_some, Option.bind_some]
      rfl
    case isFalse => simp

/-- The integers that fit 64 bits are the numbers that are read as such. -/
theorem toInt64?_eq_some_iff {n : Number} {t : Int64} :
    n.toInt64? = some t ↔ n = .int t.toInt := by
  cases n with
  | int i => rw [Number.toInt64?, Numeral.narrow_eq_some_iff, Number.int.injEq]
  | float x => simp [Number.toInt64?]

/-- A value that has a JSON form. -/
def IsFinite : FieldValue → Prop
  | .float x => x.isFinite = true
  | _ => True

/-- A value that has a JSON form is read back by its type. -/
theorem decodeCell?_toJson {v : FieldValue} (h : IsFinite v) :
    decodeCell? v.type v.toJson = some v := by
  cases v with
  | float x =>
    have hfinite : x.isFinite = true := h
    rw [FieldValue.toJson, Value.float, if_pos hfinite]
    rfl
  | integer i =>
    rw [FieldValue.type, FieldValue.toJson, Value.int, decodeCell?, toInt64?_eq_some_iff.2 rfl,
      Option.map_some]
  | boolean b => rfl
  | string s => rfl

/-- A row of finite values, all declared, is read as it is. -/
theorem decodedFields_self {types : FieldTypes} {row : Fields} (time : Int64)
    (htime : types["time"]? = none)
    (hdeclared : ∀ (f : String) v, row[f]? = some v → types[f]? = some v.type)
    (hfinite : ∀ (f : String) v, row[f]? = some v → IsFinite v) :
    decodedFields types time row = row := by
  refine Std.ExtTreeMap.ext_getElem? fun f => ?_
  rw [getElem?_decodedFields, Std.ExtTreeMap.getElem?_insert]
  by_cases heq : compare "time" f = .eq
  · obtain rfl := Std.LawfulEqCmp.eq_of_compare heq
    rw [if_pos heq, Option.bind_some, htime, Option.bind_none]
    cases hrow : row["time"]? with
    | none => rfl
    | some v => exact absurd (htime.symm.trans (hdeclared _ v hrow)) (by simp)
  · rw [if_neg heq]
    cases hrow : row[f]? with
    | none => rfl
    | some v =>
      rw [Option.bind_some, hdeclared f v hrow, Option.bind_some,
        decodeCell?_toJson (hfinite f v hrow)]

end SeriesReplica.Schema
