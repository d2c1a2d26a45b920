import Mathlib.Data.Finset.Card
import SeriesReplica.Node.Store

/-! What a policy holds, row by row. A point that fits the declared types is always taken: it
overlays one row, declares the types of its fields and changes nothing else. -/
namespace SeriesReplica.Node
open Point Query Schema

/-- Where a row stands in a policy. -/
structure RowKey where
  measurement : String
  tags : Tags
  timestamp : Int64
  deriving DecidableEq

/-- The row that a point is for. -/
def RowKey.ofPoint (p : Point) : RowKey := ⟨p.measurement, p.tags, p.timestamp⟩

/-- A row with other fields written over it. -/
def overlay (row fields : Fields) : Fields := row.insertMany fields.toList

theorem getElem?_overlay (row fields : Fields) (f : String) :
    (overlay row fields)[f]? = (fields[f]?).or row[f]? := by
  match h : fields[f]? with
  | some v =>
    exact Std.ExtTreeMap.getElem?_insertMany_list_of_mem Std.ReflCmp.compare_self
      fields.distinct_keys_toList (Std.ExtTreeMap.mem_toList_iff_getElem?_eq_some.2 h)
  | none =>
    refine Std.ExtTreeMap.getElem?_insertMany_list_of_contains_eq_false ?_
    rw [Std.ExtTreeMap.map_fst_toList_eq_keys, Std.ExtTreeMap.contains_keys,
      Std.ExtTreeMap.contains_eq_isSome_getElem?, h]
    rfl

theorem overlay_overlay (row fields : Fields) :
    overlay (overlay row fields) fields = overlay row fields := by
  refine Std.ExtTreeMap.ext_getElem? fun f => ?_
  rw [getElem?_overlay, getElem?_overlay]
  cases fields[f]? <;> rfl

theorem empty_overlay (fields : Fields) : overlay ∅ fields = fields := by
  refine Std.ExtTreeMap.ext_getElem? fun f => ?_
  rw [getElem?_overlay]
  cases fields[f]? <;> simp

namespace StoredMeasurement

/-- The row of a tag set at a time. -/
def row? (m : StoredMeasurement) (tags : Tags) (time : Int64) : Option Fields :=
  m.series[tags]?.bind (·[time]?)

@[simp] theorem row?_empty (tags : Tags) (time : Int64) : empty.row? tags time = none := by
  simp [row?, empty]

theorem row?_putRow (m : StoredMeasurement) (tags : Tags) (time : Int64) (fields : Fields)
    (tags' : Tags) (time' : Int64) :
    (m.putRow tags time fields).row? tags' time' =
      if tags' = tags ∧ time' = time then some (overlay ((m.row? tags time).getD ∅) fields)
      else m.row? tags' time' := by
  simp only [row?, putRow, Std.ExtTreeMap.getElem?_insert, Std.LawfulEqCmp.compare_eq_iff_eq]
  by_cases htags : tags = tags'
  · subst htags
    simp only [true_and, if_true, Option.bind_some, Std.ExtTreeMap.getElem?_insert,
      Std.LawfulEqCmp.compare_eq_iff_eq]
    by_cases htime : time = time'
    · subst htime
      simp only [if_true]
      cases m.series[tags]? <;> simp [overlay]
    · rw [if_neg htime, if_neg (Ne.symm htime)]
      cases m.series[tags]? <;> simp
  · rw [if_neg htags, if_neg fun h => htags h.1.symm]

/-- Declared types stay, new ones are those of the fields, and without a conflict each field has
its type declared. -/
theorem declareFields_spec (types : FieldTypes) (l : List (String × FieldValue)) :
    (∀ (f : String) t, types[f]? = some t → (declareFields types l).1[f]? = some t) ∧
      (∀ (f : String) t, (declareFields types l).1[f]? = some t →
        types[f]? = some t ∨ ∃ v, (f, v) ∈ l ∧ v.type = t) ∧
      ((declareFields types l).2 = none →
        ∀ f v, (f, v) ∈ l → (declareFields types l).1[f]? = some v.type) := by
  induction l generalizing types with
  | nil => simp [declareFields]
  | cons head l ih =>
    obtain ⟨k, v⟩ := head
    rw [declareFields]
    match hk : types[k]? with
    | none =>
      obtain ⟨hkept, hnew, hdeclared⟩ := ih (types.insert k v.type)
      have hself : (types.insert k v.type)[k]? = some v.type := by simp
      refine ⟨fun f t hf => hkept f t ?_, fun f t hf => ?_, fun hnone f u hu => ?_⟩
      · rw [Std.ExtTreeMap.getElem?_insert, if_neg, hf]
        rintro heq
        rw [Std.LawfulEqCmp.eq_of_compare heq, hf] at hk
        cases hk
      · rcases hnew f t hf with hold | ⟨u, hu, ht⟩
        · rw [Std.ExtTreeMap.getElem?_insert] at hold
          by_cases heq : compare k f = .eq
          · obtain rfl := Std.LawfulEqCmp.eq_of_compare heq
            rw [if_pos heq] at hold
            exact .inr ⟨v, List.mem_cons_self, Option.some.inj hold⟩
          · rw [if_neg heq] at hold
            exact .inl hold
        · exact .inr ⟨u, List.mem_cons_of_mem _ hu, ht⟩
      · rcases List.mem_cons.1 hu with heq | hu
        · cases heq
          exact hkept k v.type hself
        · exact hdeclared hnone f u hu
    | some t =>
      by_cases ht : t = v.type
      · obtain ⟨hkept, hnew, hdeclared⟩ := ih types
        simp only [if_pos ht]
        refine ⟨hkept, fun f u hf => ?_, fun hnone f u hu => ?_⟩
        · exact (hnew f u hf).imp_right fun ⟨w, hw, hu⟩ => ⟨w, List.mem_cons_of_mem _ hw, hu⟩
        · rcases List.mem_cons.1 hu with heq | hu
          · cases heq
            exact hkept k v.type (ht ▸ hk)
          · exact hdeclared hnone f u hu
      · simp only [if_neg ht]
        exact ⟨fun f u hf => hf, fun f u hf => .inl hf, fun hnone => nomatch hnone⟩

/-- Fields that do not contradict the declared types, nor each other, make no conflict. -/
theorem declareFields_fits {types : FieldTypes} {l : List (String × FieldValue)}
    (hdistinct : l.Pairwise fun a b => a.1 ≠ b.1)
    (hfits : ∀ f v t, (f, v) ∈ l → types[f]? = some t → t = v.type) :
    (declareFields types l).2 = none := by
  induction l generalizing types with
  | nil => rfl
  | cons head l ih =>
    obtain ⟨k, v⟩ := head
    obtain ⟨hhead, htail⟩ := List.pairwise_cons.1 hdistinct
    rw [declareFields]
    match hk : types[k]? with
    | none =>
      refine ih htail fun f u t hu hf => hfits f u t (List.mem_cons_of_mem _ hu) ?_
      rwa [Std.ExtTreeMap.getElem?_insert, if_neg] at hf
      exact fun heq => hhead (f, u) hu (Std.LawfulEqCmp.eq_of_compare heq)
    | some t =>
      have ht := hfits k v t List.mem_cons_self hk
      simp only [if_pos ht]
      exact ih htail fun f u t hu hf => hfits f u t (List.mem_cons_of_mem _ hu) hf

/-- A point whose fields have the types that are declared for them. -/
def Fits (m : StoredMeasurement) (fields : Fields) : Prop :=
  ∀ (f : String) v t, fields[f]? = some v → m.types[f]? = some t → t = v.type

/-- A point that fits is taken: it overlays its row and declares the types of its fields. -/
theorem write_fits {m : StoredMeasurement} {p : Point} (h : m.Fits p.fields) :
    (m.write p).2 = none ∧
      (∀ tags time, (m.write p).1.row? tags time =
        if tags = p.tags ∧ time = p.timestamp then
          some (overlay ((m.row? p.tags p.timestamp).getD ∅) p.fields)
        else m.row? tags time) ∧
      ∀ (f : String) t, (m.write p).1.types[f]? = some t ↔
        m.types[f]? = some t ∨ ∃ v, p.fields[f]? = some v ∧ v.type = t := by
  have hmem : ∀ f v, (f, v) ∈ p.fields.toList ↔ p.fields[f]? = some v :=
    fun f v => Std.ExtTreeMap.mem_toList_iff_getElem?_eq_some
  have hnone : (declareFields m.types p.fields.toList).2 = none := by
    refine declareFields_fits ?_ fun f v t hv ht => h f v t ((hmem f v).1 hv) ht
    exact p.fields.distinct_keys_toList.imp fun hne heq =>
      hne (Std.LawfulEqCmp.compare_eq_iff_eq.2 heq)
  obtain ⟨hkept, hnew, hdeclared⟩ := declareFields_spec m.types p.fields.toList
  have hwrite : m.write p = (putRow { m with types := (declareFields m.types
      p.fields.toList).1 } p.tags p.timestamp p.fields, none) := by
    simp only [write, hnone]
  rw [hwrite]
  refine ⟨rfl, fun tags time => row?_putRow _ _ _ _ _ _, fun f t => ⟨fun hf => ?_, fun hf => ?_⟩⟩
  · rcases hnew f t hf with hf | ⟨v, hv, ht⟩
    · exact .inl hf
    · exact .inr ⟨v, (hmem f v).1 hv, ht⟩
  · rcases hf with hf | ⟨v, hv, rfl⟩
    · exact hkept f t hf
    · exact hdeclared hnone f v ((hmem f v).2 hv)

end StoredMeasurement

namespace StoredPolicy

/-- The row at a key. -/
def row? (p : StoredPolicy) (k : RowKey) : Option Fields :=
  p.measurements[k.measurement]?.bind (·.row? k.tags k.timestamp)

/-- The declared type of a field of a measurement. -/
def type? (p : StoredPolicy) (measurement field : String) : Option FieldType :=
  p.measurements[measurement]?.bind (·.types[field]?)

private theorem row?_getD (p : StoredPolicy) (measurement : String) (tags : Tags) (time : Int64) :
    (p.measurements[measurement]?.getD .empty).row? tags time =
      p.row? ⟨measurement, tags, time⟩ := by
  rw [row?]
  cases p.measurements[measurement]? <;> simp

private theorem type?_getD (p : StoredPolicy) (measurement field : String) :
    (p.measurements[measurement]?.getD .empty).types[field]? = p.type? measurement field := by
  rw [type?]
  cases p.measurements[measurement]? <;> simp [StoredMeasurement.empty]

/-- A policy after rows of it have been overlaid: the rows at the keys of `U` have the given
fields written over them, the types of these fields are declared, and the rest is as before. -/
structure Overlaid (before : StoredPolicy) (fields : RowKey → Fields) (U : Finset RowKey)
    (after : StoredPolicy) : Prop where
  spec_eq : after.spec = before.spec
  row?_eq : ∀ k, after.row? k =
    if k ∈ U then some (overlay ((before.row? k).getD ∅) (fields k)) else before.row? k
  type?_iff : ∀ m f t, after.type? m f = some t ↔
    before.type? m f = some t ∨
      ∃ k ∈ U, k.measurement = m ∧ ∃ v, (fields k)[f]? = some v ∧ v.type = t

theorem Overlaid.refl (p : StoredPolicy) (fields : RowKey → Fields) : p.Overlaid fields ∅ p where
  spec_eq := rfl
  row?_eq k := by simp
  type?_iff m f t := by simp

variable {before after : StoredPolicy} {fields : RowKey → Fields} {U : Finset RowKey}

/-- The types of all fields that are written agree with each other and with those declared. -/
def Typed (before : StoredPolicy) (fields : RowKey → Fields) : Prop :=
  ∃ types : String → String → Option FieldType,
    (∀ k (f : String) v, (fields k)[f]? = some v → types k.measurement f = some v.type) ∧
    ∀ m f t t', before.type? m f = some t → types m f = some t' → t = t'

/-- A point with the fields of its row is taken. -/
theorem Overlaid.write_cons (h : before.Overlaid fields U after) (htyped : before.Typed fields)
    {p : Point} (hfields : p.fields = fields (.ofPoint p)) (hne : p.fields.isEmpty = false)
    (rest : List Point) :
    ∃ after', after.write (p :: rest) = after'.write rest ∧
      before.Overlaid fields (insert (.ofPoint p) U) after' := by
  obtain ⟨types, htypes, hbefore⟩ := htyped
  set m := after.measurements[p.measurement]?.getD .empty with hm
  have hfits : m.Fits p.fields := by
    intro f v t hv ht
    rw [hfields] at hv
    rw [hm, type?_getD, h.type?_iff] at ht
    rcases ht with ht | ⟨k, -, hk, u, hu, rfl⟩
    · exact hbefore _ f t v.type ht (htypes _ f v hv)
    · have heq := (htypes k f u hu).symm
      rw [hk] at heq
      exact Option.some.inj (heq.trans (htypes (.ofPoint p) f v hv))
  obtain ⟨hnone, hrows, hdeclared⟩ := StoredMeasurement.write_fits hfits
  refine ⟨{ after with measurements := after.measurements.insert p.measurement (m.write p).1 },
    ?_, h.spec_eq, fun k => ?_, fun n f t => ?_⟩
  · rw [StoredPolicy.write, if_neg (by simp [hne])]
    simp only [← hm, hnone]
  · rw [row?, Std.ExtTreeMap.getElem?_insert]
    by_cases hkey : k = .ofPoint p
    · have hback : ∀ row : Option Fields,
          some (overlay ((if k ∈ U then some (overlay (row.getD ∅) (fields k)) else row).getD ∅)
            (fields k)) = some (overlay (row.getD ∅) (fields k)) := by
        intro row
        split
        · rw [Option.getD_some, overlay_overlay]
        · rfl
      rw [if_pos (by simp [hkey, RowKey.ofPoint]), Option.bind_some, hrows,
        if_pos (by simp [hkey, RowKey.ofPoint]), if_pos (by simp [hkey]), hm, row?_getD,
        show RowKey.mk p.measurement p.tags p.timestamp = k from hkey.symm, h.row?_eq, hfields,
        ← hkey, hback]
    · have hmem : k ∈ insert (.ofPoint p) U ↔ k ∈ U := by simp [hkey]
      simp only [hmem, ← h.row?_eq]
      by_cases hk : p.measurement = k.measurement
      · rw [if_pos (Std.LawfulEqCmp.compare_eq_iff_eq.2 hk), Option.bind_some, hrows, if_neg, hm,
          row?_getD, hk]
        rintro ⟨htags, htime⟩
        exact hkey (by cases k; simp_all [RowKey.ofPoint])
      · rw [if_neg fun heq => hk (Std.LawfulEqCmp.eq_of_compare heq)]
        rfl
  · have hinsert : (∃ k ∈ insert (.ofPoint p) U, k.measurement = n ∧
        ∃ v, (fields k)[f]? = some v ∧ v.type = t) ↔
        (p.measurement = n ∧ ∃ v, p.fields[f]? = some v ∧ v.type = t) ∨
          ∃ k ∈ U, k.measurement = n ∧ ∃ v, (fields k)[f]? = some v ∧ v.type = t := by
      rw [Finset.exists_mem_insert, hfields]
      rfl
    rw [hinsert, or_left_comm, ← h.type?_iff, type?, Std.ExtTreeMap.getElem?_insert]
    by_cases hn : p.measurement = n
    · subst hn
      rw [if_pos Std.ReflCmp.compare_self, Option.bind_some, hdeclared, hm, type?_getD, or_comm]
      simp only [true_and]
    · rw [if_neg fun heq => hn (Std.LawfulEqCmp.eq_of_compare heq)]
      simp only [hn, false_and, false_or]
      rfl

/-- Points with the fields of their rows are all taken. -/
theorem Overlaid.write (h : before.Overlaid fields U after) (htyped : before.Typed fields)
    {ps : List Point} (hps : ∀ p ∈ ps, p.fields = fields (.ofPoint p) ∧ p.fields.isEmpty = false) :
    ∃ after', after.write ps = (after', .ok ()) ∧
      before.Overlaid fields (U ∪ (ps.map .ofPoint).toFinset) after' := by
  induction ps generalizing U after with
  | nil => exact ⟨after, rfl, by simpa using h⟩
  | cons p rest ih =>
    obtain ⟨hfields, hne⟩ := hps p List.mem_cons_self
    obtain ⟨mid, hwrite, hmid⟩ := h.write_cons htyped hfields hne rest
    obtain ⟨last, hrest, hlast⟩ := ih hmid fun q hq => hps q (List.mem_cons_of_mem _ hq)
    refine ⟨last, hwrite.trans hrest, ?_⟩
    rwa [List.map_cons, List.toFinset_cons, Finset.union_insert, ← Finset.insert_union]

end StoredPolicy

namespace Store

theorem database?_put_self (s : Store) (n : String) (d : StoredDatabase) :
    (s.put n d).database? n = some d := by
  rw [database?, put, Std.ExtTreeMap.getElem?_insert_self]

theorem database?_put_ne (s : Store) {n m : String} (h : m ≠ n) (d : StoredDatabase) :
    (s.put n d).database? m = s.database? m := by
  rw [database?, put, Std.ExtTreeMap.getElem?_insert,
    if_neg fun heq => h (Std.LawfulEqCmp.eq_of_compare heq).symm]
  rfl

theorem put_put (s : Store) (n : String) (d e : StoredDatabase) :
    (s.put n d).put n e = s.put n e := by
  refine congrArg Store.mk (Std.ExtTreeMap.ext_getElem? fun m => ?_)
  change ((s.databases.insert n d).insert n e)[m]? = (s.databases.insert n e)[m]?
  simp only [Std.ExtTreeMap.getElem?_insert]
  split <;> rfl

/-- The row at a key of a policy. -/
def row? (s : Store) (database policy : String) (k : RowKey) : Option Fields :=
  (s.policy? database policy).bind (·.row? k)

theorem row?_eq_measurement (s : Store) (database policy : String) (k : RowKey) :
    s.row? database policy k =
      (s.measurement? database policy k.measurement).bind (·.row? k.tags k.timestamp) := by
  rw [row?, measurement?]
  cases s.policy? database policy <;> rfl

/-- A store after rows of one policy have been overlaid; the rest of it is as before. -/
structure Overlaid (before : Store) (database policy : String) (fields : RowKey → Fields)
    (U : Finset RowKey) (after : Store) : Prop where
  others : ∀ d, d ≠ database → after.database? d = before.database? d
  overlaid : ∃ d d' p p', before.database? database = some d ∧
    after.database? database = some d' ∧ d'.default = d.default ∧
    (∀ q, q ≠ policy → d'.policies[q]? = d.policies[q]?) ∧
    d.policies[policy]? = some p ∧ d'.policies[policy]? = some p' ∧ p.Overlaid fields U p'

variable {before after : Store} {database policy : String} {fields : RowKey → Fields}
  {U : Finset RowKey}

theorem Overlaid.refl {p : StoredPolicy} (hp : before.policy? database policy = some p)
    (fields : RowKey → Fields) : before.Overlaid database policy fields ∅ before := by
  obtain ⟨d, hd, hp⟩ := Option.bind_eq_some_iff.1 hp
  exact ⟨fun _ _ => rfl, d, d, p, p, hd, hd, rfl, fun _ _ => rfl, hp, hp, .refl p fields⟩

/-- The rows of a policy that has been overlaid. -/
theorem Overlaid.row?_eq (h : before.Overlaid database policy fields U after) (k : RowKey) :
    after.row? database policy k =
      if k ∈ U then some (overlay ((before.row? database policy k).getD ∅) (fields k))
      else before.row? database policy k := by
  obtain ⟨d, d', p, p', hd, hd', -, -, hp, hp', hover⟩ := h.overlaid
  simp only [row?, policy?, hd, hd', Option.bind_some, hp, hp', hover.row?_eq]

/-- Any other policy is as it was. -/
theorem Overlaid.policy?_ne (h : before.Overlaid database policy fields U after) {d p : String}
    (hne : (d, p) ≠ (database, policy)) : after.policy? d p = before.policy? d p := by
  obtain ⟨e, e', q, q', he, he', -, hpolicies, -, -, -⟩ := h.overlaid
  by_cases hd : d = database
  · subst hd
    rw [policy?, policy?, he, he', Option.bind_some, Option.bind_some]
    exact hpolicies p fun hp => hne (by rw [hp])
  · rw [policy?, policy?, h.others d hd]

/-- A batch of points with the fields of their rows is taken. -/
theorem Overlaid.write (h : before.Overlaid database policy fields U after)
    (hname : policy ≠ "")
    (htyped : ∀ p, before.policy? database policy = some p → p.Typed fields)
    {ps : List Point} (hps : ∀ p ∈ ps, p.fields = fields (.ofPoint p) ∧ p.fields.isEmpty = false) :
    ∃ after', after.write ⟨database, policy, ps⟩ = (after', .ok ()) ∧
      before.Overlaid database policy fields (U ∪ (ps.map .ofPoint).toFinset) after' := by
  obtain ⟨d, d', p, p', hd, hd', hdefault, hpolicies, hp, hp', hover⟩ := h.overlaid
  have hpolicy : before.policy? database policy = some p := by
    rw [policy?, hd, Option.bind_some, hp]
  obtain ⟨last, hwrite, hlast⟩ := hover.write (htyped p hpolicy) hps
  refine ⟨after.put database { d' with policies := d'.policies.insert policy last }, ?_,
    fun e he => ?_, d, { d' with policies := d'.policies.insert policy last }, p, last, hd, ?_,
    hdefault, fun q hq => ?_, hp, ?_, hlast⟩
  · simp only [Store.write, hd', StoredDatabase.addressed, if_neg hname, hp', hwrite]
  · rw [database?_put_ne after he, h.others e he]
  · rw [database?_put_self]
  · rw [Std.ExtTreeMap.getElem?_insert,
      if_neg fun heq => hq (Std.LawfulEqCmp.eq_of_compare heq).symm]
    exact hpolicies q hq
  · rw [Std.ExtTreeMap.getElem?_insert_self]

end Store
end SeriesReplica.Node
