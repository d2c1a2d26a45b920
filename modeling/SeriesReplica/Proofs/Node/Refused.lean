import Mathlib.Data.String.Basic
import SeriesReplica.Proofs.Node.Contents
import SeriesReplica.Proofs.Node.Reachable

/-! What is left of a point that is refused. The types of its fields are declared one by one in
the order of their names, and its row is written after the last of them. A conflict ends this half
way: no row is written, and the types declared ahead of the conflict stay. -/
namespace SeriesReplica.Node
open Point Query Schema

namespace StoredMeasurement

/-- A conflict cuts the fields in two. Those ahead of it are declared without a conflict, and no
other is declared. -/
theorem declareFields_conflict {types : FieldTypes} {l : List (String × FieldValue)}
    {c : TypeConflict} (h : (declareFields types l).2 = some c) :
    ∃ ahead v behind, l = ahead ++ (c.field, v) :: behind ∧ v.type = c.written ∧
      declareFields types ahead = ((declareFields types l).1, none) ∧
      (declareFields types ahead).1[c.field]? = some c.declared ∧ c.declared ≠ c.written := by
  induction l generalizing types with
  | nil => cases h
  | cons head l ih =>
    obtain ⟨k, v⟩ := head
    rw [declareFields] at h ⊢
    cases hk : types[k]? with
    | none =>
      simp only [hk] at h
      obtain ⟨ahead, w, behind, hl, hw, hahead, hc⟩ := ih h
      refine ⟨(k, v) :: ahead, w, behind, by rw [hl, List.cons_append], hw, ?_, ?_⟩
      · simp only [declareFields, hk]
        exact hahead
      · simp only [declareFields, hk]
        exact hc
    | some t =>
      by_cases ht : t = v.type
      · simp only [hk, if_pos ht] at h
        obtain ⟨ahead, w, behind, hl, hw, hahead, hc⟩ := ih h
        refine ⟨(k, v) :: ahead, w, behind, by rw [hl, List.cons_append], hw, ?_, ?_⟩
        · simp only [declareFields, hk, if_pos ht]
          exact hahead
        · simp only [declareFields, hk, if_pos ht]
          exact hc
      · simp only [hk, if_neg ht] at h
        cases h
        refine ⟨[], v, l, rfl, rfl, ?_, hk, ht⟩
        simp only [declareFields, if_neg ht]

/-- The names of fields increase, so those ahead of one of them are the smaller ones. -/
theorem mem_ahead {fields : Fields} {ahead behind : List (String × FieldValue)} {k : String}
    {v : FieldValue} (h : fields.toList = ahead ++ (k, v) :: behind) (f : String)
    (u : FieldValue) : (f, u) ∈ ahead ↔ f < k ∧ fields[f]? = some u := by
  have hordered := fields.ordered_keys_toList
  rw [h] at hordered
  obtain ⟨-, hbehind, hacross⟩ := List.pairwise_append.1 hordered
  have hafter := (List.pairwise_cons.1 hbehind).1
  rw [← Std.ExtTreeMap.mem_toList_iff_getElem?_eq_some, h, List.mem_append]
  constructor
  · intro hfu
    exact ⟨compare_lt_iff_lt.1 (hacross _ hfu _ List.mem_cons_self), .inl hfu⟩
  · rintro ⟨hlt, hfu | hfu⟩
    · exact hfu
    · rcases List.mem_cons.1 hfu with heq | hfu
      · cases heq
        exact absurd hlt (lt_irrefl _)
      · exact absurd (compare_lt_iff_lt.1 (hafter _ hfu)) (lt_asymm hlt)

/-- The conflict of a point with a measurement is at the first of its fields, by their names, that
is declared with another type. -/
structure Refuses (m : StoredMeasurement) (fields : Fields) (c : TypeConflict) : Prop where
  written : ∃ v, fields[c.field]? = some v ∧ v.type = c.written
  declared : m.types[c.field]? = some c.declared
  differs : c.declared ≠ c.written
  first : ∀ (f : String) v t, f < c.field → fields[f]? = some v → m.types[f]? = some t →
    t = v.type

/-- A measurement with the types of some fields declared, those with names up to a given one. Its
rows are as before. -/
structure Marked (before : StoredMeasurement) (fields : Fields) (bound : String)
    (after : StoredMeasurement) : Prop where
  series_eq : after.series = before.series
  type_iff : ∀ (f : String) t, after.types[f]? = some t ↔
    before.types[f]? = some t ∨ f < bound ∧ ∃ v, fields[f]? = some v ∧ v.type = t

/-- Nothing is left of the fields exactly if all of them had been declared. -/
theorem Marked.eq_iff {before after : StoredMeasurement} {fields : Fields} {bound : String}
    (h : before.Marked fields bound after) :
    after = before ↔ ∀ f : String, f < bound → f ∈ fields → f ∈ before.types := by
  constructor
  · intro heq f hbound hf
    obtain ⟨v, hv⟩ := Option.isSome_iff_exists.1 (Std.ExtTreeMap.mem_iff_isSome_getElem?.1 hf)
    have hdeclared : after.types[f]? = some v.type :=
      (h.type_iff f v.type).2 (.inr ⟨hbound, v, hv, rfl⟩)
    rw [heq] at hdeclared
    rw [Std.ExtTreeMap.mem_iff_isSome_getElem?, hdeclared]
    rfl
  · intro hall
    have htypes : after.types = before.types := by
      apply Std.ExtTreeMap.ext_getElem?
      intro f
      apply Option.ext
      intro t
      refine ⟨fun hafter => ?_, fun hbefore => (h.type_iff f t).2 (.inl hbefore)⟩
      rcases (h.type_iff f t).1 hafter with hbefore | ⟨hbound, v, hv, rfl⟩
      · exact hbefore
      · have hmem : f ∈ fields := by
          rw [Std.ExtTreeMap.mem_iff_isSome_getElem?, hv]
          rfl
        -- The field was declared, and its declaration is the one that stands afterwards.
        obtain ⟨t, ht⟩ := Option.isSome_iff_exists.1
          (Std.ExtTreeMap.mem_iff_isSome_getElem?.1 (hall f hbound hmem))
        have hsame := ((h.type_iff f t).2 (.inl ht)).symm.trans hafter
        rw [ht, hsame]
    obtain ⟨types, series⟩ := before
    obtain ⟨types', series'⟩ := after
    obtain rfl : types' = types := htypes
    obtain rfl : series' = series := h.series_eq
    rfl

/-- A point that is refused is refused at its first conflict, and the fields ahead of it are
declared. -/
theorem write_conflict {m : StoredMeasurement} {p : Point} {c : TypeConflict}
    (h : (m.write p).2 = some c) :
    m.Refuses p.fields c ∧ m.Marked p.fields c.field (m.write p).1 := by
  have hconflict : (declareFields m.types p.fields.toList).2 = some c := by
    rw [write] at h
    cases hdeclared : (declareFields m.types p.fields.toList).2 with
    | none => simp [hdeclared] at h
    | some c' => simpa only [hdeclared] using h
  have hwrite : (m.write p).1 =
      { m with types := (declareFields m.types p.fields.toList).1 } := by
    simp only [write, hconflict]
  obtain ⟨ahead, v, behind, hl, hv, hahead, hdeclared, hdiffers⟩ :=
    declareFields_conflict hconflict
  have hsplit := mem_ahead hl
  have htypes : (declareFields m.types ahead).1 = (declareFields m.types p.fields.toList).1 := by
    rw [hahead]
  obtain ⟨hkept, hnew, hall⟩ := declareFields_spec m.types ahead
  have hnone : (declareFields m.types ahead).2 = none := by rw [hahead]
  have htype : ∀ (f : String) t, (m.write p).1.types[f]? = some t ↔
      m.types[f]? = some t ∨ f < c.field ∧ ∃ v, p.fields[f]? = some v ∧ v.type = t := by
    intro f t
    rw [hwrite, ← htypes]
    constructor
    · intro hf
      refine (hnew f t hf).imp_right ?_
      rintro ⟨u, hu, ht⟩
      obtain ⟨hlt, hu⟩ := (hsplit f u).1 hu
      exact ⟨hlt, u, hu, ht⟩
    · rintro (hf | ⟨hlt, u, hu, rfl⟩)
      · exact hkept f t hf
      · exact hall hnone f u ((hsplit f u).2 ⟨hlt, hu⟩)
  refine ⟨⟨⟨v, ?_, hv⟩, ?_, hdiffers, ?_⟩, by rw [hwrite], htype⟩
  · rw [← Std.ExtTreeMap.mem_toList_iff_getElem?_eq_some, hl]
    exact List.mem_append_right _ List.mem_cons_self
  · rw [htypes] at hdeclared
    have hold := (htype c.field c.declared).1 (by rw [hwrite]; exact hdeclared)
    exact hold.resolve_right fun hlt => lt_irrefl _ hlt.1
  · intro f u t hlt hu ht
    have hu := hall hnone f u ((hsplit f u).2 ⟨hlt, hu⟩)
    exact Option.some.inj ((hkept f t ht).symm.trans hu)

end StoredMeasurement

section Entries
variable {β : Type} {t : Std.ExtTreeMap String β} {k : String} {v w : β}

/-- Of two entries put in one place the second stays. -/
private theorem insert_twice : (t.insert k v).insert k w = t.insert k w := by
  apply Std.ExtTreeMap.ext_getElem?
  intro j
  simp only [Std.ExtTreeMap.getElem?_insert]
  split <;> rfl

/-- An entry put in the place of another changes nothing exactly if it is the same. -/
private theorem insert_eq_iff (h : t[k]? = some v) : t.insert k w = t ↔ w = v := by
  constructor
  · intro heq
    rw [← heq, Std.ExtTreeMap.getElem?_insert_self] at h
    exact Option.some.inj h
  · rintro rfl
    apply Std.ExtTreeMap.ext_getElem?
    intro j
    rw [Std.ExtTreeMap.getElem?_insert]
    split
    case isTrue heq => rw [← Std.LawfulEqCmp.eq_of_compare heq, h]
    case isFalse => rfl

end Entries

/-- A policy with a measurement put in it. -/
def StoredPolicy.putMeasurement (q : StoredPolicy) (n : String) (m : StoredMeasurement) :
    StoredPolicy :=
  { q with measurements := q.measurements.insert n m }

/-- A measurement put in the place of another changes nothing exactly if it is the same. -/
theorem StoredPolicy.putMeasurement_eq_iff {q : StoredPolicy} {n : String}
    {m m' : StoredMeasurement} (h : q.measurements[n]? = some m) :
    q.putMeasurement n m' = q ↔ m' = m := by
  rw [← insert_eq_iff h]
  exact ⟨congrArg StoredPolicy.measurements, congrArg (StoredPolicy.mk q.spec)⟩

/-- A database with a policy put in it. -/
def StoredDatabase.putPolicy (d : StoredDatabase) (n : String) (q : StoredPolicy) :
    StoredDatabase :=
  { d with policies := d.policies.insert n q }

@[simp] theorem StoredDatabase.addressed_putPolicy (d : StoredDatabase) (n : String)
    (q : StoredPolicy) (policy : String) :
    (d.putPolicy n q).addressed policy = d.addressed policy := rfl

theorem StoredDatabase.putPolicy_putPolicy (d : StoredDatabase) (n : String)
    (q q' : StoredPolicy) : (d.putPolicy n q).putPolicy n q' = d.putPolicy n q' :=
  congrArg (StoredDatabase.mk d.default) insert_twice

/-- A policy put in the place of another changes nothing exactly if it is the same. -/
theorem StoredDatabase.putPolicy_eq_iff {d : StoredDatabase} {n : String} {q q' : StoredPolicy}
    (h : d.policies[n]? = some q) : d.putPolicy n q' = d ↔ q' = q := by
  rw [← insert_eq_iff h]
  exact ⟨congrArg StoredDatabase.policies, congrArg (StoredDatabase.mk d.default)⟩

/-- A database put in the place of another changes nothing exactly if it is the same. -/
theorem Store.put_eq_iff {s : Store} {n : String} {d d' : StoredDatabase}
    (h : s.database? n = some d) : s.put n d' = s ↔ d' = d := by
  rw [← insert_eq_iff h]
  exact ⟨congrArg Store.databases, congrArg Store.mk⟩

namespace StoredPolicy

/-- A batch that is refused ends at a point of it. The points before are stored, and the point is
refused by what its measurement then holds. -/
theorem write_error {p : StoredPolicy} {ps : List Point} {e : StoreError}
    (h : (p.write ps).2 = .error e) :
    ∃ before pt after mid c, ps = before ++ pt :: after ∧ p.write before = (mid, .ok ()) ∧
      ((mid.measurements[pt.measurement]?.getD .empty).write pt).2 = some c ∧
      e = .conflict pt.measurement c ∧
      (p.write ps).1 = mid.putMeasurement pt.measurement
        ((mid.measurements[pt.measurement]?.getD .empty).write pt).1 := by
  induction ps generalizing p with
  | nil => cases h
  | cons pt rest ih =>
    by_cases hempty : pt.fields.isEmpty = true
    · have hskip : ∀ qs, p.write (pt :: qs) = p.write qs := by
        intro qs
        rw [write, if_pos hempty]
      rw [hskip] at h ⊢
      obtain ⟨before, q, after, mid, c, hrest, hbefore, hq⟩ := ih h
      refine ⟨pt :: before, q, after, mid, c, by rw [hrest, List.cons_append], ?_, hq⟩
      rw [hskip, hbefore]
    · cases hconflict : ((p.measurements[pt.measurement]?.getD .empty).write pt).2 with
      | some c =>
        have hwrite : p.write (pt :: rest) = ({ p with
            measurements := p.measurements.insert pt.measurement
              ((p.measurements[pt.measurement]?.getD .empty).write pt).1 },
            .error (.conflict pt.measurement c)) := by
          rw [write, if_neg hempty]
          simp only [hconflict]
        rw [hwrite] at h ⊢
        refine ⟨[], pt, rest, p, c, rfl, rfl, hconflict, ?_, rfl⟩
        cases h
        rfl
      | none =>
        have htake : ∀ qs, p.write (pt :: qs) = write { p with
            measurements := p.measurements.insert pt.measurement
              ((p.measurements[pt.measurement]?.getD .empty).write pt).1 } qs := by
          intro qs
          rw [write, if_neg hempty]
          simp only [hconflict]
        rw [htake] at h ⊢
        obtain ⟨before, q, after, mid, c, hrest, hbefore, hq⟩ := ih h
        refine ⟨pt :: before, q, after, mid, c, by rw [hrest, List.cons_append], ?_, hq⟩
        rw [htake, hbefore]

end StoredPolicy

namespace Store

/-- A store after a point was refused by one of its measurements. It differs only in that
measurement, and there only in the types of the point's fields ahead of the conflict. -/
def Leftover (before : Store) (database policy : String) (p : Point) (c : TypeConflict)
    (after : Store) : Prop :=
  ∃ d q m m', before.database? database = some d ∧ d.policies[d.addressed policy]? = some q ∧
    q.measurements[p.measurement]? = some m ∧ m.Refuses p.fields c ∧
    m.Marked p.fields c.field m' ∧
    after = before.put database
      (d.putPolicy (d.addressed policy) (q.putMeasurement p.measurement m')) ∧
    -- Something is left unless all these fields had been declared.
    (after = before ↔ ∀ f : String, f < c.field → f ∈ p.fields → f ∈ m.types)

/-- Writing to a policy of a store. -/
theorem write_of_found {s : Store} {database policy : String} {d : StoredDatabase}
    {q : StoredPolicy} (hd : s.database? database = some d)
    (hq : d.policies[d.addressed policy]? = some q) (ps : List Point) :
    s.write ⟨database, policy, ps⟩ =
      (s.put database (d.putPolicy (d.addressed policy) (q.write ps).1), (q.write ps).2) := by
  simp only [write, hd, hq, StoredDatabase.putPolicy]

/-- A point that is refused by a policy leaves the store so. -/
theorem leftover_of_conflict {s : Store} {database : String} {d : StoredDatabase}
    {q : StoredPolicy} {p : Point} {c : TypeConflict} (policy : String)
    (hd : s.database? database = some d)
    (hq : d.policies[d.addressed policy]? = some q)
    (hconflict : ((q.measurements[p.measurement]?.getD .empty).write p).2 = some c) :
    s.Leftover database policy p c (s.put database (d.putPolicy (d.addressed policy)
      (q.putMeasurement p.measurement
        ((q.measurements[p.measurement]?.getD .empty).write p).1))) := by
  obtain ⟨hrefuses, hmarked⟩ := StoredMeasurement.write_conflict hconflict
  -- A measurement that is not there declares nothing, and so refuses nothing.
  obtain ⟨m, hm⟩ : ∃ m, q.measurements[p.measurement]? = some m := by
    cases hm : q.measurements[p.measurement]? with
    | some m => exact ⟨m, rfl⟩
    | none =>
      have hdeclared := hrefuses.declared
      rw [hm] at hdeclared
      simp [StoredMeasurement.empty] at hdeclared
  rw [hm, Option.getD_some] at hrefuses hmarked ⊢
  refine ⟨d, q, m, (m.write p).1, hd, hq, hm, hrefuses, hmarked, rfl, ?_⟩
  rw [← hmarked.eq_iff, put_eq_iff hd, StoredDatabase.putPolicy_eq_iff hq,
    StoredPolicy.putMeasurement_eq_iff hm]

/-- A batch that is refused names no policy of the store, and then nothing changes, or one of its
points is refused. The points before that one are stored. -/
theorem write_error {s : Store} {b : Batch} {e : StoreError} (h : (s.write b).2 = .error e) :
    ((e = .noDatabase b.database ∨ ∃ name, e = .noPolicy name) ∧ (s.write b).1 = s) ∨
      ∃ before p after c mid, b.points = before ++ p :: after ∧
        e = .conflict p.measurement c ∧
        s.write { b with points := before } = (mid, .ok ()) ∧
        mid.Leftover b.database b.policy p c (s.write b).1 := by
  cases hd : s.database? b.database with
  | none =>
    have hwrite : s.write b = (s, .error (.noDatabase b.database)) := by simp only [write, hd]
    rw [hwrite] at h ⊢
    cases h
    exact .inl ⟨.inl rfl, rfl⟩
  | some d =>
    cases hq : d.policies[d.addressed b.policy]? with
    | none =>
      have hwrite : s.write b = (s, .error (.noPolicy (d.addressed b.policy))) := by
        simp only [write, hd, hq]
      rw [hwrite] at h ⊢
      cases h
      exact .inl ⟨.inr ⟨_, rfl⟩, rfl⟩
    | some q =>
      have hwrite := write_of_found hd hq
      rw [hwrite b.points] at h ⊢
      obtain ⟨before, p, after, mid, c, hpoints, hbefore, hconflict, he, hafter⟩ :=
        StoredPolicy.write_error h
      refine .inr ⟨before, p, after, c, _, hpoints, he, by rw [hwrite before, hbefore], ?_⟩
      have hleft := leftover_of_conflict b.policy
        (s.database?_put_self b.database (d.putPolicy (d.addressed b.policy) mid))
        Std.ExtTreeMap.getElem?_insert_self hconflict
      rw [put_put, StoredDatabase.addressed_putPolicy, StoredDatabase.putPolicy_putPolicy] at hleft
      exact hafter ▸ hleft

end Store

namespace MemoryNode

/-- A batch that is refused for want of its database or policy changes nothing. One that is
refused for a conflict stores the points before the first that conflicts, and of that point it
declares the types of the fields ahead of the conflict, in the order of their names. So nothing of
the point is left exactly if all these fields had been declared before it. -/
theorem refused_insert_declares {n : MemoryNode} {b : Batch} {e : StoreError}
    (h : (n.store.write b).2 = .error e) :
    (n.insert b).1 = .error (.statement e.message) ∧
      (((e = .noDatabase b.database ∨ ∃ name, e = .noPolicy name) ∧ (n.insert b).2 = n) ∨
        ∃ before p after c mid, b.points = before ++ p :: after ∧
          e = .conflict p.measurement c ∧
          n.insert { b with points := before } = (.ok (), mid) ∧
          (n.insert b).2 = { mid with store := (n.insert b).2.store } ∧
          mid.store.Leftover b.database b.policy p c (n.insert b).2.store) := by
  have hinsert : n.insert b =
      (.error (.statement e.message), { n with store := (n.store.write b).1 }) := by
    simp only [insert, h, refused]
    rfl
  rw [hinsert]
  refine ⟨rfl, ?_⟩
  rcases Store.write_error h with ⟨he, hsame⟩ |
    ⟨before, p, after, c, mid, hpoints, he, hbefore, hleft⟩
  · refine .inl ⟨he, ?_⟩
    rw [hsame]
  · refine .inr ⟨before, p, after, c, { n with store := mid }, hpoints, he, ?_, rfl, hleft⟩
    rw [insert, hbefore]
    rfl

private def plain (name : String) : PolicySpec := ⟨name, .zero, .zero, 1⟩

/-- A point of one measurement without tags. -/
private def cpuPoint (fields : List (String × FieldValue)) (time : Int64) : Point :=
  ⟨"cpu", ∅, Std.ExtTreeMap.ofList fields compare, time⟩

private def cpuBatch (p : Point) : Batch := ⟨"d", "p", [p]⟩

/-- A node on which the field `b` takes boolean values. -/
private def flaggedNode : MemoryNode :=
  (((ofName "a").addPolicy "d" (plain "p") true).insert
    (cpuBatch (cpuPoint [("b", .boolean true)] 1))).2

/-- A point that is refused for its field `b`, with a new field `a` ahead of it. -/
private def mixedPoint : Point := cpuPoint [("a", .integer 1), ("b", .integer 1)] 2

theorem refused_insert_declares_flagged :
    ∃ e, (flaggedNode.store.write (cpuBatch mixedPoint)).2 = .error e ∧
      (flaggedNode.insert (cpuBatch mixedPoint)).1 = .error (.statement e.message) ∧
      ∃ before p after c mid, [mixedPoint] = before ++ p :: after ∧
        e = .conflict p.measurement c ∧
        flaggedNode.insert ⟨"d", "p", before⟩ = (.ok (), mid) ∧
        (flaggedNode.insert (cpuBatch mixedPoint)).2 =
          { mid with store := (flaggedNode.insert (cpuBatch mixedPoint)).2.store } ∧
        mid.store.Leftover "d" "p" p c (flaggedNode.insert (cpuBatch mixedPoint)).2.store := by
  have h : (flaggedNode.store.write (cpuBatch mixedPoint)).2 =
      .error (.conflict "cpu" ⟨"b", .integer, .boolean⟩) := by decide +kernel
  obtain ⟨hanswer, hleft⟩ := refused_insert_declares h
  refine ⟨_, h, hanswer, hleft.resolve_left ?_⟩
  rintro ⟨he | ⟨name, he⟩, -⟩
  · cases he
  · cases he

/-- The refused point has declared its field `a`: it is listed, and a later point is refused for
it that the node would have taken. -/
theorem refused_point_declares_field :
    flaggedNode.Reachable ∧
      (flaggedNode.store.write (cpuBatch mixedPoint)).2 =
        .error (.conflict "cpu" ⟨"b", .integer, .boolean⟩) ∧
      flaggedNode.store.type? "d" "p" "cpu" "a" = none ∧
      (flaggedNode.insert (cpuBatch mixedPoint)).2.store.type? "d" "p" "cpu" "a" =
        some .integer ∧
      (flaggedNode.insert (cpuBatch mixedPoint)).2.store.showFieldKeys (some "d") "p" "cpu" =
        .single [.untagged "cpu" ["fieldKey", "fieldType"]
          [[.string "a", .string "integer"], [.string "b", .string "boolean"]]] ∧
      (flaggedNode.store.write (cpuBatch (cpuPoint [("a", .boolean true)] 3))).2 = .ok () ∧
      ((flaggedNode.insert (cpuBatch mixedPoint)).2.store.write
        (cpuBatch (cpuPoint [("a", .boolean true)] 3))).2 =
          .error (.conflict "cpu" ⟨"a", .boolean, .integer⟩) := by
  have hreachable : flaggedNode.Reachable := .insert _ (.addPolicy _ _ _ (.ofName "a"))
  exact ⟨hreachable, by decide +kernel, by decide +kernel, by decide +kernel, rfl,
    by decide +kernel, by decide +kernel⟩

end MemoryNode
end SeriesReplica.Node
