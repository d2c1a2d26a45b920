import SeriesReplica.Node.Memory
import SeriesReplica.Proofs.Node.Select

/-! What holds in every node that has come about by its operations. Policies are kept under their
own names, the default of a database is one of its policies, and each field of a row has its type
declared. -/
namespace SeriesReplica.Node
open Concurrent Point Query Schema

/-- A measurement whose rows hold something, all of it declared. -/
structure StoredMeasurement.Sound (m : StoredMeasurement) : Prop where
  declares : m.Declares
  nonempty : ∀ tags time row, m.row? tags time = some row → row.isEmpty = false

/-- A policy of sound measurements. -/
def StoredPolicy.Sound (p : StoredPolicy) : Prop :=
  ∀ (n : String) m, p.measurements[n]? = some m → m.Sound

/-- A database of sound policies, kept under their names, with its default among them. -/
structure StoredDatabase.Sound (d : StoredDatabase) : Prop where
  default : ∀ n, d.default = some n → n ∈ d.policies
  named : ∀ (n : String) p, d.policies[n]? = some p → p.spec.name = n
  policies : ∀ (n : String) p, d.policies[n]? = some p → p.Sound

/-- A store of sound databases. -/
def Store.Sound (s : Store) : Prop := ∀ n d, s.database? n = some d → d.Sound

theorem StoredMeasurement.sound_empty : StoredMeasurement.empty.Sound :=
  ⟨fun tags time row f v h => by simp at h, fun tags time row h => by simp at h⟩

theorem StoredMeasurement.Sound.write {m : StoredMeasurement} (h : m.Sound) {p : Point}
    (hne : p.fields.isEmpty = false) : (m.write p).1.Sound := by
  obtain ⟨hkept, -, hdeclared⟩ := declareFields_spec m.types p.fields.toList
  rw [StoredMeasurement.write]
  cases hconflict : (declareFields m.types p.fields.toList).2 with
  | some c =>
    simp only [hconflict]
    exact ⟨fun tags time row f v hrow hv => hkept f _ (h.declares tags time row f v hrow hv),
      h.nonempty⟩
  | none =>
    simp only [hconflict]
    have hrows : ∀ tags time, StoredMeasurement.row? ⟨(declareFields m.types p.fields.toList).1,
        m.series⟩ tags time = m.row? tags time := fun tags time => rfl
    constructor
    · intro tags time row f v hrow hv
      rw [row?_putRow, hrows, hrows] at hrow
      split at hrow
      · rw [← Option.some.inj hrow, getElem?_overlay, Option.or_eq_some_iff] at hv
        rcases hv with hv | ⟨-, hv⟩
        · exact hdeclared hconflict f v (Std.ExtTreeMap.mem_toList_iff_getElem?_eq_some.2 hv)
        · cases hold : m.row? p.tags p.timestamp with
          | none => simp [hold] at hv
          | some old =>
            rw [hold] at hv
            exact hkept f _ (h.declares _ _ old f v hold hv)
      · exact hkept f _ (h.declares tags time row f v hrow hv)
    · intro tags time row hrow
      rw [row?_putRow, hrows, hrows] at hrow
      split at hrow
      · rw [← Option.some.inj hrow, overlay, Std.ExtTreeMap.isEmpty_insertMany_list,
          Std.ExtTreeMap.isEmpty_toList, hne, Bool.and_false]
      · exact h.nonempty tags time row hrow

/-- What holds of every measurement of a policy, and of those that are written to, holds after
points have been written; the parameters of the policy stay. -/
theorem StoredPolicy.write_each {M : StoredMeasurement → Prop}
    (hM : ∀ (m : StoredMeasurement) (p : Point), m = .empty ∨ M m → p.fields.isEmpty = false →
      M (m.write p).1)
    {p : StoredPolicy} (h : ∀ (n : String) m, p.measurements[n]? = some m → M m)
    (ps : List Point) :
    (∀ (n : String) m, (p.write ps).1.measurements[n]? = some m → M m) ∧
      (p.write ps).1.spec = p.spec := by
  induction ps generalizing p with
  | nil => exact ⟨h, rfl⟩
  | cons pt rest ih =>
    rw [StoredPolicy.write]
    by_cases hempty : pt.fields.isEmpty = true
    · rw [if_pos hempty]
      exact ih h
    · rw [if_neg hempty]
      set m := p.measurements[pt.measurement]?.getD .empty with hm
      have hmeasurement : m = .empty ∨ M m := by
        rw [hm]
        cases hfound : p.measurements[pt.measurement]? with
        | none => exact .inl rfl
        | some m => exact .inr (h _ m hfound)
      have hmid : ∀ (n : String) m',
          (p.measurements.insert pt.measurement (m.write pt).1)[n]? = some m' → M m' := by
        intro n m' hm'
        rw [Std.ExtTreeMap.getElem?_insert] at hm'
        split at hm'
        · exact Option.some.inj hm' ▸ hM m pt hmeasurement (Bool.eq_false_of_not_eq_true hempty)
        · exact h n m' hm'
      cases hconflict : (m.write pt).2 with
      | some c =>
        simp only [hconflict]
        exact ⟨hmid, trivial⟩
      | none => simpa only [hconflict] using ih hmid

theorem StoredPolicy.Sound.write {p : StoredPolicy} (h : p.Sound) (ps : List Point) :
    (p.write ps).1.Sound ∧ (p.write ps).1.spec = p.spec := by
  refine StoredPolicy.write_each (fun m pt hm hne => ?_) h ps
  rcases hm with rfl | hm
  · exact StoredMeasurement.sound_empty.write hne
  · exact hm.write hne

/-- Each measurement of a policy declares something. -/
def StoredPolicy.IsDeclared (p : StoredPolicy) : Prop :=
  ∀ (n : String) m, p.measurements[n]? = some m → m.types.isEmpty = false

theorem StoredMeasurement.declares_write (m : StoredMeasurement) {p : Point}
    (hne : p.fields.isEmpty = false) : (m.write p).1.types.isEmpty = false := by
  have htypes : (m.write p).1.types = (declareFields m.types p.fields.toList).1 := by
    rw [StoredMeasurement.write]
    cases hconflict : (declareFields m.types p.fields.toList).2 <;> simp only [hconflict]
    rfl
  obtain ⟨⟨k, v⟩, rest, hfields⟩ : ∃ x rest, p.fields.toList = x :: rest :=
    List.exists_cons_of_ne_nil fun hnil => by
      rw [← Std.ExtTreeMap.isEmpty_toList, hnil] at hne
      cases hne
  have hdeclared : ∃ t, (declareFields m.types p.fields.toList).1[k]? = some t := by
    rw [hfields, declareFields]
    cases hk : m.types[k]? with
    | none =>
      refine ⟨v.type, (declareFields_spec (m.types.insert k v.type) rest).1 k v.type ?_⟩
      exact Std.ExtTreeMap.getElem?_insert_self
    | some t =>
      dsimp only
      split
      · exact ⟨t, (declareFields_spec m.types rest).1 k t hk⟩
      · exact ⟨t, hk⟩
  obtain ⟨t, ht⟩ := hdeclared
  rw [htypes]
  refine Bool.eq_false_of_not_eq_true fun hempty => ?_
  rw [Std.ExtTreeMap.isEmpty_iff.1 hempty, Std.ExtTreeMap.getElem?_empty] at ht
  cases ht

theorem StoredPolicy.IsDeclared.write {p : StoredPolicy} (h : p.IsDeclared) (ps : List Point) :
    (p.write ps).1.IsDeclared :=
  (StoredPolicy.write_each (fun m _ _ hne => m.declares_write hne) h ps).1

/-- What holds of every database of a store. -/
def Store.Each (J : StoredDatabase → Prop) (s : Store) : Prop :=
  ∀ name d, s.database? name = some d → J d

/-- A property of databases that every operation of a store keeps. -/
structure StoredDatabase.Invariant (J : StoredDatabase → Prop) : Prop where
  empty : J .empty
  addPolicy : ∀ {d} (spec : PolicySpec) (makeDefault : Bool), J d → J (d.addPolicy spec makeDefault)
  setDefault : ∀ {d} {n : String}, J d → n ∈ d.policies → J { d with default := some n }
  write : ∀ {d} {n : String} {p} (ps : List Point), J d → d.policies[n]? = some p →
    J { d with policies := d.policies.insert n (p.write ps).1 }

namespace Store
variable {J : StoredDatabase → Prop} {s : Store}

theorem Each.put (h : s.Each J) {n : String} {d : StoredDatabase} (hd : J d) :
    (s.put n d).Each J := by
  intro k e he
  rw [database?, Store.put, Std.ExtTreeMap.getElem?_insert] at he
  split at he
  · exact Option.some.inj he ▸ hd
  · exact h k e he

theorem found_eq_ok {n : String} {d : StoredDatabase} :
    s.found n = .ok d ↔ s.database? n = some d := by
  rw [found]
  cases s.database? n <;> simp

theorem Each.write (h : s.Each J) (hJ : StoredDatabase.Invariant J) (b : Batch) :
    (s.write b).1.Each J := by
  rw [Store.write]
  cases hd : s.database? b.database with
  | none => exact h
  | some d =>
    cases hp : d.policies[d.addressed b.policy]? with
    | none => simpa only [hp] using h
    | some p =>
      simp only [hp]
      exact h.put (hJ.write b.points (h _ d hd) hp)

theorem Each.addDatabase (h : s.Each J) (hJ : StoredDatabase.Invariant J) (n : String) :
    (s.addDatabase n).Each J := by
  intro k e he
  rw [database?, Store.addDatabase, Std.ExtTreeMap.getElem?_insertIfNew] at he
  split at he
  · exact Option.some.inj he ▸ hJ.empty
  · exact h k e he

theorem Each.addPolicy (h : s.Each J) (hJ : StoredDatabase.Invariant J) (n : String)
    (spec : PolicySpec) (makeDefault : Bool) : (s.addPolicy n spec makeDefault).Each J := by
  refine h.put (hJ.addPolicy spec makeDefault ?_)
  cases hd : s.database? n with
  | none => exact hJ.empty
  | some d => exact h n d hd

/-- A database that is created is new, or nothing changes. -/
theorem of_createDatabase_eq_ok {s' : Store} {n : String} {spec : PolicySpec}
    (h : s.createDatabase n spec = .ok s') :
    s' = s ∨ s.database? n = none ∧ s' = s.put n (StoredDatabase.empty.addPolicy spec true) := by
  rw [Store.createDatabase] at h
  split at h
  case h_1 =>
    split at h
    · split at h <;> cases h
      exact .inl rfl
    · cases h
      exact .inl rfl
  case h_2 hnone =>
    cases h
    exact .inr ⟨hnone, rfl⟩

/-- A policy is created in a database that is there. -/
theorem of_createPolicy_eq_ok {s' : Store} {n : String} {spec : PolicySpec} {makeDefault : Bool}
    (h : s.createPolicy n spec makeDefault = .ok s') :
    ∃ d, s.database? n = some d ∧ s' = s.put n (d.addPolicy spec makeDefault) := by
  rw [Store.createPolicy] at h
  match hfound : s.found n with
  | .error e => simp [hfound, bind, Except.bind] at h
  | .ok d =>
    simp only [hfound, bind, Except.bind] at h
    split at h
    · cases h
    · cases h
      exact ⟨d, found_eq_ok.1 hfound, rfl⟩

/-- A policy that becomes the default is there. -/
theorem of_setDefaultPolicy_eq_ok {s' : Store} {n policy : String}
    (h : s.setDefaultPolicy n policy = .ok s') :
    ∃ d, s.database? n = some d ∧ policy ∈ d.policies ∧
      s' = s.put n { d with default := some policy } := by
  rw [Store.setDefaultPolicy] at h
  match hfound : s.found n with
  | .error e => simp [hfound, bind, Except.bind] at h
  | .ok d =>
    simp only [hfound, bind, Except.bind] at h
    split at h
    case isTrue hmem =>
      cases h
      exact ⟨d, found_eq_ok.1 hfound, Std.ExtTreeMap.contains_iff_mem.1 hmem, rfl⟩
    case isFalse => cases h

/-- All that a statement can do to a store: nothing, to make a database where there is none, to add
a policy to a database, or to make one of its policies the default. -/
theorem execute_cases (s : Store) (r : Request) :
    (s.execute r).1 = s ∨
      (∃ n spec, s.database? n = none ∧
        (s.execute r).1 = s.put n (StoredDatabase.empty.addPolicy spec true)) ∨
      (∃ n d spec makeDefault, s.database? n = some d ∧
        (s.execute r).1 = s.put n (d.addPolicy spec makeDefault)) ∨
      ∃ n d policy, s.database? n = some d ∧ policy ∈ d.policies ∧
        (s.execute r).1 = s.put n { d with default := some policy } := by
  rw [Store.execute]
  split
  case h_6 n spec _ =>
    cases h : s.createDatabase n spec with
    | error e => exact .inl rfl
    | ok s' =>
      rcases of_createDatabase_eq_ok h with rfl | ⟨hn, rfl⟩
      · exact .inl rfl
      · exact .inr (.inl ⟨n, spec, hn, rfl⟩)
  case h_7 n spec makeDefault _ =>
    cases h : s.createPolicy n spec makeDefault with
    | error e => exact .inl rfl
    | ok s' =>
      obtain ⟨d, hd, rfl⟩ := of_createPolicy_eq_ok h
      exact .inr (.inr (.inl ⟨n, d, spec, makeDefault, hd, rfl⟩))
  case h_8 n policy _ =>
    cases h : s.setDefaultPolicy n policy with
    | error e => exact .inl rfl
    | ok s' =>
      obtain ⟨d, hd, hpolicy, rfl⟩ := of_setDefaultPolicy_eq_ok h
      exact .inr (.inr (.inr ⟨n, d, policy, hd, hpolicy, rfl⟩))
  all_goals exact .inl rfl

theorem Each.execute (h : s.Each J) (hJ : StoredDatabase.Invariant J) (r : Request) :
    (s.execute r).1.Each J := by
  rcases s.execute_cases r with hs | ⟨n, spec, -, hs⟩ | ⟨n, d, spec, makeDefault, hd, hs⟩ |
    ⟨n, d, policy, hd, hpolicy, hs⟩ <;> rw [hs]
  · exact h
  · exact h.put (hJ.addPolicy spec true hJ.empty)
  · exact h.put (hJ.addPolicy spec makeDefault (h n d hd))
  · exact h.put (hJ.setDefault (h n d hd) hpolicy)

theorem Sound.measurement (h : s.Sound) {database policy measurement : String}
    {m : StoredMeasurement} (hm : s.measurement? database policy measurement = some m) :
    m.Sound := by
  obtain ⟨p, hp, hm⟩ := Option.bind_eq_some_iff.1 hm
  obtain ⟨d, hd, hp⟩ := Option.bind_eq_some_iff.1 hp
  exact (h database d hd).policies policy p hp measurement m hm

end Store

section Invariants

/-- Policies that are added hold nothing. -/
theorem StoredDatabase.getElem?_addPolicy_cases {d : StoredDatabase} {spec : PolicySpec}
    {makeDefault : Bool} {n : String} {p : StoredPolicy}
    (hp : (d.addPolicy spec makeDefault).policies[n]? = some p) :
    (n = spec.name ∧ p = .ofSpec spec) ∨ d.policies[n]? = some p := by
  rw [StoredDatabase.addPolicy, Std.ExtTreeMap.getElem?_insertIfNew] at hp
  split at hp
  case isTrue hnew =>
    exact .inl ⟨(Std.LawfulEqCmp.eq_of_compare hnew.1).symm, (Option.some.inj hp).symm⟩
  case isFalse => exact .inr hp

/-- What holds of new policies, and is kept by writing, is kept for all policies of a database. -/
theorem StoredDatabase.invariant_policies {I : StoredPolicy → Prop}
    (hnew : ∀ spec, I (.ofSpec spec)) (hwrite : ∀ p ps, I p → I (p.write ps).1) :
    Invariant fun d => ∀ (n : String) p, d.policies[n]? = some p → I p where
  empty n p hp := by simp [StoredDatabase.empty] at hp
  addPolicy spec makeDefault h n p hp := by
    rcases getElem?_addPolicy_cases hp with ⟨-, rfl⟩ | hp
    · exact hnew spec
    · exact h n p hp
  setDefault h _ := h
  write ps h hp n q hq := by
    rw [Std.ExtTreeMap.getElem?_insert] at hq
    split at hq
    · exact Option.some.inj hq ▸ hwrite _ ps (h _ _ hp)
    · exact h n q hq

theorem StoredDatabase.invariant_sound : Invariant StoredDatabase.Sound :=
  have hpolicies : Invariant fun d => ∀ (n : String) p, d.policies[n]? = some p → p.Sound :=
    invariant_policies (fun spec n m hm => by simp [StoredPolicy.ofSpec] at hm)
      fun p ps h => (h.write ps).1
  { empty := ⟨fun n h => (nomatch h), fun n p h => by simp [StoredDatabase.empty] at h,
      hpolicies.empty⟩
    addPolicy := by
      intro d spec makeDefault h
      refine ⟨fun n hn => ?_, fun n p hp => ?_, hpolicies.addPolicy spec makeDefault h.policies⟩
      · rw [StoredDatabase.addPolicy, Std.ExtTreeMap.mem_insertIfNew]
        cases makeDefault with
        | true => exact .inl (Std.LawfulEqCmp.compare_eq_iff_eq.2 (Option.some.inj hn))
        | false => exact .inr (h.default n hn)
      · rcases getElem?_addPolicy_cases hp with ⟨rfl, rfl⟩ | hp
        · rfl
        · exact h.named n p hp
    setDefault := fun h hn => ⟨fun k hk => Option.some.inj hk ▸ hn, h.named, h.policies⟩
    write := by
      intro d n p ps h hp
      refine ⟨fun k hk => ?_, fun k q hq => ?_, hpolicies.write ps h.policies hp⟩
      · exact Std.ExtTreeMap.mem_insert.2 (.inr (h.default k hk))
      · rw [Std.ExtTreeMap.getElem?_insert] at hq
        split at hq
        case isTrue heq =>
          rw [← Option.some.inj hq, ((h.policies n p hp).write ps).2, h.named n p hp]
          exact Std.LawfulEqCmp.eq_of_compare heq
        case isFalse => exact h.named k q hq }

end Invariants

/-- A node that has come about by its operations. -/
inductive MemoryNode.Reachable : MemoryNode → Prop where
  | ofName (name : String) : Reachable (.ofName name)
  | setOnline {n : MemoryNode} (online : Bool) (h : Reachable n) : Reachable (n.setOnline online)
  | failReads {n : MemoryNode} (count : Nat) (h : Reachable n) : Reachable (n.failReads count)
  | failWrites {n : MemoryNode} (count : Nat) (h : Reachable n) : Reachable (n.failWrites count)
  | addDatabase {n : MemoryNode} (database : String) (h : Reachable n) :
    Reachable (n.addDatabase database)
  | addPolicy {n : MemoryNode} (database : String) (spec : PolicySpec) (makeDefault : Bool)
    (h : Reachable n) : Reachable (n.addPolicy database spec makeDefault)
  | insert {n : MemoryNode} (b : Batch) (h : Reachable n) : Reachable (n.insert b).2
  | call {n : MemoryNode} (c : NodeCall) (h : Reachable n) : Reachable (n.call c).2

/-- A query leaves the store as it is, or as the statement leaves it. -/
theorem MemoryNode.query_store (n : MemoryNode) (r : Request) :
    (n.query r).2.store = n.store ∨ (n.query r).2.store = (n.store.execute r).1 := by
  rw [query]
  split
  · have hstore : (if r.statement.isMutation then
        { n with statements := n.statements ++ [r.command] } else n).store = n.store := by
      split <;> rfl
    rw [execute]
    simp only
    split
    · exact .inl hstore
    · exact .inr (by rw [hstore])
  · exact .inl rfl

/-- A call leaves the store as it is, or as the statement or the batch leaves it. -/
theorem MemoryNode.call_store (n : MemoryNode) (c : NodeCall) :
    (n.call c).2.store = n.store ∨ (∃ r, (n.call c).2.store = (n.store.execute r).1) ∨
      ∃ b, (n.call c).2.store = (n.store.write b).1 := by
  cases c with
  | ping => exact .inl rfl
  | query r => exact (n.query_store r).imp_right fun h => .inl ⟨r, h⟩
  | write b =>
    rw [call, write]
    split
    · simp only
      split
      · exact .inl rfl
      · exact .inr (.inr ⟨b, rfl⟩)
    · exact .inl rfl

/-- What every operation keeps holds of the databases of a node at all times. -/
theorem MemoryNode.Reachable.each {n : MemoryNode} (h : n.Reachable) {J : StoredDatabase → Prop}
    (hJ : StoredDatabase.Invariant J) : n.store.Each J := by
  induction h with
  | ofName name =>
    intro n d hd
    simp [MemoryNode.ofName, Store.empty, Store.database?] at hd
  | setOnline _ _ ih => exact ih
  | failReads _ _ ih => exact ih
  | failWrites _ _ ih => exact ih
  | addDatabase database _ ih => exact ih.addDatabase hJ database
  | addPolicy database spec makeDefault _ ih => exact ih.addPolicy hJ database spec makeDefault
  | insert b _ ih => exact ih.write hJ b
  | @call n c _ ih =>
    rcases n.call_store c with hsame | ⟨r, hr⟩ | ⟨b, hb⟩
    · exact hsame ▸ ih
    · exact hr ▸ ih.execute hJ r
    · exact hb ▸ ih.write hJ b

/-- The store of a node is sound at all times. -/
theorem MemoryNode.Reachable.sound {n : MemoryNode} (h : n.Reachable) : n.store.Sound :=
  h.each StoredDatabase.invariant_sound

/-- All measurements of a node declare something at all times. -/
theorem MemoryNode.Reachable.declared {n : MemoryNode} (h : n.Reachable) {database policy : String}
    {p : StoredPolicy} (hp : n.store.policy? database policy = some p) : p.IsDeclared := by
  obtain ⟨d, hd, hp⟩ := Option.bind_eq_some_iff.1 hp
  exact h.each (StoredDatabase.invariant_policies
    (fun spec n m hm => by simp [StoredPolicy.ofSpec] at hm) fun p ps hp => hp.write ps)
    database d hd policy p hp

end SeriesReplica.Node
