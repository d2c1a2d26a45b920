import SeriesReplica.Proofs.Node.Reachable

/-! What is never lost. A node that is worked on keeps every database, policy, measurement,
declared type, series, row and field that it has, and no declared type and no parameter of a policy
is changed. -/
namespace SeriesReplica.Node
open Concurrent Point Query Schema

section Entries
variable {α β : Type} {cmp : α → α → Ordering} [Std.TransCmp cmp]
  {R : β → β → Prop} {a b c : Std.ExtTreeMap α β cmp}

/-- Each entry of the first map has one in the second that it is related to. -/
def KeepsEntries (R : β → β → Prop) (a b : Std.ExtTreeMap α β cmp) : Prop :=
  ∀ (k : α) v, a[k]? = some v → ∃ w, b[k]? = some w ∧ R v w

theorem KeepsEntries.refl (hR : ∀ v, R v v) (a : Std.ExtTreeMap α β cmp) : KeepsEntries R a a :=
  fun _ v hv => ⟨v, hv, hR v⟩

theorem KeepsEntries.trans (hR : ∀ u v w, R u v → R v w → R u w) (h : KeepsEntries R a b)
    (h' : KeepsEntries R b c) : KeepsEntries R a c := by
  intro k u hu
  obtain ⟨v, hv, huv⟩ := h k u hu
  obtain ⟨w, hw, hvw⟩ := h' k v hv
  exact ⟨w, hw, hR u v w huv hvw⟩

/-- An entry may be replaced by one that it is related to. -/
theorem KeepsEntries.insert [Std.LawfulEqCmp cmp] (hR : ∀ v, R v v) {k : α} {w : β}
    (hw : ∀ v, a[k]? = some v → R v w) : KeepsEntries R a (a.insert k w) := by
  intro j v hv
  rw [Std.ExtTreeMap.getElem?_insert]
  split
  case isTrue heq =>
    obtain rfl := Std.LawfulEqCmp.eq_of_compare heq
    exact ⟨w, rfl, hw v hv⟩
  case isFalse => exact ⟨v, hv, hR v⟩

theorem KeepsEntries.insertIfNew [Std.LawfulEqCmp cmp] (hR : ∀ v, R v v) (k : α) (w : β) :
    KeepsEntries R a (a.insertIfNew k w) := by
  intro j v hv
  rw [Std.ExtTreeMap.getElem?_insertIfNew]
  split
  case isTrue hnew =>
    obtain rfl := Std.LawfulEqCmp.eq_of_compare hnew.1
    exact absurd (Std.ExtTreeMap.mem_iff_isSome_getElem?.2 (by rw [hv]; rfl)) hnew.2
  case isFalse => exact ⟨v, hv, hR v⟩

end Entries

/-- A row with the fields of another, whatever their values. -/
def RowKeeps : Fields → Fields → Prop := KeepsEntries fun _ _ => True

theorem RowKeeps.refl (row : Fields) : RowKeeps row row := KeepsEntries.refl (fun _ => trivial) row

theorem RowKeeps.trans {u v w : Fields} (h : RowKeeps u v) (h' : RowKeeps v w) : RowKeeps u w :=
  KeepsEntries.trans (fun _ _ _ _ _ => trivial) h h'

theorem RowKeeps.overlay (row fields : Fields) : RowKeeps row (overlay row fields) := by
  intro f v hv
  rw [getElem?_overlay, hv]
  cases fields[f]? with
  | none => exact ⟨v, rfl, trivial⟩
  | some w => exact ⟨w, rfl, trivial⟩

/-- A series with the rows of another. -/
def RowsKeep : Rows → Rows → Prop := KeepsEntries RowKeeps

theorem RowsKeep.refl (rows : Rows) : RowsKeep rows rows := KeepsEntries.refl RowKeeps.refl rows

theorem RowsKeep.trans {u v w : Rows} (h : RowsKeep u v) (h' : RowsKeep v w) : RowsKeep u w :=
  KeepsEntries.trans (fun _ _ _ => RowKeeps.trans) h h'

namespace StoredMeasurement

/-- The second measurement has the declared types of the first, and its series with their rows. -/
structure Keeps (m m' : StoredMeasurement) : Prop where
  types : KeepsEntries Eq m.types m'.types
  series : KeepsEntries RowsKeep m.series m'.series

theorem Keeps.refl (m : StoredMeasurement) : m.Keeps m :=
  ⟨.refl (fun _ => rfl) _, .refl RowsKeep.refl _⟩

theorem Keeps.trans {u v w : StoredMeasurement} (h : u.Keeps v) (h' : v.Keeps w) : u.Keeps w :=
  ⟨h.types.trans (fun _ _ _ => Eq.trans) h'.types,
    h.series.trans (fun _ _ _ => RowsKeep.trans) h'.series⟩

theorem keeps_putRow (m : StoredMeasurement) (tags : Tags) (time : Int64) (fields : Fields) :
    m.Keeps (m.putRow tags time fields) := by
  refine ⟨.refl (fun _ => rfl) _, KeepsEntries.insert RowsKeep.refl fun rows hrows => ?_⟩
  rw [hrows, Option.getD_some]
  refine KeepsEntries.insert RowKeeps.refl fun row hrow => ?_
  rw [hrow, Option.getD_some]
  exact RowKeeps.overlay row fields

/-- A point that is refused may have declared something, and has removed nothing. -/
theorem keeps_write (m : StoredMeasurement) (p : Point) : m.Keeps (m.write p).1 := by
  have hdeclared : m.Keeps { m with types := (declareFields m.types p.fields.toList).1 } :=
    ⟨fun f t ht => ⟨t, (declareFields_spec m.types p.fields.toList).1 f t ht, rfl⟩,
      .refl RowsKeep.refl _⟩
  rw [write]
  cases hconflict : (declareFields m.types p.fields.toList).2 with
  | some c => simpa only [hconflict] using hdeclared
  | none => simpa only [hconflict] using hdeclared.trans (keeps_putRow _ _ _ _)

end StoredMeasurement

namespace StoredPolicy

/-- The second policy has the parameters of the first, and its measurements. -/
structure Keeps (p p' : StoredPolicy) : Prop where
  spec_eq : p'.spec = p.spec
  measurements : KeepsEntries StoredMeasurement.Keeps p.measurements p'.measurements

theorem Keeps.refl (p : StoredPolicy) : p.Keeps p :=
  ⟨rfl, .refl StoredMeasurement.Keeps.refl _⟩

theorem Keeps.trans {u v w : StoredPolicy} (h : u.Keeps v) (h' : v.Keeps w) : u.Keeps w :=
  ⟨h'.spec_eq.trans h.spec_eq,
    h.measurements.trans (fun _ _ _ => StoredMeasurement.Keeps.trans) h'.measurements⟩

/-- A batch that is refused half way has removed nothing either. -/
theorem keeps_write (p : StoredPolicy) (ps : List Point) : p.Keeps (p.write ps).1 := by
  induction ps generalizing p with
  | nil => exact .refl p
  | cons pt rest ih =>
    rw [write]
    split
    · exact ih p
    · set m := (p.measurements[pt.measurement]?.getD .empty).write pt with hm
      have hstep : p.Keeps { p with measurements := p.measurements.insert pt.measurement m.1 } := by
        refine ⟨rfl, KeepsEntries.insert StoredMeasurement.Keeps.refl fun old hold => ?_⟩
        rw [hm, hold, Option.getD_some]
        exact old.keeps_write pt
      cases hconflict : m.2 with
      | some c => simpa only [hconflict] using hstep
      | none => simpa only [hconflict] using hstep.trans (ih _)

end StoredPolicy

namespace StoredDatabase

/-- The second database has the policies of the first; another of them may be the default. -/
def Keeps (d d' : StoredDatabase) : Prop :=
  KeepsEntries StoredPolicy.Keeps d.policies d'.policies

theorem Keeps.refl (d : StoredDatabase) : d.Keeps d := KeepsEntries.refl StoredPolicy.Keeps.refl _

theorem Keeps.trans {u v w : StoredDatabase} (h : u.Keeps v) (h' : v.Keeps w) : u.Keeps w :=
  KeepsEntries.trans (fun _ _ _ => StoredPolicy.Keeps.trans) h h'

theorem keeps_addPolicy (d : StoredDatabase) (spec : PolicySpec) (makeDefault : Bool) :
    d.Keeps (d.addPolicy spec makeDefault) :=
  KeepsEntries.insertIfNew StoredPolicy.Keeps.refl _ _

end StoredDatabase

namespace Store
variable {s : Store}

/-- The second store has the databases of the first. -/
def Keeps (s s' : Store) : Prop := KeepsEntries StoredDatabase.Keeps s.databases s'.databases

theorem Keeps.refl (s : Store) : s.Keeps s := KeepsEntries.refl StoredDatabase.Keeps.refl _

theorem Keeps.trans {u v w : Store} (h : u.Keeps v) (h' : v.Keeps w) : u.Keeps w :=
  KeepsEntries.trans (fun _ _ _ => StoredDatabase.Keeps.trans) h h'

theorem keeps_put {n : String} {d : StoredDatabase}
    (h : ∀ old, s.database? n = some old → old.Keeps d) : s.Keeps (s.put n d) :=
  KeepsEntries.insert StoredDatabase.Keeps.refl h

/-- A database may be replaced by one that keeps its policies. -/
theorem keeps_put_of_some {n : String} {old d : StoredDatabase} (hold : s.database? n = some old)
    (h : old.Keeps d) : s.Keeps (s.put n d) :=
  keeps_put fun _ he => Option.some.inj (hold.symm.trans he) ▸ h

theorem keeps_write (s : Store) (b : Batch) : s.Keeps (s.write b).1 := by
  rw [write]
  cases hd : s.database? b.database with
  | none => exact .refl s
  | some d =>
    cases hp : d.policies[d.addressed b.policy]? with
    | none => simpa only [hp] using Keeps.refl s
    | some p =>
      simp only [hp]
      refine keeps_put_of_some hd (KeepsEntries.insert StoredPolicy.Keeps.refl fun old hold => ?_)
      obtain rfl := Option.some.inj (hp.symm.trans hold)
      exact p.keeps_write b.points

theorem keeps_addDatabase (s : Store) (n : String) : s.Keeps (s.addDatabase n) :=
  KeepsEntries.insertIfNew StoredDatabase.Keeps.refl _ _

theorem keeps_addPolicy (s : Store) (n : String) (spec : PolicySpec) (makeDefault : Bool) :
    s.Keeps (s.addPolicy n spec makeDefault) := by
  refine keeps_put fun old hold => ?_
  rw [hold]
  exact old.keeps_addPolicy spec makeDefault

theorem keeps_execute (s : Store) (r : Request) : s.Keeps (s.execute r).1 := by
  rcases s.execute_cases r with hs | ⟨n, spec, hn, hs⟩ | ⟨n, d, spec, makeDefault, hd, hs⟩ |
    ⟨n, d, policy, hd, -, hs⟩ <;> rw [hs]
  · exact .refl s
  · exact keeps_put fun old hold => nomatch hn.symm.trans hold
  · exact keeps_put_of_some hd (d.keeps_addPolicy spec makeDefault)
  · exact keeps_put_of_some hd (StoredDatabase.Keeps.refl d)

end Store

namespace MemoryNode

/-- What can be done to a node: it is switched, it is made to fail, it is filled from aside, or it
is called. -/
inductive Operation where
  | setOnline (online : Bool)
  | failReads (count : Nat)
  | failWrites (count : Nat)
  | addDatabase (database : String)
  | addPolicy (database : String) (spec : PolicySpec) (makeDefault : Bool)
  | insert (b : Batch)
  | call (c : NodeCall)

/-- The node after an operation, whether it succeeds or not. -/
def after (n : MemoryNode) : Operation → MemoryNode
  | .setOnline online => n.setOnline online
  | .failReads count => n.failReads count
  | .failWrites count => n.failWrites count
  | .addDatabase database => n.addDatabase database
  | .addPolicy database spec makeDefault => n.addPolicy database spec makeDefault
  | .insert b => (n.insert b).2
  | .call c => (n.call c).2

/-- The node after operations one after another. -/
def run (n : MemoryNode) (ops : List Operation) : MemoryNode := ops.foldl after n

theorem Reachable.after {n : MemoryNode} (h : n.Reachable) (op : Operation) :
    (n.after op).Reachable := by
  cases op with
  | setOnline online => exact h.setOnline online
  | failReads count => exact h.failReads count
  | failWrites count => exact h.failWrites count
  | addDatabase database => exact h.addDatabase database
  | addPolicy database spec makeDefault => exact h.addPolicy database spec makeDefault
  | insert b => exact h.insert b
  | call c => exact h.call c

theorem Reachable.run {n : MemoryNode} (h : n.Reachable) (ops : List Operation) :
    (n.run ops).Reachable := by
  induction ops generalizing n with
  | nil => exact h
  | cons op ops ih => exact ih (h.after op)

theorem keeps_after (n : MemoryNode) (op : Operation) : n.store.Keeps (n.after op).store := by
  cases op with
  | setOnline online => exact .refl _
  | failReads count => exact .refl _
  | failWrites count => exact .refl _
  | addDatabase database => exact n.store.keeps_addDatabase database
  | addPolicy database spec makeDefault => exact n.store.keeps_addPolicy database spec makeDefault
  | insert b => exact n.store.keeps_write b
  | call c =>
    have hstore := n.call_store c
    rw [MemoryNode.after]
    rcases hstore with hsame | ⟨r, hr⟩ | ⟨b, hb⟩
    · rw [hsame]
      exact .refl _
    · rw [hr]
      exact n.store.keeps_execute r
    · rw [hb]
      exact n.store.keeps_write b

theorem keeps_run (n : MemoryNode) (ops : List Operation) : n.store.Keeps (n.run ops).store := by
  induction ops generalizing n with
  | nil => exact .refl _
  | cons op ops ih => exact (n.keeps_after op).trans (ih (n.after op))

/-- Whatever has been done to a node, its store is sound and each of its measurements declares
something; and whatever is done to it next, nothing of what it has is lost or declared anew. -/
theorem run_ofName_sound_keeps (name : String) (ops : List Operation) :
    ((ofName name).run ops).store.Sound ∧
      (∀ database policy p, ((ofName name).run ops).store.policy? database policy = some p →
        p.IsDeclared) ∧
      ∀ more, ((ofName name).run ops).store.Keeps (((ofName name).run ops).run more).store := by
  have hreachable := (Reachable.ofName name).run ops
  exact ⟨hreachable.sound, fun database policy p hp => hreachable.declared hp, keeps_run _⟩

end MemoryNode
end SeriesReplica.Node
