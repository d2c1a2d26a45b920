import Mathlib.Data.List.Sort
import Mathlib.Data.String.Basic
import SeriesReplica.Proofs.Concurrent.Adequacy
import SeriesReplica.Proofs.Schema.Discovery
import SeriesReplica.Proofs.Schema.Selection

/-! What a discovery tells of a node, in terms of the node. There is only one list of databases that
describes a store for a filter, and that is what is discovered on a node that is on line. -/
namespace SeriesReplica.Schema
open Concurrent Time Query Point Node

/-- A policy as it is told of by the stored one: lengths of time are cut to whole seconds, and the
measurements are those stored in this very policy that the filter selects, if it selects the
policy. -/
structure Policy.Describes (f : Filter) (d : StoredDatabase) (q : StoredPolicy) (p : Policy) :
    Prop where
  name : p.name = q.spec.name
  duration : p.duration = .ofSecs q.spec.duration.secs
  shardDuration : p.shardDuration = .ofSecs q.shardDuration.secs
  replicas : p.replicas = q.spec.replication
  isDefault : p.isDefault = true ↔ d.default = some p.name
  measurements : ∀ (m : String) types, p.measurements[m]? = some types ↔
    f.selectsPolicy p.name = true ∧ f.selectsMeasurement m = true ∧
      ∃ sm, q.measurements[m]? = some sm ∧ sm.types = types

/-- A database under its own name, with its default policy and the policies that the filter selects,
in the order of their names. -/
structure Database.Describes (f : Filter) (d : StoredDatabase) (x : Database) : Prop where
  targetName : x.targetName = none
  targetDefaultPolicyName : x.targetDefaultPolicyName = none
  default : d.default = some x.defaultPolicyName
  marked : ∃ p, x.defaultPolicy? = some p ∧ x.policies.filter (·.isDefault) = [p]
  ordered : x.policies.Pairwise fun p q => p.name < q.name
  names : ∀ n, (∃ p ∈ x.policies, p.name = n) ↔
    n ∈ d.policies ∧ (d.default = some n ∨ f.selectsPolicy n = true)
  policies : ∀ p ∈ x.policies, ∃ q, d.policies[p.name]? = some q ∧ Policy.Describes f d q p

/-- The databases of a store that the filter selects and that have a default policy, but for the
internal one, in the order of their names. -/
structure Describes (f : Filter) (s : Store) (ds : List Database) : Prop where
  ordered : ds.Pairwise fun x y => x.name < y.name
  names : ∀ n, (∃ x ∈ ds, x.name = n) ↔ n ≠ internalDatabase ∧ f.selectsDatabase n = true ∧
    ∃ d, s.database? n = some d ∧ d.default.isSome
  databases : ∀ x ∈ ds, ∃ d, s.database? x.name = some d ∧ Database.Describes f d x

section Unique

/-- Lists in the order of distinct names are equal if they have the same elements under each
name. -/
theorem eq_of_names {α : Type} {name : α → String} {xs ys : List α}
    (hxs : xs.Pairwise fun x y => name x < name y) (hys : ys.Pairwise fun x y => name x < name y)
    (hnames : ∀ n, (∃ x ∈ xs, name x = n) ↔ ∃ y ∈ ys, name y = n)
    (heq : ∀ x ∈ xs, ∀ y ∈ ys, name x = name y → x = y) : xs = ys := by
  have : Std.Irrefl fun x y : α => name x < name y := ⟨fun _ => lt_irrefl _⟩
  have : Std.Antisymm fun x y : α => name x < name y := ⟨fun _ _ h h' => absurd h h'.asymm⟩
  refine hxs.eq_of_mem_iff hys fun x => ⟨fun hx => ?_, fun hx => ?_⟩
  · obtain ⟨y, hy, hname⟩ := (hnames (name x)).1 ⟨x, hx, rfl⟩
    exact heq x hx y hy hname.symm ▸ hy
  · obtain ⟨y, hy, hname⟩ := (hnames (name x)).2 ⟨x, hx, rfl⟩
    exact heq y hy x hx hname ▸ hy

variable {f : Filter} {s : Store} {d : StoredDatabase} {q : StoredPolicy}

theorem Policy.Describes.unique {p p' : Policy} (h : p.Describes f d q) (h' : p'.Describes f d q) :
    p = p' := by
  have hname : p.name = p'.name := h.name.trans h'.name.symm
  have hdefault : p.isDefault = p'.isDefault := by
    rw [Bool.eq_iff_iff, h.isDefault, h'.isDefault, hname]
  have hmeasurements : p.measurements = p'.measurements := by
    refine Std.ExtTreeMap.ext_getElem? fun m => Option.ext fun types => ?_
    rw [h.measurements, h'.measurements, hname]
  cases p
  cases p'
  rw [Policy.mk.injEq]
  exact ⟨hname, h.duration.trans h'.duration.symm, h.shardDuration.trans h'.shardDuration.symm,
    h.replicas.trans h'.replicas.symm, hdefault, hmeasurements⟩

theorem Database.Describes.unique {x y : Database} (h : x.Describes f d) (h' : y.Describes f d)
    (hname : x.name = y.name) : x = y := by
  have hdefault : x.defaultPolicyName = y.defaultPolicyName :=
    Option.some.inj (h.default.symm.trans h'.default)
  have hpolicies : x.policies = y.policies := by
    refine eq_of_names h.ordered h'.ordered (fun n => (h.names n).trans (h'.names n).symm)
      fun p hp p' hp' heq => ?_
    obtain ⟨q, hq, hdescribes⟩ := h.policies p hp
    obtain ⟨q', hq', hdescribes'⟩ := h'.policies p' hp'
    obtain rfl : q = q' := Option.some.inj (hq.symm.trans (heq ▸ hq'))
    exact hdescribes.unique hdescribes'
  cases x
  cases y
  rw [Database.mk.injEq]
  exact ⟨hname, h.targetName.trans h'.targetName.symm, hdefault,
    h.targetDefaultPolicyName.trans h'.targetDefaultPolicyName.symm, hpolicies⟩

/-- A store is described in one way only. -/
theorem Describes.unique {ds ds' : List Database} (h : Describes f s ds) (h' : Describes f s ds') :
    ds = ds' := by
  refine eq_of_names h.ordered h'.ordered (fun n => (h.names n).trans (h'.names n).symm)
    fun x hx y hy heq => ?_
  obtain ⟨d, hd, hdescribes⟩ := h.databases x hx
  obtain ⟨d', hd', hdescribes'⟩ := h'.databases y hy
  obtain rfl : d = d' := Option.some.inj (hd.symm.trans (heq ▸ hd'))
  exact hdescribes.unique hdescribes' heq

end Unique

section Found
variable {f : Filter} {s : Store} {d : StoredDatabase} {name default : String}

theorem describes_foundPolicy (f : Filter) (d : StoredDatabase) {q : StoredPolicy}
    (hq : q.IsDeclared) : (foundPolicy f d q).Describes f d q where
  name := rfl
  duration := rfl
  shardDuration := rfl
  replicas := rfl
  isDefault := decide_eq_true_iff
  measurements m types := by
    rw [foundPolicy_measurement]
    refine and_congr_right fun _ => and_congr_right fun _ => exists_congr fun sm => ?_
    exact and_congr_right fun hsm => and_iff_right (hq m sm hsm)

/-- The policies of a database are kept in the order of their names. -/
theorem ordered_foundDatabase (f : Filter) (name default : String) (hsound : d.Sound) :
    (foundDatabase f name d default).policies.Pairwise fun p q => p.name < q.name := by
  rw [foundDatabase, List.pairwise_map]
  refine List.Pairwise.filter _ ?_
  rw [values_eq_map_toList, List.pairwise_map]
  refine Std.ExtTreeMap.ordered_keys_toList.imp_of_mem fun {a b} ha hb hlt => ?_
  have ha := hsound.named a.1 a.2 (Std.ExtTreeMap.mem_toList_iff_getElem?_eq_some.1 ha)
  have hb := hsound.named b.1 b.2 (Std.ExtTreeMap.mem_toList_iff_getElem?_eq_some.1 hb)
  change a.2.spec.name < b.2.spec.name
  rw [ha, hb]
  exact compare_lt_iff_lt.1 hlt

/-- What is found under the name of a policy is found of that policy. -/
theorem exists_foundPolicy (hsound : d.Sound) {p : Policy}
    (hp : p ∈ (foundDatabase f name d default).policies) :
    ∃ q, d.policies[p.name]? = some q ∧ p = foundPolicy f d q := by
  obtain ⟨n, q, hq, -, rfl⟩ := (mem_foundDatabase hsound).1 hp
  have hname : (foundPolicy f d q).name = n := hsound.named n q hq
  exact ⟨q, hname.symm ▸ hq, rfl⟩

theorem isDefault_foundPolicy {q : StoredPolicy} (hdefault : d.default = some default) :
    (foundPolicy f d q).isDefault = true ↔ (foundPolicy f d q).name = default := by
  rw [show (foundPolicy f d q).isDefault = decide (d.default = some q.spec.name) from rfl, hdefault,
    decide_eq_true_iff, Option.some.injEq, eq_comm]
  rfl

/-- Only the default policy of a database is found as one. -/
theorem marked_foundDatabase (f : Filter) (name : String) (hsound : d.Sound)
    (hdefault : d.default = some default) :
    ∃ p, (foundDatabase f name d default).defaultPolicy? = some p ∧
      (foundDatabase f name d default).policies.filter (·.isDefault) = [p] := by
  set x := foundDatabase f name d default
  obtain ⟨q, hq⟩ := Option.isSome_iff_exists.1
    (Std.ExtTreeMap.mem_iff_isSome_getElem?.1 (hsound.default _ hdefault))
  have hname : (foundPolicy f d q).name = default := hsound.named default q hq
  have hmem : foundPolicy f d q ∈ x.policies :=
    (mem_foundDatabase hsound).2 ⟨default, q, hq, .inl hdefault, rfl⟩
  have heq : ∀ p ∈ x.policies, p.name = default → p = foundPolicy f d q := by
    intro p hp hpname
    obtain ⟨q', hq', rfl⟩ := exists_foundPolicy hsound hp
    rw [hpname] at hq'
    rw [Option.some.inj (hq'.symm.trans hq)]
  have hfilter : x.policies.filter (·.isDefault) = [foundPolicy f d q] := by
    refine eq_of_names ((ordered_foundDatabase f name default hsound).filter _)
      (List.pairwise_singleton _ _) (fun n => ?_) fun p hp p' hp' hpname => ?_
    · constructor
      · rintro ⟨p, hp, rfl⟩
        obtain ⟨hp, hmarked⟩ := List.mem_filter.1 hp
        obtain ⟨q', -, rfl⟩ := exists_foundPolicy hsound hp
        exact ⟨_, List.mem_singleton_self _,
          hname.trans ((isDefault_foundPolicy hdefault).1 hmarked).symm⟩
      · rintro ⟨p, hp, rfl⟩
        obtain rfl := List.mem_singleton.1 hp
        exact ⟨_, List.mem_filter.2 ⟨hmem, (isDefault_foundPolicy hdefault).2 hname⟩, rfl⟩
    · obtain rfl := List.mem_singleton.1 hp'
      exact heq p (List.mem_filter.1 hp).1 (hpname.trans hname)
  refine ⟨_, ?_, hfilter⟩
  have hsome : x.defaultPolicy?.isSome := List.find?_isSome.2 ⟨_, hmem, by
    rw [(isDefault_foundPolicy hdefault).2 hname, Bool.true_and]
    exact decide_eq_true hname⟩
  obtain ⟨p, hp⟩ := Option.isSome_iff_exists.1 hsome
  obtain ⟨hpmem, -, hpname⟩ := Database.defaultPolicy?_spec hp
  rw [hp, heq p hpmem hpname]

theorem describes_foundDatabase (f : Filter) (name : String) (hsound : d.Sound)
    (hdeclared : ∀ (n : String) q, d.policies[n]? = some q → q.IsDeclared)
    (hdefault : d.default = some default) : (foundDatabase f name d default).Describes f d where
  targetName := rfl
  targetDefaultPolicyName := rfl
  default := hdefault
  marked := marked_foundDatabase f name hsound hdefault
  ordered := ordered_foundDatabase f name default hsound
  names n := by
    constructor
    · rintro ⟨p, hp, rfl⟩
      obtain ⟨n, q, hq, hkept, rfl⟩ := (mem_foundDatabase hsound).1 hp
      rw [show (foundPolicy f d q).name = n from hsound.named n q hq]
      exact ⟨Std.ExtTreeMap.mem_iff_isSome_getElem?.2 (hq ▸ rfl), hkept⟩
    · rintro ⟨hmem, hkept⟩
      obtain ⟨q, hq⟩ := Option.isSome_iff_exists.1 (Std.ExtTreeMap.mem_iff_isSome_getElem?.1 hmem)
      exact ⟨foundPolicy f d q, (mem_foundDatabase hsound).2 ⟨n, q, hq, hkept, rfl⟩,
        hsound.named n q hq⟩
  policies p hp := by
    obtain ⟨q, hq, rfl⟩ := exists_foundPolicy hsound hp
    exact ⟨q, hq, describes_foundPolicy f d (hdeclared _ q hq)⟩

/-- What is found in the store of a node describes it. -/
theorem describes_found (f : Filter) (hsound : s.Sound)
    (hdeclared : ∀ database policy p, s.policy? database policy = some p → p.IsDeclared) :
    Describes f s (found f s) where
  ordered := by
    rw [found, foundIn, List.pairwise_filterMap]
    refine Std.ExtTreeMap.ordered_keys_toList.imp fun {a b} hlt x hx y hy => ?_
    obtain ⟨-, -, _, -, rfl⟩ := foundDatabase_eq_some.1 hx
    obtain ⟨-, -, _, -, rfl⟩ := foundDatabase_eq_some.1 hy
    exact compare_lt_iff_lt.1 hlt
  names n := by
    constructor
    · rintro ⟨x, hx, rfl⟩
      obtain ⟨name, d, default, hd, hdefault, hexternal, hselected, rfl⟩ := mem_found.1 hx
      exact ⟨hexternal, hselected, d, hd, hdefault ▸ rfl⟩
    · rintro ⟨hexternal, hselected, d, hd, hdefault⟩
      obtain ⟨default, hdefault⟩ := Option.isSome_iff_exists.1 hdefault
      exact ⟨foundDatabase f n d default,
        mem_found.2 ⟨n, d, default, hd, hdefault, hexternal, hselected, rfl⟩, rfl⟩
  databases x hx := by
    obtain ⟨name, d, default, hd, hdefault, -, -, rfl⟩ := mem_found.1 hx
    refine ⟨d, hd, describes_foundDatabase f name (hsound name d hd) (fun n q hq => ?_) hdefault⟩
    exact hdeclared name n q (by rw [Store.policy?, hd, Option.bind_some, hq])

end Found

/-- Whatever a memory node has been through, a discovery of it while it is on line ends with the one
list of databases that describes it for the filter, and changes nothing. -/
theorem discover_describes {σ ρ : Type} {net : Network} {n : MemoryNode} {e : Endpoint}
    (begin : Instant) (shared : σ) (f : Filter) (hnode : net.node? e.client = some (.memory n))
    (honline : n.isOnline = true) (hreachable : n.Reachable) (hspanned : Spanned n.store) :
    ((Machine.initial begin net shared).launch
        (Process.ofRoutine (discover e f) : Process σ ρ _)).Inevitably Network.host
      fun m => m.nodes = net ∧ ∃ ds, m.answer? 0 = some (.ok ds) ∧
        ∀ ds', Describes f n.store ds' ↔ ds' = ds := by
  have hdescribes : Describes f n.store (found f n.store) :=
    describes_found f hreachable.sound fun _ _ _ hp => hreachable.declared hp
  apply (Machine.launch_ofRoutine Network.host begin net shared (discover e f)).mono
  rintro m ⟨hanswer, hnodes⟩
  rw [exec_discover hnode honline hreachable.sound hspanned] at hanswer hnodes
  refine ⟨hnodes, found f n.store, hanswer, fun ds' => ?_⟩
  exact ⟨fun h => h.unique hdescribes, fun h => h ▸ hdescribes⟩

/-- A node with a measurement in each of two policies, the second one of which keeps data for a
little more than a week. -/
private def shelvedNode : MemoryNode :=
  let row (policy measurement : String) : Batch :=
    ⟨"app", policy, [⟨measurement, ∅, (∅ : Fields).insert "load" (.integer 7), 5⟩]⟩
  let bare := ((MemoryNode.ofName "a").addPolicy "app" ⟨"all", .zero, .zero, 1⟩ true).addPolicy
    "app" ⟨"weekly", ⟨604800500000000⟩, .zero, 2⟩ false
  ((bare.insert (row "all" "cpu")).2.insert (row "weekly" "disk")).2

/-- A filter by the name of policies. -/
private def weeklyFilter : Filter := ⟨none, Pattern.Expr.read? "^weekly$", none⟩

theorem discover_describes_weekly :
    ((Machine.initial .epoch ⟨[.memory shelvedNode]⟩ ()).launch
        (Process.ofRoutine (discover ⟨"a", ⟨0⟩⟩ weeklyFilter) :
          Process Unit Unit _)).Inevitably Network.host
      fun m => m.nodes = ⟨[.memory shelvedNode]⟩ ∧ ∃ ds, m.answer? 0 = some (.ok ds) ∧
        ∀ ds', Describes weeklyFilter shelvedNode.store ds' ↔ ds' = ds := by
  have hreachable : shelvedNode.Reachable :=
    .insert _ (.insert _ (.addPolicy _ _ _ (.addPolicy _ _ _ (.ofName "a"))))
  exact discover_describes (e := ⟨"a", ⟨0⟩⟩) .epoch () weeklyFilter rfl rfl hreachable
    (by decide +kernel)

end SeriesReplica.Schema
