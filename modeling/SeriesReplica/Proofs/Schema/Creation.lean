import Mathlib.Data.List.Pairwise
import Mathlib.Tactic.Set
import SeriesReplica.Proofs.Node.Rows
import SeriesReplica.Proofs.Schema.Statements

/-! Databases that are created in a store. The statements that create a database where there is
none are all accepted, and then the store has the policies of the database, with nothing in
them. -/
namespace SeriesReplica.Schema
open Query Node

/-- A database that is copied under its own names, with its default among distinct policies. -/
structure Database.KeepsNames (d : Database) : Prop where
  targetName : d.targetName = none
  targetDefaultPolicyName : d.targetDefaultPolicyName = none
  external : d.name ≠ internalDatabase
  default : d.defaultPolicy?.isSome
  distinct : d.policies.Pairwise fun p q => p.name ≠ q.name

theorem Database.KeepsNames.eq_of_name {d : Database} (h : d.KeepsNames) {p q : Policy}
    (hp : p ∈ d.policies) (hq : q ∈ d.policies) (hname : p.name = q.name) : p = q := by
  have : Std.Symm fun p q : Policy => p.name ≠ q.name := ⟨fun _ _ h => h.symm⟩
  by_contra hne
  exact h.distinct.forall hp hq hne hname

/-- The default policy has the name of the default and is marked as it. -/
theorem Database.defaultPolicy?_spec {d : Database} {p : Policy} (h : d.defaultPolicy? = some p) :
    p ∈ d.policies ∧ p.isDefault = true ∧ p.name = d.defaultPolicyName := by
  have hfound := List.find?_some h
  obtain ⟨hmarked, hname⟩ := Bool.and_eq_true_iff.1 hfound
  exact ⟨List.mem_of_find?_eq_some h, hmarked, of_decide_eq_true hname⟩

/-- A stored database without measurements. -/
def Bare (d : StoredDatabase) : Prop :=
  ∀ (n : String) p, d.policies[n]? = some p → p.measurements = ∅

/-- A stored database has the policies of a database under their own names, with nothing in them,
and its default. -/
structure Database.IsStored (d : Database) (sd : StoredDatabase) : Prop where
  default : sd.default = some d.defaultPolicyName
  policies : ∀ (n : String) q, sd.policies[n]? = some q ↔
    ∃ p ∈ d.policies, p.name = n ∧ q = .ofSpec (p.specNamed p.name)

theorem Database.IsStored.bare {d : Database} {sd : StoredDatabase} (h : d.IsStored sd) :
    Bare sd := by
  intro n q hq
  obtain ⟨p, -, -, rfl⟩ := (h.policies n q).1 hq
  rfl

theorem Database.IsStored.mem {d : Database} {sd : StoredDatabase} (h : d.IsStored sd) {p : Policy}
    (hp : p ∈ d.policies) : p.name ∈ sd.policies :=
  Std.ExtTreeMap.mem_iff_isSome_getElem?.2 ((h.policies p.name _).2 ⟨p, hp, rfl, rfl⟩ ▸ rfl)

theorem mem_addPolicy {d : StoredDatabase} {spec : PolicySpec} {makeDefault : Bool} {n : String} :
    n ∈ (d.addPolicy spec makeDefault).policies ↔ spec.name = n ∨ n ∈ d.policies := by
  rw [StoredDatabase.addPolicy, Std.ExtTreeMap.mem_insertIfNew, Std.LawfulEqCmp.compare_eq_iff_eq]

/-- A policy of a new name is added next to the others. -/
theorem getElem?_addPolicy_new {d : StoredDatabase} {spec : PolicySpec} (h : spec.name ∉ d.policies)
    (makeDefault : Bool) {n : String} {q : StoredPolicy} :
    (d.addPolicy spec makeDefault).policies[n]? = some q ↔
      d.policies[n]? = some q ∨ spec.name = n ∧ q = .ofSpec spec := by
  rw [StoredDatabase.addPolicy, Std.ExtTreeMap.getElem?_insertIfNew]
  by_cases hn : spec.name = n
  · subst hn
    rw [if_pos ⟨Std.ReflCmp.compare_self, h⟩, Std.ExtTreeMap.getElem?_eq_none h]
    simp [eq_comm]
  · rw [if_neg fun hnew => hn (Std.LawfulEqCmp.eq_of_compare hnew.1)]
    simp [hn]

/-- A policy that is there stays as it is. -/
theorem policies_addPolicy_of_mem {d : StoredDatabase} {spec : PolicySpec}
    (h : spec.name ∈ d.policies) (makeDefault : Bool) :
    (d.addPolicy spec makeDefault).policies = d.policies := by
  refine Std.ExtTreeMap.ext_getElem? fun n => ?_
  rw [StoredDatabase.addPolicy, Std.ExtTreeMap.getElem?_insertIfNew, if_neg fun hnew => hnew.2 h]

/-- A store accepts statements one after another, and they leave another store. -/
def Accepts (s : Store) : List Statement → Store → Prop
  | [], last => last = s
  | st :: ss, last => ∃ response next,
    s.execute (.ofStatement st) = (next, .ok response) ∧ Accepts next ss last

theorem accepts_append {s last : Store} {ss ts : List Statement} :
    Accepts s (ss ++ ts) last ↔ ∃ mid, Accepts s ss mid ∧ Accepts mid ts last := by
  induction ss generalizing s with
  | nil => simp [Accepts]
  | cons st ss ih =>
    simp only [List.cons_append, Accepts, ih]
    constructor
    · rintro ⟨response, next, hnext, mid, hmid, hlast⟩
      exact ⟨mid, ⟨response, next, hnext, hmid⟩, hlast⟩
    · rintro ⟨mid, ⟨response, next, hnext, hmid⟩, hlast⟩
      exact ⟨response, next, hnext, mid, hmid, hlast⟩

variable {s : Store} {name : String} {d : StoredDatabase} {spec : PolicySpec}

theorem execute_createDatabase (h : s.database? name = none) (spec : PolicySpec) :
    s.execute (.ofStatement (.createDatabase name spec)) =
      (s.put name (StoredDatabase.empty.addPolicy spec true), .ok (.single [])) := by
  change s.changed (s.createDatabase name spec) = _
  rw [Store.createDatabase, h]
  rfl

theorem execute_createPolicy (makeDefault : Bool)
    (h : ∀ p, d.policies[spec.name]? = some p → p.spec = spec) :
    (s.put name d).execute (.ofStatement (.createPolicy name spec makeDefault)) =
      (s.put name (d.addPolicy spec makeDefault), .ok (.single [])) := by
  have hfits : ¬ (d.policies[spec.name]?.any fun p => decide (p.spec ≠ spec)) = true := by
    intro hany
    obtain ⟨p, hp, hne⟩ := (Option.any_eq_true _ _).1 hany
    exact of_decide_eq_true hne (h p hp)
  change (s.put name d).changed ((s.put name d).createPolicy name spec makeDefault) = _
  rw [Store.createPolicy, Store.found, Store.database?_put_self]
  simp only [bind, Except.bind, if_neg hfits, pure, Except.pure, Store.put_put, Store.changed]

theorem execute_setDefaultPolicy {n : String} (h : n ∈ d.policies) :
    (s.put name d).execute (.ofStatement (.setDefaultPolicy name n)) =
      (s.put name { d with default := some n }, .ok (.single [])) := by
  change (s.put name d).changed ((s.put name d).setDefaultPolicy name n) = _
  rw [Store.setDefaultPolicy, Store.found, Store.database?_put_self]
  simp only [bind, Except.bind, if_pos (Std.ExtTreeMap.contains_iff_mem.2 h), pure, Except.pure,
    Store.put_put, Store.changed]

/-- Policies of new names are accepted one after another. -/
theorem accepts_policies (s : Store) (name : String) {ps : List Policy}
    (hnew : ∀ p ∈ ps, p.name ∉ d.policies)
    (hdistinct : ps.Pairwise fun p q => p.name ≠ q.name) :
    ∃ d', Accepts (s.put name d)
        (ps.map fun p => .createPolicy name (p.specNamed p.name) false) (s.put name d') ∧
      d'.default = d.default ∧ ∀ (n : String) q, d'.policies[n]? = some q ↔
        d.policies[n]? = some q ∨ ∃ p ∈ ps, p.name = n ∧ q = .ofSpec (p.specNamed p.name) := by
  induction ps generalizing d with
  | nil => exact ⟨d, rfl, rfl, by simp⟩
  | cons p ps ih =>
    obtain ⟨hhead, htail⟩ := List.pairwise_cons.1 hdistinct
    have hp : (p.specNamed p.name).name ∉ d.policies := hnew p List.mem_cons_self
    -- The names are distinct, so none of the rest is taken by the policy that is created first.
    have hnew' : ∀ q ∈ ps, q.name ∉ (d.addPolicy (p.specNamed p.name) false).policies := by
      intro q hq hmem
      rcases mem_addPolicy.1 hmem with heq | hmem
      · exact hhead q hq heq
      · exact hnew q (List.mem_cons_of_mem _ hq) hmem
    obtain ⟨d', haccepts, hdefault, hpolicies⟩ := ih hnew' htail
    refine ⟨d', ⟨_, _, execute_createPolicy false fun q hq => ?_, haccepts⟩, hdefault,
      fun n q => ?_⟩
    · rw [Std.ExtTreeMap.getElem?_eq_none hp] at hq
      cases hq
    · rw [hpolicies, getElem?_addPolicy_new hp, or_assoc]
      simp [Policy.specNamed]

/-- A database that is not there yet is created with all its policies. -/
theorem accepts_creation {d : Database} (hd : d.KeepsNames) {default : Policy}
    (hdefault : d.defaultPolicy? = some default) (hnew : s.database? d.name = none) :
    ∃ sd, Accepts s (d.creation default) (s.put d.name sd) ∧ d.IsStored sd := by
  have htarget : d.target = d.name := by rw [Database.target, hd.targetName, Option.getD_none]
  obtain ⟨hmem, -, hname⟩ := Database.defaultPolicy?_spec hdefault
  have hpolicy : d.targetDefaultPolicy = default.name := by
    rw [Database.targetDefaultPolicy, hd.targetDefaultPolicyName, Option.getD_none, hname]
  set spec := default.specNamed default.name
  set first := StoredDatabase.empty.addPolicy spec true with hfirst
  have hfirst : ∀ (n : String) q,
      first.policies[n]? = some q ↔ spec.name = n ∧ q = .ofSpec spec := by
    intro n q
    rw [hfirst, getElem?_addPolicy_new (by simp [StoredDatabase.empty])]
    simp [StoredDatabase.empty]
  -- The default policy comes with the database; that it is created once more changes nothing.
  have hspec : spec.name ∈ first.policies := mem_addPolicy.2 (.inl rfl)
  set second := first.addPolicy spec true with hsecond
  have hsame : second.policies = first.policies := policies_addPolicy_of_mem hspec true
  set third : StoredDatabase := { second with default := some spec.name }
  have hothers : ∀ p ∈ d.policies.filter (·.name ≠ d.defaultPolicyName),
      p.name ∉ third.policies := by
    intro p hp hp'
    obtain ⟨q, hq⟩ := Option.isSome_iff_exists.1 (Std.ExtTreeMap.mem_iff_isSome_getElem?.1 hp')
    obtain ⟨heq, -⟩ := (hfirst p.name q).1 (hsame ▸ hq)
    exact of_decide_eq_true (List.mem_filter.1 hp).2 (heq.symm.trans hname)
  obtain ⟨sd, haccepts, hsd, hpolicies⟩ := accepts_policies s d.name hothers
    (hd.distinct.filter _)
  refine ⟨sd, ?_, hsd.trans (congrArg some hname), fun n q => ?_⟩
  · rw [Database.creation, htarget, hpolicy]
    refine ⟨_, _, execute_createDatabase hnew spec, _, _, execute_createPolicy true fun p hp => ?_,
      _, _, execute_setDefaultPolicy (hsame ▸ hspec), haccepts⟩
    exact ((hfirst spec.name p).1 hp).2 ▸ rfl
  · rw [hpolicies, show third.policies = first.policies from hsame, hfirst]
    constructor
    · rintro (⟨rfl, rfl⟩ | ⟨p, hp, hrest⟩)
      · exact ⟨default, hmem, rfl, rfl⟩
      · exact ⟨p, (List.mem_filter.1 hp).1, hrest⟩
    · rintro ⟨p, hp, rfl, rfl⟩
      by_cases hdefaultName : p.name = d.defaultPolicyName
      · obtain rfl := hd.eq_of_name hp hmem (hdefaultName.trans hname.symm)
        exact .inl ⟨rfl, rfl⟩
      · exact .inr ⟨p, List.mem_filter.2 ⟨hp, decide_eq_true hdefaultName⟩, rfl, rfl⟩

theorem Database.KeepsNames.isInternal_eq {d : Database} (h : d.KeepsNames) :
    d.isInternal = false := by
  rw [isInternal_eq_false_iff h.external, Database.target, h.targetName, Option.getD_none]
  exact h.external

/-- Databases that are not there yet are created one after another. -/
theorem accepts_statements {ds : List Database} (hds : ∀ d ∈ ds, d.KeepsNames)
    (hdistinct : ds.Pairwise fun d e => d.name ≠ e.name)
    (hnew : ∀ d ∈ ds, s.database? d.name = none) :
    ∃ last, Accepts s (ds.flatMap Database.statements) last ∧
      (∀ n, (∀ d ∈ ds, d.name ≠ n) → last.database? n = s.database? n) ∧
      ∀ d ∈ ds, ∃ sd, last.database? d.name = some sd ∧ d.IsStored sd := by
  induction ds generalizing s with
  | nil => exact ⟨s, rfl, fun n _ => rfl, by simp⟩
  | cons d ds ih =>
    obtain ⟨hhead, htail⟩ := List.pairwise_cons.1 hdistinct
    have hd := hds d List.mem_cons_self
    obtain ⟨default, hdefault⟩ := Option.isSome_iff_exists.1 hd.default
    obtain ⟨sd, hfirst, hstored⟩ := accepts_creation hd hdefault (hnew d List.mem_cons_self)
    have hnew' : ∀ d' ∈ ds, (s.put d.name sd).database? d'.name = none := by
      intro d' hd'
      rw [Store.database?_put_ne s (hhead d' hd').symm]
      exact hnew d' (List.mem_cons_of_mem _ hd')
    obtain ⟨last, hrest, hkept, hadded⟩ :=
      ih (fun d' hd' => hds d' (List.mem_cons_of_mem _ hd')) htail hnew'
    refine ⟨last, ?_, fun n hn => ?_, fun d' hd' => ?_⟩
    · rw [List.flatMap_cons, accepts_append, statements_eq hd.isInternal_eq hdefault]
      exact ⟨_, hfirst, hrest⟩
    · rw [hkept n fun d' hd' => hn d' (List.mem_cons_of_mem _ hd'),
        Store.database?_put_ne s (hn d List.mem_cons_self).symm]
    · rcases List.mem_cons.1 hd' with rfl | hd'
      · refine ⟨sd, ?_, hstored⟩
        rw [hkept d'.name fun e he => (hhead e he).symm, Store.database?_put_self]
      · exact hadded d' hd'

end SeriesReplica.Schema
