import SeriesReplica.Agent.Scope
import SeriesReplica.Cluster.Replication
import SeriesReplica.Node.Network
import SeriesReplica.Proofs.Schema.Discovered

/-! Names of copies. Without renaming, every policy is copied under its own name; renaming keeps
policies apart unless the default policy takes the name of another one. -/
namespace SeriesReplica.Agent
open Concurrent Time Schema Cluster

/-- Policies of different names or databases are copied to different places. -/
def KeepsApart (source destination : Endpoint) (start stop : Instant) (order : Sync.Order)
    (ds : List Schema.Database) : Prop :=
  ∀ x ∈ policiesOf ds, ∀ y ∈ policiesOf ds,
    let j := Sync.Job.ofPolicy source destination x.1 x.2 start stop order
    let k := Sync.Job.ofPolicy source destination y.1 y.2 start stop order
    j.destinationDatabase = k.destinationDatabase → j.destinationPolicy = k.destinationPolicy →
      j.sourceDatabase = k.sourceDatabase ∧ j.sourcePolicy.name = k.sourcePolicy.name

/-- The new name of the default policy is the name of another policy of the database. -/
def Scope.Collides (scope : Scope) (d : Schema.Database) : Prop :=
  ∃ p ∈ d.policies, p.name ≠ d.defaultPolicyName ∧ p.name ≠ "" ∧ scope.newPolicy = some p.name

variable {source destination : Endpoint} {start stop : Instant} {order : Sync.Order}
  {scope : Scope}

/-- Databases that keep their names are copied under them. -/
theorem keepsApart_of_isDiscovered {ds : List Schema.Database} (h : ∀ d ∈ ds, d.IsDiscovered) :
    KeepsApart source destination start stop order ds := by
  have hplace : ∀ x ∈ policiesOf ds, x.1.target = x.1.name ∧ x.1.targetPolicy x.2 = x.2.name := by
    intro x hx
    obtain ⟨d, hd, hx⟩ := List.mem_flatMap.1 hx
    obtain ⟨p, -, rfl⟩ := List.mem_map.1 hx
    constructor
    · rw [Schema.Database.target, (h d hd).targetName, Option.getD_none]
    · rw [Schema.Database.targetPolicy, Schema.Database.targetDefaultPolicy,
        (h d hd).targetDefaultPolicyName, Option.getD_none]
      exact ite_eq_right_iff.2 Eq.symm
  intro x hx y hy j k hdatabase hpolicy
  obtain ⟨hxd, hxp⟩ := hplace x hx
  obtain ⟨hyd, hyp⟩ := hplace y hy
  exact ⟨hxd.symm.trans (hdatabase.trans hyd), hxp.symm.trans (hpolicy.trans hyp)⟩

theorem not_collides_of_not_renames (h : scope.renames = false) (d : Schema.Database) :
    ¬ scope.Collides d := by
  rintro ⟨p, -, -, hname, hnew⟩
  simp [Scope.renames, hnew, hname] at h

theorem mem_policiesOf_singleton {d : Schema.Database} {x : Schema.Database × Schema.Policy} :
    x ∈ policiesOf [d] ↔ ∃ p ∈ d.policies, x = (d, p) := by
  simp [policiesOf, eq_comm]

theorem targetPolicy_rename (d : Schema.Database) (database policy : Option String)
    (p : Schema.Policy) : (d.rename database policy).targetPolicy p =
      if p.name = d.defaultPolicyName then (policy.filter (· ≠ "")).getD d.defaultPolicyName
      else p.name := rfl

/-- Another policy is in the place of the default policy only if they collide. -/
theorem collides_of_eq {d : Schema.Database} {p : Schema.Policy} (hp : p ∈ d.policies)
    (hne : p.name ≠ d.defaultPolicyName)
    (h : (scope.newPolicy.filter (· ≠ "")).getD d.defaultPolicyName = p.name) :
    scope.Collides d := by
  cases hnew : scope.newPolicy.filter (· ≠ "") with
  | none =>
    rw [hnew] at h
    exact absurd h.symm hne
  | some n =>
    obtain ⟨hnew', hn⟩ := Option.filter_eq_some_iff.1 hnew
    rw [hnew, Option.getD_some] at h
    exact ⟨p, hp, hne, h ▸ of_decide_eq_true hn, h ▸ hnew'⟩

/-- The one database that takes other names keeps its policies apart unless they collide. -/
theorem keepsApart_rename_iff {d : Schema.Database} (h : d.IsDiscovered) :
    KeepsApart source destination start stop order
        [d.rename scope.newDatabase scope.newPolicy] ↔ ¬ scope.Collides d := by
  constructor
  · rintro happart ⟨p, hp, hne, hname, hnew⟩
    obtain ⟨q, hq, hdefault⟩ := h.default
    have hsame : (d.rename scope.newDatabase scope.newPolicy).targetPolicy q =
        (d.rename scope.newDatabase scope.newPolicy).targetPolicy p := by
      rw [targetPolicy_rename, targetPolicy_rename, if_pos hdefault, if_neg hne, hnew,
        Option.filter_some, if_pos (decide_eq_true hname), Option.getD_some]
    obtain ⟨-, hqp⟩ := happart _ (mem_policiesOf_singleton.2 ⟨q, hq, rfl⟩) _
      (mem_policiesOf_singleton.2 ⟨p, hp, rfl⟩) rfl hsame
    exact hne (hqp.symm.trans hdefault)
  · intro hcollides x hx y hy j k _ hpolicy
    obtain ⟨p, hp, rfl⟩ := mem_policiesOf_singleton.1 hx
    obtain ⟨q, hq, rfl⟩ := mem_policiesOf_singleton.1 hy
    refine ⟨rfl, ?_⟩
    change p.name = q.name
    replace hpolicy : (d.rename scope.newDatabase scope.newPolicy).targetPolicy p =
      (d.rename scope.newDatabase scope.newPolicy).targetPolicy q := hpolicy
    rw [targetPolicy_rename, targetPolicy_rename] at hpolicy
    split at hpolicy <;> split at hpolicy
    case isTrue.isTrue hp' hq' => exact hp'.trans hq'.symm
    case isTrue.isFalse hq' => exact absurd (collides_of_eq hq hq' hpolicy) hcollides
    case isFalse.isTrue hp' _ => exact absurd (collides_of_eq hp hp' hpolicy.symm) hcollides
    case isFalse.isFalse => exact hpolicy

/-- Whatever a node has answered, the databases that have been discovered on it and have taken the
names of a scope are copied policy by policy to different places, exactly if the new name of the
default policy is not the name of another policy. -/
theorem renaming_keeps_apart_iff {ν : Type} {host : Host ν} {begin : Instant} {e : Endpoint}
    {f : Schema.Filter} {s : ν × Span} {ds ds' : List Schema.Database}
    (hfound : (host.exec begin (discover e f) s).1 = .ok ds) (hscope : scope.apply ds = .ok ds')
    (source destination : Endpoint) (start stop : Instant) (order : Sync.Order) :
    KeepsApart source destination start stop order ds' ↔ ¬ ∃ d ∈ ds, scope.Collides d := by
  have hds : ∀ d ∈ ds, d.IsDiscovered := (discover_isDiscovered e f).exec s ds hfound
  rw [Scope.apply] at hscope
  cases hrenames : scope.renames with
  | false =>
    simp only [hrenames, Bool.not_false, if_true, Except.ok.injEq] at hscope
    subst hscope
    refine iff_of_true (keepsApart_of_isDiscovered hds) ?_
    rintro ⟨d, -, hcollides⟩
    exact not_collides_of_not_renames hrenames d hcollides
  | true =>
    simp only [hrenames, Bool.not_true, Bool.false_eq_true, if_false] at hscope
    split at hscope
    · cases hscope
    · rename_i hlength
      obtain ⟨d, rfl⟩ := List.length_eq_one_iff.1 (not_not.1 hlength)
      simp only [List.map_cons, List.map_nil, Except.ok.injEq] at hscope
      subst hscope
      simpa using keepsApart_rename_iff (hds d List.mem_cons_self)

/-- A node with one row in each of two policies, for the same moment. -/
private def twoPolicyNode : Node.MemoryNode :=
  let row (policy : String) (load : Int64) : Batch :=
    ⟨"app", policy, [⟨"cpu", ∅, (∅ : Point.Fields).insert "load" (.integer load), 5⟩]⟩
  let bare := ((Node.MemoryNode.ofName "a").addPolicy "app" ⟨"all", .zero, .zero, 1⟩ true).addPolicy
    "app" ⟨"weekly", .zero, .zero, 1⟩ false
  ((bare.insert (row "all" 1)).2.insert (row "weekly" 2)).2

private def cpuMeasurements : Std.ExtTreeMap String FieldTypes :=
  (∅ : Std.ExtTreeMap String FieldTypes).insert "cpu" ((∅ : FieldTypes).insert "load" .integer)

/-- What is discovered on that node. -/
private def twoPolicies : Schema.Database :=
  .ofPolicies "app" [⟨"all", .zero, .ofSecs 604800, 1, true, cpuMeasurements⟩,
    ⟨"weekly", .zero, .ofSecs 604800, 1, false, cpuMeasurements⟩]

/-- A scope by which the default policy takes the name `weekly`. -/
private def weeklyScope : Scope := ⟨"", "", "", none, some "weekly"⟩

private theorem discovered_twoPolicies :
    (Node.Network.host.exec .epoch (discover ⟨"a", ⟨0⟩⟩ .all)
      (⟨[.memory twoPolicyNode]⟩, .zero)).1 = .ok [twoPolicies] := by decide +kernel

theorem renaming_keeps_apart_iff_weekly :
    KeepsApart ⟨"a", ⟨0⟩⟩ ⟨"b", ⟨1⟩⟩ .epoch .epoch .forward
        [twoPolicies.rename none (some "weekly")] ↔
      ¬ ∃ d ∈ [twoPolicies], weeklyScope.Collides d :=
  renaming_keeps_apart_iff discovered_twoPolicies rfl _ _ _ _ _

/-- Two policies of distinct names that have been discovered are copied to one place by a scope that
has been applied. -/
theorem weekly_default_is_merged :
    (Node.Network.host.exec .epoch (discover ⟨"a", ⟨0⟩⟩ .all)
        (⟨[.memory twoPolicyNode]⟩, .zero)).1 = .ok [twoPolicies] ∧
      twoPolicies.policies.Pairwise (fun p q => p.name ≠ q.name) ∧
      weeklyScope.apply [twoPolicies] = .ok [twoPolicies.rename none (some "weekly")] ∧
      ¬ KeepsApart ⟨"a", ⟨0⟩⟩ ⟨"b", ⟨1⟩⟩ .epoch .epoch .forward
        [twoPolicies.rename none (some "weekly")] := by
  refine ⟨discovered_twoPolicies, by decide, rfl, fun happart => ?_⟩
  have hfound : twoPolicies.IsDiscovered :=
    isDiscovered_ofPolicies "app" ⟨_, List.mem_cons_self, rfl⟩
  have hcollides : ¬ weeklyScope.Collides twoPolicies := (keepsApart_rename_iff hfound).1 happart
  exact hcollides ⟨_, List.mem_cons_of_mem _ List.mem_cons_self, by decide, by decide, rfl⟩

end SeriesReplica.Agent
