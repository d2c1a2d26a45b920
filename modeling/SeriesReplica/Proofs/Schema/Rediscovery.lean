import Mathlib.Algebra.GroupWithZero.Nat
import SeriesReplica.Proofs.Schema.Conformity
import SeriesReplica.Proofs.Schema.Description

/-! Discovery of a copy. What is discovered on a node and created on an empty one is discovered
there again, only without measurements, if the shard durations of the first node are whole seconds:
another one would be cut, and a shard duration that is cut to nothing gives way to the default. -/
namespace SeriesReplica.Schema
open Concurrent Time Query Point Node

/-- A policy without its measurements. -/
def Policy.emptied (p : Policy) : Policy := { p with measurements := ∅ }

/-- A database without its measurements. -/
def Database.emptied (d : Database) : Database :=
  { d with policies := d.policies.map Policy.emptied }

/-- A store all of whose shard durations are whole seconds. -/
def WholeShards (s : Store) : Prop :=
  ∀ database policy p, s.policy? database policy = some p → p.spec.shardDuration.subsec = 0

instance (s : Store) : Decidable (WholeShards s) :=
  inferInstanceAs (Decidable (∀ database policy p, s.policy? database policy = some p →
    p.spec.shardDuration.subsec = 0))

section Lengths

@[simp] theorem secs_ofSecs (n : Nat) : (Span.ofSecs n).secs = n :=
  Nat.mul_div_cancel n (by decide)

/-- The shard duration that is used is at least a second if the one that is set is in whole
seconds. -/
theorem shardDuration_secs_pos {q : StoredPolicy} (h : q.spec.shardDuration.subsec = 0) :
    0 < q.shardDuration.secs := by
  rw [StoredPolicy.shardDuration]
  cases hzero : q.spec.shardDuration.isZero with
  | true =>
    simp only [Bool.not_true, Bool.false_eq_true, if_false]
    split
    · decide
    · split <;> decide
  | false =>
    have hnanos : q.spec.shardDuration.nanos ≠ 0 := of_decide_eq_false hzero
    simp only [Bool.not_false, if_true]
    simp only [Span.subsec, Span.secs, nanosPerSec] at h ⊢
    omega

/-- A shard duration of whole seconds that is set is used. -/
theorem shardDuration_ofSpec {spec : PolicySpec} {n : Nat} (hn : 0 < n)
    (h : spec.shardDuration = .ofSecs n) :
    (StoredPolicy.ofSpec spec).shardDuration = .ofSecs n := by
  have hne : (Span.ofSecs n).isZero = false := by
    rw [Span.isZero, Span.ofSecs, decide_eq_false_iff_not]
    exact (Nat.mul_pos hn (by decide)).ne'
  rw [StoredPolicy.shardDuration, show (StoredPolicy.ofSpec spec).spec = spec from rfl, h, hne]
  rfl

end Lengths

section Copy
variable {s last : Store} {f : Filter} {d sd : StoredDatabase} {x : Database}

/-- A policy that has been created as it is described is described in the same way, without its
measurements. -/
theorem Policy.Describes.emptied {p : Policy} {q : StoredPolicy} (h : p.Describes f d q)
    (hwhole : q.spec.shardDuration.subsec = 0) (hdefault : sd.default = d.default) :
    p.emptied.Describes .all sd (.ofSpec (p.specNamed p.name)) where
  name := rfl
  duration := by
    change p.duration = .ofSecs p.duration.secs
    rw [h.duration, secs_ofSecs]
  shardDuration := by
    rw [shardDuration_ofSpec (shardDuration_secs_pos hwhole) h.shardDuration, secs_ofSecs]
    exact h.shardDuration
  replicas := rfl
  isDefault := hdefault ▸ h.isDefault
  measurements m types := by simp [Policy.emptied, StoredPolicy.ofSpec]

/-- A database that is stored as it is described is described in the same way, without its
measurements. -/
theorem Database.Describes.emptied (h : x.Describes f d) (hstored : x.IsStored sd)
    (hwhole : ∀ (n : String) q, d.policies[n]? = some q → q.spec.shardDuration.subsec = 0) :
    x.emptied.Describes .all sd where
  targetName := h.targetName
  targetDefaultPolicyName := h.targetDefaultPolicyName
  default := hstored.default
  marked := by
    obtain ⟨p, hp, hfilter⟩ := h.marked
    refine ⟨p.emptied, ?_, ?_⟩
    · rw [Database.defaultPolicy?, Database.emptied, List.find?_map]
      exact congrArg (Option.map Policy.emptied) hp
    · rw [Database.emptied, List.filter_map]
      exact congrArg (List.map Policy.emptied) hfilter
  ordered := List.pairwise_map.2 h.ordered
  names n := by
    rw [Std.ExtTreeMap.mem_iff_isSome_getElem?, Option.isSome_iff_exists]
    constructor
    · rintro ⟨p', hp', rfl⟩
      obtain ⟨p, hp, rfl⟩ := List.mem_map.1 hp'
      exact ⟨⟨_, (hstored.policies _ _).2 ⟨p, hp, rfl, rfl⟩⟩, .inr rfl⟩
    · rintro ⟨⟨q, hq⟩, -⟩
      obtain ⟨p, hp, rfl, -⟩ := (hstored.policies n q).1 hq
      exact ⟨p.emptied, List.mem_map_of_mem hp, rfl⟩
  policies := by
    intro p' hp'
    obtain ⟨p, hp, rfl⟩ := List.mem_map.1 hp'
    obtain ⟨q, hq, hdescribes⟩ := h.policies p hp
    exact ⟨_, (hstored.policies _ _).2 ⟨p, hp, rfl, rfl⟩,
      hdescribes.emptied (hwhole _ q hq) (hstored.default.trans h.default.symm)⟩

/-- Databases that are stored where there were none. -/
structure AreStored (ds : List Database) (last : Store) : Prop where
  others : ∀ n, (∀ d ∈ ds, d.name ≠ n) → last.database? n = none
  stored : ∀ d ∈ ds, ∃ sd, last.database? d.name = some sd ∧ d.IsStored sd

variable {ds : List Database}

theorem AreStored.exists_of_database (h : AreStored ds last) {n : String}
    (hsd : last.database? n = some sd) : ∃ d ∈ ds, d.name = n ∧ d.IsStored sd := by
  by_cases hn : ∃ d ∈ ds, d.name = n
  · obtain ⟨d, hd, rfl⟩ := hn
    obtain ⟨sd', hsd', hstored⟩ := h.stored d hd
    exact ⟨d, hd, rfl, Option.some.inj (hsd.symm.trans hsd') ▸ hstored⟩
  · rw [h.others n fun d hd heq => hn ⟨d, hd, heq⟩] at hsd
    cases hsd

theorem AreStored.exists_of_policy (h : AreStored ds last) {database policy : String}
    {q : StoredPolicy} (hq : last.policy? database policy = some q) :
    ∃ d ∈ ds, ∃ p ∈ d.policies, p.name = policy ∧ q = .ofSpec (p.specNamed p.name) := by
  obtain ⟨sd, hsd, hq⟩ := Option.bind_eq_some_iff.1 hq
  obtain ⟨d, hd, -, hstored⟩ := h.exists_of_database hsd
  exact ⟨d, hd, (hstored.policies policy q).1 hq⟩

/-- What describes a store describes its copy, without the measurements. -/
theorem Describes.emptied (h : Describes f s ds) (hwhole : WholeShards s)
    (hcopy : AreStored ds last) : Describes .all last (ds.map Database.emptied) where
  ordered := List.pairwise_map.2 h.ordered
  names n := by
    constructor
    · rintro ⟨x', hx', rfl⟩
      obtain ⟨x, hx, rfl⟩ := List.mem_map.1 hx'
      obtain ⟨sd, hsd, hstored⟩ := hcopy.stored x hx
      exact ⟨((h.names x.name).1 ⟨x, hx, rfl⟩).1, rfl, sd, hsd, hstored.default ▸ rfl⟩
    · rintro ⟨-, -, sd, hsd, -⟩
      obtain ⟨x, hx, hname, -⟩ := hcopy.exists_of_database hsd
      exact ⟨x.emptied, List.mem_map_of_mem hx, hname⟩
  databases := by
    intro x' hx'
    obtain ⟨x, hx, rfl⟩ := List.mem_map.1 hx'
    obtain ⟨d, hd, hdescribes⟩ := h.databases x hx
    obtain ⟨sd, hsd, hstored⟩ := hcopy.stored x hx
    refine ⟨sd, hsd, hdescribes.emptied hstored fun n q hq => hwhole x.name n q ?_⟩
    rw [Store.policy?, hd, Option.bind_some, hq]

/-- A copy is sound. -/
theorem AreStored.sound (hcopy : AreStored ds last) (h : Describes f s ds) : last.Sound := by
  intro n sd hsd
  obtain ⟨x, hx, -, hstored⟩ := hcopy.exists_of_database hsd
  obtain ⟨d, -, hdescribes⟩ := h.databases x hx
  refine ⟨fun k hk => ?_, fun k q hq => ?_, fun k q hq => ?_⟩
  · obtain ⟨p, hp, -⟩ := hdescribes.marked
    obtain ⟨hmem, -, hname⟩ := Database.defaultPolicy?_spec hp
    rw [hstored.default, Option.some.injEq] at hk
    exact hk ▸ hname ▸ hstored.mem hmem
  · obtain ⟨p, -, rfl, rfl⟩ := (hstored.policies k q).1 hq
    rfl
  · obtain ⟨p, -, -, rfl⟩ := (hstored.policies k q).1 hq
    intro m sm hsm
    simp [StoredPolicy.ofSpec] at hsm

theorem AreStored.spanned (hcopy : AreStored ds last) (h : Describes f s ds)
    (hspanned : Spanned s) : Spanned last := by
  intro database policy q hq
  obtain ⟨x, hx, p, hp, -, rfl⟩ := hcopy.exists_of_policy hq
  obtain ⟨d, hd, hdescribes⟩ := h.databases x hx
  obtain ⟨q, hq, hp⟩ := hdescribes.policies p hp
  obtain ⟨hduration, hshard⟩ := hspanned x.name p.name q (by
    rw [Store.policy?, hd, Option.bind_some, hq])
  change p.duration.secs ≤ _ ∧ p.shardDuration.secs ≤ _
  rw [hp.duration, hp.shardDuration, secs_ofSecs, secs_ofSecs]
  exact ⟨hduration, shardDuration_secs_le hshard⟩

/-- All that is found in a copy is what has been copied, without the measurements. -/
theorem AreStored.found_eq (hcopy : AreStored ds last) (h : Describes f s ds)
    (hwhole : WholeShards s) : found .all last = ds.map Database.emptied := by
  refine (describes_found .all (hcopy.sound h) fun database policy q hq => ?_).unique
    (h.emptied hwhole hcopy)
  obtain ⟨x, -, p, -, -, rfl⟩ := hcopy.exists_of_policy hq
  intro m sm hsm
  simp [StoredPolicy.ofSpec] at hsm

end Copy

section Counts

/-- A database is created with each of its policies once. -/
theorem creations_statements {d : Database} (h : d.KeepsNames) :
    creations d.statements = d.policies.length := by
  obtain ⟨default, hdefault⟩ := Option.isSome_iff_exists.1 h.default
  obtain ⟨hmem, -, hname⟩ := Database.defaultPolicy?_spec hdefault
  have hone : d.policies.countP (fun p => decide (p.name = d.defaultPolicyName)) = 1 := by
    have hnodup : (d.policies.map (·.name)).Nodup := List.pairwise_map.2 h.distinct
    rw [← List.count_eq_one_of_mem hnodup (List.mem_map_of_mem hmem), List.count, List.countP_map]
    refine List.countP_congr fun p _ => ?_
    rw [Function.comp_apply, hname, beq_iff_eq, decide_eq_true_eq]
  have hothers : creations ((d.policies.filter (·.name ≠ d.defaultPolicyName)).map fun p =>
      .createPolicy d.target (p.specNamed p.name) false) =
      d.policies.countP (fun p => decide (p.name ≠ d.defaultPolicyName)) := by
    rw [creations, List.countP_map, List.countP_eq_length_filter (l := d.policies)]
    exact List.countP_eq_length.2 fun _ _ => rfl
  rw [statements_eq h.isInternal_eq hdefault, Database.creation, creations_append, hothers,
    List.length_eq_countP_add_countP fun p => decide (p.name = d.defaultPolicyName), hone]
  simp [creations, created?]

theorem creations_flatMap {ds : List Database} (h : ∀ d ∈ ds, d.KeepsNames) :
    creations (ds.flatMap Database.statements) = (ds.map fun d => d.policies.length).sum := by
  induction ds with
  | nil => rfl
  | cons d ds ih =>
    rw [List.flatMap_cons, creations_append, creations_statements (h d List.mem_cons_self),
      ih fun e he => h e (List.mem_cons_of_mem _ he)]
    rfl

end Counts

/-- Finds out what a node holds, creates it on another one, and finds out what that one holds
then. -/
def rediscover (source target : Endpoint) (f : Filter) :
    Routine (Except DiscoveryError (List Database × ReplicationReport × List Database)) := do
  match ← discover source f with
  | .error e => pure (.error e)
  | .ok ds =>
    let report ← replicate target ds
    let again ← discover target .all
    pure (again.map fun copies => (ds, report, copies))

section Nodes
variable {net : Network} {n t : MemoryNode} {source target : Endpoint} {begin : Instant}

/-- What is found on one node is created on an empty one without errors, each database and each
policy of it once. -/
theorem exec_replicate_found (now : Span) (f : Filter) (hsound : n.store.Sound)
    (htarget : net.node? target.client = some (.memory t)) (honline : t.isOnline = true)
    (hempty : t.store = .empty) :
    ∃ report net' t', Network.host.exec begin (replicate target (found f n.store)) (net, now) =
        (report, net', now) ∧ net'.node? target.client = some (.memory t') ∧
      t'.isOnline = true ∧ AreStored (found f n.store) t'.store ∧ report.isClean = true ∧
      report.databases = (found f n.store).length ∧
      report.policies = ((found f n.store).map fun d => d.policies.length).sum := by
  have hkeeps : ∀ d ∈ found f n.store, d.KeepsNames := by
    intro d hd
    obtain ⟨name, sd, default, hsd, hdefault, hexternal, -, rfl⟩ := mem_found.1 hd
    exact keepsNames_foundDatabase (hsound name sd hsd) hdefault hexternal
  have hnone (name : String) : Store.empty.database? name = none := by
    simp [Store.empty, Store.database?]
  obtain ⟨last, haccepts, hothers, hstored⟩ :=
    accepts_statements hkeeps (found_distinct f n.store) fun d _ => hnone d.name
  obtain ⟨report, net', t', hexec, hnode', honline', hstore', hclean⟩ :=
    @exec_replicate _ _ begin _ now (found f n.store) htarget honline
  rw [hempty, sent_of_accepts haccepts] at hstore' hclean
  have hreplicable : (found f n.store).all Database.isReplicable = true :=
    List.all_eq_true.2 fun d hd => by
      rw [Database.isReplicable, (hkeeps d hd).default, Bool.or_true]
  rw [hreplicable, Bool.and_true] at hclean
  have hcounts := @Routine.Returns.exec _ _ Network.host begin _ _
    (replicate_counts target (found f n.store)) (net, now)
  rw [hexec, creations_flatMap hkeeps] at hcounts
  obtain ⟨hdatabases, hpolicies⟩ := hcounts hclean
  refine ⟨report, net', t', hexec, hnode', honline', ?_, hclean, ?_, hpolicies⟩
  · rw [hstore']
    exact ⟨fun name hname => (hothers name hname).trans (hnone name), hstored⟩
  · rw [hdatabases]
    exact List.countP_eq_length.2 fun d hd => by rw [(hkeeps d hd).isInternal_eq]; rfl

end Nodes

/-- A node is discovered, created on an empty one and discovered there: no statement of the creation
fails, each database and each policy is counted once, and what is discovered in the end is what was
discovered at first, without its measurements. -/
theorem rediscover_emptied {σ ρ : Type} {net : Network} {n t : MemoryNode}
    {source target : Endpoint} (begin : Instant) (shared : σ) (f : Filter)
    (hsource : net.node? source.client = some (.memory n)) (honline : n.isOnline = true)
    (hreachable : n.Reachable) (hspanned : Spanned n.store) (hwhole : WholeShards n.store)
    (htarget : net.node? target.client = some (.memory t)) (hopen : t.isOnline = true)
    (hempty : t.store = .empty) :
    ((Machine.initial begin net shared).launch
        (Process.ofRoutine (rediscover source target f) : Process σ ρ _)).Inevitably Network.host
      fun m => ∃ ds report, m.answer? 0 = some (.ok (ds, report, ds.map Database.emptied)) ∧
        Describes f n.store ds ∧ report.isClean = true ∧ report.databases = ds.length ∧
        report.policies = (ds.map fun d => d.policies.length).sum := by
  apply (Machine.launch_ofRoutine Network.host begin net shared
    (rediscover source target f)).mono
  rintro m ⟨hanswer, -⟩
  have hdescribes : Describes f n.store (found f n.store) :=
    describes_found f hreachable.sound fun _ _ _ hp => hreachable.declared hp
  obtain ⟨report, net', t', hreplicate, htarget', hopen', hcopy, hclean, hdatabases, hpolicies⟩ :=
    exec_replicate_found .zero f hreachable.sound htarget hopen hempty
  rw [rediscover, Host.exec_bind, exec_discover hsource honline hreachable.sound hspanned]
    at hanswer
  simp only [] at hanswer
  rw [Host.exec_bind, hreplicate, Host.exec_bind, exec_discover htarget' hopen'
    (hcopy.sound hdescribes) (hcopy.spanned hdescribes hspanned),
    hcopy.found_eq hdescribes hwhole] at hanswer
  exact ⟨found f n.store, report, hanswer, hdescribes, hclean, hdatabases, hpolicies⟩

/-- A node with two policies of one database, a measurement in the first of them. -/
private def tieredNode : MemoryNode :=
  let bare := ((MemoryNode.ofName "a").addPolicy "app" ⟨"all", .zero, .zero, 1⟩ true).addPolicy
    "app" ⟨"weekly", .ofSecs 604800, .ofSecs 3600, 2⟩ false
  (bare.insert ⟨"app", "all", [⟨"cpu", ∅, (∅ : Fields).insert "load" (.integer 7), 5⟩]⟩).2

theorem rediscover_emptied_tiered :
    ((Machine.initial .epoch ⟨[.memory tieredNode, .memory (.ofName "b")]⟩ ()).launch
        (Process.ofRoutine (rediscover ⟨"a", ⟨0⟩⟩ ⟨"b", ⟨1⟩⟩ .all) :
          Process Unit Unit _)).Inevitably Network.host
      fun m => ∃ ds report, m.answer? 0 = some (.ok (ds, report, ds.map Database.emptied)) ∧
        Describes .all tieredNode.store ds ∧ report.isClean = true ∧
        report.databases = ds.length ∧
        report.policies = (ds.map fun d => d.policies.length).sum := by
  have hreachable : tieredNode.Reachable :=
    .insert _ (.addPolicy _ _ _ (.addPolicy _ _ _ (.ofName "a")))
  have hsource : Network.node? ⟨[.memory tieredNode, .memory (.ofName "b")]⟩ ⟨0⟩ =
      some (.memory tieredNode) := rfl
  exact rediscover_emptied .epoch () .all hsource rfl hreachable (by decide +kernel)
    (by decide +kernel) rfl rfl rfl

end SeriesReplica.Schema
