import Mathlib.Data.List.Pairwise
import SeriesReplica.Proofs.Concurrent.Adequacy
import SeriesReplica.Proofs.Node.Listing
import SeriesReplica.Proofs.Schema.Creation
import SeriesReplica.Proofs.Schema.Replication

/-! Replication of schemas to a memory node that may hold anything. If the report is clean, each
database is there with its policies: the default policy with the parameters of the schema, and
every other policy with those it had on the node before, or those of the schema if it is new. -/
namespace SeriesReplica.Schema
open Concurrent Time Query Node

/-- Whether what a store answers to a statement counts as done: what is there already is no
error. -/
def countsAsDone : Except StoreError Response → Bool
  | .ok _ => true
  | .error e => (Node.Error.statement e.message).isAlreadyExists

theorem countsAsDone_policyExists : countsAsDone (.error .policyExists) = true := by decide +kernel

theorem not_countsAsDone_policyDiffers : ¬ countsAsDone (.error .policyDiffers) = true := by
  decide +kernel

/-- The store after statements have been sent one after another, whatever became of each, and
whether all of them count as done. -/
def sent (s : Store) : List Statement → Store × Bool
  | [] => (s, true)
  | st :: ss =>
    let (next, answer) := s.execute (.ofStatement st)
    let (last, done) := sent next ss
    (last, countsAsDone answer && done)

/-- The database that a statement changes. -/
def changed? : Statement → Option String
  | .createDatabase database _ => some database
  | .createPolicy database _ _ => some database
  | .setDefaultPolicy database _ => some database
  | _ => none

section Stores
variable {s : Store} {name : String} {d : StoredDatabase} {spec : PolicySpec}

theorem sent_append (s : Store) (ss ts : List Statement) :
    sent s (ss ++ ts) =
      ((sent (sent s ss).1 ts).1, (sent s ss).2 && (sent (sent s ss).1 ts).2) := by
  induction ss generalizing s with
  | nil => simp [sent]
  | cons st ss ih => simp only [List.cons_append, sent, ih, Bool.and_assoc]

theorem sent_of_accepts {last : Store} {ss : List Statement} (h : Accepts s ss last) :
    sent s ss = (last, true) := by
  induction ss generalizing s with
  | nil =>
    obtain rfl : last = s := h
    rfl
  | cons st ss ih =>
    obtain ⟨response, next, hnext, hrest⟩ := h
    rw [sent, hnext]
    simp only [ih hrest]
    rfl

/-- A statement changes no database but its own. -/
theorem database?_execute {st : Statement} {other : String} (h : changed? st ≠ some other) :
    (s.execute (.ofStatement st)).1.database? other = s.database? other := by
  have hput (d : StoredDatabase) {name : String} (hname : some name ≠ some other) :
      (s.put name d).database? other = s.database? other :=
    Store.database?_put_ne s (fun heq => hname (congrArg some heq.symm)) d
  cases st with
  | createDatabase name spec =>
    change (s.changed (s.createDatabase name spec)).1.database? other = _
    rw [Store.createDatabase]
    split
    · split
      · split <;> rfl
      · rfl
    · exact hput _ h
  | createPolicy name spec makeDefault =>
    change (s.changed (s.createPolicy name spec makeDefault)).1.database? other = _
    rw [Store.createPolicy]
    cases hfound : s.found name with
    | error e => rfl
    | ok d =>
      simp only [bind, Except.bind]
      split
      · rfl
      · exact hput _ h
  | setDefaultPolicy name policy =>
    change (s.changed (s.setDefaultPolicy name policy)).1.database? other = _
    rw [Store.setDefaultPolicy]
    cases hfound : s.found name with
    | error e => rfl
    | ok d =>
      simp only [bind, Except.bind]
      split
      · exact hput _ h
      · rfl
  | showDatabases => rfl
  | showPolicies database => rfl
  | showMeasurements => rfl
  | showFieldKeys policy measurement => rfl
  | selectWindow policy measurement start stop => rfl

theorem database?_sent {ss : List Statement} {other : String}
    (h : ∀ st ∈ ss, changed? st ≠ some other) :
    (sent s ss).1.database? other = s.database? other := by
  induction ss generalizing s with
  | nil => rfl
  | cons st ss ih =>
    change (sent (s.execute (.ofStatement st)).1 ss).1.database? other = _
    rw [ih fun st' hst' => h st' (List.mem_cons_of_mem _ hst'),
      database?_execute (h st List.mem_cons_self)]

theorem getElem?_addPolicy_self (d : StoredDatabase) (spec : PolicySpec) (makeDefault : Bool) :
    (d.addPolicy spec makeDefault).policies[spec.name]? =
      some ((d.policies[spec.name]?).getD (.ofSpec spec)) := by
  rw [StoredDatabase.addPolicy, Std.ExtTreeMap.getElem?_insertIfNew]
  cases h : d.policies[spec.name]? with
  | none =>
    have hnew : spec.name ∉ d.policies := fun hmem => by
      rw [Std.ExtTreeMap.mem_iff_isSome_getElem?, h] at hmem
      cases hmem
    rw [if_pos ⟨Std.ReflCmp.compare_self, hnew⟩, Option.getD_none]
  | some p =>
    have hmem : spec.name ∈ d.policies := by
      rw [Std.ExtTreeMap.mem_iff_isSome_getElem?, h]
      rfl
    rw [if_neg fun hnew => hnew.2 hmem, Option.getD_some]

theorem getElem?_addPolicy_ne (d : StoredDatabase) {spec : PolicySpec} (makeDefault : Bool)
    {n : String} (h : n ≠ spec.name) :
    (d.addPolicy spec makeDefault).policies[n]? = d.policies[n]? := by
  rw [StoredDatabase.addPolicy, Std.ExtTreeMap.getElem?_insertIfNew,
    if_neg fun heq => h (Std.LawfulEqCmp.eq_of_compare heq.1).symm]

/-- A database that has been created, or was there, has no other policy under the name of its
default. -/
theorem createDatabase_done
    (h : countsAsDone (s.execute (.ofStatement (.createDatabase name spec))).2 = true) :
    ∃ d, (s.execute (.ofStatement (.createDatabase name spec))).1.database? name = some d ∧
      (∀ q, d.policies[spec.name]? = some q → q.spec = spec) ∧
      ∀ n : String, n ≠ spec.name → d.policies[n]? = s.policy? name n := by
  change countsAsDone (s.changed (s.createDatabase name spec)).2 = true at h
  change ∃ d, (s.changed (s.createDatabase name spec)).1.database? name = some d ∧ _
  rw [Store.createDatabase] at h ⊢
  cases hd : s.database? name with
  | none =>
    refine ⟨_, Store.database?_put_self s name _, fun q hq => ?_, fun n hn => ?_⟩
    · rw [getElem?_addPolicy_self] at hq
      simp only [StoredDatabase.empty, Std.ExtTreeMap.getElem?_empty, Option.getD_none,
        Option.some.injEq] at hq
      exact hq ▸ rfl
    · rw [getElem?_addPolicy_ne _ true hn, Store.policy?, hd, Option.bind_none]
      exact Std.ExtTreeMap.getElem?_empty
  | some d =>
    have hkept (n : String) : d.policies[n]? = s.policy? name n := by
      rw [Store.policy?, hd, Option.bind_some]
    simp only [hd] at h ⊢
    cases hp : d.policies[spec.name]? with
    | none =>
      refine ⟨d, hd, fun q hq => ?_, fun n _ => hkept n⟩
      cases hp.symm.trans hq
    | some p =>
      simp only [hp] at h ⊢
      split at h
      · rename_i heq
        rw [if_pos heq]
        exact ⟨d, hd, fun q hq => Option.some.inj (hp.symm.trans hq) ▸ heq, fun n _ => hkept n⟩
      · exact absurd h not_countsAsDone_policyDiffers

/-- What a statement is answered where its database is there. -/
theorem execute_createPolicy_of_found (makeDefault : Bool) (h : s.database? name = some d) :
    s.execute (.ofStatement (.createPolicy name spec makeDefault)) =
      if d.policies[spec.name]?.any (·.spec ≠ spec) then (s, .error .policyExists)
      else (s.put name (d.addPolicy spec makeDefault), .ok (.single [])) := by
  change s.changed (s.createPolicy name spec makeDefault) = _
  rw [Store.createPolicy, Store.found_eq_ok.2 h]
  simp only [bind, Except.bind]
  split <;> rfl

/-- A policy that is created where it may be there already counts as done, and keeps the parameters
it had. -/
theorem createPolicy_done (spec : PolicySpec) (h : s.database? name = some d) :
    countsAsDone (s.execute (.ofStatement (.createPolicy name spec false))).2 = true ∧
    ∃ d', (s.execute (.ofStatement (.createPolicy name spec false))).1.database? name = some d' ∧
      d'.default = d.default ∧
      (∃ q, d'.policies[spec.name]? = some q ∧
        q.spec = ((d.policies[spec.name]?).map (·.spec)).getD spec) ∧
      ∀ n : String, n ≠ spec.name → d'.policies[n]? = d.policies[n]? := by
  rw [execute_createPolicy_of_found false h]
  split
  case isTrue hany =>
    obtain ⟨q, hq, -⟩ := (Option.any_eq_true _ _).1 hany
    refine ⟨countsAsDone_policyExists, d, h, rfl, ⟨q, hq, ?_⟩, fun n _ => rfl⟩
    rw [hq]
    rfl
  case isFalse hfits =>
    refine ⟨rfl, _, Store.database?_put_self s name _, rfl,
      ⟨_, getElem?_addPolicy_self d spec false, ?_⟩, fun n hn => getElem?_addPolicy_ne d false hn⟩
    cases d.policies[spec.name]? <;> rfl

/-- Policies that are created one after another keep the parameters they had. -/
theorem createPolicies_done {ps : List Policy} (h : s.database? name = some d)
    (hdistinct : ps.Pairwise fun p q => p.name ≠ q.name) :
    ∃ d', (sent s (ps.map fun p =>
        .createPolicy name (p.specNamed p.name) false)).1.database? name = some d' ∧
      d'.default = d.default ∧
      (∀ p ∈ ps, ∃ q, d'.policies[p.name]? = some q ∧
        q.spec = ((d.policies[p.name]?).map (·.spec)).getD (p.specNamed p.name)) ∧
      ∀ n : String, (∀ p ∈ ps, p.name ≠ n) → d'.policies[n]? = d.policies[n]? := by
  induction ps generalizing s d with
  | nil => exact ⟨d, h, rfl, by simp, fun n _ => rfl⟩
  | cons p ps ih =>
    obtain ⟨hhead, htail⟩ := List.pairwise_cons.1 hdistinct
    obtain ⟨-, d₁, hd₁, hdefault₁, ⟨q, hq, hspec⟩, hothers₁⟩ :=
      createPolicy_done (p.specNamed p.name) h
    obtain ⟨d', hd', hdefault', hcreated, hothers'⟩ := ih hd₁ htail
    refine ⟨d', hd', hdefault'.trans hdefault₁, fun p' hp' => ?_, fun n hn => ?_⟩
    · rcases List.mem_cons.1 hp' with rfl | hp'
      · exact ⟨q, (hothers' _ fun r hr => (hhead r hr).symm).trans hq, hspec⟩
      · obtain ⟨q', hq', hspec'⟩ := hcreated p' hp'
        rw [hothers₁ p'.name (hhead p' hp').symm] at hspec'
        exact ⟨q', hq', hspec'⟩
    · rw [hothers' n fun r hr => hn r (List.mem_cons_of_mem _ hr),
        hothers₁ n (hn p List.mem_cons_self).symm]

/-- A database that has been created, or was there, with the policy that has been made its
default. -/
theorem default_done
    (h : countsAsDone (s.execute (.ofStatement (.createDatabase name spec))).2 = true) :
    ∃ d, (sent s [.createDatabase name spec, .createPolicy name spec true,
        .setDefaultPolicy name spec.name]).1.database? name = some d ∧
      d.default = some spec.name ∧
      (∃ q, d.policies[spec.name]? = some q ∧ q.spec = spec) ∧
      ∀ n : String, n ≠ spec.name → d.policies[n]? = s.policy? name n := by
  obtain ⟨d₁, hd₁, hfits, hkept⟩ := createDatabase_done h
  set s₁ := (s.execute (.ofStatement (.createDatabase name spec))).1 with hs₁
  -- The default policy is the one of the schema by now, so its second creation is accepted.
  have hsecond : s₁.execute (.ofStatement (.createPolicy name spec true)) =
      (s₁.put name (d₁.addPolicy spec true), .ok (.single [])) := by
    rw [execute_createPolicy_of_found true hd₁, if_neg]
    intro hany
    obtain ⟨q, hq, hne⟩ := (Option.any_eq_true _ _).1 hany
    exact of_decide_eq_true hne (hfits q hq)
  set d₃ : StoredDatabase := { d₁.addPolicy spec true with default := some spec.name }
  have hthird : (s₁.put name (d₁.addPolicy spec true)).execute
      (.ofStatement (.setDefaultPolicy name spec.name)) = (s₁.put name d₃, .ok (.single [])) :=
    execute_setDefaultPolicy (mem_addPolicy.2 (.inl rfl))
  refine ⟨d₃, ?_, rfl, ⟨_, getElem?_addPolicy_self d₁ spec true, ?_⟩, fun n hn => ?_⟩
  · simp only [sent, ← hs₁, hsecond, hthird]
    exact Store.database?_put_self s₁ name d₃
  · cases hq : d₁.policies[spec.name]? with
    | none => rfl
    | some q => exact hfits q hq
  · exact (getElem?_addPolicy_ne d₁ true hn).trans (hkept n hn)

/-- The parameters that a policy has in the copy: those of the schema, but a policy that is not the
default keeps those it had on the node before. -/
def Database.kept (d : Database) (before : Store) (p : Policy) : PolicySpec :=
  if p.name = d.defaultPolicyName then p.specNamed (d.targetPolicy p)
  else ((before.policy? d.target p.name).map (·.spec)).getD (p.specNamed p.name)

/-- A store has the policies of a database under the names of the copy, and its default. -/
def Conforms (before after : Store) (d : Database) : Prop :=
  ∃ sd, after.database? d.target = some sd ∧ sd.default = some d.targetDefaultPolicy ∧
    ∀ p ∈ d.policies, ∃ q, sd.policies[d.targetPolicy p]? = some q ∧ q.spec = d.kept before p

theorem targetPolicy_of_eq {d : Database} {p : Policy} (h : p.name = d.defaultPolicyName) :
    d.targetPolicy p = d.targetDefaultPolicy := if_pos h

theorem targetPolicy_of_ne {d : Database} {p : Policy} (h : p.name ≠ d.defaultPolicyName) :
    d.targetPolicy p = p.name := if_neg h

theorem eq_of_targetPolicy_eq {d : Database}
    (hdistinct : d.policies.Pairwise fun p q => d.targetPolicy p ≠ d.targetPolicy q) {p q : Policy}
    (hp : p ∈ d.policies) (hq : q ∈ d.policies) (h : d.targetPolicy p = d.targetPolicy q) :
    p = q := by
  have : Std.Symm fun p q : Policy => d.targetPolicy p ≠ d.targetPolicy q := ⟨fun _ _ h => h.symm⟩
  by_contra hne
  exact hdistinct.forall hp hq hne h

/-- A database whose creation counts as done conforms. -/
theorem creation_done {d : Database} {default : Policy} (hdefault : d.defaultPolicy? = some default)
    (hdistinct : d.policies.Pairwise fun p q => d.targetPolicy p ≠ d.targetPolicy q)
    (h : (sent s (d.creation default)).2 = true) :
    Conforms s (sent s (d.creation default)).1 d := by
  obtain ⟨hmem, -, hname⟩ := Database.defaultPolicy?_spec hdefault
  set spec := default.specNamed d.targetDefaultPolicy
  rw [Database.creation, sent_append] at h ⊢
  obtain ⟨hfirst, -⟩ := Bool.and_eq_true_iff.1 h
  obtain ⟨hcreated, -⟩ := Bool.and_eq_true_iff.1 hfirst
  obtain ⟨d₃, hd₃, hdefaultName, ⟨q, hq, hspec⟩, hkept⟩ := default_done hcreated
  -- The other policies have names of their own, also in the copy.
  have hothers : (d.policies.filter (·.name ≠ d.defaultPolicyName)).Pairwise
      fun p q => p.name ≠ q.name := by
    refine (hdistinct.filter _).imp_of_mem fun hp hq hne => ?_
    rwa [targetPolicy_of_ne (of_decide_eq_true (List.mem_filter.1 hp).2),
      targetPolicy_of_ne (of_decide_eq_true (List.mem_filter.1 hq).2)] at hne
  have hapart : ∀ p ∈ d.policies, p.name ≠ d.defaultPolicyName → p.name ≠ spec.name := by
    intro p hp hne heq
    have hpd := eq_of_targetPolicy_eq hdistinct hp hmem
      ((targetPolicy_of_ne hne).trans (heq.trans (targetPolicy_of_eq hname).symm))
    exact hne (hpd ▸ hname)
  obtain ⟨sd, hsd, hdefault', hpolicies, hrest⟩ := createPolicies_done hd₃ hothers
  refine ⟨sd, hsd, hdefault'.trans hdefaultName, fun p hp => ?_⟩
  by_cases hp' : p.name = d.defaultPolicyName
  · have htarget : d.targetPolicy p = spec.name := targetPolicy_of_eq hp'
    obtain rfl : p = default := eq_of_targetPolicy_eq hdistinct hp hmem
      (htarget.trans (targetPolicy_of_eq hname).symm)
    refine ⟨q, ?_, by rw [hspec, Database.kept, if_pos hname, htarget]; rfl⟩
    rw [htarget, hrest spec.name fun r hr => ?_, hq]
    exact hapart r (List.mem_filter.1 hr).1 (of_decide_eq_true (List.mem_filter.1 hr).2)
  · obtain ⟨q, hq, hspec⟩ := hpolicies p (List.mem_filter.2 ⟨hp, decide_eq_true hp'⟩)
    rw [targetPolicy_of_ne hp', Database.kept, if_neg hp', ← hkept p.name (hapart p hp hp')]
    exact ⟨q, hq, hspec⟩

/-- What holds of a database depends only on what the stores have under the name of its copy. -/
theorem Conforms.congr {before before' after after' : Store} {d : Database}
    (h : Conforms before after d) (hbefore : before'.database? d.target = before.database? d.target)
    (hafter : after'.database? d.target = after.database? d.target) :
    Conforms before' after' d := by
  obtain ⟨sd, hsd, hdefault, hpolicies⟩ := h
  refine ⟨sd, hafter.trans hsd, hdefault, fun p hp => ?_⟩
  obtain ⟨q, hq, hspec⟩ := hpolicies p hp
  refine ⟨q, hq, hspec.trans ?_⟩
  rw [Database.kept, Database.kept, Store.policy?, Store.policy?, hbefore]

end Stores

section Nodes
variable {net : Network} {n : MemoryNode} {start : Instant} {e : Endpoint}

/-- A changing statement that is sent to a node on line does what its store does, and is no error
if that counts as done. -/
theorem exec_execute (now : Span) (hnode : net.node? e.client = some (.memory n))
    (honline : n.isOnline = true) {st : Statement} (hst : (changed? st).isSome) :
    ∃ report n', Network.host.exec start (Replication.execute e st) (net, now) =
        (report, net.put e.client (.memory n'), now) ∧ n'.isOnline = true ∧
      n'.store = (n.store.execute (.ofStatement st)).1 ∧
      report.isClean = countsAsDone (n.store.execute (.ofStatement st)).2 := by
  have hread : MemoryNode.isWindowRead st = false := by cases st <;> first | rfl | cases hst
  have hmutation : st.isMutation = true := by cases st <;> first | rfl | cases hst
  have hquery : (n.query (.ofStatement st)).1 =
      MemoryNode.refused (n.store.execute (.ofStatement st)).2 ∧
      (n.query (.ofStatement st)).2.isOnline = true ∧
      (n.query (.ofStatement st)).2.store = (n.store.execute (.ofStatement st)).1 := by
    rw [MemoryNode.query, if_pos honline, MemoryNode.execute]
    simp [Request.ofStatement, hread, hmutation, honline]
  obtain ⟨hreply, honline', hstore⟩ := hquery
  rw [Replication.execute, Host.exec_bind, Node.exec_query hnode, hreply]
  cases (n.store.execute (.ofStatement st)).2 with
  | ok response => exact ⟨_, _, rfl, honline', hstore, rfl⟩
  | error cause =>
    simp only [MemoryNode.refused, Except.mapError, countsAsDone]
    cases hexists : (Node.Error.statement cause.message).isAlreadyExists with
    | true => exact ⟨_, _, rfl, honline', hstore, rfl⟩
    | false => exact ⟨_, _, rfl, honline', hstore, rfl⟩

theorem exec_executeAll (now : Span) (hnode : net.node? e.client = some (.memory n))
    (honline : n.isOnline = true) {ss : List Statement} (hss : ∀ st ∈ ss, (changed? st).isSome) :
    ∃ report net' n', Network.host.exec start (Replication.executeAll e ss) (net, now) =
        (report, net', now) ∧ net'.node? e.client = some (.memory n') ∧ n'.isOnline = true ∧
      n'.store = (sent n.store ss).1 ∧ report.isClean = (sent n.store ss).2 := by
  induction ss generalizing net n with
  | nil => exact ⟨.empty, net, n, rfl, hnode, honline, rfl, rfl⟩
  | cons st ss ih =>
    obtain ⟨first, n₁, hfirst, honline₁, hstore₁, hclean₁⟩ :=
      exec_execute now hnode honline (hss st List.mem_cons_self)
    obtain ⟨rest, net', n', hrest, hnode', honline', hstore', hclean'⟩ :=
      ih (Network.node?_put_self hnode _) honline₁
        fun st' hst' => hss st' (List.mem_cons_of_mem _ hst')
    rw [hstore₁] at hstore' hclean'
    refine ⟨first.append rest, net', n', ?_, hnode', honline', hstore', ?_⟩
    · rw [Replication.executeAll, Host.exec_bind, hfirst, Host.exec_bind, hrest]
      rfl
    · rw [isClean_append, hclean₁, hclean']
      rfl

theorem changed?_creation {d : Database} {default : Policy} {st : Statement}
    (h : st ∈ d.creation default) : changed? st = some d.target := by
  rw [Database.creation] at h
  rcases List.mem_append.1 h with h | h
  · simp only [List.mem_cons, List.not_mem_nil, or_false] at h
    rcases h with rfl | rfl | rfl <;> rfl
  · obtain ⟨p, -, rfl⟩ := List.mem_map.1 h
    rfl

/-- A database is left alone, or has a default policy. -/
def Database.isReplicable (d : Database) : Bool := d.isInternal || d.defaultPolicy?.isSome

/-- A database that is replicated to a node on line is sent its statements. -/
theorem exec_replicateDatabase (now : Span) (d : Database)
    (hnode : net.node? e.client = some (.memory n)) (honline : n.isOnline = true) :
    ∃ report net' n', Network.host.exec start (Replication.database e d) (net, now) =
        (report, net', now) ∧ net'.node? e.client = some (.memory n') ∧ n'.isOnline = true ∧
      n'.store = (sent n.store d.statements).1 ∧
      report.isClean = (d.isReplicable && (sent n.store d.statements).2) := by
  rw [Replication.database, Database.statements, Database.isReplicable]
  cases hinternal : d.isInternal with
  | true => exact ⟨.empty, net, n, rfl, hnode, honline, rfl, rfl⟩
  | false =>
    simp only [Bool.false_eq_true, if_false, Bool.false_or]
    cases hdefault : d.defaultPolicy? with
    | none => exact ⟨_, net, n, rfl, hnode, honline, rfl, rfl⟩
    | some default =>
      obtain ⟨report, net', n', hexec, hnode', honline', hstore, hclean⟩ := exec_executeAll now
        hnode honline fun st hst => changed?_creation hst ▸ rfl
      refine ⟨{ report with databases := 1 }, net', n', ?_, hnode', honline', hstore, hclean⟩
      simp only []
      rw [Host.exec_bind, Host.exec_log, Host.exec_bind, hexec]
      rfl

/-- Databases that are replicated to a node on line are sent their statements one after another. -/
theorem exec_replicate (now : Span) (ds : List Database)
    (hnode : net.node? e.client = some (.memory n)) (honline : n.isOnline = true) :
    ∃ report net' n', Network.host.exec start (replicate e ds) (net, now) = (report, net', now) ∧
      net'.node? e.client = some (.memory n') ∧ n'.isOnline = true ∧
      n'.store = (sent n.store (ds.flatMap Database.statements)).1 ∧
      report.isClean = (ds.all Database.isReplicable &&
        (sent n.store (ds.flatMap Database.statements)).2) := by
  induction ds generalizing net n with
  | nil => exact ⟨.empty, net, n, rfl, hnode, honline, rfl, rfl⟩
  | cons d ds ih =>
    obtain ⟨first, net₁, n₁, hfirst, hnode₁, honline₁, hstore₁, hclean₁⟩ :=
      exec_replicateDatabase now d hnode honline
    obtain ⟨rest, net', n', hrest, hnode', honline', hstore', hclean'⟩ := ih hnode₁ honline₁
    rw [hstore₁] at hstore' hclean'
    refine ⟨first.append rest, net', n', ?_, hnode', honline', ?_, ?_⟩
    · rw [replicate, Host.exec_bind, hfirst, Host.exec_bind, hrest]
      rfl
    · rw [List.flatMap_cons, sent_append, hstore']
    · rw [isClean_append, hclean₁, hclean', List.flatMap_cons, sent_append, List.all_cons]
      ac_rfl

theorem changed?_statements {d : Database} {st : Statement} (h : st ∈ d.statements) :
    changed? st = some d.target := by
  obtain ⟨-, default, -, hcreation⟩ := external_of_mem_statements h
  exact changed?_creation hcreation

/-- One database is replicated to a node on line: without errors it conforms, unless it is left
alone, and in any case no other database changes. -/
theorem database_conforms (now : Span) {d : Database}
    (hnode : net.node? e.client = some (.memory n)) (honline : n.isOnline = true)
    (hdistinct : d.policies.Pairwise fun p q => d.targetPolicy p ≠ d.targetPolicy q) :
    ∃ report net' n', Network.host.exec start (Replication.database e d) (net, now) =
        (report, net', now) ∧ net'.node? e.client = some (.memory n') ∧ n'.isOnline = true ∧
      (∀ other, d.target ≠ other → n'.store.database? other = n.store.database? other) ∧
      (report.isClean = true → d.isInternal = false → Conforms n.store n'.store d) := by
  obtain ⟨report, net', n', hexec, hnode', honline', hstore, hclean⟩ :=
    exec_replicateDatabase now d hnode honline
  refine ⟨report, net', n', hexec, hnode', honline', fun other hother => ?_, fun h hexternal => ?_⟩
  · rw [hstore]
    refine database?_sent fun st hst heq => hother ?_
    exact Option.some.inj ((changed?_statements hst).symm.trans heq)
  · rw [h, Database.isReplicable, hexternal, Bool.false_or] at hclean
    obtain ⟨hdefault, hdone⟩ := Bool.and_eq_true_iff.1 hclean.symm
    obtain ⟨default, hdefault⟩ := Option.isSome_iff_exists.1 hdefault
    rw [statements_eq hexternal hdefault] at hstore hdone
    rw [hstore]
    exact creation_done hdefault hdistinct hdone

/-- Databases with distinct copies do not get in each other's way. -/
theorem replicate_conforms (now : Span) {ds : List Database}
    (hnode : net.node? e.client = some (.memory n)) (honline : n.isOnline = true)
    (htargets : ds.Pairwise fun d d' => d.target ≠ d'.target)
    (hpolicies : ∀ d ∈ ds, d.policies.Pairwise fun p q => d.targetPolicy p ≠ d.targetPolicy q) :
    ∃ report net' n', Network.host.exec start (replicate e ds) (net, now) = (report, net', now) ∧
      net'.node? e.client = some (.memory n') ∧ n'.isOnline = true ∧
      (∀ other, (∀ d ∈ ds, d.target ≠ other) →
        n'.store.database? other = n.store.database? other) ∧
      (report.isClean = true → ∀ d ∈ ds, d.isInternal = false → Conforms n.store n'.store d) := by
  induction ds generalizing net n with
  | nil => exact ⟨.empty, net, n, rfl, hnode, honline, fun _ _ => rfl, by simp⟩
  | cons d ds ih =>
    obtain ⟨hhead, htail⟩ := List.pairwise_cons.1 htargets
    obtain ⟨first, net₁, n₁, hfirst, hnode₁, honline₁, hothers₁, hconforms₁⟩ :=
      database_conforms now hnode honline (hpolicies d List.mem_cons_self)
    obtain ⟨rest, net', n', hrest, hnode', honline', hothers', hconforms'⟩ :=
      ih hnode₁ honline₁ htail fun d' hd' => hpolicies d' (List.mem_cons_of_mem _ hd')
    refine ⟨first.append rest, net', n', ?_, hnode', honline', fun other hother => ?_,
      fun hclean d' hd' hexternal => ?_⟩
    · rw [replicate, Host.exec_bind, hfirst, Host.exec_bind, hrest]
      rfl
    · rw [hothers' other fun d' hd' => hother d' (List.mem_cons_of_mem _ hd'),
        hothers₁ other (hother d List.mem_cons_self)]
    · rw [isClean_append, Bool.and_eq_true] at hclean
      rcases List.mem_cons.1 hd' with rfl | hd'
      · exact (hconforms₁ hclean.1 hexternal).congr rfl
          (hothers' d'.target fun d'' hd'' => (hhead d'' hd'').symm)
      · exact (hconforms' hclean.2 d' hd' hexternal).congr
          (hothers₁ d'.target (hhead d' hd')).symm rfl

end Nodes

/-- Whatever a memory node on line holds, databases with distinct copies and distinct policies are
replicated to it, and if the report is clean, each of them that is not left alone is there with its
default policy as the schema has it, and with every other policy, which has the parameters of the
schema unless the node had one of its name: that one is kept as it was. -/
theorem clean_replication_conforms {σ ρ : Type} {net : Network} {n : MemoryNode} {e : Endpoint}
    {ds : List Database} (begin : Instant) (shared : σ)
    (hnode : net.node? e.client = some (.memory n)) (honline : n.isOnline = true)
    (htargets : ds.Pairwise fun d d' => d.target ≠ d'.target)
    (hpolicies : ∀ d ∈ ds, d.policies.Pairwise fun p q => d.targetPolicy p ≠ d.targetPolicy q) :
    ((Machine.initial begin net shared).launch
        (Process.ofRoutine (replicate e ds) : Process σ ρ _)).Inevitably Network.host
      fun m => ∃ report n', m.answer? 0 = some report ∧
        m.nodes.node? e.client = some (.memory n') ∧
        (report.isClean = true → ∀ d ∈ ds, d.isInternal = false →
          Conforms n.store n'.store d) := by
  apply (Machine.launch_inevitably Network.host begin net shared _).mono
  rintro m ⟨report, last, hyields, -, hanswers, hnodes, -⟩
  obtain ⟨report', net', n', hexec, hnode', -, -, hconforms⟩ :=
    replicate_conforms .zero hnode honline htargets hpolicies
  rw [Process.yields_ofRoutine, hexec] at hyields
  obtain ⟨rfl, rfl⟩ := hyields
  refine ⟨report', n', ?_, hnodes ▸ hnode', hconforms⟩
  rw [Machine.answer?, hanswers]
  rfl

/-- A node whose policy `weekly` keeps data for a day. -/
private def dailyNode : MemoryNode :=
  ((MemoryNode.ofName "b").addPolicy "app" ⟨"all", .zero, .zero, 1⟩ true).addPolicy "app"
    ⟨"weekly", .ofSecs 86400, .zero, 1⟩ false

/-- A database whose policy `weekly` keeps data for a week. -/
private def weeklyDatabase : Database :=
  .ofPolicies "app" [⟨"all", .zero, .zero, 1, true, ∅⟩,
    ⟨"weekly", .ofSecs 604800, .zero, 1, false, ∅⟩]

private def weeklyReplication : Machine Network Unit Unit ReplicationReport :=
  (Machine.initial .epoch ⟨[.memory dailyNode]⟩ ()).launch
    (Process.ofRoutine (replicate ⟨"b", ⟨0⟩⟩ [weeklyDatabase]))

theorem clean_replication_conforms_weekly :
    weeklyReplication.Inevitably Network.host fun m => ∃ report n', m.answer? 0 = some report ∧
      m.nodes.node? ⟨0⟩ = some (.memory n') ∧
      (report.isClean = true → ∀ d ∈ [weeklyDatabase], d.isInternal = false →
        Conforms dailyNode.store n'.store d) := by
  have hpolicies : ∀ d ∈ [weeklyDatabase],
      d.policies.Pairwise fun p q => d.targetPolicy p ≠ d.targetPolicy q := by decide
  exact clean_replication_conforms (n := dailyNode) (e := ⟨"b", ⟨0⟩⟩) .epoch () rfl rfl
    (List.pairwise_singleton _ _) hpolicies

/-- The machine once that replication is done. -/
private def weeklyEnd : Machine Network Unit Unit ReplicationReport :=
  weeklyReplication.runUntil Network.host (fun _ => false) 100

private def weeklyDuration? : Simulated → Option Span
  | .memory n => (n.store.policy? "app" "weekly").map (·.spec.duration)
  | .scripted _ => none

/-- A clean report does not mean that a policy that was there has the parameters of the schema. -/
theorem weekly_policy_stays_daily :
    ¬ weeklyReplication.Inevitably Network.host fun m => ∀ report n', m.answer? 0 = some report →
      m.nodes.node? ⟨0⟩ = some (.memory n') → report.isClean = true →
      ∀ d ∈ [weeklyDatabase], ∀ p ∈ d.policies, ∃ q,
        n'.store.policy? d.target (d.targetPolicy p) = some q ∧
          q.spec = p.specNamed (d.targetPolicy p) := by
  intro h
  have hend : weeklyEnd.fibers.isEmpty = true := by decide +kernel
  have hanswer : weeklyEnd.answer? 0 = some ⟨1, 2, []⟩ := by decide +kernel
  have hkept : (weeklyEnd.nodes.node? ⟨0⟩).bind weeklyDuration? = some (.ofSecs 86400) := by
    decide +kernel
  obtain ⟨node, hnode, hduration⟩ := Option.bind_eq_some_iff.1 hkept
  cases node with
  | scripted => cases hduration
  | memory n' =>
    obtain ⟨q, hq, hdaily⟩ := Option.map_eq_some_iff.1 hduration
    obtain ⟨q', hq', hweekly⟩ := h.at_end 100 (List.isEmpty_iff.1 hend) _ n' hanswer hnode rfl
      weeklyDatabase List.mem_cons_self _ (List.mem_cons_of_mem _ List.mem_cons_self)
    obtain rfl : q' = q := Option.some.inj (hq'.symm.trans hq)
    rw [hweekly] at hdaily
    exact absurd hdaily (by decide)

end SeriesReplica.Schema
