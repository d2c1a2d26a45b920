import SeriesReplica.Proofs.Node.History
import SeriesReplica.Proofs.Schema.Account
import SeriesReplica.Proofs.Schema.Conformity

/-! Replication of schemas that is done twice. Whatever a memory node holds, and whatever the
schemas have in common, each statement is answered as the store at the end would answer it: a policy
keeps its parameters from the moment it is there. So the second replication meets the same answers
as the first, and it leaves the store as it has found it, its defaults included: the default of each
database is in both cases that of the last schema that is copied to it. -/
namespace SeriesReplica.Schema
open Concurrent Time Query Node

/-- A statement and how a store answers it. -/
def answered (s : Store) (st : Statement) : Answered :=
  ⟨st, MemoryNode.refused (s.execute (.ofStatement st)).2⟩

/-- Statements that are sent to a store one after another, and how each is answered. -/
def answers (s : Store) : List Statement → List Answered
  | [] => []
  | st :: ss => answered s st :: answers (s.execute (.ofStatement st)).1 ss

/-- How the statements of databases are answered that are sent one database after another. -/
def answersFor (s : Store) : List Database → List (Database × List Answered)
  | [] => []
  | d :: ds => (d, answers s d.statements) :: answersFor (sent s d.statements).1 ds

section Stores
variable {s t u : Store} {name : String} {d : StoredDatabase} {q : StoredPolicy}
  {spec : PolicySpec} {ss ts : List Statement}

theorem answers_append (s : Store) (ss ts : List Statement) :
    answers s (ss ++ ts) = answers s ss ++ answers (sent s ss).1 ts := by
  induction ss generalizing s with
  | nil => rfl
  | cons st ss ih => exact congrArg (answered s st :: ·) (ih _)

theorem keeps_sent (s : Store) (ss : List Statement) : s.Keeps (sent s ss).1 := by
  induction ss generalizing s with
  | nil => exact .refl s
  | cons st ss ih => exact (s.keeps_execute _).trans (ih _)

/-- A database that is asked for again is the same if its default policy is. -/
theorem execute_createDatabase_of_policy (hd : s.database? name = some d)
    (hq : d.policies[spec.name]? = some q) :
    s.execute (.ofStatement (.createDatabase name spec)) =
      (s, if q.spec = spec then .ok (.single []) else .error .policyDiffers) := by
  change s.changed (s.createDatabase name spec) = _
  rw [Store.createDatabase, hd]
  simp only [hq]
  split <;> rfl

/-- A policy that is asked for again is the same if its parameters are. -/
theorem execute_createPolicy_of_policy (makeDefault : Bool) (hd : s.database? name = some d)
    (hq : d.policies[spec.name]? = some q) :
    s.execute (.ofStatement (.createPolicy name spec makeDefault)) =
      if q.spec = spec then (s.put name (d.addPolicy spec makeDefault), .ok (.single []))
      else (s, .error .policyExists) := by
  rw [execute_createPolicy_of_found makeDefault hd, hq]
  by_cases h : q.spec = spec <;> simp [h]

/-- A policy that is there becomes the default. -/
theorem execute_setDefaultPolicy_of_policy {policy : String} (hd : s.database? name = some d)
    (hq : d.policies[policy]? = some q) :
    s.execute (.ofStatement (.setDefaultPolicy name policy)) =
      (s.put name { d with default := some policy }, .ok (.single [])) := by
  have hmem : d.policies.contains policy = true := by
    rw [Std.ExtTreeMap.contains_eq_isSome_getElem?, hq]
    rfl
  change s.changed (s.setDefaultPolicy name policy) = _
  rw [Store.setDefaultPolicy, Store.found_eq_ok.2 hd]
  simp only [bind, Except.bind, hmem, if_true]
  rfl

/-- The database and the policy that a statement is about. -/
def place? : Statement → Option (String × String)
  | .createDatabase name spec => some (name, spec.name)
  | .createPolicy name spec _ => some (name, spec.name)
  | .setDefaultPolicy name policy => some (name, policy)
  | _ => none

/-- The policy that a statement is about is there. -/
def Settled (s : Store) (st : Statement) : Prop :=
  ∃ name policy d q, place? st = some (name, policy) ∧ s.database? name = some d ∧
    d.policies[policy]? = some q

/-- The same databases with the same policies; other policies may be the defaults. -/
def SamePolicies (s t : Store) : Prop :=
  ∀ name, (s.database? name).map (·.policies) = (t.database? name).map (·.policies)

theorem SamePolicies.trans (h : SamePolicies s t) (h' : SamePolicies t u) : SamePolicies s u :=
  fun name => (h name).trans (h' name)

theorem samePolicies_put {d' : StoredDatabase} (hd : s.database? name = some d)
    (hpolicies : d'.policies = d.policies) : SamePolicies s (s.put name d') := by
  intro other
  by_cases hother : other = name
  · subst hother
    rw [Store.database?_put_self, hd, Option.map_some, Option.map_some, hpolicies]
  · rw [Store.database?_put_ne s hother]

namespace Settled
variable {st : Statement}

theorem keeps (h : Settled s st) (hkeeps : s.Keeps t) : Settled t st := by
  obtain ⟨name, policy, d, q, hplace, hd, hq⟩ := h
  obtain ⟨d', hd', hpolicies⟩ := hkeeps name d hd
  obtain ⟨q', hq', -⟩ := hpolicies policy q hq
  exact ⟨name, policy, d', q', hplace, hd', hq'⟩

/-- A statement about a policy that is there is answered in the same way from then on. -/
theorem answered_eq (h : Settled s st) (hkeeps : s.Keeps t) : answered t st = answered s st := by
  obtain ⟨name, policy, d, q, hplace, hd, hq⟩ := h
  obtain ⟨d', hd', hpolicies⟩ := hkeeps name d hd
  obtain ⟨q', hq', hpolicy⟩ := hpolicies policy q hq
  cases st with
  | createDatabase n spec =>
    cases hplace
    have hs := execute_createDatabase_of_policy hd hq
    have ht := execute_createDatabase_of_policy hd' hq'
    rw [answered, answered, hs, ht, hpolicy.spec_eq]
  | createPolicy n spec makeDefault =>
    cases hplace
    have hs := execute_createPolicy_of_policy makeDefault hd hq
    have ht := execute_createPolicy_of_policy makeDefault hd' hq'
    rw [answered, answered, hs, ht, hpolicy.spec_eq]
    split <;> rfl
  | setDefaultPolicy n policy =>
    cases hplace
    rw [answered, answered, execute_setDefaultPolicy_of_policy hd hq,
      execute_setDefaultPolicy_of_policy hd' hq']
  | _ => cases hplace

/-- A statement about a policy that is there changes at most a default. -/
theorem samePolicies (h : Settled s st) :
    SamePolicies s (s.execute (.ofStatement st)).1 := by
  obtain ⟨name, policy, d, q, hplace, hd, hq⟩ := h
  cases st with
  | createDatabase n spec =>
    cases hplace
    rw [execute_createDatabase_of_policy hd hq]
    exact fun _ => rfl
  | createPolicy n spec makeDefault =>
    cases hplace
    rw [execute_createPolicy_of_policy makeDefault hd hq]
    split
    · refine samePolicies_put hd (policies_addPolicy_of_mem ?_ makeDefault)
      rw [Std.ExtTreeMap.mem_iff_isSome_getElem?, hq]
      rfl
    · exact fun _ => rfl
  | setDefaultPolicy n policy =>
    cases hplace
    rw [execute_setDefaultPolicy_of_policy hd hq]
    exact samePolicies_put hd rfl
  | _ => cases hplace

end Settled

/-- Once statements have been sent, the policies that they are about are there, and each of them was
answered as it would be answered at the end. -/
structure Settles (s : Store) (ss : List Statement) : Prop where
  settled : ∀ st ∈ ss, Settled (sent s ss).1 st
  answers_eq : answers s ss = ss.map (answered (sent s ss).1)

theorem settles_nil (s : Store) : Settles s [] := ⟨by simp, rfl⟩

theorem Settles.append (h : Settles s ss) (h' : Settles (sent s ss).1 ts) :
    Settles s (ss ++ ts) := by
  have hkeeps : (sent s ss).1.Keeps (sent s (ss ++ ts)).1 := by
    rw [sent_append]
    exact keeps_sent _ ts
  have hlast : (sent s (ss ++ ts)).1 = (sent (sent s ss).1 ts).1 := by rw [sent_append]
  constructor
  · intro st hst
    rcases List.mem_append.1 hst with hst | hst
    · exact (h.settled st hst).keeps hkeeps
    · rw [hlast]
      exact h'.settled st hst
  · rw [answers_append, h.answers_eq, h'.answers_eq, List.map_append, hlast]
    congr 1
    apply List.map_congr_left
    intro st hst
    rw [← hlast, (h.settled st hst).answered_eq hkeeps]

/-- A statement settles if its policy is there afterwards and it is then answered as before. -/
theorem settles_single {st : Statement}
    (hsettled : Settled (s.execute (.ofStatement st)).1 st)
    (hagain : ((s.execute (.ofStatement st)).1.execute (.ofStatement st)).2 =
      (s.execute (.ofStatement st)).2) : Settles s [st] := by
  constructor
  · intro st' hst
    rw [List.mem_singleton.1 hst]
    exact hsettled
  · change [answered s st] = [answered (s.execute (.ofStatement st)).1 st]
    rw [answered, answered, hagain]

theorem Settled.settles {st : Statement} (h : Settled s st) : Settles s [st] := by
  have hkeeps := s.keeps_execute (.ofStatement st)
  constructor
  · intro st' hst
    rw [List.mem_singleton.1 hst]
    exact h.keeps hkeeps
  · exact congrArg (fun a => [a]) (h.answered_eq hkeeps).symm

/-- The database of a statement that has settled is there. -/
theorem Settles.database {st : Statement} {policy : String} (h : Settles s ss) (hst : st ∈ ss)
    (hplace : place? st = some (name, policy)) :
    ∃ d q, (sent s ss).1.database? name = some d ∧ d.policies[policy]? = some q := by
  obtain ⟨n, p, d, q, hplace', hd, hq⟩ := h.settled st hst
  cases hplace.symm.trans hplace'
  exact ⟨d, q, hd, hq⟩

/-- A policy that has just been created is taken for the one that is asked for. -/
theorem execute_again (hd : s.database? name = some d)
    (hq : d.policies[spec.name]? = some (.ofSpec spec)) :
    (s.execute (.ofStatement (.createDatabase name spec))).2 = .ok (.single []) ∧
      ∀ makeDefault, (s.execute (.ofStatement (.createPolicy name spec makeDefault))).2 =
        .ok (.single []) := by
  constructor
  · rw [execute_createDatabase_of_policy hd hq]
    exact if_pos rfl
  · intro makeDefault
    rw [execute_createPolicy_of_policy makeDefault hd hq, StoredPolicy.ofSpec, if_pos rfl]

/-- A new policy has the parameters it is created with. -/
theorem execute_createPolicy_new (makeDefault : Bool) (hd : s.database? name = some d)
    (hq : d.policies[spec.name]? = none) :
    s.execute (.ofStatement (.createPolicy name spec makeDefault)) =
        (s.put name (d.addPolicy spec makeDefault), .ok (.single [])) ∧
      (d.addPolicy spec makeDefault).policies[spec.name]? = some (.ofSpec spec) := by
  constructor
  · rw [execute_createPolicy_of_found makeDefault hd, hq]
    rfl
  · rw [getElem?_addPolicy_self, hq]
    rfl

/-- A policy that is created in a database, or is there with whatever parameters. -/
theorem settles_createPolicy (spec : PolicySpec) (makeDefault : Bool)
    (hd : s.database? name = some d) : Settles s [.createPolicy name spec makeDefault] := by
  cases hq : d.policies[spec.name]? with
  | some q => exact Settled.settles ⟨name, spec.name, d, q, rfl, hd, hq⟩
  | none =>
    obtain ⟨hexecute, hadded⟩ := execute_createPolicy_new makeDefault hd hq
    have hfound := Store.database?_put_self s name (d.addPolicy spec makeDefault)
    apply settles_single
    · rw [hexecute]
      exact ⟨name, spec.name, _, _, rfl, hfound, hadded⟩
    · rw [hexecute]
      exact (execute_again hfound hadded).2 makeDefault

/-- A database that is created, or is there with the policy that is to be its default. -/
theorem settles_createDatabase (h : ∀ d, s.database? name = some d → spec.name ∈ d.policies) :
    Settles s [.createDatabase name spec] := by
  cases hd : s.database? name with
  | some d =>
    obtain ⟨q, hq⟩ := Option.isSome_iff_exists.1
      (Std.ExtTreeMap.mem_iff_isSome_getElem?.1 (h d hd))
    exact Settled.settles ⟨name, spec.name, d, q, rfl, hd, hq⟩
  | none =>
    have hexecute := execute_createDatabase hd spec
    have hfound := Store.database?_put_self s name (StoredDatabase.empty.addPolicy spec true)
    have hadded : (StoredDatabase.empty.addPolicy spec true).policies[spec.name]? =
        some (.ofSpec spec) := by
      rw [getElem?_addPolicy_self]
      rfl
    apply settles_single
    · rw [hexecute]
      exact ⟨name, spec.name, _, _, rfl, hfound, hadded⟩
    · rw [hexecute]
      exact (execute_again hfound hadded).1

/-- A database settles along with its default policy, whatever the store holds. -/
theorem settles_default (s : Store) (name : String) (spec : PolicySpec) :
    Settles s [.createDatabase name spec, .createPolicy name spec true] := by
  by_cases h : ∀ d, s.database? name = some d → spec.name ∈ d.policies
  · have hfirst := settles_createDatabase h
    obtain ⟨d, q, hd, -⟩ := hfirst.database List.mem_cons_self rfl
    exact hfirst.append (settles_createPolicy spec true hd)
  -- The database is there without the policy. Its creation is accepted and changes nothing, and it
  -- is only settled by the creation of the policy.
  · push Not at h
    obtain ⟨d, hd, hmem⟩ := h
    have hq : d.policies[spec.name]? = none := Std.ExtTreeMap.getElem?_eq_none hmem
    have hexecute : s.execute (.ofStatement (.createDatabase name spec)) =
        (s, .ok (.single [])) := by
      change s.changed (s.createDatabase name spec) = _
      rw [Store.createDatabase, hd]
      simp only [hq]
      rfl
    obtain ⟨hexecute', hadded⟩ := execute_createPolicy_new true hd hq
    have hfound := Store.database?_put_self s name (d.addPolicy spec true)
    have hlast : (sent s [.createDatabase name spec, .createPolicy name spec true]).1 =
        s.put name (d.addPolicy spec true) := by simp only [sent, hexecute, hexecute']
    obtain ⟨hagain, hagain'⟩ := execute_again hfound hadded
    constructor
    · intro st hst
      rw [hlast]
      simp only [List.mem_cons, List.not_mem_nil, or_false] at hst
      rcases hst with rfl | rfl
      · exact ⟨name, spec.name, _, _, rfl, hfound, hadded⟩
      · exact ⟨name, spec.name, _, _, rfl, hfound, hadded⟩
    · simp only [hlast, answers, answered, hexecute, hexecute', hagain, hagain', List.map_cons,
        List.map_nil]

/-- Policies that are created one after another in a database settle, and its default stays. -/
theorem settles_createPolicies (ps : List Policy) (hd : s.database? name = some d) :
    Settles s (ps.map fun p => .createPolicy name (p.specNamed p.name) false) ∧
      ∃ d', (sent s (ps.map fun p =>
          .createPolicy name (p.specNamed p.name) false)).1.database? name = some d' ∧
        d'.default = d.default := by
  induction ps generalizing s d with
  | nil => exact ⟨settles_nil s, d, hd, rfl⟩
  | cons p ps ih =>
    obtain ⟨-, d₁, hd₁, hdefault₁, -⟩ := createPolicy_done (p.specNamed p.name) hd
    obtain ⟨hrest, d', hd', hdefault'⟩ := ih hd₁
    refine ⟨(settles_createPolicy (p.specNamed p.name) false hd).append hrest, d', hd', ?_⟩
    exact hdefault'.trans hdefault₁

/-- The statements of a database settle, whatever the store holds, and the database ends with the
default of the schema. -/
theorem settles_creation (s : Store) (d : Database) (default : Policy) :
    Settles s (d.creation default) ∧
      ∃ sd, (sent s (d.creation default)).1.database? d.target = some sd ∧
        sd.default = some d.targetDefaultPolicy := by
  set spec := default.specNamed d.targetDefaultPolicy with hspec
  have hfirst := settles_default s d.target spec
  obtain ⟨d₂, q₂, hd₂, hq₂⟩ := hfirst.database List.mem_cons_self rfl
  have hsecond : Settles (sent s [.createDatabase d.target spec,
      .createPolicy d.target spec true]).1 [.setDefaultPolicy d.target spec.name] :=
    Settled.settles ⟨d.target, spec.name, d₂, q₂, rfl, hd₂, hq₂⟩
  have hdefault := hfirst.append hsecond
  have hd₃ : (sent s [.createDatabase d.target spec, .createPolicy d.target spec true,
      .setDefaultPolicy d.target spec.name]).1.database? d.target =
        some { d₂ with default := some spec.name } := by
    have hexecute := execute_setDefaultPolicy_of_policy hd₂ hq₂
    simp only [sent] at hexecute ⊢
    rw [hexecute, Store.database?_put_self]
  obtain ⟨hothers, sd, hsd, hsame⟩ := settles_createPolicies
    (d.policies.filter (·.name ≠ d.defaultPolicyName)) hd₃
  refine ⟨hdefault.append hothers, sd, ?_, hsame⟩
  rw [Database.creation, sent_append]
  exact hsd

/-- The statements of a database settle. If there are any, it ends with the default of the
schema. -/
theorem settles_statements (s : Store) (d : Database) :
    Settles s d.statements ∧
      (d.statements = [] ∨ ∃ sd, (sent s d.statements).1.database? d.target = some sd ∧
        sd.default = some d.targetDefaultPolicy) := by
  rw [Database.statements]
  split
  · exact ⟨settles_nil s, .inl rfl⟩
  · cases d.defaultPolicy? with
    | none => exact ⟨settles_nil s, .inl rfl⟩
    | some default =>
      obtain ⟨hsettles, hdefault⟩ := settles_creation s d default
      exact ⟨hsettles, .inr hdefault⟩

theorem settles_flatMap (s : Store) (ds : List Database) :
    Settles s (ds.flatMap Database.statements) := by
  induction ds generalizing s with
  | nil => exact settles_nil s
  | cons d ds ih => exact (settles_statements s d).1.append (ih _)

/-- Each statement of a replication is answered as the store at the end would answer it, and as it
would from then on. -/
theorem answersFor_eq (s : Store) (ds : List Database)
    (hkeeps : (sent s (ds.flatMap Database.statements)).1.Keeps u) :
    answersFor s ds = ds.map fun d => (d, d.statements.map (answered u)) := by
  induction ds generalizing s with
  | nil => rfl
  | cons d ds ih =>
    rw [List.flatMap_cons, sent_append] at hkeeps
    obtain ⟨hsettled, hanswers⟩ := (settles_statements s d).1
    have hlater := (keeps_sent _ _).trans hkeeps
    have hfirst : answers s d.statements = d.statements.map (answered u) := by
      rw [hanswers]
      apply List.map_congr_left
      intro st hst
      rw [(hsettled st hst).answered_eq hlater]
    rw [answersFor, List.map_cons, hfirst, ih _ hkeeps]

/-- Which policy a replication makes the default of a database does not depend on the store, if it
touches the database at all. -/
theorem default_sent (ds : List Database) (name : String) :
    (∀ s, (sent s (ds.flatMap Database.statements)).1.database? name = s.database? name) ∨
      ∃ policy, ∀ s, ∃ sd, (sent s (ds.flatMap Database.statements)).1.database? name = some sd ∧
        sd.default = some policy := by
  induction ds with
  | nil => exact .inl fun s => rfl
  | cons d ds ih =>
    simp only [List.flatMap_cons, sent_append]
    rcases ih with hsame | ⟨policy, hpolicy⟩
    · -- What comes after this database does not touch the name.
      simp only [hsame]
      by_cases hd : d.statements ≠ [] ∧ d.target = name
      · obtain ⟨hsent, rfl⟩ := hd
        exact .inr ⟨d.targetDefaultPolicy, fun s =>
          (settles_statements s d).2.resolve_left hsent⟩
      · refine .inl fun s => database?_sent ?_
        intro st hst heq
        refine hd ⟨List.ne_nil_of_mem hst, ?_⟩
        exact Option.some.inj ((changed?_statements hst).symm.trans heq)
    · exact .inr ⟨policy, fun s => hpolicy _⟩

/-- Statements about policies that are there change at most defaults. -/
theorem samePolicies_sent (h : ∀ st ∈ ss, Settled s st) : SamePolicies s (sent s ss).1 := by
  induction ss generalizing s with
  | nil => exact fun _ => rfl
  | cons st ss ih =>
    refine (h st List.mem_cons_self).samePolicies.trans (ih ?_)
    intro st' hst'
    exact (h st' (List.mem_cons_of_mem _ hst')).keeps (s.keeps_execute _)

/-- A replication that is done again leaves the store as it is. -/
theorem sent_again (s : Store) (ds : List Database) :
    (sent (sent s (ds.flatMap Database.statements)).1 (ds.flatMap Database.statements)).1 =
      (sent s (ds.flatMap Database.statements)).1 := by
  set once := (sent s (ds.flatMap Database.statements)).1 with honce
  set twice := (sent once (ds.flatMap Database.statements)).1 with htwice
  have hpolicies : SamePolicies once twice :=
    samePolicies_sent (settles_flatMap s ds).settled
  have hdatabases : ∀ name, twice.database? name = once.database? name := by
    intro name
    rcases default_sent ds name with hsame | ⟨policy, hpolicy⟩
    · exact hsame once
    · obtain ⟨d, hd, hdefault⟩ := hpolicy s
      obtain ⟨d', hd', hdefault'⟩ := hpolicy once
      have hboth := hpolicies name
      rw [honce, htwice, hd, hd'] at hboth
      rw [honce, htwice, hd, hd']
      obtain ⟨default, policies⟩ := d
      obtain ⟨default', policies'⟩ := d'
      obtain rfl : policies = policies' := Option.some.inj hboth
      obtain rfl : default = default' := hdefault.trans hdefault'.symm
      rfl
  have hmaps : twice.databases = once.databases := Std.ExtTreeMap.ext_getElem? hdatabases
  exact congrArg Store.mk hmaps

end Stores

section Nodes
variable {net : Network} {n : MemoryNode} {e : Endpoint} (start : Instant)

/-- A changing statement that is sent to a node on line is answered by its store, and the report is
the account of that. -/
theorem exec_execute_answered (now : Span) (hnode : net.node? e.client = some (.memory n))
    (honline : n.isOnline = true) {st : Statement} (hst : (changed? st).isSome) :
    ∃ n', Network.host.exec start (Replication.execute e st) (net, now) =
        (tally [answered n.store st], net.put e.client (.memory n'), now) ∧
      n'.isOnline = true ∧ n'.store = (n.store.execute (.ofStatement st)).1 := by
  have hread : MemoryNode.isWindowRead st = false := by cases st <;> first | rfl | cases hst
  have hmutation : st.isMutation = true := by cases st <;> first | rfl | cases hst
  have hquery : (n.query (.ofStatement st)).1 = (answered n.store st).reply ∧
      (n.query (.ofStatement st)).2.isOnline = true ∧
      (n.query (.ofStatement st)).2.store = (n.store.execute (.ofStatement st)).1 := by
    rw [MemoryNode.query, if_pos honline, MemoryNode.execute]
    simp [Request.ofStatement, hread, hmutation, honline, answered]
  obtain ⟨hreply, honline', hstore⟩ := hquery
  obtain ⟨line, heq⟩ := execute_eq e st
  refine ⟨(n.query (.ofStatement st)).2, ?_, honline', hstore⟩
  rw [heq, Host.exec_bind, Node.exec_query hnode, hreply, Host.exec_bind, Host.exec_log]
  rfl

theorem exec_executeAll_answered (now : Span) (hnode : net.node? e.client = some (.memory n))
    (honline : n.isOnline = true) {ss : List Statement} (hss : ∀ st ∈ ss, (changed? st).isSome) :
    ∃ net' n', Network.host.exec start (Replication.executeAll e ss) (net, now) =
        (tally (answers n.store ss), net', now) ∧
      net'.node? e.client = some (.memory n') ∧ n'.isOnline = true ∧
      n'.store = (sent n.store ss).1 := by
  induction ss generalizing net n with
  | nil => exact ⟨net, n, rfl, hnode, honline, rfl⟩
  | cons st ss ih =>
    obtain ⟨n₁, hfirst, honline₁, hstore₁⟩ :=
      exec_execute_answered start now hnode honline (hss st List.mem_cons_self)
    obtain ⟨net', n', hrest, hnode', honline', hstore'⟩ :=
      ih (Network.node?_put_self hnode _) honline₁
        fun st' hst' => hss st' (List.mem_cons_of_mem _ hst')
    rw [hstore₁] at hrest hstore'
    refine ⟨net', n', ?_, hnode', honline', hstore'⟩
    rw [Replication.executeAll, Host.exec_bind, hfirst, Host.exec_bind, hrest, answers,
      tally_cons _ (answers _ ss)]
    rfl

theorem exec_database_answered (now : Span) (d : Database)
    (hnode : net.node? e.client = some (.memory n)) (honline : n.isOnline = true) :
    ∃ net' n', Network.host.exec start (Replication.database e d) (net, now) =
        (account [(d, answers n.store d.statements)], net', now) ∧
      net'.node? e.client = some (.memory n') ∧ n'.isOnline = true ∧
      n'.store = (sent n.store d.statements).1 := by
  rw [Replication.database, Database.statements]
  cases hinternal : d.isInternal with
  | true =>
    refine ⟨net, n, ?_, hnode, honline, rfl⟩
    rw [if_pos rfl, if_pos rfl, answers, account_internal hinternal]
    rfl
  | false =>
    rw [if_neg Bool.false_ne_true, if_neg Bool.false_ne_true]
    cases hdefault : d.defaultPolicy? with
    | none =>
      refine ⟨net, n, ?_, hnode, honline, rfl⟩
      rw [Option.elim, answers, account_skipped hinternal hdefault]
      rfl
    | some default =>
      obtain ⟨net', n', hexec, hnode', honline', hstore⟩ := exec_executeAll_answered start now
        hnode honline fun st hst => changed?_creation hst ▸ rfl
      refine ⟨net', n', ?_, hnode', honline', hstore⟩
      rw [Option.elim, account_sent hinternal hdefault]
      rw [Host.exec_bind, Host.exec_log, Host.exec_bind, hexec]
      rfl

/-- The report of a replication to a memory node on line is the account of what its store
answers. -/
theorem exec_replicate_answered (now : Span) (ds : List Database)
    (hnode : net.node? e.client = some (.memory n)) (honline : n.isOnline = true) :
    ∃ net' n', Network.host.exec start (replicate e ds) (net, now) =
        (account (answersFor n.store ds), net', now) ∧
      net'.node? e.client = some (.memory n') ∧ n'.isOnline = true ∧
      n'.store = (sent n.store (ds.flatMap Database.statements)).1 := by
  induction ds generalizing net n with
  | nil => exact ⟨net, n, rfl, hnode, honline, rfl⟩
  | cons d ds ih =>
    obtain ⟨net₁, n₁, hfirst, hnode₁, honline₁, hstore₁⟩ :=
      exec_database_answered start now d hnode honline
    obtain ⟨net', n', hrest, hnode', honline', hstore'⟩ := ih hnode₁ honline₁
    rw [hstore₁] at hrest hstore'
    refine ⟨net', n', ?_, hnode', honline', ?_⟩
    · rw [replicate, Host.exec_bind, hfirst, Host.exec_bind, hrest, answersFor,
        account_cons _ (answersFor _ ds)]
      rfl
    · rw [List.flatMap_cons, sent_append, hstore']

end Nodes

/-- Replicates schemas twice. -/
def replicateTwice (e : Endpoint) (ds : List Database) :
    Routine (ReplicationReport × ReplicationReport) := do
  let first ← replicate e ds
  let second ← replicate e ds
  pure (first, second)

/-- Whatever a memory node on line holds, and whatever the schemas are, replicating them twice
leaves the node's databases, policies and defaults as replicating them once does, and the second
report is the same as the first. -/
theorem replication_is_idempotent {σ ρ : Type} {net : Network} {n : MemoryNode} {e : Endpoint}
    (begin : Instant) (shared : σ) (ds : List Database)
    (hnode : net.node? e.client = some (.memory n)) (honline : n.isOnline = true) :
    ∃ report last,
      (((Machine.initial begin net shared).launch
          (Process.ofRoutine (replicate e ds) : Process σ ρ _)).Inevitably Network.host
        fun m => m.answer? 0 = some report ∧
          ∃ n', m.nodes.node? e.client = some (.memory n') ∧ n'.store = last) ∧
      ((Machine.initial begin net shared).launch
          (Process.ofRoutine (replicateTwice e ds) : Process σ ρ _)).Inevitably Network.host
        fun m => m.answer? 0 = some (report, report) ∧
          ∃ n', m.nodes.node? e.client = some (.memory n') ∧ n'.store = last := by
  obtain ⟨net₁, n₁, hfirst, hnode₁, honline₁, hstore₁⟩ :=
    exec_replicate_answered begin .zero ds hnode honline
  obtain ⟨net₂, n₂, hsecond, hnode₂, -, hstore₂⟩ :=
    exec_replicate_answered begin .zero ds hnode₁ honline₁
  -- Both times the statements are answered as the store after the first time answers them.
  have hanswers := answersFor_eq n.store ds (.refl _)
  have hanswers' := answersFor_eq n₁.store ds (.refl _)
  have hstore : n₂.store = n₁.store := by rw [hstore₂, hstore₁, sent_again]
  rw [hstore₁, sent_again] at hanswers'
  rw [hstore₁, hanswers', ← hanswers] at hsecond
  refine ⟨account (answersFor n.store ds), n₁.store, ?_, ?_⟩
  · apply (Machine.launch_ofRoutine Network.host begin net shared _).mono
    rintro m ⟨hanswer, hnodes⟩
    rw [hfirst] at hanswer hnodes
    exact ⟨hanswer, n₁, hnodes ▸ hnode₁, rfl⟩
  · apply (Machine.launch_ofRoutine Network.host begin net shared _).mono
    rintro m ⟨hanswer, hnodes⟩
    rw [replicateTwice, Host.exec_bind, hfirst, Host.exec_bind, hsecond] at hanswer hnodes
    exact ⟨hanswer, n₂, hnodes ▸ hnode₂, hstore⟩

/-- A node whose default policy keeps data for a day. -/
private def dayNode : MemoryNode :=
  (MemoryNode.ofName "b").addPolicy "app" ⟨"all", .ofSecs 86400, .zero, 1⟩ true

private def endless (name : String) : Policy := ⟨name, .zero, .zero, 1, true, ∅⟩

/-- Two databases with one copy, the first with a policy that the node has otherwise. -/
private def sharedCopies : List Database :=
  [.ofPolicies "app" [endless "all"],
    (Database.ofPolicies "web" [endless "raw"]).rename (some "app") none]

theorem replication_is_idempotent_shared_copies :
    ∃ report last,
      (((Machine.initial .epoch ⟨[.memory dayNode]⟩ ()).launch
          (Process.ofRoutine (replicate ⟨"b", ⟨0⟩⟩ sharedCopies) :
            Process Unit Unit _)).Inevitably Network.host
        fun m => m.answer? 0 = some report ∧
          ∃ n', m.nodes.node? ⟨0⟩ = some (.memory n') ∧ n'.store = last) ∧
      ((Machine.initial .epoch ⟨[.memory dayNode]⟩ ()).launch
          (Process.ofRoutine (replicateTwice ⟨"b", ⟨0⟩⟩ sharedCopies) :
            Process Unit Unit _)).Inevitably Network.host
        fun m => m.answer? 0 = some (report, report) ∧
          ∃ n', m.nodes.node? ⟨0⟩ = some (.memory n') ∧ n'.store = last :=
  replication_is_idempotent (n := dayNode) (e := ⟨"b", ⟨0⟩⟩) .epoch () sharedCopies rfl rfl

/-- The first schema asks for another policy than the node has, each time anew. -/
example : account (answersFor dayNode.store sharedCopies) =
    ⟨2, 2, ["CREATE DATABASE \"app\" WITH DURATION INF REPLICATION 1 NAME \"all\"" ++
      ": Statement error: retention policy conflicts with an existing policy"]⟩ := by
  decide +kernel

end SeriesReplica.Schema
