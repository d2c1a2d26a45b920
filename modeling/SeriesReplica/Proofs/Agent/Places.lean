import SeriesReplica.Proofs.Agent.Refusal
import SeriesReplica.Proofs.Cluster.Connections
import SeriesReplica.Proofs.Schema.Conformity
import SeriesReplica.Proofs.Schema.Discovered
import SeriesReplica.Proofs.Schema.Statements

/-! Where a copy goes. What is discovered and takes the names of a scope is copied to databases and
policies that are created under the same names, unless the copy is to be named as the internal
database: that one is not created, but written to. -/
namespace SeriesReplica
open Concurrent Time Query Schema

section Creating

/-- Calls have created a database on a node, and in it a policy of a name. -/
def Creates (calls : List (Client × NodeCall)) (c : Client) (database policy : String) : Prop :=
  (∃ spec, (c, .query (.ofStatement (.createDatabase database spec))) ∈ calls) ∧
    ∃ spec makeDefault, spec.name = policy ∧
      (c, .query (.ofStatement (.createPolicy database spec makeDefault))) ∈ calls

theorem Creates.mono {calls more : List (Client × NodeCall)} {c : Client}
    {database policy : String} (h : Creates calls c database policy) (hsub : calls ⊆ more) :
    Creates more c database policy := by
  obtain ⟨⟨spec, hdatabase⟩, spec', makeDefault, hname, hpolicy⟩ := h
  exact ⟨⟨spec, hsub hdatabase⟩, spec', makeDefault, hname, hsub hpolicy⟩

/-- A database that has a default policy and is not the internal one. -/
structure Schema.Database.IsCreatable (d : Schema.Database) : Prop where
  external : d.name ≠ internalDatabase
  default : d.defaultPolicy?.isSome

variable {ds ds' : List Schema.Database} {x : Schema.Database × Schema.Policy}

theorem Cluster.mem_policiesOf : x ∈ Cluster.policiesOf ds ↔ x.1 ∈ ds ∧ x.2 ∈ x.1.policies := by
  obtain ⟨d, p⟩ := x
  simp [Cluster.policiesOf]

/-- Every place that a policy is copied to is created, apart from the internal database. -/
theorem creates_statements (c : Client) (h : ∀ d ∈ ds, d.IsCreatable)
    (hx : x ∈ Cluster.policiesOf ds) (hexternal : x.1.target ≠ internalDatabase) :
    Creates (asked c (ds.flatMap Database.statements)) c x.1.target (x.1.targetPolicy x.2) := by
  obtain ⟨hd, hp⟩ := Cluster.mem_policiesOf.1 hx
  obtain ⟨default, hdefault⟩ := Option.isSome_iff_exists.1 (h x.1 hd).default
  have hsent : ∀ st ∈ x.1.creation default, (c, NodeCall.query (.ofStatement st)) ∈
      asked c (ds.flatMap Database.statements) := by
    intro st hst
    refine mem_asked.2 ⟨st, List.mem_flatMap.2 ⟨x.1, hd, ?_⟩, rfl⟩
    rwa [statements_eq ((isInternal_eq_false_iff (h x.1 hd).external).2 hexternal) hdefault]
  refine ⟨⟨_, hsent _ List.mem_cons_self⟩, ?_⟩
  obtain ⟨st, hst, hcreated⟩ := exists_created hp default
  cases st with
  | createPolicy database spec makeDefault =>
    obtain ⟨rfl, hname⟩ := Prod.mk.inj (Option.some.inj hcreated)
    exact ⟨spec, makeDefault, hname, hsent _ hst⟩
  | createDatabase | setDefaultPolicy | showDatabases | showPolicies | showMeasurements
  | showFieldKeys | selectWindow => cases hcreated

/-- The internal database is not created. -/
theorem external_of_asked {c c' : Client} {database : String} {spec : PolicySpec}
    {makeDefault : Bool} (h : (c', NodeCall.query (.ofStatement
      (.createPolicy database spec makeDefault))) ∈ asked c (ds.flatMap Database.statements)) :
    database ≠ internalDatabase := by
  obtain ⟨st, hst, heq⟩ := mem_asked.1 h
  obtain ⟨d, -, hd⟩ := List.mem_flatMap.1 hst
  obtain ⟨hexternal, default, -, hcreation⟩ := external_of_mem_statements hd
  have hst : .createPolicy database spec makeDefault = st :=
    congrArg Request.statement (NodeCall.query.inj (Prod.mk.inj heq).2)
  have htarget : changed? st = some d.target := changed?_creation hcreation
  rw [← hst] at htarget
  obtain rfl : database = d.target := Option.some.inj htarget
  rw [Database.isInternal, Bool.or_eq_false_iff] at hexternal
  exact of_decide_eq_false hexternal.2

/-- The calls that create databases create the place of a policy, unless its database is the
internal one. -/
theorem creates_iff (c : Client) (h : ∀ d ∈ ds, d.IsCreatable) (hx : x ∈ Cluster.policiesOf ds) :
    Creates (asked c (ds.flatMap Database.statements)) c x.1.target (x.1.targetPolicy x.2) ↔
      x.1.target ≠ internalDatabase :=
  ⟨fun ⟨_, _, _, _, hpolicy⟩ => external_of_asked hpolicy, creates_statements c h hx⟩

/-- What is discovered can be created, also under the names of a scope. -/
theorem isCreatable_of_apply {e : Endpoint} {f : Filter} {ν : Type} {host : Host ν}
    {begin : Instant} {s : ν × Span} {scope : Agent.Scope}
    (hfound : (host.exec begin (discover e f) s).1 = .ok ds) (hscope : scope.apply ds = .ok ds') :
    ∀ d ∈ ds', d.IsCreatable := by
  have hds : ∀ d ∈ ds, d.IsListed := (discover_isListed e f).exec s ds hfound
  rw [Agent.Scope.apply] at hscope
  split at hscope
  · obtain rfl := Except.ok.inj hscope
    exact fun d hd => ⟨(hds d hd).1, (hds d hd).defaultPolicy⟩
  · split at hscope
    · cases hscope
    · obtain rfl := Except.ok.inj hscope
      intro d hd
      obtain ⟨d₀, hd₀, rfl⟩ := List.mem_map.1 hd
      exact ⟨(hds d₀ hd₀).1, (hds d₀ hd₀).defaultPolicy⟩

end Creating

section Copying
variable {ν : Type} {host : Host ν} {begin : Instant} {ds : List Schema.Database}

/-- A call of a copy of databases: a read of a window, or a write to the place of a policy. -/
def IsCopying (slave : Client) (ds : List Schema.Database) (c : Client) : NodeCall → Prop
  | .ping => False
  | .query r => r.statement.isMutation = false
  | .write b => c = slave ∧ ∃ x ∈ Cluster.policiesOf ds,
    b.database = x.1.target ∧ b.policy = x.1.targetPolicy x.2

namespace Cluster
open Sync

theorem isCopying_of_asks {source slave : Endpoint} {x : Schema.Database × Schema.Policy}
    (hx : x ∈ policiesOf ds) {start stop : Instant} {order : Order} (m : String) (c : Client)
    (call : NodeCall)
    (h : (Job.ofPolicy source slave x.1 x.2 start stop order).Asks m c call) :
    IsCopying slave.client ds c call := by
  cases call with
  | ping => exact h
  | query r =>
    obtain ⟨-, -, start, stop, hstatement⟩ := h
    rw [IsCopying, hstatement]
    rfl
  | write b =>
    obtain ⟨hclient, hdatabase, hpolicy, -⟩ := h
    exact ⟨hclient, x, hx, hdatabase, hpolicy⟩

theorem replicateWith_recorded {settings : Settings} {slave : Endpoint}
    {window : Schema.Policy → Process Cluster Outcome (Instant × Instant)}
    {result : Except Fault (List Report)} {s last : Scene (ν × List (Client × NodeCall)) Cluster}
    (hwindow : ∀ p, (window p).CallsOnly (IsCopying slave.client ds))
    (hslave : connection s.shared.slave = .ok slave)
    (h : (replicateWith settings ds window).Yields host.recording begin result last s) :
    Recorded (IsCopying slave.client ds) s.nodes.2 last.nodes.2 := by
  rw [replicateWith] at h
  obtain ⟨_, _, ⟨rfl, rfl⟩, h⟩ := Process.yields_bind.1 h
  obtain ⟨_, _, ⟨rfl, rfl⟩, h⟩ := Process.yields_bind.1 h
  dsimp only [id] at h
  split at h
  · rename_i source slave' _ hslave'
    obtain rfl : slave' = slave := Except.ok.inj (hslave'.symm.trans hslave)
    obtain ⟨reports, mid, hsynced, -, rfl⟩ := Process.yields_bind.1 h
    exact (syncPolicies_callsOnly (fun _ hx _ _ => isCopying_of_asks hx) hwindow).recorded hsynced
  · exact (Process.yields_pure.1 h).2 ▸ .refl _
  · exact (Process.yields_pure.1 h).2 ▸ .refl _

/-- Databases are created by their statements and by no other calls. -/
theorem replicateSchema_recorded {report : ReplicationReport} {slave : Endpoint}
    {s last : Scene (ν × List (Client × NodeCall)) Cluster}
    (hslave : connection s.shared.slave = .ok slave)
    (h : (replicateSchema ds).Yields host.recording begin (.ok report) last s) :
    last.nodes.2 = asked slave.client (ds.flatMap Database.statements) ++ s.nodes.2 := by
  rw [replicateSchema] at h
  obtain ⟨_, _, ⟨rfl, rfl⟩, h⟩ := Process.yields_bind.1 h
  simp only [id, hslave] at h
  obtain ⟨created, mid, hcreated, h⟩ := Process.yields_bind.1 h
  have hmid : mid.nodes.2 = asked slave.client (ds.flatMap Database.statements) ++ s.nodes.2 := by
    rw [(Process.yields_ofRoutine.1 hcreated).1]
    exact sends_replicate slave ds ν host begin _
  rw [← hmid]
  split at h
  · obtain ⟨_, mid', hlog, -, rfl⟩ := Process.yields_bind.1 h
    rw [Process.yields_log.1 hlog]
  · rw [(Process.yields_pure.1 h).2]

end Cluster

namespace Agent
open Cluster
variable {a : Agent} {order : Sync.Order} {range : Agent.Range} {scope : Agent.Scope} {f : Filter}

theorem copyData_recorded {slave : Endpoint} {result : Except Fault (List Sync.Report)}
    {s last : Scene (ν × List (Client × NodeCall)) Cluster}
    (hslave : connection s.shared.slave = .ok slave)
    (h : (a.copyData order ds range).Yields host.recording begin result last s) :
    Recorded (IsCopying slave.client ds) s.nodes.2 last.nodes.2 := by
  cases range with
  | window start stop =>
    rw [copyData] at h
    split at h
    · exact (Process.yields_pure.1 h).2 ▸ .refl _
    · exact replicateWith_recorded (fun _ => Process.callsOnly_pure _) hslave h
  | full =>
    refine replicateWith_recorded (fun _ => ?_) hslave h
    exact Process.callsOnly_clock.bind fun _ => Process.callsOnly_pure _

theorem select_isCreatable {s last : Scene ν Cluster}
    (h : (select scope f).Yields host begin (.ok ds) last s) : ∀ d ∈ ds, d.IsCreatable := by
  rw [select] at h
  obtain ⟨found, mid, hfound, h⟩ := Process.yields_bind.1 h
  cases found with
  | error e => cases (Process.yields_pure.1 h).1
  | ok found =>
    rw [Cluster.discover] at hfound
    obtain ⟨_, _, ⟨rfl, rfl⟩, hfound⟩ := Process.yields_bind.1 hfound
    dsimp only [id] at hfound
    split at hfound
    · cases (Process.yields_pure.1 hfound).1
    · obtain ⟨answer, _, hanswer, hfound⟩ := Process.yields_bind.1 hfound
      cases answer with
      | error e => cases (Process.yields_pure.1 hfound).1
      | ok ds₀ =>
        obtain rfl : ds₀ = found := Except.ok.inj (Process.yields_pure.1 hfound).1
        exact isCreatable_of_apply (Process.yields_ofRoutine.1 hanswer).2
          (Process.yields_pure.1 h).1

/-- Whatever is written has its database and policy created before, unless the database is the
internal one: that one is never created. Records have the last call first. -/
def WritesFollowCreation (record : List (Client × NodeCall)) : Prop :=
  ∀ later c b earlier, record = later ++ (c, .write b) :: earlier →
    (Creates earlier c b.database b.policy ↔ b.database ≠ internalDatabase)

theorem writesFollowCreation_of_harmless {record : List (Client × NodeCall)}
    (h : ∀ x ∈ record, x.2.changes = false) : WritesFollowCreation record := by
  rintro later c b earlier rfl
  cases h (c, .write b) (by simp)

/-- Calls of which the last ones are found again after a write that is among the first. -/
theorem exists_between {α : Type} {copying base later earlier : List α} {w : α}
    (h : copying ++ base = later ++ w :: earlier) (hw : w ∉ base) :
    ∃ between, copying = later ++ w :: between ∧ earlier = between ++ base := by
  rcases List.append_eq_append_iff.1 h with ⟨more, -, hbase⟩ | ⟨more, hcopying, hearlier⟩
  · exact absurd (hbase ▸ by simp) hw
  · cases more with
    | nil =>
      obtain rfl : w :: earlier = base := hearlier
      exact absurd List.mem_cons_self hw
    | cons v between =>
      obtain ⟨rfl, rfl⟩ := List.cons.inj hearlier
      exact ⟨between, hcopying, rfl⟩

/-- A copy that begins with the creation of its databases. -/
theorem writesFollowCreation_append {slave : Client} {copying opening : List (Client × NodeCall)}
    (hds : ∀ d ∈ ds, d.IsCreatable) (hcopying : ∀ x ∈ copying, IsCopying slave ds x.1 x.2)
    (hopening : ∀ x ∈ opening, x.2.changes = false) :
    WritesFollowCreation
      (copying ++ (asked slave (ds.flatMap Database.statements) ++ opening)) := by
  intro later c b earlier h
  have hbase : (c, NodeCall.write b) ∉ asked slave (ds.flatMap Database.statements) ++ opening := by
    intro hmem
    rcases List.mem_append.1 hmem with hmem | hmem
    · obtain ⟨st, -, heq⟩ := mem_asked.1 hmem
      cases heq
    · cases hopening _ hmem
  obtain ⟨between, rfl, rfl⟩ := exists_between h hbase
  obtain ⟨rfl, x, hx, hdatabase, hpolicy⟩ : IsCopying slave ds c (.write b) :=
    hcopying (c, .write b) (by simp)
  rw [hdatabase, hpolicy]
  constructor
  · -- Reads and writes create nothing, so what has been created is among the statements.
    rintro ⟨-, spec, makeDefault, -, hmem⟩
    rcases List.mem_append.1 hmem with hmem | hmem
    · have hread : Statement.isMutation (.createPolicy x.1.target spec makeDefault) = false :=
        hcopying _ (List.mem_append_right _ (List.mem_cons_of_mem _ hmem))
      cases hread
    · rcases List.mem_append.1 hmem with hmem | hmem
      · exact external_of_asked hmem
      · cases hopening _ hmem
  · intro hexternal
    refine (creates_statements c hds hx hexternal).mono fun y hy => ?_
    exact List.mem_append_right _ (List.mem_append_left _ hy)

/-- What a full copy does on the cluster that it has opened. -/
theorem createAndCopy_follows {result : Except Fault (ReplicationReport × List Sync.Report)}
    {s last : Scene (ν × List (Client × NodeCall)) Cluster}
    (hs : ∀ x ∈ s.nodes.2, x.2.changes = false)
    (h : (do
      match ← select scope f with
      | .error e => pure (.error e)
      | .ok ds =>
        match ← Cluster.replicateSchema ds with
        | .error e => pure (.error e)
        | .ok created =>
          let copied ← a.copyData order ds range
          pure (copied.map fun reports => (created, reports)) :
      Operation (Except Fault (ReplicationReport × List Sync.Report))).Yields host.recording begin
        result last s) :
    WritesFollowCreation last.nodes.2 := by
  obtain ⟨selected, mid, hselected, h⟩ := Process.yields_bind.1 h
  obtain ⟨calls, hmid, hcalls⟩ := (select_harmless scope f).recorded hselected
  have hopening : ∀ x ∈ mid.nodes.2, x.2.changes = false := by
    intro x hx
    rw [hmid] at hx
    exact (List.mem_append.1 hx).elim (hcalls x) (hs x)
  cases selected with
  | error e =>
    rw [(Process.yields_pure.1 h).2.symm]
    exact writesFollowCreation_of_harmless hopening
  | ok ds =>
    obtain ⟨created, mid', hcreated, h⟩ := Process.yields_bind.1 h
    cases created with
    | error e =>
      rw [(Process.yields_pure.1 h).2.symm, replicateSchema_error hcreated]
      exact writesFollowCreation_of_harmless hopening
    | ok created =>
      obtain ⟨hshared, slave, hslave⟩ := replicateSchema_connected hcreated
      obtain ⟨copied, end', hcopied, -, rfl⟩ := Process.yields_bind.1 h
      obtain ⟨copying, hlast, hcopying⟩ := copyData_recorded (hshared ▸ hslave) hcopied
      rw [hlast, replicateSchema_recorded hslave hcreated]
      exact writesFollowCreation_append (select_isCreatable hselected) hcopying hopening

theorem fullCopy_follows {σ : Type} {master slave : String}
    {result : Except Fault (ReplicationReport × List Sync.Report)}
    {s last : Scene (ν × List (Client × NodeCall)) σ} (hs : s.nodes.2 = [])
    (h : (a.fullCopy master slave scope range order : Process σ _ _).Yields host.recording begin
      result last s) :
    WritesFollowCreation last.nodes.2 := by
  rw [fullCopy] at h
  split at h
  · rw [(Process.yields_pure.1 h).2.symm, hs]
    exact writesFollowCreation_of_harmless (by simp)
  · rw [onCluster] at h
    obtain ⟨opened, mid, hopened, h⟩ := Process.yields_bind.1 h
    obtain ⟨calls, hmid, hcalls⟩ := (a.openCluster_harmless master slave).recorded hopened
    rw [hs, List.append_nil] at hmid
    cases opened with
    | error e =>
      rw [(Process.yields_pure.1 h).2.symm, hmid]
      exact writesFollowCreation_of_harmless hcalls
    | ok c =>
      obtain ⟨⟨result, own⟩, end', hown, h⟩ := Process.yields_bind.1 h
      obtain ⟨rfl, rfl⟩ := Process.yields_pure.1 h
      exact createAndCopy_follows (hmid ▸ hcalls) (Process.yields_withOwn.1 hown).1

/-- Whatever a node has answered, the databases that have been discovered on it and have taken the
names of a scope are copied policy by policy to places that are created for them, except for a copy
under the name of the internal database, for which nothing is created. So all that a full copy
writes goes to a database and a policy that it has created before, or to the internal database. -/
theorem copies_follow_creation {source : Endpoint} {s : ν × Span} {ds' : List Schema.Database}
    (hfound : (host.exec begin (Schema.discover source f) s).1 = .ok ds)
    (hscope : scope.apply ds = .ok ds') (slave : Endpoint) (start stop : Instant)
    (order : Sync.Order) :
    (∀ x ∈ policiesOf ds',
      let j := Sync.Job.ofPolicy source slave x.1 x.2 start stop order
      ∀ (ν' : Type) (host' : Host ν') (nodes : ν') (now : Span),
        Creates (host'.recording.exec begin (Schema.replicate slave ds') ((nodes, []), now)).2.1.2
            slave.client j.destinationDatabase j.destinationPolicy ↔
          j.destinationDatabase ≠ internalDatabase) ∧
    ∀ (ν' σ : Type) (host' : Host ν') (a : Agent) (master slave : String) (scope : Scope)
      (range : Agent.Range) (order : Sync.Order) (begin : Instant) (nodes : ν') (shared : σ),
      ((Machine.initial begin (nodes, []) shared).launch
          (a.fullCopy master slave scope range order : Process σ Sync.Outcome _)).Inevitably
        host'.recording fun m => (m.answer? 0).isSome ∧ WritesFollowCreation m.nodes.2 := by
  constructor
  · intro x hx j ν' host' nodes now
    rw [sends_replicate slave ds' ν' host' begin, List.append_nil]
    exact creates_iff slave.client (isCreatable_of_apply hfound hscope) hx
  · intro ν' σ host' a master slave scope range order begin nodes shared
    apply (Machine.launch_inevitably host'.recording begin (nodes, []) shared _).mono
    rintro m ⟨result, last, hyields, -, hanswers, hnodes, -⟩
    rw [hnodes]
    refine ⟨?_, fullCopy_follows rfl hyields⟩
    rw [Machine.answer?, hanswers]
    rfl

/-- A master with one row in the default policy of a database. -/
private def loadNode : Node.MemoryNode :=
  (((Node.MemoryNode.ofName "a").addPolicy "app" ⟨"all", .zero, .zero, 1⟩ true).insert
    ⟨"app", "all", [⟨"cpu", ∅, (∅ : Point.Fields).insert "load" (.integer 7), 5⟩]⟩).2

/-- What is discovered on that node. -/
private def loads : Schema.Database :=
  .ofPolicies "app" [⟨"all", .zero, .ofSecs 604800, 1, true,
    (∅ : Std.ExtTreeMap String FieldTypes).insert "cpu" ((∅ : FieldTypes).insert "load" .integer)⟩]

private theorem discovered_loads :
    (Node.Network.host.exec .epoch (Schema.discover ⟨"a", ⟨0⟩⟩ .all)
      (⟨[.memory loadNode]⟩, .zero)).1 = .ok [loads] := by decide +kernel

theorem copies_follow_creation_under_new_names :
    Creates (Node.Network.host.recording.exec .epoch
        (Schema.replicate ⟨"b", ⟨1⟩⟩ [loads.rename (some "copy") (some "kept")])
        ((⟨[.memory (.ofName "b")]⟩, []), .zero)).2.1.2 ⟨1⟩ "copy" "kept" ↔
      "copy" ≠ internalDatabase := by
  have hscope : Scope.apply ⟨"", "", "", some "copy", some "kept"⟩ [loads] =
      .ok [loads.rename (some "copy") (some "kept")] := rfl
  exact (copies_follow_creation discovered_loads hscope ⟨"b", ⟨1⟩⟩ .epoch .epoch .forward).1 _
    List.mem_cons_self _ Node.Network.host _ _

/-- A slave that keeps data of its own in its internal database. -/
private def internalNode : Node.MemoryNode :=
  (Node.MemoryNode.ofName "b").addPolicy internalDatabase ⟨"all", .zero, .zero, 1⟩ true

/-- A full copy under the name of the internal database, with a record of its calls. -/
private def internalCopy : Machine (Node.Network × List (Client × NodeCall)) Unit Sync.Outcome
    (Except Fault (ReplicationReport × List Sync.Report)) :=
  (Machine.initial .epoch (⟨[.memory loadNode, .memory internalNode]⟩, []) ()).launch
    (fullCopy (.ofConfig { nodes := [{ name := "a" }, { name := "b" }] }) "a" "b"
      ⟨"", "", "", some internalDatabase, none⟩
      (.window .epoch (.ofEpochNanos 10000000000)) .forward)

/-- The machine once that copy is done. -/
private def internalEnd : Machine (Node.Network × List (Client × NodeCall)) Unit Sync.Outcome
    (Except Fault (ReplicationReport × List Sync.Report)) :=
  internalCopy.runUntil Node.Network.host.recording (fun _ => false) 1000

/-- Whether a call writes points. -/
private def isWrite : NodeCall → Bool
  | .write _ => true
  | _ => false

/-- A full copy under the name of the internal database writes where it has created nothing. -/
theorem internal_copy_is_not_created :
    ¬ internalCopy.Inevitably Node.Network.host.recording fun m =>
      ∀ later c b earlier, m.nodes.2 = later ++ (c, .write b) :: earlier →
        Creates earlier c b.database b.policy := by
  intro h
  have hend : internalEnd.fibers.isEmpty = true := by decide +kernel
  have hwritten : (internalEnd.nodes.2.any fun x => isWrite x.2) = true := by decide +kernel
  have hcreated : (internalEnd.nodes.2.all fun x => isWrite x.2 || !x.2.changes) = true := by
    decide +kernel
  obtain ⟨⟨c, call⟩, hmem, hwrite⟩ := List.any_eq_true.1 hwritten
  cases call with
  | ping | query => cases hwrite
  | write b =>
    obtain ⟨later, earlier, hrecord⟩ := List.append_of_mem hmem
    obtain ⟨⟨spec, hdatabase⟩, -⟩ :=
      h.at_end 1000 (List.isEmpty_iff.1 hend) later c b earlier hrecord
    have hcreation : (c, NodeCall.query (.ofStatement (.createDatabase b.database spec))) ∈
        internalEnd.nodes.2 := by
      rw [hrecord]
      exact List.mem_append_right _ (List.mem_cons_of_mem _ hdatabase)
    cases List.all_eq_true.1 hcreated _ hcreation

end Agent
end Copying
end SeriesReplica
