import SeriesReplica.Proofs.Agent.Opening
import SeriesReplica.Proofs.Cluster.Mirror
import SeriesReplica.Proofs.Schema.Discovery

/-! A full copy between memory nodes. Whatever the master holds, whichever filter selects and
however the window is cut, the slave mirrors the master afterwards. -/
namespace SeriesReplica.Agent
open Concurrent Time Node Point Schema Cluster

variable {net : Network} {begin : Instant} {source : Store} {c : Client}

theorem connection_eq {m : Monitor} (h : m.active = some c) :
    connection m = .ok ⟨m.name, c⟩ := by
  rw [connection, Monitor.endpoint?, h]
  rfl

/-- Where databases without measurements have been created, there are no rows. -/
private theorem row?_eq_none {ds : List Schema.Database} {built : Store}
    (hothers : ∀ n, (∀ d ∈ ds, d.name ≠ n) → built.database? n = none)
    (hstored : ∀ d ∈ ds, ∃ sd, built.database? d.name = some sd ∧ d.IsStored sd)
    (database policy : String) (k : RowKey) : built.row? database policy k = none := by
  by_cases hcreated : ∃ d ∈ ds, d.name = database
  · obtain ⟨d, hd, rfl⟩ := hcreated
    obtain ⟨sd, hsd, hstored⟩ := hstored d hd
    rw [Store.row?, Store.policy?, hsd, Option.bind_some]
    cases hp : sd.policies[policy]? with
    | none => rfl
    | some p => simp [StoredPolicy.row?, hstored.bare policy p hp]
  · rw [Store.row?, Store.policy?, hothers database fun d hd heq => hcreated ⟨d, hd, heq⟩]
    rfl

section Steps
variable {scene last : Scene Network Cluster} {f : Filter}

/-- What is selected on a master without failures is all that is found there. -/
theorem select_yields {scope : Scope} (hrenames : scope.renames = false)
    (hactive : scene.shared.master.active = some c) (hserves : scene.nodes.Serves c source)
    (hsound : source.Sound) (hspanned : Spanned source)
    {result : Except Fault (List Schema.Database)}
    (h : (select scope f).Yields Network.host begin result last scene) :
    result = .ok (found f source) ∧ last = scene := by
  obtain ⟨n, hn, ⟨honline, -⟩, rfl⟩ := hserves
  rw [select] at h
  obtain ⟨discovered, s₁, hdiscover, h⟩ := Process.yields_bind.1 h
  rw [Cluster.discover] at hdiscover
  obtain ⟨_, _, ⟨rfl, rfl⟩, hdiscover⟩ := Process.yields_bind.1 hdiscover
  rw [connection_eq hactive] at hdiscover
  obtain ⟨answer, s₂, hroutine, rfl, rfl⟩ := Process.yields_bind.1 hdiscover
  rw [Process.yields_ofRoutine, exec_discover hn honline hsound hspanned] at hroutine
  obtain ⟨rfl, rfl⟩ := hroutine
  obtain ⟨rfl, rfl⟩ := h
  rw [Scope.apply, hrenames]
  exact ⟨rfl, rfl⟩

/-- Databases are created on a slave without failures that has none of them. -/
theorem replicateSchema_yields {ds : List Schema.Database}
    (hactive : scene.shared.slave.active = some c) (hserves : scene.nodes.Serves c source)
    (hds : ∀ d ∈ ds, d.KeepsNames) (hdistinct : ds.Pairwise fun d e => d.name ≠ e.name)
    (hnew : ∀ d ∈ ds, source.database? d.name = none)
    {result : Except Fault ReplicationReport}
    (h : (Cluster.replicateSchema ds).Yields Network.host begin result last scene) :
    ∃ created built, result = .ok created ∧ created.isClean = true ∧
      last.nodes.Serves c built ∧ (∀ c', c' ≠ c → last.nodes.node? c' = scene.nodes.node? c') ∧
      last.shared = scene.shared ∧
      (∀ n, (∀ d ∈ ds, d.name ≠ n) → built.database? n = source.database? n) ∧
      ∀ d ∈ ds, ∃ sd, built.database? d.name = some sd ∧ d.IsStored sd := by
  obtain ⟨built, hbuilds, hkept, hadded⟩ :=
    builds_replicate begin ⟨scene.shared.slave.name, c⟩ hds hdistinct hnew
  obtain ⟨report, net', hexec, hclean, hserves', hothers⟩ := hbuilds scene.nodes scene.now hserves
  rw [Cluster.replicateSchema] at h
  obtain ⟨_, _, ⟨rfl, rfl⟩, h⟩ := Process.yields_bind.1 h
  rw [connection_eq hactive] at h
  obtain ⟨answer, s₁, hroutine, h⟩ := Process.yields_bind.1 h
  rw [Process.yields_ofRoutine, hexec] at hroutine
  obtain ⟨rfl, rfl⟩ := hroutine
  simp only [hclean, Bool.not_true, Bool.false_eq_true, if_false] at h
  obtain ⟨rfl, rfl⟩ := h
  exact ⟨report, built, rfl, hclean, hserves', hothers, rfl, hkept, hadded⟩

/-- The data of all that is found is copied to a slave without failures, where it mirrors the
master. -/
theorem copyData_yields {a : Agent} {order : Sync.Order} {start stop : Instant} {c' : Client}
    {built : Store} (hmaster : scene.shared.master.active = some c)
    (hslave : scene.shared.slave.active = some c') (hapart : c ≠ c')
    (hsource : scene.nodes.Serves c source) (hbuilt : scene.nodes.Serves c' built)
    (hsound : source.Sound) (htellable : Tellable source)
    (hnone : ∀ database policy k, built.row? database policy k = none)
    (hstored : ∀ d ∈ found f source, ∃ sd, built.database? d.name = some sd ∧ d.IsStored sd)
    (hwindow : start < stop) (hnanos : start.epochNanos < stop.epochNanos)
    (hchunk : a.sync.chunk.nanos ≠ 0)
    (hspan : stop.epochNanos.toInt - start.epochNanos.toInt ≤ a.sync.maxRetention.nanos)
    {result : Except Fault (List Sync.Report)}
    (h : (a.copyData order (found f source) (.window start stop)).Yields Network.host begin result
      last scene) :
    ∃ reports after, result = .ok reports ∧ last.nodes.Serves c' after ∧
      Mirrors f source start stop reports after := by
  have hkeeps : ∀ d ∈ found f source, d.KeepsNames := fun d hd => keepsNames_found hsound hd
  rw [copyData, if_neg (by rwa [Instant.not_le_iff]), replicateData, replicateWith] at h
  obtain ⟨_, _, ⟨rfl, rfl⟩, h⟩ := Process.yields_bind.1 h
  obtain ⟨_, _, ⟨rfl, rfl⟩, h⟩ := Process.yields_bind.1 h
  dsimp only [id] at h
  rw [connection_eq hmaster, connection_eq hslave] at h
  obtain ⟨reports, _, hsync, rfl, rfl⟩ := Process.yields_bind.1 h
  have hbare' : ∀ x ∈ policiesOf (found f source), IsBare built (copyOf x) := by
    intro x hx
    obtain ⟨d, hd, hx⟩ := List.mem_flatMap.1 hx
    obtain ⟨p, hp, rfl⟩ := List.mem_map.1 hx
    obtain ⟨sd, hsd, hstored⟩ := hstored d hd
    obtain ⟨q, hq⟩ := Option.isSome_iff_exists.1
      (Std.ExtTreeMap.mem_iff_isSome_getElem?.1 (hstored.mem hp))
    rw [Cluster.copyOf_eq (hkeeps d hd)]
    exact ⟨q, by rw [Store.policy?, hsd, Option.bind_some, hq], hstored.bare p.name q hq⟩
  have hcopyable : ∀ x ∈ policiesOf (found f source), Copyable source x := by
    intro x hx
    obtain ⟨name, n, hfound⟩ := exists_foundAt hsound hx
    exact hfound.copyable hsound htellable
  obtain ⟨after, T, hcopied, hserves⟩ := syncPolicies_yields hapart hwindow hnanos hchunk hsound
    hcopyable (policiesOf_distinct hkeeps (found_distinct f source)) hbare' hsource hbuilt hsync
  rw [show Sync.plannedFirst start stop (a.settings order).sync.chunk
    (a.settings order).sync.maxRetention = start.epochNanos.toInt from
      Sync.plannedFirst_eq_start hchunk hspan] at hcopied
  exact ⟨reports, after, rfl, hserves, hcopied.mirrors hsound htellable hnone⟩

end Steps

/-- A full copy of a window between memory nodes, without failures and to an empty slave, succeeds
with clean reports, and then the slave mirrors the master: it holds the selected rows of the
window, field by field, and nothing else, and each of them has been counted once. -/
theorem fullCopy_mirrors {σ : Type} {a : Agent} (shared : σ) {masterName slaveName : String}
    {c' : Client} {master : MemoryNode} {scope : Scope} {f : Filter} {start stop : Instant}
    (order : Sync.Order) (hmaster : Leads a net masterName c master.store)
    (hslave : Leads a net slaveName c' .empty) (hapart : c ≠ c') (hreachable : master.Reachable)
    (htellable : Tellable master.store) (hscope : scope.filter = .ok f)
    (hrenames : scope.renames = false) (hchunk : a.sync.chunk.nanos ≠ 0)
    (hwindow : start < stop) (hnanos : start.epochNanos < stop.epochNanos)
    (hspan : stop.epochNanos.toInt - start.epochNanos.toInt ≤ a.sync.maxRetention.nanos) :
    ((Machine.initial begin net shared).launch
        (a.fullCopy masterName slaveName scope (.window start stop) order)).Inevitably Network.host
      fun m => ∃ created reports copy, m.answer? 0 = some (.ok (created, reports)) ∧
        created.isClean = true ∧ m.nodes.Serves c' copy ∧
        Mirrors f master.store start stop reports copy := by
  have hsound := hreachable.sound
  refine (Machine.launch_inevitably Network.host begin net shared _).mono ?_
  rintro m ⟨result, last, hyields, -, hanswers, hnodes, -⟩
  rw [fullCopy, hscope] at hyields
  dsimp only at hyields
  rw [onCluster] at hyields
  obtain ⟨opened, s₁, hopened, hrun⟩ := Process.yields_bind.1 hyields
  obtain ⟨⟨cluster, rfl, hcm, hcs⟩, hs₁⟩ := openCluster_yields hmaster hslave rfl hopened
  obtain ⟨⟨answer, after⟩, s₂, hown, rfl, rfl⟩ := Process.yields_bind.1 hrun
  obtain ⟨hrun, -⟩ := Process.yields_withOwn.1 hown
  obtain ⟨selected, s₃, hselect, hrun⟩ := Process.yields_bind.1 hrun
  obtain ⟨rfl, rfl⟩ := select_yields hrenames hcm (hs₁ ▸ hmaster.serves) hsound
    htellable.spanned hselect
  obtain ⟨replicated, s₄, hreplicate, hrun⟩ := Process.yields_bind.1 hrun
  obtain ⟨created, built, rfl, hclean, hbuilt, hothers, hshared, hkept, hadded⟩ :=
    replicateSchema_yields hcs (hs₁ ▸ hslave.serves) (fun d hd => keepsNames_found hsound hd)
      (found_distinct f master.store) (fun d _ => by simp [Store.empty, Store.database?]) hreplicate
  have hnone : ∀ database policy k, built.row? database policy k = none :=
    row?_eq_none (fun n hn => (hkept n hn).trans (by simp [Store.empty, Store.database?])) hadded
  -- Creating databases on the slave has left the master, another node, as it was.
  have hsource : s₄.nodes.Serves c master.store := by
    obtain ⟨n, hn, hhealthy, hstore⟩ := hmaster.serves
    exact ⟨n, by rw [hothers c hapart, hs₁, hn], hhealthy, hstore⟩
  obtain ⟨copied, s₅, hcopy, hfinal⟩ := Process.yields_bind.1 hrun
  obtain ⟨reports, copy, rfl, hserves, hmirrors⟩ := copyData_yields (hshared ▸ hcm)
    (hshared ▸ hcs) hapart hsource hbuilt hsound htellable hnone hadded hwindow hnanos hchunk hspan
    hcopy
  obtain ⟨rfl, rfl⟩ := hfinal
  refine ⟨created, reports, copy, ?_, hclean, hnodes ▸ hserves, hmirrors⟩
  rw [Machine.answer?, hanswers]
  rfl

private def weeklySpec : Query.PolicySpec := ⟨"weekly", .zero, .zero, 1⟩

/-- A master with one row. -/
private def oneRowMaster : MemoryNode :=
  (((MemoryNode.ofName "a").addPolicy "app" weeklySpec true).insert
    ⟨"app", "weekly", [⟨"cpu", ∅, (∅ : Fields).insert "load" (.integer 7), 5⟩]⟩).2

private def oneRowMeasurement : StoredMeasurement :=
  ⟨(∅ : FieldTypes).insert "load" .integer, (∅ : Std.ExtTreeMap Tags Rows Tags.compare).insert ∅
    ((∅ : Rows).insert 5 ((∅ : Fields).insert "load" (.integer 7)))⟩

private def oneRowPolicy : StoredPolicy :=
  ⟨weeklySpec, (∅ : Std.ExtTreeMap String StoredMeasurement).insert "cpu" oneRowMeasurement⟩

private theorem oneRowMaster_store : oneRowMaster.store = ⟨(∅ : Std.ExtTreeMap String
    StoredDatabase).insert "app" ⟨some "weekly", (∅ : Std.ExtTreeMap String
      StoredPolicy).insert "weekly" oneRowPolicy⟩⟩ := rfl

private theorem eq_of_getElem?_insert {α β : Type} {cmp : α → α → Ordering} [Std.TransCmp cmp]
    [Std.LawfulEqCmp cmp] {k k' : α} {v v' : β}
    (h : ((∅ : Std.ExtTreeMap α β cmp).insert k v)[k']? = some v') : k' = k ∧ v' = v := by
  rw [Std.ExtTreeMap.getElem?_insert, Std.ExtTreeMap.getElem?_empty] at h
  split at h
  case isTrue heq => exact ⟨(Std.LawfulEqCmp.eq_of_compare heq).symm, (Option.some.inj h).symm⟩
  case isFalse => cases h

private theorem policy_oneRowMaster {database policy : String} {p : StoredPolicy}
    (h : oneRowMaster.store.policy? database policy = some p) :
    policy = "weekly" ∧ p = oneRowPolicy := by
  rw [oneRowMaster_store] at h
  obtain ⟨d, hd, hp⟩ := Option.bind_eq_some_iff.1 h
  obtain ⟨-, rfl⟩ := eq_of_getElem?_insert hd
  exact eq_of_getElem?_insert hp

private theorem tellable_oneRowMaster : Tellable oneRowMaster.store where
  finite database policy k row f v hrow hv := by
    obtain ⟨p, hp, hrow⟩ := Option.bind_eq_some_iff.1 hrow
    obtain ⟨-, rfl⟩ := policy_oneRowMaster hp
    obtain ⟨m, hm, hrow⟩ := Option.bind_eq_some_iff.1 hrow
    obtain ⟨-, rfl⟩ := eq_of_getElem?_insert hm
    obtain ⟨rows, hrows, hrow⟩ := Option.bind_eq_some_iff.1 hrow
    obtain ⟨-, rfl⟩ := eq_of_getElem?_insert hrows
    obtain ⟨-, rfl⟩ := eq_of_getElem?_insert hrow
    obtain ⟨-, rfl⟩ := eq_of_getElem?_insert hv
    trivial
  no_time database policy measurement m hm := by
    obtain ⟨p, hp, hm⟩ := Option.bind_eq_some_iff.1 hm
    obtain ⟨-, rfl⟩ := policy_oneRowMaster hp
    obtain ⟨-, rfl⟩ := eq_of_getElem?_insert hm
    rfl
  named database := by
    cases hp : oneRowMaster.store.policy? database "" with
    | none => rfl
    | some p => exact absurd (policy_oneRowMaster hp).1 (by decide)
  spanned database policy p hp := by
    obtain ⟨-, rfl⟩ := policy_oneRowMaster hp
    exact ⟨by decide, by decide⟩

/-- A configuration of two nodes. -/
private def twoNodeAgent : Agent := .ofConfig { nodes := [{ name := "a" }, { name := "b" }] }

/-- A full copy of the first hour of a master with one row. -/
theorem fullCopy_mirrors_one_row :
    ((Machine.initial .epoch ⟨[.memory oneRowMaster, .memory (.ofName "b")]⟩ ()).launch
        (twoNodeAgent.fullCopy "a" "b" ⟨"", "", "", none, none⟩
          (.window .epoch (.ofEpochNanos 3600000000000)) .reverse)).Inevitably Network.host
      fun m => ∃ created reports copy, m.answer? 0 = some (.ok (created, reports)) ∧
        created.isClean = true ∧ m.nodes.Serves ⟨1⟩ copy ∧
        Mirrors .all oneRowMaster.store .epoch (.ofEpochNanos 3600000000000) reports copy := by
  have hreachable : oneRowMaster.Reachable := .insert _ (.addPolicy _ _ _ (.ofName "a"))
  exact fullCopy_mirrors () .reverse
    ⟨rfl, rfl, oneRowMaster, rfl, ⟨rfl, rfl, rfl⟩, rfl⟩
    ⟨rfl, rfl, .ofName "b", rfl, ⟨rfl, rfl, rfl⟩, rfl⟩ (by decide) hreachable
    tellable_oneRowMaster rfl rfl (by decide) (by decide) (by decide) (by decide)

end SeriesReplica.Agent
