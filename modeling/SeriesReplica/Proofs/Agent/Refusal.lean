import SeriesReplica.Agent.Operations
import SeriesReplica.Node.Network
import SeriesReplica.Proofs.Cluster.Check
import SeriesReplica.Proofs.Concurrent.Adequacy
import SeriesReplica.Proofs.Schema.Asking

/-! Refused operations. Opening nodes and looking for what the master holds asks for nothing that
could change a node, and whatever may still be refused is refused before anything else is asked
for, apart from the empty window of a full copy. -/
namespace SeriesReplica
open Concurrent Time Query Cluster

variable {ν σ ρ α ε : Type}

section Asking

theorem probeOnce_harmless (name : String) (deadline : Deadline) :
    (probeOnce name deadline).CallsOnly NodeCall.Harmless := by
  refine (Routine.callsOnly_connect _ _).bind fun connected => ?_
  cases connected with
  | error e => exact Routine.callsOnly_pure _
  | ok client =>
    refine (Routine.callsOnly_ping _ rfl).bind fun pong => ?_
    cases pong with
    | error e => exact Routine.callsOnly_pure _
    | ok pong =>
      refine (Routine.callsOnly_query _ rfl).bind fun listed => ?_
      cases listed <;> exact Routine.callsOnly_pure _

theorem probe_harmless : (probe : Process Monitor ρ _).CallsOnly NodeCall.Harmless := by
  refine Process.callsOnly_get.bind fun m => Process.callsOnly_clock.bind fun started => ?_
  refine (Process.callsOnly_ofRoutine (probeOnce_harmless _ _)).bind fun probed => ?_
  cases probed with
  | ok found =>
    exact Process.callsOnly_clock.bind fun now =>
      (Process.callsOnly_update _).bind fun _ => Process.callsOnly_pure _
  | error e => exact (Process.callsOnly_update _).bind fun _ => Process.callsOnly_pure _

theorem connect_harmless : (connect : Process Monitor ρ _).CallsOnly NodeCall.Harmless := by
  refine probe_harmless.bind fun probed => ?_
  cases probed with
  | ok pong => exact (Process.callsOnly_update _).bind fun _ => Process.callsOnly_pure _
  | error e => exact Process.callsOnly_pure _

namespace Agent

theorem openNode_harmless (a : Agent) (name : String) :
    (a.openNode name : Process σ Sync.Outcome _).CallsOnly NodeCall.Harmless := by
  rw [openNode]
  split
  · exact Process.callsOnly_pure _
  · refine Process.callsOnly_clock.bind fun now => ?_
    refine (connect_harmless.withOwn _).bind fun x => ?_
    obtain ⟨answer, monitor⟩ := x
    cases answer with
    | error e => exact Process.callsOnly_pure _
    | ok pong =>
      exact (Process.callsOnly_log _).bind fun _ => Process.callsOnly_pure _

/-- Opening two nodes asks neither of them for anything that could change it. -/
theorem openCluster_harmless (a : Agent) (master slave : String) :
    (a.openCluster master slave : Process σ Sync.Outcome _).CallsOnly NodeCall.Harmless := by
  refine (a.openNode_harmless master).bind fun first => ?_
  cases first with
  | error e => exact Process.callsOnly_pure _
  | ok m =>
    refine (a.openNode_harmless slave).bind fun second => ?_
    cases second with
    | error e => exact Process.callsOnly_pure _
    | ok m' => exact Process.callsOnly_clock.bind fun _ => Process.callsOnly_pure _

theorem select_harmless (scope : Agent.Scope) (f : Schema.Filter) :
    (select scope f).CallsOnly NodeCall.Harmless := by
  refine ((Cluster.discover_lists f).mono fun _ _ h => h.harmless).bind fun found => ?_
  cases found <;> exact Process.callsOnly_pure _

end Agent
end Asking

namespace Cluster
open Schema
variable {host : Host ν} {begin : Instant} {s last : Scene ν Cluster} {e : Fault}

theorem discover_connected {f : Filter} {ds : List Schema.Database}
    (h : (discover f).Yields host begin (.ok ds) last s) :
    last.shared = s.shared ∧ ∃ master, connection s.shared.master = .ok master := by
  rw [discover] at h
  obtain ⟨_, _, ⟨rfl, rfl⟩, h⟩ := Process.yields_bind.1 h
  dsimp only [id] at h
  split at h
  · obtain ⟨hfault, -⟩ := Process.yields_pure.1 h
    cases hfault
  · rename_i master hmaster
    obtain ⟨found, mid, hfound, -, rfl⟩ := Process.yields_bind.1 h
    exact ⟨(Process.isReading_ofRoutine _).shared_eq hfound, master, hmaster⟩

/-- Creating databases fails only without a connection, and then before anything is sent. -/
theorem replicateSchema_error {ds : List Schema.Database}
    (h : (replicateSchema ds).Yields host begin (.error e) last s) : last = s := by
  rw [replicateSchema] at h
  obtain ⟨_, _, ⟨rfl, rfl⟩, h⟩ := Process.yields_bind.1 h
  dsimp only [id] at h
  split at h
  · exact (Process.yields_pure.1 h).2.symm
  · obtain ⟨report, mid, -, h⟩ := Process.yields_bind.1 h
    split at h
    · obtain ⟨_, _, -, hfault, -⟩ := Process.yields_bind.1 h
      cases hfault
    · cases (Process.yields_pure.1 h).1

theorem replicateSchema_connected {ds : List Schema.Database} {report : ReplicationReport}
    (h : (replicateSchema ds).Yields host begin (.ok report) last s) :
    last.shared = s.shared ∧ ∃ slave, connection s.shared.slave = .ok slave := by
  rw [replicateSchema] at h
  obtain ⟨_, _, ⟨rfl, rfl⟩, h⟩ := Process.yields_bind.1 h
  dsimp only [id] at h
  split at h
  · cases (Process.yields_pure.1 h).1
  · rename_i slave hslave
    obtain ⟨created, mid, hcreated, h⟩ := Process.yields_bind.1 h
    refine ⟨Eq.trans ?_ ((Process.isReading_ofRoutine _).shared_eq hcreated), slave, hslave⟩
    split at h
    · obtain ⟨_, mid', hlog, -, rfl⟩ := Process.yields_bind.1 h
      exact congrArg Scene.shared (Process.yields_log.1 hlog)
    · exact congrArg Scene.shared (Process.yields_pure.1 h).2.symm

/-- Copying data fails only without a connection, and then before anything is sent. -/
theorem replicateWith_error {settings : Settings} {ds : List Schema.Database}
    {window : Schema.Policy → Process Cluster Sync.Outcome (Instant × Instant)}
    (h : (replicateWith settings ds window).Yields host begin (.error e) last s) :
    last = s ∧ ∀ master slave, connection s.shared.master = .ok master →
      connection s.shared.slave ≠ .ok slave := by
  rw [replicateWith] at h
  obtain ⟨_, _, ⟨rfl, rfl⟩, h⟩ := Process.yields_bind.1 h
  obtain ⟨_, _, ⟨rfl, rfl⟩, h⟩ := Process.yields_bind.1 h
  dsimp only [id] at h
  split at h
  · obtain ⟨_, _, -, hfault, -⟩ := Process.yields_bind.1 h
    cases hfault
  · rename_i hmaster
    refine ⟨(Process.yields_pure.1 h).2.symm, fun master slave hconnected => ?_⟩
    rw [hmaster] at hconnected
    cases hconnected
  · rename_i hslave
    refine ⟨(Process.yields_pure.1 h).2.symm, fun master slave _ hconnected => ?_⟩
    rw [hslave] at hconnected
    cases hconnected

end Cluster

namespace Agent
open Schema
variable {host : Host ν} {begin : Instant} {a : Agent} {order : Sync.Order}
  {range : Agent.Range} {scope : Agent.Scope} {f : Schema.Filter} {e : Fault}

/-- The error of an empty window. -/
def IsEmptyWindow (range : Agent.Range) (e : Fault) : Prop :=
  ∃ start stop, range = .window start stop ∧ stop ≤ start ∧
    e = .plan (.invalidWindow start stop)

theorem copyData_error {ds : List Schema.Database} {s last : Scene ν Cluster}
    (h : (a.copyData order ds range).Yields host begin (.error e) last s) :
    last = s ∧ (IsEmptyWindow range e ∨ ∀ master slave,
      connection s.shared.master = .ok master → connection s.shared.slave ≠ .ok slave) := by
  cases range with
  | window start stop =>
    rw [copyData] at h
    split at h
    · rename_i hempty
      obtain ⟨hfault, rfl⟩ := Process.yields_pure.1 h
      exact ⟨rfl, .inl ⟨start, stop, rfl, hempty, (Except.error.inj hfault).symm⟩⟩
    · exact ⟨(replicateWith_error h).1, .inr (replicateWith_error h).2⟩
  | full => exact ⟨(replicateWith_error h).1, .inr (replicateWith_error h).2⟩

theorem select_connected {ds : List Schema.Database} {s last : Scene ν Cluster}
    (h : (select scope f).Yields host begin (.ok ds) last s) :
    last.shared = s.shared ∧ ∃ master, connection s.shared.master = .ok master := by
  rw [select] at h
  obtain ⟨found, mid, hfound, h⟩ := Process.yields_bind.1 h
  cases found with
  | error e => cases (Process.yields_pure.1 h).1
  | ok found =>
    obtain ⟨-, rfl⟩ := Process.yields_pure.1 h
    exact discover_connected hfound

/-- A process that has asked for nothing that could change a node where it ends with an error of
a kind. -/
def FailsHarmlessly (E : ε → Prop) (p : Process σ Sync.Outcome (Except ε α)) : Prop :=
  ∀ (ν : Type) (host : Host ν) (begin : Instant) (e : ε)
    (s last : Scene (ν × List (Client × NodeCall)) σ), E e →
    p.Yields host.recording begin (.error e) last s →
    Recorded NodeCall.Harmless s.nodes.2 last.nodes.2

variable {E : Fault → Prop}

theorem failsHarmlessly_pure (x : Except ε α) {E : ε → Prop} :
    FailsHarmlessly E (pure x : Process σ Sync.Outcome (Except ε α)) := by
  rintro ν host begin e s last - ⟨-, rfl⟩
  exact .refl _

/-- What is done on two nodes once they have been opened. -/
theorem onCluster_failsHarmlessly {operation : Operation (Except Fault α)} (master slave : String)
    (h : FailsHarmlessly E operation) :
    FailsHarmlessly E (a.onCluster master slave operation : Process σ _ _) := by
  intro ν host begin e s last he hyields
  rw [onCluster] at hyields
  obtain ⟨opened, mid, hopened, hyields⟩ := Process.yields_bind.1 hyields
  have hopening := (a.openCluster_harmless master slave).recorded hopened
  cases opened with
  | error e' =>
    obtain ⟨-, rfl⟩ := Process.yields_pure.1 hyields
    exact hopening
  | ok c =>
    obtain ⟨⟨result, own⟩, end', hown, hyields⟩ := Process.yields_bind.1 hyields
    obtain ⟨rfl, rfl⟩ := Process.yields_pure.1 hyields
    exact hopening.trans (h ν host begin e _ _ he (Process.yields_withOwn.1 hown).1)

/-- What is done with the databases that a scope selects. -/
private def onSelected (scope : Agent.Scope) (f : Schema.Filter)
    (next : List Schema.Database → Operation (Except Fault α)) : Operation (Except Fault α) := do
  match ← select scope f with
  | .error e => pure (.error e)
  | .ok ds => next ds

private theorem onSelected_failsHarmlessly
    {next : List Schema.Database → Operation (Except Fault α)}
    (h : ∀ (ν : Type) (host : Host ν) (begin : Instant) (e : Fault) (ds : List Schema.Database)
      (s last : Scene (ν × List (Client × NodeCall)) Cluster), E e →
      (∃ master, connection s.shared.master = .ok master) →
      (next ds).Yields host.recording begin (.error e) last s →
      Recorded NodeCall.Harmless s.nodes.2 last.nodes.2) :
    FailsHarmlessly E (onSelected scope f next) := by
  intro ν host begin e s last he hyields
  obtain ⟨selected, mid, hselected, hyields⟩ := Process.yields_bind.1 hyields
  have hselecting := (select_harmless scope f).recorded hselected
  cases selected with
  | error e' =>
    obtain ⟨-, rfl⟩ := Process.yields_pure.1 hyields
    exact hselecting
  | ok ds =>
    obtain ⟨hshared, master, hmaster⟩ := select_connected hselected
    exact hselecting.trans (h ν host begin e ds mid last he ⟨master, hshared ▸ hmaster⟩ hyields)

/-- What follows the selection may be told apart from it. -/
private theorem onSelected_bind {next : List Schema.Database → Operation (Except Fault α)}
    {β : Type} (change : α → Except Fault β) :
    (onSelected scope f next >>= fun result => pure (result.bind change)) =
      onSelected scope f fun ds => next ds >>= fun result => pure (result.bind change) := by
  rw [onSelected, onSelected, bind_assoc]
  congr 1
  funext selected
  cases selected <;> rfl

theorem replicateSchema_failsHarmlessly (a : Agent) (master slave : String)
    (scope : Agent.Scope) :
    FailsHarmlessly (fun _ => True)
      (a.replicateSchema master slave scope : Process σ Sync.Outcome _) := by
  rw [Agent.replicateSchema]
  split
  · exact failsHarmlessly_pure _
  · apply onCluster_failsHarmlessly
    apply onSelected_failsHarmlessly
    intro ν host begin e ds s last _ _ h
    exact replicateSchema_error h ▸ .refl _

theorem copy_failsHarmlessly (a : Agent) (master slave : String) (scope : Agent.Scope)
    (range : Agent.Range) (order : Sync.Order) :
    FailsHarmlessly (fun _ => True)
      (a.copy master slave scope range order : Process σ Sync.Outcome _) := by
  rw [copy]
  split
  · exact failsHarmlessly_pure _
  · apply onCluster_failsHarmlessly
    apply onSelected_failsHarmlessly
    intro ν host begin e ds s last _ _ h
    exact (copyData_error h).1 ▸ .refl _

/-- What a full copy does with the databases that are selected. -/
private def createAndCopy (a : Agent) (range : Agent.Range) (order : Sync.Order)
    (ds : List Schema.Database) :
    Operation (Except Fault (ReplicationReport × List Sync.Report)) := do
  match ← Cluster.replicateSchema ds with
  | .error e => pure (.error e)
  | .ok created =>
    let copied ← a.copyData order ds range
    pure (copied.map fun reports => (created, reports))

private theorem createAndCopy_emptyWindow (a : Agent) (order : Sync.Order)
    (ds : List Schema.Database) {start stop : Instant} (h : stop ≤ start) :
    createAndCopy a (.window start stop) order ds = (do
      let created ← Cluster.replicateSchema ds
      pure (created.bind fun _ => .error (.plan (.invalidWindow start stop)))) := by
  simp only [createAndCopy, copyData, if_pos h, pure_bind]
  congr 1
  funext created
  cases created <;> rfl

theorem fullCopy_failsHarmlessly (a : Agent) (master slave : String) (scope : Agent.Scope)
    (range : Agent.Range) (order : Sync.Order) :
    FailsHarmlessly (fun e => ¬ IsEmptyWindow range e)
      (a.fullCopy master slave scope range order : Process σ Sync.Outcome _) := by
  rw [fullCopy]
  split
  · exact failsHarmlessly_pure _
  · apply onCluster_failsHarmlessly
    apply onSelected_failsHarmlessly
    rintro ν host begin e ds s last he ⟨m, hm⟩ h
    obtain ⟨created, mid, hcreated, h⟩ := Process.yields_bind.1 h
    cases created with
    | error e' =>
      obtain ⟨-, rfl⟩ := Process.yields_pure.1 h
      exact replicateSchema_error hcreated ▸ .refl _
    | ok created =>
      -- Both connections are there by now, so only the window can still be refused.
      obtain ⟨hshared, sl, hsl⟩ := replicateSchema_connected hcreated
      obtain ⟨copied, end', hcopied, hresult, rfl⟩ := Process.yields_bind.1 h
      cases copied with
      | ok reports => cases hresult
      | error e' =>
        obtain rfl : e' = e := Except.error.inj hresult
        rcases (copyData_error hcopied).2 with hempty | hunconnected
        · exact absurd hempty he
        · exact absurd (hshared ▸ hsl) (hunconnected m sl (hshared ▸ hm))

/-- The empty window of a full copy is refused only after databases have been created. -/
theorem fullCopy_emptyWindow {start stop : Instant} (a : Agent) (master slave : String)
    (scope : Agent.Scope) (order : Sync.Order) (h : stop ≤ start) :
    (a.fullCopy master slave scope (.window start stop) order : Process σ Sync.Outcome _) = (do
      let created ← a.replicateSchema master slave scope
      pure (created.bind fun _ => .error (.plan (.invalidWindow start stop)))) := by
  rw [fullCopy, Agent.replicateSchema]
  cases scope.filter with
  | error e => rfl
  | ok f =>
    have hoperation : onSelected scope f (createAndCopy a (.window start stop) order) = (do
        let created ← onSelected scope f Cluster.replicateSchema
        pure (created.bind fun _ => .error (.plan (.invalidWindow start stop)))) := by
      rw [onSelected_bind]
      exact congrArg _ (funext fun ds => createAndCopy_emptyWindow a order ds h)
    simp only [onCluster, bind_assoc]
    congr 1
    funext opened
    cases opened with
    | error e => rfl
    | ok c =>
      refine (congrArg (fun p => Process.withOwn c p >>= fun x => pure x.1) hoperation).trans ?_
      rw [Process.withOwn_map, bind_assoc, bind_assoc]
      rfl

/-- However it is scheduled, a process comes to its end, and if that is an error of a kind, no call
that may change a node has been made. -/
def RefusesCleanly (E : ε → Prop) (p : Process σ Sync.Outcome (Except ε α)) : Prop :=
  ∀ (ν : Type) (host : Host ν) (begin : Instant) (nodes : ν) (shared : σ),
    ((Machine.initial begin (nodes, []) shared).launch p).Inevitably host.recording fun m =>
      ∃ result, m.answer? 0 = some result ∧
        ∀ e, result = .error e → E e → ∀ x ∈ m.nodes.2, x.2.changes = false

theorem FailsHarmlessly.refusesCleanly {E : ε → Prop} {p : Process σ Sync.Outcome (Except ε α)}
    (h : FailsHarmlessly E p) : RefusesCleanly E p := by
  intro ν host begin nodes shared
  apply (Machine.launch_inevitably host.recording begin (nodes, []) shared p).mono
  rintro m ⟨result, last, hyields, -, hanswers, hnodes, -⟩
  refine ⟨result, by rw [Machine.answer?, hanswers]; rfl, ?_⟩
  rintro e rfl he x hx
  obtain ⟨calls, hcalls, hharmless⟩ := h ν host begin e _ last he hyields
  rw [hnodes, hcalls, List.append_nil] at hx
  exact hharmless x hx

/-- Whatever the configuration, the names, the scope and the nodes, a replication of schemas and a
copy that are refused have not asked any node for a change, nor has a full copy that is refused,
unless its window is empty. A full copy of an empty window creates the databases first. -/
theorem refusals_change_nothing (a : Agent) (master slave : String) (scope : Agent.Scope)
    (range : Agent.Range) (order : Sync.Order) :
    RefusesCleanly (fun _ => True)
      (a.replicateSchema master slave scope : Process σ Sync.Outcome _) ∧
    RefusesCleanly (fun _ => True)
      (a.copy master slave scope range order : Process σ Sync.Outcome _) ∧
    RefusesCleanly (fun e => ¬ IsEmptyWindow range e)
      (a.fullCopy master slave scope range order : Process σ Sync.Outcome _) ∧
    ∀ start stop, stop ≤ start →
      (a.fullCopy master slave scope (.window start stop) order : Process σ Sync.Outcome _) = (do
        let created ← a.replicateSchema master slave scope
        pure (created.bind fun _ => .error (.plan (.invalidWindow start stop)))) :=
  ⟨(a.replicateSchema_failsHarmlessly master slave scope).refusesCleanly,
    (a.copy_failsHarmlessly master slave scope range order).refusesCleanly,
    (a.fullCopy_failsHarmlessly master slave scope range order).refusesCleanly,
    fun _ _ h => a.fullCopy_emptyWindow master slave scope order h⟩

/-- A master with one database. -/
private def oneDatabase : Node.MemoryNode :=
  (Node.MemoryNode.ofName "a").addPolicy "app" ⟨"weekly", .zero, .zero, 1⟩ true

private def masterAndSlave : Agent := .ofConfig { nodes := [{ name := "a" }, { name := "b" }] }

/-- A full copy of an empty window to an empty slave, with a record of its calls. -/
private def emptyWindowCopy : Machine (Node.Network × List (Client × NodeCall)) Unit Sync.Outcome
    (Except Fault (ReplicationReport × List Sync.Report)) :=
  (Machine.initial .epoch (⟨[.memory oneDatabase, .memory (.ofName "b")]⟩, []) ()).launch
    (masterAndSlave.fullCopy "a" "b" ⟨"", "", "", none, none⟩ (.window .epoch .epoch) .forward)

/-- The machine once that copy is done. -/
private def emptyWindowEnd : Machine (Node.Network × List (Client × NodeCall)) Unit Sync.Outcome
    (Except Fault (ReplicationReport × List Sync.Report)) :=
  emptyWindowCopy.runUntil Node.Network.host.recording (fun _ => false) 1000

/-- A full copy of an empty window is refused, but the slave has been asked for changes. -/
theorem emptyWindow_changes_slave :
    ¬ emptyWindowCopy.Inevitably Node.Network.host.recording fun m =>
      ∀ e, m.answer? 0 = some (.error e) → ∀ c, (⟨1⟩, c) ∈ m.nodes.2 → c.changes = false := by
  intro h
  have hend : emptyWindowEnd.fibers.isEmpty = true := by decide +kernel
  have hanswer : emptyWindowEnd.answer? 0 =
      some (.error (.plan (.invalidWindow .epoch .epoch))) := by decide +kernel
  have hasked : (emptyWindowEnd.nodes.2.any fun x => decide (x.1 = ⟨1⟩) && x.2.changes) = true := by
    decide +kernel
  obtain ⟨⟨client, c⟩, hmem, hchanges⟩ := List.any_eq_true.1 hasked
  obtain ⟨rfl, hchanges⟩ : client = ⟨1⟩ ∧ c.changes = true := by simpa using hchanges
  have hharmless := h.at_end 1000 (List.isEmpty_iff.1 hend) _ hanswer c hmem
  exact Bool.false_ne_true (hharmless.symm.trans hchanges)

end Agent
end SeriesReplica
