import SeriesReplica.Cluster.Recovery
import SeriesReplica.Proofs.Cluster.Deeds
import SeriesReplica.Proofs.Cluster.Locking
import SeriesReplica.Proofs.Concurrent.Underway
import SeriesReplica.Proofs.Schema.Asking
import SeriesReplica.Proofs.Sync.Asking

/-! The connections that a recovery goes through. It lists what the master holds; then it looks up
the connections for data of both nodes, and until its data is replicated each read goes to the one
of the master and each write to the one of the slave that it has found there, whatever probes and
refreshes come in between. -/
namespace SeriesReplica.Cluster
open Concurrent Concurrent.Process Time Sync

variable {ν α β : Type}

/-- A call that moves data through the connections that are active in two states of a cluster: it
reads a window at the master of the first, or writes at the slave of the second. -/
def Flows (c d : Cluster) (client : Client) : NodeCall → Prop
  | .ping => False
  | .query r => c.master.active = some client ∧
    ∃ policy measurement start stop, r.statement = .selectWindow policy measurement start stop
  | .write _ => d.slave.active = some client

/-- The notes of a replication of data: it looks up the master and then the slave, and from then on
data flows between the connections that it has found. -/
inductive Replicates : List (Note Cluster) → Prop
  | waiting : Replicates []
  | looking (c : Cluster) : Replicates [.looked c]
  | moving (c d : Cluster) (l : List (Note Cluster))
    (flows : ∀ client call, .asked client call ∈ l → Flows c d client call) :
    Replicates (.looked c :: .looked d :: l)

section Data
variable {K : Client → NodeCall → Prop} {settings : Cluster.Settings}
  {window : Schema.Policy → Operation (Instant × Instant)}

/-- Policies are synced by the calls of their jobs. -/
theorem syncPolicies_callsOnly {source slave : Endpoint}
    {xs : List (Schema.Database × Schema.Policy)}
    (hxs : ∀ x ∈ xs, ∀ start stop measurement c call, (Job.ofPolicy source slave x.1 x.2 start stop
      settings.order).Asks measurement c call → K c call)
    (hwindow : ∀ p, (window p).CallsOnly K) :
    (syncPolicies settings source slave window xs).CallsOnly K := by
  induction xs with
  | nil => exact callsOnly_pure _
  | cons x xs ih =>
    have hrest := ih fun y hy => hxs y (List.mem_cons_of_mem _ hy)
    rw [syncPolicies]
    split
    · exact (callsOnly_log _).bind fun _ => hrest
    · refine (hwindow x.2).bind fun w => ?_
      refine (sync_callsOnly (hxs x List.mem_cons_self w.1 w.2)).bind fun result => ?_
      cases result with
      | ok report => exact hrest.bind fun _ => callsOnly_pure _
      | error e => exact (callsOnly_log _).bind fun _ => hrest

theorem active_of_connection {m : Monitor} {e : Endpoint} (h : connection m = .ok e) :
    m.active = some e.client := by
  rw [connection, Monitor.endpoint?] at h
  cases hactive : m.active with
  | none =>
    rw [hactive] at h
    cases h
  | some client =>
    rw [hactive] at h
    obtain rfl := Except.ok.inj h
    rfl

/-- The jobs between two nodes call for a flow of data between their connections. -/
theorem flows_of_asks {c d : Cluster} {master slave : Endpoint}
    (hmaster : connection c.master = .ok master) (hslave : connection d.slave = .ok slave)
    {x : Schema.Database × Schema.Policy} {start stop : Instant} {order : Order}
    {measurement : String} {client : Client} {call : NodeCall}
    (h : (Job.ofPolicy master slave x.1 x.2 start stop order).Asks measurement client call) :
    Flows c d client call := by
  cases call with
  | ping => exact h
  | query r =>
    obtain ⟨rfl, -, start, stop, hstatement⟩ := h
    exact ⟨active_of_connection hmaster, _, _, _, _, hstatement⟩
  | write b =>
    obtain ⟨rfl, -⟩ := h
    exact active_of_connection hslave

theorem replicateData_accounts {ds : List Schema.Database} {lo hi : Instant}
    {l : List (Note Cluster)} {result : Option (Except Fault (List Report))}
    (h : (replicateData settings ds lo hi).Accounts l result) : Replicates l := by
  rw [replicateData, replicateWith] at h
  cases h with
  | pause => exact .waiting
  | update c h =>
    cases h with
    | pause => exact .looking c
    | update d h =>
      refine .moving c d _ fun client call hmem => ?_
      refine CallsOnly.accounts (K := Flows c d) ?_ h hmem
      dsimp only [Program.bind]
      split
      · rename_i master slave hmaster hslave
        refine (syncPolicies_callsOnly (fun x _ start stop measurement client call hcall => ?_)
          fun _ => callsOnly_pure _).bind fun _ => callsOnly_pure _
        exact flows_of_asks hmaster hslave hcall
      · exact callsOnly_pure _
      · exact callsOnly_pure _

end Data

/-- What a recovery of a window may note: it lists what the master holds, replicates the data, and
makes no more calls. -/
def Recounts (s : Cluster.Settings) (lo hi : Instant) (l : List (Note Cluster)) : Prop :=
  ∃ opening moving closing, l = opening ++ (moving ++ closing) ∧
    (∀ client call, .asked client call ∈ opening → call.IsListing client) ∧
    (∃ ds result, (replicateData s ds lo hi).Accounts moving result) ∧ Replicates moving ∧
    ∀ client call, .asked client call ∉ closing

section Recovering
variable {s : Cluster.Settings} {lo hi : Instant} {l : List (Note Cluster)}

/-- What comes before the data is replicated lists what the master holds. -/
theorem Recounts.of_bind {p : Operation α} {f : α → Operation β} {result : Option β}
    (h : (p >>= f).Accounts l result) (hp : p.CallsOnly NodeCall.IsListing)
    (hf : ∀ a l, (f a).Accounts l result → Recounts s lo hi l) : Recounts s lo hi l := by
  rcases h.of_bind with ⟨-, hopening⟩ | ⟨a, l₁, l₂, rfl, hfirst, hrest⟩
  · exact ⟨l, [], [], (List.append_nil l).symm, fun client call => hp.accounts hopening,
      ⟨[], none, .pause _⟩, .waiting, fun _ _ => List.not_mem_nil⟩
  · obtain ⟨opening, moving, closing, rfl, hopening, hrest⟩ := hf a l₂ hrest
    refine ⟨l₁ ++ opening, moving, closing, (List.append_assoc ..).symm, fun client call hmem => ?_,
      hrest⟩
    rcases List.mem_append.1 hmem with hmem | hmem
    · exact hp.accounts hfirst hmem
    · exact hopening client call hmem

/-- A process that makes no calls. -/
theorem not_mem_of_silent {p : Operation α} {result : Option α}
    (hp : p.CallsOnly fun _ _ => False) (h : p.Accounts l result) (client : Client)
    (call : NodeCall) : .asked client call ∉ l :=
  fun hmem => hp.accounts h hmem

/-- What comes after the data is replicated calls no node. -/
theorem replay_accounts {ds : List Schema.Database} {f : Unit → Operation β} {result : Option β}
    (h : (replay s ds lo hi >>= f).Accounts l result)
    (hf : ∀ u, (f u).CallsOnly fun _ _ => False) : Recounts s lo hi l := by
  have hempty : ∀ client call, (.asked client call : Note Cluster) ∈ [] → call.IsListing client :=
    fun _ _ hmem => absurd hmem List.not_mem_nil
  rw [replay] at h
  split at h
  · rw [bind_assoc] at h
    rcases h.of_bind with ⟨-, h⟩ | ⟨moved, l₁, l₂, rfl, h, hrest⟩
    · exact ⟨[], l, [], (List.append_nil l).symm, hempty, ⟨ds, none, h⟩,
        replicateData_accounts h, fun _ _ => List.not_mem_nil⟩
    · refine ⟨[], l₁, l₂, rfl, hempty, ⟨ds, _, h⟩, replicateData_accounts h,
        not_mem_of_silent (CallsOnly.bind ?_ hf) hrest⟩
      cases moved <;> exact callsOnly_log _
  · exact ⟨[], [], l, rfl, hempty, ⟨ds, none, .pause _⟩, .waiting,
      not_mem_of_silent ((callsOnly_log _).bind hf) h⟩

theorem recoverySchema_lists : recoverySchema.CallsOnly NodeCall.IsListing := by
  have hrefresh : refreshSchema.CallsOnly NodeCall.IsListing := by
    refine (discover_lists .all).bind fun found => ?_
    cases found with
    | error e => exact callsOnly_pure _
    | ok ds => exact (callsOnly_update _).bind fun _ => callsOnly_pure _
  refine hrefresh.bind fun found => ?_
  cases found with
  | ok ds => exact callsOnly_pure _
  | error e => exact (callsOnly_log _).bind fun _ => callsOnly_get.bind fun _ => callsOnly_pure _

theorem recover_accounts {result : Option Unit} (h : (recover s lo hi).Accounts l result) :
    Recounts s lo hi l := by
  rw [recover_eq] at h
  refine .of_bind h callsOnly_get fun c l h => .of_bind h (callsOnly_log _) fun _ l h => ?_
  refine .of_bind h callsOnly_clock fun started l h => ?_
  refine .of_bind h (fun _ => trivial) fun before l h => .of_bind h ?_ fun _ l h => ?_
  · split
    · exact callsOnly_log _
    · exact callsOnly_pure _
  · refine .of_bind h recoverySchema_lists fun ds l h => replay_accounts h fun _ => ?_
    exact callsOnly_clock.bind fun ended => fun _ => callsOnly_log _

end Recovering

/-- Whatever it is answered, a probe makes no change to the connection for data. -/
theorem probe_only {ρ : Type} : (probe : Process Monitor ρ _).Only
    fun change => ∀ m : Monitor, (change m).active = m.active := by
  have hreading : ∀ {γ : Type} {p : Process Monitor ρ γ}, p.IsReading →
      p.Only fun change => ∀ m : Monitor, (change m).active = m.active :=
    fun hp => hp.only fun change hchange m => congrArg Monitor.active (hchange m)
  refine Only.bind (hreading isReading_get) fun m => ?_
  refine Only.bind (hreading isReading_clock) fun started => ?_
  refine Only.bind (hreading (isReading_ofRoutine _)) fun found => ?_
  cases found with
  | ok found =>
    refine Only.bind (hreading isReading_clock) fun now => ?_
    exact .inl ⟨fun _ => rfl, fun _ => trivial⟩
  | error e => exact .inl ⟨fun _ => rfl, fun _ => trivial⟩

/-- A watch tells what its probes, connects and refreshes have come to: whether the latest probe has
succeeded, what the latest successful one has found out and when, and as the connection for data
the one that the latest refresh or connect has put into use; no change that a probe makes touches
that connection. So whatever goes on next to a recovery, it lists what the master holds, looks up
the connections for data of both nodes when its data replication begins, and until that is over
reads through the one it has found for the master and writes through the one for the slave. -/
theorem connections_are_kept {host : Host ν} {start : Instant} {ρ : Type} :
    (∀ (name : String) (timeout : Span) (s₀ s s' : Scene ν Monitor) (h h' : List Monitor.Deed),
      s₀.shared = .unseen name timeout (start.later s₀.now) → Monitor.Lives host start s₀ h s →
      Monitor.Lives host start s h' s' →
      Monitor.Tells (start.later s₀.now) (h' ++ h) s'.shared ∧
        ((∀ a b : Span, a ≤ b → start.later a ≤ start.later b) →
          s.shared.lastOk ≤ s'.shared.lastOk)) ∧
    (probe : Process Monitor ρ _).Only
      (fun change => ∀ m : Monitor, (change m).active = m.active) ∧
    ∀ (m m' : Machine ν Cluster Outcome α) (l : Notes Cluster) (i : Nat)
      (k : Unit → Operation (Option α)) (after : After Cluster Outcome)
      (settings : Cluster.Settings) (lo hi : Instant), m.Nested →
      (i, .process ((recover settings lo hi).bind k) after) ∈ m.bodies → m.Course host l m' →
      ∃ l₁ l₂ m₁, l = l₁ ++ l₂ ∧ m.Course host l₁ m₁ ∧ m₁.Course host l₂ m' ∧
        Recounts settings lo hi (l₁.of i) ∧
        (l₂ = [] ∨ (i, .process (k ()) after) ∈ m₁.bodies) := by
  refine ⟨fun name timeout s₀ s s' h h' hbegun hlives hlives' => ⟨?_, fun hclock => ?_⟩,
    probe_only, fun m m' l i k after settings lo hi hnested hbody hcourse => ?_⟩
  · have htells : Monitor.Tells (start.later s₀.now) [] s₀.shared := hbegun ▸ .unseen _ _ _
    have hfirst := hlives.tells htells
    rw [List.append_nil] at hfirst
    exact hlives'.tells hfirst
  · have hnow : s₀.shared.lastOk ≤ start.later s₀.now := by
      rw [hbegun]
      exact Instant.le_refl _
    exact (hlives'.lastOk_le hclock (hlives.lastOk_le hclock hnow).2).1
  · rcases hcourse.accounts hnested hbody with haccount | ⟨l₁, l₂, m₁, u, rfl, hfirst, hrest, hdone,
      haccount⟩
    · exact ⟨l, [], m', (List.append_nil l).symm, hcourse, .refl, recover_accounts haccount,
        .inl rfl⟩
    · exact ⟨l₁, l₂, m₁, rfl, hfirst, hrest, recover_accounts haccount, .inr hdone⟩

/-- Nodes that give each connection the next number. The first one cannot list databases, and the
fifth one cannot be opened. -/
private def numbering : Host Nat where
  connect _ n := ((.zero, if n = 4 then .error (.unavailable "down") else .ok ⟨n⟩), n + 1)
  call client c n := ((.zero, match c with
    | .ping => .ok ⟨.zero, "1.8"⟩
    | .query r => match r.statement with
      | .selectWindow _ m _ _ =>
        .ok (.single [.untagged m ["time", "load"] [[.nat 5, .nat 7]]])
      | .showDatabases =>
        if client.id = 0 then .error (.unavailable "refused") else .ok (.single [])
      | _ => .error (.unavailable "refused")
    | .write _ => .ok ()), n)

private def hourly : Cluster.Settings :=
  ⟨.ofSecs 10, .forward, ⟨.ofSecs 3600, .ofSecs 3600, 1, 1000, ⟨1, .zero⟩⟩⟩

private def connected (name : String) (id : Nat) : Monitor :=
  { Monitor.unseen name (.ofSecs 5) .epoch with active := some ⟨id⟩, probed := some ⟨id⟩ }

/-- A cluster during a recovery, with the schema of an earlier discovery. -/
private def returned : Cluster :=
  ⟨connected "a" 0, connected "b" 1, ⟨.recovering, ⟨true, .epoch⟩, ⟨true, .epoch⟩, 0, .zero,
    [.ofPolicies "app" [⟨"weekly", .zero, .zero, 1, true,
      (∅ : Std.ExtTreeMap String Schema.FieldTypes).insert "cpu"
        ((∅ : Schema.FieldTypes).insert "load" .integer)⟩]]⟩⟩

private def resumed : Machine Nat Cluster Outcome Unit :=
  (Machine.initial .epoch 2 returned).launch
    (recover hourly .epoch (.ofEpochNanos 10000000000))

/-- A connect to the slave. -/
private def slaveConnect : Operation (Except Node.Error Pong) :=
  connect.within (·.slave) fun m c => { c with slave := m }

/-- The slave is connected to anew between a read of the recovery and its write. -/
private def overtaken : Machine Nat Cluster Outcome Unit :=
  (resumed.runNoting numbering 15).2.spawnFirst
    (.process (slaveConnect.bind fun _ => .done none) .nothing)

/-- All that is noted. -/
private def overtakenNotes : Notes Cluster :=
  (resumed.runNoting numbering 15).1 ++ (overtaken.runNoting numbering 100).1

private def overtakenWrites : List Client :=
  (overtakenNotes.of 0).filterMap fun
    | .asked client (.write _) => some client
    | _ => none

private def begun : Scene Nat Monitor := ⟨2, .zero, .unseen "b" (.ofSecs 5) .epoch⟩

/-- A refresh between probes, of which the last one fails. -/
private theorem lives_begun : ∃ h s, Monitor.Lives numbering .epoch begun h s ∧
    s.shared.isUp = false ∧ s.shared.probed = some ⟨3⟩ ∧ s.shared.active = some ⟨2⟩ := by
  have hfirst : Monitor.Lives numbering .epoch begun _ _ := .call .begin (.probe ⟨rfl, rfl⟩)
  have hsecond := (hfirst.call (.refresh ⟨rfl, rfl⟩)).call (.probe ⟨rfl, rfl⟩)
  exact ⟨_, _, hsecond.call (.probe ⟨rfl, rfl⟩), rfl, rfl, rfl⟩

private theorem course_overtaken :
    resumed.Course numbering overtakenNotes (overtaken.runNoting numbering 100).2 := by
  have hfirst := Machine.course_runNoting numbering 15 resumed
  have hbegins : resumed.Course numbering _ overtaken := hfirst.next (.begins .zero 0 id id)
  rw [List.append_nil] at hbegins
  exact hbegins.trans (Machine.course_runNoting numbering 100 overtaken)

private theorem nested_resumed : resumed.Nested := by
  have hbegins : (Machine.initial .epoch 2 returned).Comes numbering [] resumed :=
    .begins .zero 0 id id
  exact Machine.Nested.comes (.of_no_fibers rfl) hbegins

/-- A refresh between probes, and a slave that is connected to anew while it is written to. -/
theorem connections_are_kept_overtaken :
    (∃ (h : List Monitor.Deed) (s : Scene Nat Monitor), Monitor.Lives numbering .epoch begun h s ∧
      Monitor.Tells .epoch h s.shared ∧ begun.shared.lastOk ≤ s.shared.lastOk ∧
      s.shared.isUp = false ∧ s.shared.probed = some ⟨3⟩ ∧ s.shared.active = some ⟨2⟩) ∧
    (overtaken.runNoting numbering 100).2.shared.slave.active = some ⟨2⟩ ∧
    overtakenWrites = [⟨1⟩] ∧
    ∃ l₁ l₂ m₁, overtakenNotes = l₁ ++ l₂ ∧ resumed.Course numbering l₁ m₁ ∧
      m₁.Course numbering l₂ (overtaken.runNoting numbering 100).2 ∧
      Recounts hourly .epoch (.ofEpochNanos 10000000000) (l₁.of 0) ∧
      (l₂ = [] ∨ (0, .process (.done (some ())) .nothing) ∈ m₁.bodies) := by
  obtain ⟨htells, -, hkept⟩ := @connections_are_kept Nat Unit numbering .epoch Outcome
  obtain ⟨h, s, hlives, hdown, hprobed, hactive⟩ := lives_begun
  obtain ⟨htold, hlater⟩ := htells "b" (.ofSecs 5) begun begun s [] h rfl .begin hlives
  rw [List.append_nil] at htold
  refine ⟨⟨h, s, hlives, htold, hlater fun a b => Instant.later_mono (by decide), hdown, hprobed,
    hactive⟩, by decide +kernel, by decide +kernel, ?_⟩
  exact hkept resumed _ overtakenNotes 0 (fun a => .done (some a)) .nothing hourly .epoch _
    nested_resumed List.mem_cons_self course_overtaken

end SeriesReplica.Cluster
