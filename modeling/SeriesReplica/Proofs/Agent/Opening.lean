import SeriesReplica.Agent.Operations
import SeriesReplica.Proofs.Cluster.Check
import SeriesReplica.Proofs.Node.Listing

/-! Opening memory nodes. A node of the configuration that is on line is always opened, at once and
without changing anything, and data then goes through the connection by its name. -/
namespace SeriesReplica
open Concurrent Time Node Query Cluster

section Answers
variable {net : Network} {c : Client} {n : MemoryNode} {start : Instant} {now : Span}
  {name : String} {deadline : Deadline}

/-- What is answered at once meets its deadline. -/
theorem meet_zero {β : Type} (h : now ≤ deadline.moment) (reply : Except Node.Error β) :
    Machine.meet now .zero (some deadline) reply = (.zero, reply) :=
  if_pos h

theorem exec_ofOp (action : Action) {reply : action.Answer}
    (h : Network.host.answer start now net action = ((.zero, reply), net)) :
    Network.host.exec start (.ofOp action) (net, now) = (reply, net, now) := by
  change ((Network.host.answer start now net action).1.2,
    (Network.host.answer start now net action).2,
    now + (Network.host.answer start now net action).1.1) = _
  rw [h]
  rfl

/-- A node that is on line can be connected to. -/
theorem exec_connect (hc : net.client? name = some c) (h : net.node? c = some (.memory n))
    (hn : n.isOnline = true) (hnow : now ≤ deadline.moment) :
    Network.host.exec start (Routine.connect name (some deadline)) (net, now) =
      (.ok c, net, now) := by
  have hconnect : net.connect name = ((.zero, .ok c), net) := by
    rw [Network.connect, hc, Option.bind_some, h]
    simp only [Option.map_some, Simulated.connect, hn, if_true, Network.put_self h]
    rfl
  refine exec_ofOp _ ?_
  change (Machine.meet now (net.connect name).1.1 (some deadline) (net.connect name).1.2,
    (net.connect name).2) = _
  rw [hconnect, meet_zero hnow]

/-- A call that leaves its memory node as it was meets its deadline. -/
theorem exec_call (h : net.node? c = some (.memory n)) (hnow : now ≤ deadline.moment)
    {call : NodeCall} {reply : Except Node.Error call.Reply} (hcall : n.call call = (reply, n)) :
    Network.host.exec start (.ofOp (Action.call c call (some deadline))) (net, now) =
      (reply, net, now) := by
  refine exec_ofOp _ ?_
  change (Machine.meet now (net.call c call).1.1 (some deadline) (net.call c call).1.2,
    (net.call c call).2) = _
  rw [Network.call_memory h, hcall, Network.put_self h, meet_zero hnow]

/-- A probe of a node that is on line succeeds. -/
theorem exec_probeOnce (hc : net.client? name = some c) (h : net.node? c = some (.memory n))
    (hn : n.isOnline = true) (hnow : now ≤ deadline.moment) :
    Network.host.exec start (probeOnce name deadline) (net, now) =
      (.ok (c, ⟨.zero, MemoryNode.version⟩), net, now) := by
  have hping : Network.host.exec start (Routine.ping c (some deadline)) (net, now) =
      (.ok ⟨.zero, MemoryNode.version⟩, net, now) := by
    refine exec_call h hnow ?_
    rw [MemoryNode.call, MemoryNode.ping, if_pos hn]
  have hquery : Network.host.exec start (Routine.query c (.ofStatement .showDatabases)
      (some deadline)) (net, now) = (.ok n.store.showDatabases, net, now) :=
    exec_call h hnow (MemoryNode.query_listing hn ⟨rfl, rfl⟩)
  rw [probeOnce, Host.exec_bind, exec_connect hc h hn hnow]
  simp only []
  rw [Host.exec_bind, hping]
  simp only []
  rw [Host.exec_bind, hquery]
  rfl

/-- A probe of a node that is on line, after which data goes through its connection. -/
theorem connect_yields (hc : net.client? name = some c) (h : net.node? c = some (.memory n))
    (hn : n.isOnline = true) {ρ : Type} {result : Except Node.Error Pong}
    {scene last : Scene Network Monitor} (hnodes : scene.nodes = net)
    (hname : scene.shared.name = name)
    (hyields : (connect : Process Monitor ρ _).Yields Network.host start result last scene) :
    (∃ pong, result = .ok pong) ∧ last.nodes = net ∧ last.shared.active = some c := by
  subst hnodes hname
  rw [connect] at hyields
  obtain ⟨probed, mid, hprobe, hyields⟩ := Process.yields_bind.1 hyields
  obtain ⟨found, hexec, rfl, hshared⟩ := probe_yields hprobe
  rw [exec_probeOnce hc h hn (Nat.le_add_right _ _)] at hexec
  obtain ⟨rfl, hnodes⟩ := Prod.mk.inj hexec
  obtain ⟨u, _, hupdate, rfl, rfl⟩ := Process.yields_bind.1 hyields
  obtain rfl := Process.yields_update.1 hupdate
  refine ⟨⟨_, rfl⟩, (Prod.mk.inj hnodes).1.symm, ?_⟩
  change mid.shared.refresh.active = some c
  rw [hshared]
  rfl

/-- A name of the configuration leads to a memory node without failures and with a given store. -/
structure Leads (a : Agent) (net : Network) (name : String) (c : Client) (s : Store) : Prop where
  configured : (a.config.node? name).isSome
  client : net.client? name = some c
  serves : net.Serves c s

namespace Agent
variable {σ : Type} {a : Agent}

theorem openNode_yields {s : Store} (h : Leads a net name c s) {result : Except Fault Monitor}
    {scene last : Scene Network σ} (hnodes : scene.nodes = net)
    (hyields : (a.openNode name : Process σ Sync.Outcome _).Yields Network.host start result last
      scene) :
    (∃ m : Monitor, result = .ok m ∧ m.active = some c) ∧ last.nodes = net := by
  obtain ⟨n, hn, ⟨honline, -⟩, -⟩ := h.serves
  obtain ⟨config, hconfig⟩ := Option.isSome_iff_exists.1 h.configured
  have hfound : decide (config.name = name) = true :=
    List.find?_some (p := fun x : Agent.NodeConfig => decide (x.name = name)) hconfig
  have hname : config.name = name := of_decide_eq_true hfound
  subst hnodes
  rw [openNode, hconfig] at hyields
  dsimp only at hyields
  obtain ⟨begun, s₁, hclock, hopen⟩ := Process.yields_bind.1 hyields
  obtain ⟨rfl, -⟩ := Process.yields_clock.1 hclock
  obtain ⟨⟨reply, m⟩, mid, hconnect, hopen⟩ := Process.yields_bind.1 hopen
  rw [Process.yields_withOwn] at hconnect
  obtain ⟨⟨pong, rfl⟩, hmid, hactive⟩ := connect_yields h.client hn honline rfl hname hconnect.1
  obtain ⟨u, _, hlog, rfl, rfl⟩ := Process.yields_bind.1 hopen
  obtain rfl := Process.yields_log.1 hlog
  exact ⟨⟨m, rfl, hactive⟩, hmid⟩

/-- The cluster of two nodes that are on line, with a connection for data to each. -/
theorem openCluster_yields {master slave : String} {c c' : Client} {s s' : Store}
    (hmaster : Leads a net master c s) (hslave : Leads a net slave c' s')
    {result : Except Fault Cluster} {scene last : Scene Network σ} (hnodes : scene.nodes = net)
    (hyields : (a.openCluster master slave : Process σ Sync.Outcome _).Yields Network.host start
      result last scene) :
    (∃ cluster : Cluster, result = .ok cluster ∧ cluster.master.active = some c ∧
      cluster.slave.active = some c') ∧ last.nodes = net := by
  rw [openCluster] at hyields
  obtain ⟨first, s₁, hfirst, hyields⟩ := Process.yields_bind.1 hyields
  obtain ⟨⟨m, rfl, hm⟩, hs₁⟩ := openNode_yields hmaster hnodes hfirst
  obtain ⟨second, s₂, hsecond, hyields⟩ := Process.yields_bind.1 hyields
  obtain ⟨⟨m', rfl, hm'⟩, hs₂⟩ := openNode_yields hslave hs₁ hsecond
  obtain ⟨begun, _, hclock, rfl, rfl⟩ := Process.yields_bind.1 hyields
  obtain ⟨rfl, -⟩ := Process.yields_clock.1 hclock
  exact ⟨⟨_, rfl, hm, hm'⟩, hs₂⟩

end Agent
end Answers
end SeriesReplica
