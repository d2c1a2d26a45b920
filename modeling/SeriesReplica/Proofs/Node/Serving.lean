import SeriesReplica.Node.Network

/-! Calls that reach memory nodes. A window read answers the rows of the store and changes
nothing in it; a write leaves the store as it was or as the batch leaves it. A node that is on
line, with no failures ahead, does not fail. -/
namespace SeriesReplica.Node
open Concurrent Time Query

namespace MemoryNode

/-- A node that is on line, with no failures ahead of it. -/
def IsHealthy (n : MemoryNode) : Prop :=
  n.isOnline = true ∧ n.readFailures = 0 ∧ n.writeFailures = 0

/-- A window read fails or answers the rows of the store; the store stays as it is. -/
theorem query_window (n : MemoryNode) {r : Request} {policy measurement : String}
    {start stop : Instant} (hr : r.statement = .selectWindow policy measurement start stop) :
    (n.query r).2.store = n.store ∧
      ((∃ e, (n.query r).1 = .error e) ∨
        (n.query r).1 = .ok (n.store.selectWindow r.database policy measurement start stop)) ∧
      (n.IsHealthy → (n.query r).2 = n ∧
        (n.query r).1 = .ok (n.store.selectWindow r.database policy measurement start stop)) := by
  obtain ⟨statement, database, name⟩ := r
  obtain rfl : statement = .selectWindow policy measurement start stop := hr
  obtain ⟨title, online, reads, writes, calls, store, statements⟩ := n
  cases online with
  | false => exact ⟨rfl, .inl ⟨_, rfl⟩, fun h => (nomatch h.1)⟩
  | true =>
    cases reads with
    | zero => exact ⟨rfl, .inr rfl, fun _ => ⟨rfl, rfl⟩⟩
    | succ left => exact ⟨rfl, .inl ⟨_, rfl⟩, fun h => (nomatch h.2.1)⟩

/-- A write fails and leaves the store as it is, or does what the store does. -/
theorem write_cases (n : MemoryNode) (b : Batch) :
    (((n.write b).2.store = n.store ∧ ∃ e, (n.write b).1 = .error e) ∨
      ((n.write b).2.store = (n.store.write b).1 ∧
        (n.write b).1 = refused (n.store.write b).2)) ∧
      (n.IsHealthy → (n.write b).2.IsHealthy ∧ (n.write b).2.store = (n.store.write b).1 ∧
        (n.write b).1 = refused (n.store.write b).2) := by
  rw [write]
  split
  case isTrue honline =>
    match hfailures : n.writeFailures with
    | left + 1 => exact ⟨.inl ⟨rfl, _, rfl⟩, fun h => by simp [IsHealthy, hfailures] at h⟩
    | 0 => exact ⟨.inr ⟨rfl, rfl⟩, fun h => ⟨⟨honline, h.2.1, rfl⟩, rfl, rfl⟩⟩
  case isFalse hdown => exact ⟨.inl ⟨rfl, _, rfl⟩, fun h => absurd h.1 hdown⟩

/-- A node that is on line only fails a window read if a failure was ahead, and then there is one
less. -/
theorem query_window_online {n : MemoryNode} (h : n.isOnline = true) {r : Request}
    {policy measurement : String} {start stop : Instant}
    (hr : r.statement = .selectWindow policy measurement start stop) :
    (n.query r).2.isOnline = true ∧
      (((n.query r).1 = .ok (n.store.selectWindow r.database policy measurement start stop) ∧
          (n.query r).2.readFailures = n.readFailures) ∨
        ((∃ e, (n.query r).1 = .error e) ∧
          (n.query r).2.readFailures + 1 = n.readFailures)) := by
  obtain ⟨statement, database, name⟩ := r
  obtain rfl : statement = .selectWindow policy measurement start stop := hr
  obtain ⟨title, online, reads, writes, calls, store, statements⟩ := n
  obtain rfl : online = true := h
  cases reads with
  | zero => exact ⟨rfl, .inl ⟨rfl, rfl⟩⟩
  | succ left => exact ⟨rfl, .inr ⟨⟨_, rfl⟩, rfl⟩⟩

/-- A node that is on line only fails a write that its store takes if a failure was ahead, and then
there is one less. -/
theorem write_online {n : MemoryNode} (h : n.isOnline = true) {b : Batch}
    (hb : (n.store.write b).2 = .ok ()) :
    (n.write b).2.isOnline = true ∧
      (((n.write b).1 = .ok () ∧ (n.write b).2.writeFailures = n.writeFailures) ∨
        ((∃ e, (n.write b).1 = .error e) ∧
          (n.write b).2.writeFailures + 1 = n.writeFailures)) := by
  rw [write, if_pos h]
  match hfailures : n.writeFailures with
  | left + 1 => exact ⟨h, .inr ⟨⟨_, rfl⟩, rfl⟩⟩
  | 0 => exact ⟨h, .inl ⟨congrArg refused hb, rfl⟩⟩

end MemoryNode

namespace Network

/-- A memory node answers a call at once. -/
theorem call_memory {net : Network} {c : Client} {n : MemoryNode}
    (h : net.node? c = some (.memory n)) (call : NodeCall) :
    net.call c call = ((.zero, (n.call call).1), net.put c (.memory (n.call call).2)) := by
  rw [Network.call, h]
  rfl

theorem node?_put_self {net : Network} {c : Client} {n : Simulated} (h : net.node? c = some n)
    (n' : Simulated) : (net.put c n').node? c = some n' :=
  List.getElem?_set_self (List.getElem?_eq_some_iff.1 h).1

theorem node?_put_ne {net : Network} {c d : Client} (h : c ≠ d) (n : Simulated) :
    (net.put c n).node? d = net.node? d :=
  List.getElem?_set_ne fun heq => h (by cases c; cases d; exact congrArg Client.mk heq)

end Network

/-- A host whose calls reach the nodes of a network, except for those that fail on the way. -/
structure Serving {ν : Type} (host : Host ν) (network : ν → Network) (faulty : Prop) : Prop where
  call : ∀ c call nodes,
    (faulty ∧ network (host.call c call nodes).2 = network nodes ∧
      ∃ e, (host.call c call nodes).1.2 = .error e) ∨
    (network (host.call c call nodes).2 = ((network nodes).call c call).2 ∧
      (host.call c call nodes).1.2 = ((network nodes).call c call).1.2)

/-- Without anything in between no call fails on the way. -/
theorem Network.serving : Serving Network.host id False := ⟨fun _ _ _ => .inr ⟨rfl, rfl⟩⟩

/-- Which calls fail on the way and how long calls take, by the number of calls before them. -/
structure Faults where
  fault? : Nat → Client → NodeCall → Option Error
  delay : Nat → Span

/-- A network behind faults, with the number of calls that have been made. -/
structure Unreliable where
  network : Network
  calls : Nat

namespace Faults

/-- How nodes behind faults answer. A call that fails on the way changes nothing. -/
def host (f : Faults) : Host Unreliable where
  connect name u :=
    let (reply, network) := u.network.connect name
    (reply, { u with network := network })
  call c call u :=
    match f.fault? u.calls c call with
    | some e => ((f.delay u.calls, .error e), ⟨u.network, u.calls + 1⟩)
    | none =>
      let ((_, reply), network) := u.network.call c call
      ((f.delay u.calls, reply), ⟨network, u.calls + 1⟩)

/-- A call that does not fail on the way reaches its node. -/
private theorem call_eq {f : Faults} {c : Client} {call : NodeCall} {u : Unreliable}
    (h : f.fault? u.calls c call = none) :
    f.host.call c call u = ((f.delay u.calls, (u.network.call c call).1.2),
      ⟨(u.network.call c call).2, u.calls + 1⟩) := by
  simp only [host, h]

theorem serving (f : Faults) : Serving f.host Unreliable.network True := by
  refine ⟨fun c call u => ?_⟩
  cases hfault : f.fault? u.calls c call with
  | some e =>
    have hcall : f.host.call c call u =
        ((f.delay u.calls, .error e), ⟨u.network, u.calls + 1⟩) := by
      simp only [host, hfault]
    rw [hcall]
    exact .inl ⟨trivial, rfl, e, rfl⟩
  | none =>
    rw [call_eq hfault]
    exact .inr ⟨rfl, rfl⟩

/-- No call fails on the way. -/
def Quiet (f : Faults) : Prop := ∀ n c call, f.fault? n c call = none

theorem Quiet.serving {f : Faults} (h : f.Quiet) : Serving f.host Unreliable.network False := by
  refine ⟨fun c call u => ?_⟩
  rw [call_eq (h u.calls c call)]
  exact .inr ⟨rfl, rfl⟩

end Faults
end SeriesReplica.Node
