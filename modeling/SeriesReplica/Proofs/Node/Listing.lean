import SeriesReplica.Proofs.Concurrent.Outcome
import SeriesReplica.Proofs.Node.Reachable
import SeriesReplica.Proofs.Node.Serving

/-! Queries to memory nodes, one after another. A query that only lists what a node holds leaves the
whole network as it was, so any number of them sees the same store. -/
namespace SeriesReplica.Node
open Concurrent Time Query Point Schema

/-- The values of a map are those of its pairs. -/
theorem values_eq_map_toList {α β : Type} {cmp : α → α → Ordering} [Std.TransCmp cmp]
    (t : Std.ExtTreeMap α β cmp) : t.values = t.toList.map Prod.snd := by
  obtain ⟨⟨q⟩⟩ := t
  induction q using Quotient.ind with
  | _ m =>
    change Std.DTreeMap.Internal.Impl.values m.inner =
      (Std.DTreeMap.Internal.Impl.Const.toList m.inner).map Prod.snd
    rw [Std.DTreeMap.Internal.Impl.values_eq_map_snd,
      Std.DTreeMap.Internal.Impl.Const.toList_eq_toListModel_map, List.map_map]
    rfl

variable {net : Network} {c : Client} {n : MemoryNode} {start : Instant} {now : Span}

/-- Putting a node where it is changes nothing. -/
theorem Network.put_self {m : Simulated} (h : net.node? c = some m) : net.put c m = net := by
  obtain ⟨hc, hget⟩ := List.getElem?_eq_some_iff.1 h
  rw [Network.put, ← hget, List.set_getElem_self]

/-- A query of a memory node takes no time. -/
theorem exec_query (h : net.node? c = some (.memory n)) (r : Request) :
    Network.host.exec start (Routine.query c r none) (net, now) =
      ((n.query r).1, net.put c (.memory (n.query r).2), now) := by
  change ((net.call c (.query r)).1.2, (net.call c (.query r)).2,
    now + (net.call c (.query r)).1.1) = _
  rw [Network.call_memory h]
  rfl

/-- A memory node that is on line behind a connection, with no failures ahead and a given store. -/
def Network.Serves (net : Network) (c : Client) (s : Store) : Prop :=
  ∃ n, net.node? c = some (.memory n) ∧ n.IsHealthy ∧ n.store = s

/-- A query of a node without failures does what its store does, and no other node changes. -/
theorem Network.Serves.exec_query {s : Store} (h : net.Serves c s) (start : Instant) (now : Span)
    (r : Request) :
    ∃ net', Network.host.exec start (Routine.query c r none) (net, now) =
        (MemoryNode.refused (s.execute r).2, net', now) ∧
      net'.Serves c (s.execute r).1 ∧ ∀ d, d ≠ c → net'.node? d = net.node? d := by
  obtain ⟨n, hn, ⟨honline, hreads, hwrites⟩, rfl⟩ := h
  have hquery : (n.query r).1 = MemoryNode.refused (n.store.execute r).2 ∧
      (n.query r).2.store = (n.store.execute r).1 ∧ (n.query r).2.IsHealthy := by
    rw [MemoryNode.query, if_pos honline, MemoryNode.execute]
    cases hmutation : r.statement.isMutation <;>
      simp [hreads, honline, hwrites, MemoryNode.IsHealthy]
  obtain ⟨hreply, hstore, hhealthy⟩ := hquery
  refine ⟨net.put c (.memory (n.query r).2), by rw [Node.exec_query hn, hreply],
    ⟨_, net.node?_put_self hn _, hhealthy, hstore⟩, fun d hd => net.node?_put_ne hd.symm _⟩

/-- A statement that neither changes a node nor reads a window. -/
def IsListing (s : Statement) : Prop := s.isMutation = false ∧ MemoryNode.isWindowRead s = false

theorem IsListing.store_eq {r : Request} (h : IsListing r.statement) (s : Store) :
    (s.execute r).1 = s := by
  obtain ⟨statement, database, policy⟩ := r
  cases statement with
  | showDatabases => rfl
  | showPolicies database => rfl
  | showMeasurements => rfl
  | showFieldKeys policy measurement => rfl
  | selectWindow policy measurement start stop => exact (nomatch h.2)
  | createDatabase database default => exact (nomatch h.1)
  | createPolicy database spec makeDefault => exact (nomatch h.1)
  | setDefaultPolicy database name => exact (nomatch h.1)

/-- A listing leaves a node as it was. -/
theorem MemoryNode.query_listing (hn : n.isOnline = true) {r : Request}
    (hr : IsListing r.statement) : n.query r = (refused (n.store.execute r).2, n) := by
  rw [query, if_pos hn, execute]
  simp only [hr.1, hr.2, Bool.false_eq_true, if_false]
  rw [hr.store_eq]

/-- A listing of a node that is on line answers what its store tells and changes nothing. -/
theorem exec_listing (h : net.node? c = some (.memory n)) (hn : n.isOnline = true) {r : Request}
    (hr : IsListing r.statement) :
    Network.host.exec start (Routine.query c r none) (net, now) =
      (MemoryNode.refused (n.store.execute r).2, net, now) := by
  rw [exec_query h, MemoryNode.query_listing hn hr, Network.put_self h]

/-- The types that a measurement declares, none if it is not there. -/
def Store.types (s : Store) (database policy measurement : String) : FieldTypes :=
  ((s.measurement? database policy measurement).map (·.types)).getD ∅

theorem StoredDatabase.mem_values {d : StoredDatabase} {n : String} {p : StoredPolicy}
    (h : d.policies[n]? = some p) : p ∈ d.policies.values := by
  rw [values_eq_map_toList]
  exact List.mem_map_of_mem (Std.ExtTreeMap.mem_toList_iff_getElem?_eq_some.2 h)

theorem StoredDatabase.exists_of_mem_values {d : StoredDatabase} {p : StoredPolicy}
    (h : p ∈ d.policies.values) : ∃ n : String, d.policies[n]? = some p := by
  rw [values_eq_map_toList, List.mem_map] at h
  obtain ⟨⟨n, q⟩, hq, rfl⟩ := h
  exact ⟨n, Std.ExtTreeMap.mem_toList_iff_getElem?_eq_some.1 hq⟩

/-- What holds of every policy of a store can be checked policy by policy. -/
theorem Store.forall_values_iff {P : StoredPolicy → Prop} {s : Store} :
    (∀ x ∈ s.databases.toList, ∀ p ∈ x.2.policies.values, P p) ↔
      ∀ database policy p, s.policy? database policy = some p → P p := by
  constructor
  · intro h database policy p hp
    obtain ⟨d, hd, hp⟩ := Option.bind_eq_some_iff.1 hp
    exact h (database, d) (Std.ExtTreeMap.mem_toList_iff_getElem?_eq_some.2 hd) p
      (StoredDatabase.mem_values hp)
  · rintro h ⟨database, d⟩ hd p hp
    obtain ⟨policy, hp⟩ := StoredDatabase.exists_of_mem_values hp
    have hd : s.database? database = some d := Std.ExtTreeMap.mem_toList_iff_getElem?_eq_some.1 hd
    exact h database policy p (by rw [Store.policy?, hd, Option.bind_some, hp])

instance {P : StoredPolicy → Prop} [DecidablePred P] {s : Store} :
    Decidable (∀ database policy p, s.policy? database policy = some p → P p) :=
  decidable_of_iff _ Store.forall_values_iff

theorem StoredDatabase.mem_measurements {d : StoredDatabase} {m : String} :
    m ∈ d.measurements ↔ ∃ (n : String) (p : StoredPolicy), d.policies[n]? = some p ∧
      m ∈ p.measurements := by
  rw [StoredDatabase.measurements, Std.ExtTreeMap.mem_keys, Std.ExtTreeMap.mem_unitOfList]
  simp only [List.contains_iff_mem, List.mem_flatMap, values_eq_map_toList, List.mem_map,
    Std.ExtTreeMap.mem_keys, Prod.exists, exists_eq_right,
    Std.ExtTreeMap.mem_toList_iff_getElem?_eq_some]
  constructor
  · rintro ⟨p, ⟨n, hp⟩, hm⟩
    exact ⟨n, p, hp, hm⟩
  · rintro ⟨n, p, hp, hm⟩
    exact ⟨p, ⟨n, hp⟩, hm⟩

end SeriesReplica.Node
