import SeriesReplica.Proofs.Schema.Found

/-! Discovery of a memory node that is on line. It finds what there is to be found in the store of
the node, and leaves the node as it was. -/
namespace SeriesReplica.Schema
open Concurrent Time Query Point Node

variable {net : Network} {e : Endpoint} {n : MemoryNode} {start : Instant} {now : Span}

/-- A listing of a node that is on line, with its answer. -/
theorem exec_listed (h : net.node? e.client = some (.memory n)) (hn : n.isOnline = true)
    {r : Request} (hr : IsListing r.statement) {response : Response}
    (hresponse : (n.store.execute r).2 = .ok response) :
    Network.host.exec start (Routine.query e.client r none) (net, now) =
      (.ok response, net, now) := by
  rw [exec_listing h hn hr, hresponse]
  rfl

/-- The fields of a measurement are found as they are declared. -/
theorem exec_fields (h : net.node? e.client = some (.memory n)) (hn : n.isOnline = true)
    (database policy measurement : String) :
    Network.host.exec start (Discovery.fields e database policy measurement) (net, now) =
      (.ok (n.store.types database policy measurement), net, now) := by
  have hresponse : (n.store.execute ((Request.ofStatement
      (.showFieldKeys policy measurement)).onDatabase database)).2 =
      .ok (n.store.showFieldKeys (some database) policy measurement) := rfl
  rw [Discovery.fields, Host.exec_bind, exec_listed h hn ⟨rfl, rfl⟩ hresponse]
  simp only []
  rw [Host.exec_bind, Host.exec_logAll, Host.exec_pure, readFields_showFieldKeys]

theorem exec_fillPolicy (h : net.node? e.client = some (.memory n)) (hn : n.isOnline = true)
    (database : String) (names : List String) (p : Policy) :
    Network.host.exec start (Discovery.fillPolicy e database p names) (net, now) =
      (filled (n.store.types database p.name) names p, net, now) := by
  induction names generalizing p with
  | nil => rfl
  | cons m ms ih =>
    rw [Discovery.fillPolicy, Host.exec_bind, exec_fields h hn]
    exact ih _

theorem exec_fillPolicies (h : net.node? e.client = some (.memory n)) (hn : n.isOnline = true)
    (f : Filter) (database : String) (names : List String) (ps : List Policy) :
    Network.host.exec start (Discovery.fillPolicies e f database names ps) (net, now) =
      (filledPolicies f (n.store.types database) names ps, net, now) := by
  induction ps with
  | nil => rfl
  | cons p ps ih =>
    rw [Discovery.fillPolicies, filledPolicies, List.map_cons]
    split
    · rw [Host.exec_bind, exec_fillPolicy h hn, Host.exec_bind, ih]
      rfl
    · rw [Host.exec_bind, Host.exec_pure, Host.exec_bind, ih]
      rfl

/-- The measurements of a database that the filter selects are found. -/
theorem exec_selectedMeasurements (h : net.node? e.client = some (.memory n))
    (hn : n.isOnline = true) (f : Filter) {database : String} {d : StoredDatabase}
    (hd : n.store.database? database = some d) :
    Network.host.exec start (Discovery.selectedMeasurements e f database) (net, now) =
      (d.measurements.filter f.selectsMeasurement, net, now) := by
  have hresponse : ∃ response, (n.store.execute
      ((Request.ofStatement .showMeasurements).onDatabase database)).2 = .ok response ∧
      firstTexts response = d.measurements := by
    have hfound := Store.found_eq_ok.2 hd
    cases hempty : d.measurements.isEmpty with
    | true =>
      refine ⟨.single [], ?_, ?_⟩
      · change n.store.showMeasurements (some database) = _
        simp only [Store.showMeasurements, hfound, bind, Except.bind, hempty, if_true]
        rfl
      · rw [List.isEmpty_iff.1 hempty]
        rfl
    | false =>
      refine ⟨.single [.untagged "measurements" ["name"]
        (d.measurements.map fun n => [.string n])], ?_, firstTexts_untagged _ _ _⟩
      change n.store.showMeasurements (some database) = _
      simp only [Store.showMeasurements, hfound, bind, Except.bind, hempty, if_false,
        Bool.false_eq_true]
      rfl
  obtain ⟨response, hresponse, htexts⟩ := hresponse
  have hmeasurements : Network.host.exec start (Discovery.measurements e database) (net, now) =
      (.ok d.measurements, net, now) := by
    rw [Discovery.measurements, Host.exec_bind, exec_listed h hn ⟨rfl, rfl⟩ hresponse, ← htexts]
    rfl
  rw [Discovery.selectedMeasurements, Host.exec_bind, hmeasurements]
  rfl

/-- The policies of a database are found, so far without their measurements. -/
theorem exec_policies (h : net.node? e.client = some (.memory n)) (hn : n.isOnline = true)
    {database : String} {d : StoredDatabase} (hd : n.store.database? database = some d)
    (hspans : ∀ p ∈ d.policies.values, p.spec.duration.secs ≤ Duration.largestSecs ∧
      p.spec.shardDuration.secs ≤ Duration.largestSecs) :
    Network.host.exec start (Discovery.policies e database) (net, now) =
      (.ok (d.policies.values.map (listedPolicy d)), net, now) := by
  have hresponse : (n.store.execute (.ofStatement (.showPolicies database))).2 =
      .ok (.single [.untagged "" ["name", "duration", "shardGroupDuration", "replicaN", "default"]
        (d.policies.values.map d.policyRow)]) := by
    change n.store.showPolicies database = _
    simp only [Store.showPolicies, Store.found_eq_ok.2 hd, bind, Except.bind]
    rfl
  rw [Discovery.policies, Host.exec_bind, exec_listed h hn ⟨rfl, rfl⟩ hresponse]
  simp only [Response.single, Response.series, List.flatMap_cons, List.flatMap_nil, List.append_nil,
    readPolicies_showPolicies e.name database d hspans]
  rfl

/-- A database is found with what it holds. -/
theorem exec_database (h : net.node? e.client = some (.memory n)) (hn : n.isOnline = true)
    (hsound : n.store.Sound) (hspanned : Spanned n.store) (f : Filter) {name : String}
    {d : StoredDatabase} (hd : n.store.database? name = some d) :
    Network.host.exec start (Discovery.database e f name) (net, now) =
      (foundDatabase? f name d, net, now) := by
  have hspans : ∀ p ∈ d.policies.values, p.spec.duration.secs ≤ Duration.largestSecs ∧
      p.spec.shardDuration.secs ≤ Duration.largestSecs := by
    intro p hp
    obtain ⟨policy, hp⟩ := StoredDatabase.exists_of_mem_values hp
    exact hspanned name policy p (by rw [Store.policy?, hd, Option.bind_some, hp])
  rw [Discovery.database, Host.exec_bind, exec_policies h hn hd hspans]
  simp only [countP_isDefault (hsound name d hd)]
  cases hdefault : d.default with
  | none =>
    simp only [Option.isSome_none, Bool.false_eq_true, if_false, foundDatabase?, hdefault]
    rfl
  | some default =>
    simp only [Option.isSome_some, if_true, ne_eq, not_true_eq_false, if_false]
    rw [Host.exec_bind, exec_selectedMeasurements h hn f hd]
    simp only []
    rw [Host.exec_bind, exec_fillPolicies h hn]
    simp only []
    rw [Host.exec_bind, Host.exec_log, Host.exec_pure,
      ofPolicies_filled f hd (hsound name d hd) hdefault]

theorem exec_databases (h : net.node? e.client = some (.memory n)) (hn : n.isOnline = true)
    (hsound : n.store.Sound) (hspanned : Spanned n.store) (f : Filter)
    {ds : List (String × StoredDatabase)} (hds : ∀ x ∈ ds, n.store.database? x.1 = some x.2) :
    Network.host.exec start (Discovery.databases e f (ds.map Prod.fst)) (net, now) =
      (foundIn f ds, net, now) := by
  induction ds with
  | nil => rfl
  | cons x ds ih =>
    obtain ⟨name, d⟩ := x
    have hrest := ih fun y hy => hds y (List.mem_cons_of_mem _ hy)
    rw [List.map_cons, Discovery.databases, foundIn, List.filterMap_cons]
    by_cases hinternal : name = internalDatabase
    · simp only [hinternal, if_true]
      exact hrest
    · simp only [hinternal, if_false]
      cases hselected : f.selectsDatabase name with
      | false =>
        simp only [Bool.not_false, if_true]
        rw [Host.exec_bind, Host.exec_log]
        exact hrest
      | true =>
        simp only [Bool.not_true, Bool.false_eq_true, if_false, if_true]
        rw [Host.exec_bind, exec_database h hn hsound hspanned f
          (hds (name, d) List.mem_cons_self)]
        simp only []
        rw [Host.exec_bind, hrest, Host.exec_pure]
        cases foundDatabase? f name d <;> rfl

/-- Discovery of a node that is on line finds what there is to be found and changes nothing. -/
theorem exec_discover (h : net.node? e.client = some (.memory n)) (hn : n.isOnline = true)
    (hsound : n.store.Sound) (hspanned : Spanned n.store) (f : Filter) :
    Network.host.exec start (discover e f) (net, now) = (.ok (found f n.store), net, now) := by
  have hresponse : (n.store.execute (.ofStatement .showDatabases)).2 =
      .ok n.store.showDatabases := rfl
  have hnames : firstTexts n.store.showDatabases = n.store.databases.toList.map Prod.fst := by
    rw [Store.showDatabases, firstTexts_untagged, Std.ExtTreeMap.map_fst_toList_eq_keys]
  rw [discover, Host.exec_bind, exec_listed h hn ⟨rfl, rfl⟩ hresponse]
  simp only []
  rw [Host.exec_bind, hnames, exec_databases h hn hsound hspanned f
    fun x hx => Std.ExtTreeMap.mem_toList_iff_getElem?_eq_some.1 hx]
  rfl

end SeriesReplica.Schema
