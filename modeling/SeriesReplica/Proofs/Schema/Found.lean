import Mathlib.Data.List.Nodup
import SeriesReplica.Proofs.Node.Listing
import SeriesReplica.Proofs.Query.Duration
import SeriesReplica.Schema.Discovery

/-! What there is to be found in a store: the selected databases with a default policy, in each the
selected policies and its default, and in each selected policy the selected measurements that
declare something, with their types. What a node lists is read back as this. -/
namespace SeriesReplica.Schema
open Concurrent Time Query Point Node

/-- The measurements that are found in a policy: the selected ones that declare something. -/
def foundMeasurements (f : Filter) (p : StoredPolicy) : Std.ExtTreeMap String FieldTypes :=
  p.measurements.filterMap fun name m =>
    if f.selectsMeasurement name && !m.types.isEmpty then some m.types else none

/-- What is told of a policy, with lengths of time in whole seconds. -/
def listedPolicy (d : StoredDatabase) (p : StoredPolicy) : Policy where
  name := p.spec.name
  duration := .ofSecs p.spec.duration.secs
  shardDuration := .ofSecs p.shardDuration.secs
  replicas := p.spec.replication
  isDefault := decide (d.default = some p.spec.name)
  measurements := ∅

/-- What is found of a policy; one that is not selected is found without measurements. -/
def foundPolicy (f : Filter) (d : StoredDatabase) (p : StoredPolicy) : Policy :=
  { listedPolicy d p with
    measurements := if f.selectsPolicy p.spec.name then foundMeasurements f p else ∅ }

/-- The default policy of a database and the selected ones. -/
def keptPolicies (f : Filter) (d : StoredDatabase) : List StoredPolicy :=
  d.policies.values.filter fun p =>
    decide (d.default = some p.spec.name) || f.selectsPolicy p.spec.name

/-- What is found of a database with the given default policy. -/
def foundDatabase (f : Filter) (name : String) (d : StoredDatabase) (default : String) :
    Database where
  name := name
  targetName := none
  defaultPolicyName := default
  targetDefaultPolicyName := none
  policies := (keptPolicies f d).map (foundPolicy f d)

/-- What is found of a database, if it has a default policy. -/
def foundDatabase? (f : Filter) (name : String) (d : StoredDatabase) : Option Database :=
  d.default.map (foundDatabase f name d)

/-- What is found in databases. -/
def foundIn (f : Filter) (ds : List (String × StoredDatabase)) : List Database :=
  ds.filterMap fun (name, d) =>
    if name = internalDatabase then none
    else if f.selectsDatabase name then foundDatabase? f name d else none

/-- What is found in a store. -/
def found (f : Filter) (s : Store) : List Database := foundIn f s.databases.toList

/-- Lengths of time whose whole seconds have 64 bits, as all that a node is told have. -/
def Spanned (s : Store) : Prop :=
  ∀ database policy p, s.policy? database policy = some p →
    p.spec.duration.secs ≤ Duration.largestSecs ∧ p.spec.shardDuration.secs ≤ Duration.largestSecs

instance (s : Store) : Decidable (Spanned s) :=
  inferInstanceAs (Decidable (∀ database policy p, s.policy? database policy = some p →
    p.spec.duration.secs ≤ Duration.largestSecs ∧ p.spec.shardDuration.secs ≤ Duration.largestSecs))

/-- The texts of rows of one text each. -/
theorem firstTexts_untagged (name : String) (columns : List String) (texts : List String) :
    firstTexts (.single [.untagged name columns (texts.map fun t => [.string t])]) = texts := by
  simp [firstTexts, Response.single, Response.rows, Response.series, Series.untagged,
    List.filterMap_map, Function.comp_def, Json.Value.string?]

/-- The pairs of a map, put into an empty one. -/
theorem foldl_insert_toList (ts : FieldTypes) :
    ts.toList.foldl (fun us (k, t) => us.insert k t) ∅ = ts := by
  refine Std.ExtTreeMap.ext_getElem? fun k => ?_
  rw [show ts.toList.foldl (fun us (k, t) => us.insert k t) ∅ = Std.ExtTreeMap.ofList ts.toList
    compare from Std.ExtTreeMap.ofList_eq_foldl.symm]
  cases h : ts[k]? with
  | some t =>
    exact Std.ExtTreeMap.getElem?_ofList_of_mem Std.ReflCmp.compare_self ts.distinct_keys_toList
      (Std.ExtTreeMap.mem_toList_iff_getElem?_eq_some.2 h)
  | none =>
    refine Std.ExtTreeMap.getElem?_ofList_of_contains_eq_false ?_
    rw [Std.ExtTreeMap.map_fst_toList_eq_keys, Std.ExtTreeMap.contains_keys,
      Std.ExtTreeMap.contains_eq_isSome_getElem?, h]
    rfl

/-- The fields that are listed of a measurement are those it declares. -/
theorem readFields_showFieldKeys (s : Store) (database policy measurement : String) :
    readFields (s.showFieldKeys (some database) policy measurement).rows =
      s.types database policy measurement := by
  rw [Store.showFieldKeys, Store.types, show s.addressedMeasurement? (some database) policy
    measurement = s.measurement? database policy measurement from rfl]
  cases s.measurement? database policy measurement with
  | none => rfl
  | some m =>
    have hrows : (m.types.toList.map fun (k, t) =>
        [Json.Value.string k, Json.Value.string t.name]).filterMap fieldOfRow? =
        m.types.toList := by
      rw [List.filterMap_map]
      refine (List.filterMap_congr fun x _ => ?_).trans List.filterMap_some
      simp [fieldOfRow?, Json.Value.string?]
    have hresponse : (Response.single [.untagged measurement ["fieldKey", "fieldType"]
        (m.types.toList.map fun (k, t) =>
          [Json.Value.string k, Json.Value.string t.name])]).rows =
        m.types.toList.map fun (k, t) => [Json.Value.string k, Json.Value.string t.name] := by
      simp [Response.single, Response.rows, Response.series, Series.untagged]
    rw [hresponse, readFields, hrows, foldl_insert_toList]
    rfl

/-- The shard duration that is used is short enough if the one that is set is. -/
theorem shardDuration_secs_le {p : StoredPolicy}
    (h : p.spec.shardDuration.secs ≤ Duration.largestSecs) :
    p.shardDuration.secs ≤ Duration.largestSecs := by
  have hdays : ∀ n, n ≤ 604800 → (Span.ofSecs n).secs ≤ Duration.largestSecs := by
    intro n hn
    rw [Span.ofSecs, Span.secs, Nat.mul_div_cancel _ (by decide)]
    exact Nat.le_trans hn (by decide)
  rw [StoredPolicy.shardDuration]
  split
  · exact h
  · split
    · exact hdays _ (by decide)
    · split
      · exact hdays _ (by decide)
      · exact hdays _ (by decide)

/-- A number of replicas is read back. -/
private theorem toNat64?_replication (r : UInt32) :
    (Json.Value.nat r.toNat).number?.bind Json.Number.toNat64? = some r.toNat := by
  have hlt : r.toNat < Nat.pow 2 64 := Nat.lt_trans r.toNat_lt (by decide)
  have hfits : 0 ≤ (r.toNat : Int) ∧ (r.toNat : Int) < Nat.pow 2 64 :=
    ⟨Int.natCast_nonneg _, Int.ofNat_lt.2 hlt⟩
  rw [Json.Value.nat, Json.Value.number?, Option.bind_some, Json.Number.toNat64?, if_pos hfits,
    Int.toNat_natCast]

/-- A row with readable cells is read as the policy they tell of. -/
private theorem read_cells {cols : PolicyColumns} {row : Row} {name : String}
    {duration shard : Span} {replicas : UInt32} {isDefault : Bool}
    (hname : row[cols.name]?.bind Json.Value.string? = some name)
    (hduration : readSpan row[cols.duration]? = .ok duration)
    (hshard : readSpan (cols.shard.bind (row[·]?)) = .ok shard)
    (hreplicas : cols.replicas.bind (row[·]?) = some (.nat replicas.toNat))
    (hdefault : row[cols.default]?.bind Json.Value.bool? = some isDefault) :
    cols.read row = some (.ok ⟨name, duration, shard, replicas, isDefault, ∅⟩) := by
  rw [PolicyColumns.read, hname, hduration, hshard, hreplicas, hdefault, Option.bind_some,
    toNat64?_replication]
  simp only [Option.map_some, Option.getD_some, UInt32.ofNat_toNat]
  rfl

/-- What is told of a policy is read back. -/
theorem read_policyRow (d : StoredDatabase) {p : StoredPolicy}
    (hduration : p.spec.duration.secs ≤ Duration.largestSecs)
    (hshard : p.spec.shardDuration.secs ≤ Duration.largestSecs) :
    PolicyColumns.read ⟨0, 1, 4, some 2, some 3⟩ (d.policyRow p) =
      some (.ok (listedPolicy d p)) := by
  have hread : ∀ {s : Span}, s.secs ≤ Duration.largestSecs →
      readSpan (some (.string (Duration.text s))) = .ok (.ofSecs s.secs) := by
    intro s hs
    rw [readSpan]
    simp only [Option.bind_some, Json.Value.string?, Option.getD_some, Duration.read?_text hs]
  exact read_cells rfl (hread hduration) (hread (shardDuration_secs_le hshard)) rfl rfl

/-- The policies that are told of are read back, and nothing is logged. -/
theorem readPolicies_showPolicies (node database : String) (d : StoredDatabase)
    (hspans : ∀ p ∈ d.policies.values, p.spec.duration.secs ≤ Duration.largestSecs ∧
      p.spec.shardDuration.secs ≤ Duration.largestSecs) :
    readPolicies node database [.untagged ""
        ["name", "duration", "shardGroupDuration", "replicaN", "default"]
        (d.policies.values.map d.policyRow)] =
      ([], .ok (d.policies.values.map (listedPolicy d))) := by
  have hcolumns : PolicyColumns.ofSeries? (.untagged ""
      ["name", "duration", "shardGroupDuration", "replicaN", "default"]
      (d.policies.values.map d.policyRow)) = some ⟨0, 1, 4, some 2, some 3⟩ := by
    simp [PolicyColumns.ofSeries?, Series.column?, Series.untagged, List.findIdx?_cons]
  have hrows : (d.policies.values.map d.policyRow).filterMap
      (PolicyColumns.read ⟨0, 1, 4, some 2, some 3⟩) =
      d.policies.values.map fun p => .ok (listedPolicy d p) := by
    rw [List.filterMap_map, ← List.filterMap_eq_map]
    refine List.filterMap_congr fun p hp => ?_
    obtain ⟨hduration, hshard⟩ := hspans p hp
    exact read_policyRow d hduration hshard
  rw [readPolicies, hcolumns]
  simp only [Series.untagged, hrows, readPolicies, List.filterMap_map, List.append_nil]
  refine congrArg₂ Prod.mk ?_ (congrArg Except.ok ?_)
  · exact List.filterMap_eq_nil_iff.2 fun _ _ => rfl
  · exact (List.append_nil _).trans (congrFun List.filterMap_eq_map _)

/-- A policy with measurements of given types put into it, if they declare something. -/
def filled (types : String → FieldTypes) (names : List String) (p : Policy) : Policy :=
  { p with measurements := names.foldl (fun ms m =>
      if (types m).isEmpty then ms else ms.insert m (types m)) p.measurements }

/-- The policies of a list, each filled if it is selected. -/
def filledPolicies (f : Filter) (types : String → String → FieldTypes) (names : List String)
    (ps : List Policy) : List Policy :=
  ps.map fun p => if f.selectsPolicy p.name then filled (types p.name) names p else p

theorem getElem?_filled (types : String → FieldTypes) (names : List String) (p : Policy)
    (m : String) : (filled types names p).measurements[m]? =
      if m ∈ names ∧ (types m).isEmpty = false then some (types m) else p.measurements[m]? := by
  induction names generalizing p with
  | nil => simp [filled]
  | cons n names ih =>
    rw [show filled types (n :: names) p = filled types names { p with
      measurements := if (types n).isEmpty then p.measurements else
        p.measurements.insert n (types n) } from rfl, ih]
    by_cases hm : m = n
    · subst hm
      by_cases hempty : (types m).isEmpty = true
      · simp [hempty]
      · simp [hempty]
    · have hne : ¬ compare n m = .eq := fun heq => hm (Std.LawfulEqCmp.eq_of_compare heq).symm
      have hstep : (if (types n).isEmpty then p.measurements else
          p.measurements.insert n (types n))[m]? = p.measurements[m]? := by
        split
        · rfl
        · rw [Std.ExtTreeMap.getElem?_insert, if_neg hne]
      rw [hstep]
      simp [hm]

/-- A selected policy is filled with the measurements that are found in it. -/
theorem filled_listedPolicy (f : Filter) {s : Store} {name : String} {d : StoredDatabase}
    (hd : s.database? name = some d) {p : StoredPolicy}
    (hp : d.policies[p.spec.name]? = some p) :
    filled (s.types name p.spec.name) (d.measurements.filter f.selectsMeasurement)
        (listedPolicy d p) =
      { listedPolicy d p with measurements := foundMeasurements f p } := by
  have hmeasurements : (filled (s.types name p.spec.name)
      (d.measurements.filter f.selectsMeasurement) (listedPolicy d p)).measurements =
      foundMeasurements f p := by
    refine Std.ExtTreeMap.ext_getElem? fun m => ?_
    have htypes : s.types name p.spec.name m = (p.measurements[m]?.map (·.types)).getD ∅ := by
      rw [Store.types, Store.measurement?, Store.policy?, hd, Option.bind_some, hp,
        Option.bind_some]
    rw [getElem?_filled, htypes, foundMeasurements, Std.ExtTreeMap.getElem?_filterMap']
    cases hm : p.measurements[m]? with
    | none => simp [listedPolicy]
    | some sm =>
      have hmem : m ∈ d.measurements := StoredDatabase.mem_measurements.2
        ⟨p.spec.name, p, hp, Std.ExtTreeMap.mem_iff_isSome_getElem?.2 (by rw [hm]; rfl)⟩
      simp [hmem, listedPolicy]
  rw [← hmeasurements]
  rfl

/-- A database has one default among its policies if it has a default at all. -/
theorem countP_isDefault {d : StoredDatabase} (hd : d.Sound) :
    (d.policies.values.map (listedPolicy d)).countP (·.isDefault) =
      if d.default.isSome then 1 else 0 := by
  have hnames : d.policies.values.map (·.spec.name) = d.policies.keys := by
    rw [values_eq_map_toList, List.map_map, ← Std.ExtTreeMap.map_fst_toList_eq_keys]
    refine List.map_congr_left fun x hx => ?_
    exact hd.named x.1 x.2 (Std.ExtTreeMap.mem_toList_iff_getElem?_eq_some.1 hx)
  have hcount : (d.policies.values.map (listedPolicy d)).countP (·.isDefault) =
      d.policies.keys.countP fun n => decide (d.default = some n) := by
    rw [← hnames, List.countP_map, List.countP_map]
    rfl
  rw [hcount]
  cases hdefault : d.default with
  | none => simp
  | some default =>
    have hmem : default ∈ d.policies.keys := Std.ExtTreeMap.mem_keys.2 (hd.default _ hdefault)
    rw [Option.isSome_some, if_pos rfl, ← List.count_eq_one_of_mem d.policies.nodup_keys hmem,
      List.count]
    refine List.countP_congr fun n _ => ?_
    rw [decide_eq_true_eq, beq_iff_eq, Option.some.injEq, eq_comm]

/-- The policies of a database that are kept, filled where they are selected, are those that are
found in it. -/
theorem ofPolicies_filled (f : Filter) {s : Store} {name : String} {d : StoredDatabase}
    (hd : s.database? name = some d) (hsound : d.Sound) {default : String}
    (hdefault : d.default = some default) :
    some (Database.ofPolicies name (filledPolicies f (s.types name)
        (d.measurements.filter f.selectsMeasurement)
        ((d.policies.values.map (listedPolicy d)).filter fun p =>
          p.isDefault || f.selectsPolicy p.name))) =
      foundDatabase? f name d := by
  have hfilled : filledPolicies f (s.types name) (d.measurements.filter f.selectsMeasurement)
      ((d.policies.values.map (listedPolicy d)).filter fun p =>
        p.isDefault || f.selectsPolicy p.name) =
      (keptPolicies f d).map (foundPolicy f d) := by
    rw [filledPolicies, List.filter_map, List.map_map]
    refine List.map_congr_left fun p hp => ?_
    obtain ⟨policy, hp⟩ := StoredDatabase.exists_of_mem_values (List.mem_of_mem_filter hp)
    rw [Function.comp_apply, foundPolicy, show (listedPolicy d p).name = p.spec.name from rfl,
      filled_listedPolicy f hd ((hsound.named policy p hp).symm ▸ hp)]
    split <;> rfl
  have hname : (((keptPolicies f d).map (foundPolicy f d)).find? (·.isDefault)).map (·.name) =
      some default := by
    rw [List.find?_map, Option.map_map]
    cases hfind : (keptPolicies f d).find? ((·.isDefault) ∘ foundPolicy f d) with
    | none =>
      obtain ⟨p, hp⟩ := Option.isSome_iff_exists.1
        (Std.ExtTreeMap.mem_iff_isSome_getElem?.1 (hsound.default _ hdefault))
      -- The default policy is kept whether or not it is selected.
      have hmarked : decide (d.default = some p.spec.name) = true := by
        rw [decide_eq_true_eq, hsound.named default p hp, hdefault]
      have hmem : p ∈ keptPolicies f d :=
        List.mem_filter.2 ⟨StoredDatabase.mem_values hp, by rw [hmarked, Bool.true_or]⟩
      exact absurd hmarked (List.find?_eq_none.1 hfind p hmem)
    | some p =>
      have hmarked := List.find?_some hfind
      exact (of_decide_eq_true hmarked).symm.trans hdefault
  rw [hfilled, Database.ofPolicies, hname, foundDatabase?, hdefault]
  rfl

end SeriesReplica.Schema
