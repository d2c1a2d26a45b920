import SeriesReplica.Node.Network
import SeriesReplica.Proofs.Schema.Discovered
import SeriesReplica.Proofs.Schema.Rediscovery

/-! What a discovery makes of fixed answers. If a client has one answer to each query, what is found
of a database is a function of the answers about it, and an answer that is no use costs only what
it would have told. -/
namespace SeriesReplica.Schema
open Concurrent Query Time

/-- Does something to each policy of a database. -/
def Database.mapPolicies (g : Policy → Policy) (d : Database) : Database :=
  { d with policies := d.policies.map g }

/-- A policy without one measurement, if it has the given name. -/
def Policy.forget (policy measurement : String) (p : Policy) : Policy :=
  if p.name = policy then { p with measurements := p.measurements.erase measurement } else p

/-- Does something to the databases of a name. -/
def onNamed (name : String) (g : Database → Database) (d : Database) : Database :=
  if d.name = name then g d else d

@[simp] theorem Policy.label_forget (policy measurement : String) (p : Policy) :
    (p.forget policy measurement).label = p.label := by
  rw [forget]
  split <;> rfl

theorem Database.ofPolicies_map {g : Policy → Policy} (hg : ∀ p, (g p).label = p.label)
    (name : String) (ps : List Policy) :
    Database.ofPolicies name (ps.map g) = (Database.ofPolicies name ps).mapPolicies g := by
  have hname : ∀ p, (g p).name = p.name := fun p => congrArg Prod.fst (hg p)
  have hdefault : ∀ p, (g p).isDefault = p.isDefault := fun p => congrArg Prod.snd (hg p)
  have hfind : (ps.map g).find? (·.isDefault) = (ps.find? (·.isDefault)).map g := by
    rw [List.find?_map]
    exact congrArg (Option.map g) (congrArg (List.find? · ps) (funext hdefault))
  rw [ofPolicies, hfind, Option.map_map, show (·.name) ∘ g = (·.name) from funext hname]
  rfl

/-- What is read of policies does not depend on the names that the log tells. -/
theorem readPolicies_snd_eq (node node' database database' : String) (ss : List Series) :
    (readPolicies node database ss).2 = (readPolicies node' database' ss).2 := by
  induction ss with
  | nil => rfl
  | cons s ss ih =>
    simp only [readPolicies]
    cases PolicyColumns.ofSeries? s with
    | none => rfl
    | some cols => simp only [ih]

theorem measurements_of_read {cols : PolicyColumns} {row : Row} {p : Policy}
    (h : cols.read row = some (.ok p)) : p.measurements = ∅ := by
  obtain ⟨name, -, h⟩ := Option.map_eq_some_iff.1 h
  cases hduration : (readSpan row[cols.duration]?).mapError (name, ·) with
  | error e =>
    rw [hduration] at h
    cases h
  | ok duration =>
    cases hshard : (readSpan (cols.shard.bind (row[·]?))).mapError (name, ·) with
    | error e =>
      rw [hduration, hshard] at h
      cases h
    | ok shard =>
      rw [hduration, hshard] at h
      cases h
      rfl

/-- Policies are read without measurements. -/
theorem measurements_of_readPolicies {node database : String} {ss : List Series}
    {ps : List Policy} (h : (readPolicies node database ss).2 = .ok ps) :
    ∀ p ∈ ps, p.measurements = ∅ := by
  induction ss generalizing ps with
  | nil =>
    cases h
    exact nofun
  | cons s ss ih =>
    simp only [readPolicies] at h
    cases hcols : PolicyColumns.ofSeries? s with
    | none => simp [hcols] at h
    | some cols =>
      simp only [hcols] at h
      cases hmore : (readPolicies node database ss).2 with
      | error e => simp [hmore, Except.map] at h
      | ok more =>
        rw [hmore] at h
        cases h
        intro p hp
        rcases List.mem_append.1 hp with hp | hp
        · obtain ⟨x, hx, hxp⟩ := List.mem_filterMap.1 hp
          obtain ⟨row, -, hrow⟩ := List.mem_filterMap.1 hx
          cases x with
          | error e => cases hxp
          | ok q =>
            cases hxp
            exact measurements_of_read hrow
        · exact ih hmore p hp

theorem Policy.eq_of_emptied_eq {p q : Policy} (h : p.emptied = q.emptied)
    (hmeasurements : p.measurements = q.measurements) : p = q :=
  calc
    p = { p.emptied with measurements := p.measurements } := rfl
    _ = { q.emptied with measurements := q.measurements } := by rw [h, hmeasurements]
    _ = q := rfl

/-- A policy, filled if it is selected. -/
def filledIn (f : Filter) (types : String → String → FieldTypes) (names : List String)
    (p : Policy) : Policy :=
  if f.selectsPolicy p.name then filled (types p.name) names p else p

section FilledIn
variable {f : Filter} {types : String → String → FieldTypes} {names : List String}

theorem filledPolicies_nil (ps : List Policy) : filledPolicies f types [] ps = ps := by
  refine (List.map_congr_left fun p _ => ?_).trans (List.map_id ps)
  split <;> rfl

theorem name_filledIn (p : Policy) : (filledIn f types names p).name = p.name := by
  rw [filledIn]
  split <;> rfl

theorem emptied_filledIn (p : Policy) : (filledIn f types names p).emptied = p.emptied := by
  rw [filledIn]
  split <;> rfl

theorem getElem?_filledIn {p : Policy} (hp : p.measurements = ∅) (m : String) (ts : FieldTypes) :
    (filledIn f types names p).measurements[m]? = some ts ↔
      f.selectsPolicy p.name = true ∧ m ∈ names ∧ ts = types p.name m ∧ ts.isEmpty = false := by
  rw [filledIn]
  split
  · rename_i hselects
    rw [getElem?_filled, hp]
    split <;> grind
  · rename_i hnot
    simp [hp, hnot]

/-- A list of filled policies is known by the policies that are filled and by the measurements that
are then in them. -/
theorem eq_filledPolicies_iff {ps qs : List Policy} (hps : ∀ p ∈ ps, p.measurements = ∅) :
    qs = filledPolicies f types names ps ↔ qs.map Policy.emptied = ps ∧
      ∀ p ∈ qs, ∀ (m : String) ts, p.measurements[m]? = some ts ↔
        f.selectsPolicy p.name = true ∧ m ∈ names ∧ ts = types p.name m ∧ ts.isEmpty = false := by
  change qs = ps.map (filledIn f types names) ↔ _
  constructor
  · rintro rfl
    refine ⟨?_, fun p hp => ?_⟩
    · rw [List.map_map]
      refine (List.map_congr_left fun p hp => ?_).trans (List.map_id ps)
      rw [Function.comp_apply, emptied_filledIn, Policy.emptied, ← hps p hp]
      rfl
    · obtain ⟨q, hq, rfl⟩ := List.mem_map.1 hp
      rw [name_filledIn]
      exact getElem?_filledIn (hps q hq)
  · rintro ⟨rfl, hmeasured⟩
    rw [List.map_map]
    refine (List.map_id qs).symm.trans (List.map_congr_left fun p hp => ?_)
    refine Policy.eq_of_emptied_eq (emptied_filledIn p.emptied).symm ?_
    refine Std.ExtTreeMap.ext_getElem? fun m => Option.ext fun ts => ?_
    exact (hmeasured p hp m ts).trans (getElem?_filledIn (p := p.emptied) rfl m ts).symm

end FilledIn

/-- A database other than the internal one, in which one policy is marked default and is found
under the name of the default. -/
structure Database.HasOneDefault (d : Database) : Prop where
  name_ne : d.name ≠ internalDatabase
  countP_eq : d.policies.countP (·.isDefault) = 1
  default : ∃ p ∈ d.policies, p.isDefault = true ∧ p.name = d.defaultPolicyName ∧
    d.defaultPolicy? = some p

theorem hasOneDefault_ofPolicies {name : String} {ps : List Policy}
    (hname : name ≠ internalDatabase) (hps : ps.countP (·.isDefault) = 1) :
    (Database.ofPolicies name ps).HasOneDefault := by
  obtain ⟨q, hq, hqdefault⟩ := List.countP_pos_iff.1 (Nat.lt_of_lt_of_eq Nat.zero_lt_one hps.symm)
  obtain ⟨p, hp⟩ := Option.isSome_iff_exists.1
    (List.find?_isSome (p := fun p : Policy => p.isDefault).2 ⟨q, hq, hqdefault⟩)
  have hpdefault : p.isDefault = true := List.find?_some hp
  have hpname : p.name = (Database.ofPolicies name ps).defaultPolicyName := by
    rw [Database.ofPolicies, hp]
    rfl
  have hdefault : (Database.ofPolicies name ps).defaultPolicy? = some p := by
    -- The first policy that is marked has the name of the default as well.
    obtain ⟨_, before, after, hsplit, hbefore⟩ := List.find?_eq_some_iff_append.1 hp
    refine List.find?_eq_some_iff_append.2 ⟨?_, before, after, hsplit, fun r hr => ?_⟩
    · exact Bool.and_eq_true_iff.2 ⟨hpdefault, decide_eq_true hpname⟩
    · rw [Bool.not_eq_true', Bool.and_eq_false_iff]
      exact .inl ((Bool.not_eq_true' _).mp (hbefore r hr))
  exact ⟨hname, hps, p, List.mem_of_find?_eq_some hp, hpdefault, hpname, hdefault⟩

/-- The query for the measurements of a database. -/
def measurementsOf (database : String) : Request :=
  (Request.ofStatement .showMeasurements).onDatabase database

/-- The query for the fields of a measurement in a policy. -/
def fieldsOf (database policy measurement : String) : Request :=
  (Request.ofStatement (.showFieldKeys policy measurement)).onDatabase database

/-- The queries about a database. -/
inductive About (database : String) : Request → Prop where
  | policies : About database (.ofStatement (.showPolicies database))
  | measurements : About database (measurementsOf database)
  | fields (policy measurement : String) : About database (fieldsOf database policy measurement)

/-- A query is about one database. -/
theorem About.eq {database other : String} {q : Request} (h : About database q)
    (h' : About other q) : database = other := by
  cases h <;> cases h' <;> rfl

/-- One answer to each query. -/
abbrev Answers := Request → Except Node.Error Response

namespace Answers

/-- A client answers each query in one way, at all times and whatever state the nodes are in. How
long that takes and what it does to the nodes is left open. -/
def AreOf (A : Answers) {ν : Type} (host : Host ν) (client : Client) : Prop :=
  ∀ request nodes, (host.call client (.query request) nodes).1.2 = A request

variable (A : Answers) (f : Filter) (database : String)

/-- The policies of a database, if they can be listed. -/
def policies : Except Node.Error (List Policy) :=
  (A (.ofStatement (.showPolicies database))).bind fun r => (readPolicies "" database r.series).2

/-- The measurements of a database that the filter selects, none if they cannot be listed. -/
def measurements : List String :=
  match A (measurementsOf database) with
  | .ok r => (firstTexts r).filter f.selectsMeasurement
  | .error _ => []

/-- The declared fields of a measurement, none if they cannot be listed. -/
def types (policy measurement : String) : FieldTypes :=
  match A (fieldsOf database policy measurement) with
  | .ok r => readFields r.rows
  | .error _ => ∅

/-- What is found of a database. -/
def database? : Option Database :=
  match A.policies database with
  | .ok ps =>
    if ps.countP (·.isDefault) = 1 then
      some (.ofPolicies database (filledPolicies f (A.types database)
        (A.measurements f database)
        (ps.filter fun p => p.isDefault || f.selectsPolicy p.name)))
    else none
  | .error _ => none

/-- What is found under a name that is listed. -/
def found? : Option Database :=
  if database = internalDatabase then none
  else if f.selectsDatabase database then A.database? f database else none

/-- What is discovered of a node. -/
def discovered (node : String) : Except DiscoveryError (List Database) :=
  match A (.ofStatement .showDatabases) with
  | .error cause => .error ⟨node, cause⟩
  | .ok response => .ok ((firstTexts response).filterMap (A.found? f))

/-- A database as the answers tell it: it has the listed policies that are kept, one of all that are
listed is marked default, and a policy has exactly the measurements that are selected with it and
declare fields. -/
structure Tells (d : Database) : Prop where
  named : d = .ofPolicies d.name d.policies
  listed : ∃ ps, A.policies d.name = .ok ps ∧ ps.countP (·.isDefault) = 1 ∧
    d.policies.map Policy.emptied = ps.filter fun p => p.isDefault || f.selectsPolicy p.name
  measured : ∀ p ∈ d.policies, ∀ (m : String) types, p.measurements[m]? = some types ↔
    f.selectsPolicy p.name = true ∧ m ∈ A.measurements f d.name ∧
      types = A.types d.name p.name m ∧ types.isEmpty = false

section Discovering
variable {A f database} {ν : Type} {host : Host ν} {e : Endpoint} {start : Instant}

theorem AreOf.exec_query (hA : A.AreOf host e.client) (request : Request) (s : ν × Span) :
    (host.exec start (Routine.query e.client request none) s).1 = A request :=
  hA request s.1

theorem AreOf.exec_policies (hA : A.AreOf host e.client) (s : ν × Span) :
    (host.exec start (Discovery.policies e database) s).1 = A.policies database := by
  rw [Discovery.policies, Host.exec_bind, hA.exec_query, Answers.policies]
  cases A (.ofStatement (.showPolicies database)) with
  | error cause => rfl
  | ok r =>
    simp only []
    rw [Host.exec_bind, Host.exec_pure]
    exact readPolicies_snd_eq _ _ _ _ _

theorem AreOf.exec_selectedMeasurements (hA : A.AreOf host e.client) (s : ν × Span) :
    (host.exec start (Discovery.selectedMeasurements e f database) s).1 =
      A.measurements f database := by
  have hmeasurements : (host.exec start (Discovery.measurements e database) s).1 =
      (A (measurementsOf database)).map firstTexts := by
    rw [Discovery.measurements, Host.exec_bind, hA.exec_query, measurementsOf]
    cases A ((Request.ofStatement .showMeasurements).onDatabase database) with
    | error cause => rfl
    | ok r => rfl
  rw [Discovery.selectedMeasurements, Host.exec_bind, hmeasurements, Answers.measurements]
  cases A (measurementsOf database) with
  | error cause => rfl
  | ok r => rfl

/-- A measurement whose fields cannot be listed, or that declares none, is passed over. -/
theorem AreOf.exec_fillPolicy (hA : A.AreOf host e.client) (names : List String) (p : Policy)
    (s : ν × Span) :
    (host.exec start (Discovery.fillPolicy e database p names) s).1 =
      filled (A.types database p.name) names p := by
  induction names generalizing p s with
  | nil => rfl
  | cons m ms ih =>
    have hfields : (host.exec start (Discovery.fields e database p.name m) s).1 =
        (A (fieldsOf database p.name m)).map fun r => readFields r.rows := by
      rw [Discovery.fields, Host.exec_bind, hA.exec_query, fieldsOf]
      cases A ((Request.ofStatement (.showFieldKeys p.name m)).onDatabase database) with
      | error cause => rfl
      | ok r =>
        simp only []
        rw [Host.exec_bind, Host.exec_pure]
        rfl
    have htypes : A.types database p.name m =
        match A (fieldsOf database p.name m) with
        | .ok r => readFields r.rows
        | .error _ => ∅ := rfl
    rw [Discovery.fillPolicy, Host.exec_bind, hfields, filled, List.foldl_cons, htypes]
    cases A (fieldsOf database p.name m) with
    | error cause =>
      simp only [Except.map]
      rw [Host.exec_bind, ih]
      rfl
    | ok r =>
      simp only [Except.map]
      rw [ih]
      rfl

theorem AreOf.exec_fillPolicies (hA : A.AreOf host e.client) (names : List String)
    (ps : List Policy) (s : ν × Span) :
    (host.exec start (Discovery.fillPolicies e f database names ps) s).1 =
      filledPolicies f (A.types database) names ps := by
  induction ps generalizing s with
  | nil => rfl
  | cons p ps ih =>
    rw [Discovery.fillPolicies, filledPolicies, List.map_cons]
    split
    · rw [Host.exec_bind, hA.exec_fillPolicy, Host.exec_bind, ih]
      rfl
    · rw [Host.exec_bind, Host.exec_pure, Host.exec_bind, ih]
      rfl

theorem AreOf.exec_database (hA : A.AreOf host e.client) (s : ν × Span) :
    (host.exec start (Discovery.database e f database) s).1 = A.database? f database := by
  rw [Discovery.database, Host.exec_bind, hA.exec_policies, Answers.database?]
  cases A.policies database with
  | error cause => rfl
  | ok ps =>
    simp only [ne_eq, ite_not]
    split
    · rw [Host.exec_bind, hA.exec_selectedMeasurements, Host.exec_bind, hA.exec_fillPolicies,
        Host.exec_bind, Host.exec_pure]
    · rfl

theorem AreOf.exec_databases (hA : A.AreOf host e.client) (names : List String) (s : ν × Span) :
    (host.exec start (Discovery.databases e f names) s).1 = names.filterMap (A.found? f) := by
  induction names generalizing s with
  | nil => rfl
  | cons name names ih =>
    rw [Discovery.databases, List.filterMap_cons, Answers.found?]
    split
    · exact ih s
    · cases f.selectsDatabase name with
      | false => exact ih s
      | true =>
        simp only [Bool.not_true, Bool.false_eq_true, if_false, if_true]
        rw [Host.exec_bind, hA.exec_database, Host.exec_bind, ih]
        cases A.database? f name <;> rfl

/-- What is discovered is a function of the answers. -/
theorem AreOf.exec_discover (hA : A.AreOf host e.client) (s : ν × Span) :
    (host.exec start (discover e f) s).1 = A.discovered f e.name := by
  rw [discover, Host.exec_bind, hA.exec_query, discovered]
  cases A (.ofStatement .showDatabases) with
  | error cause => rfl
  | ok response =>
    simp only []
    rw [Host.exec_bind, hA.exec_databases]
    rfl

end Discovering

section Isolation
variable {A B : Answers} {f : Filter} {database : String}

/-- Policies are listed without measurements. -/
theorem measurements_of_policies {ps : List Policy} (h : A.policies database = .ok ps) :
    ∀ p ∈ ps, p.measurements = ∅ := by
  rw [policies] at h
  cases hr : A (.ofStatement (.showPolicies database)) with
  | error cause =>
    rw [hr] at h
    cases h
  | ok r =>
    rw [hr] at h
    exact measurements_of_readPolicies h

theorem found?_of_policies (hname : database ≠ internalDatabase)
    (hselects : f.selectsDatabase database = true) {ps : List Policy}
    (hps : A.policies database = .ok ps) (hcount : ps.countP (·.isDefault) = 1) :
    A.found? f database = some (.ofPolicies database (filledPolicies f (A.types database)
      (A.measurements f database) (ps.filter fun p => p.isDefault || f.selectsPolicy p.name))) := by
  rw [found?, if_neg hname, if_pos hselects, database?, hps]
  exact if_pos hcount

/-- Under a name there is found, if anything, the one database that the answers tell. -/
theorem found?_eq_some_iff {d : Database} : A.found? f database = some d ↔
    database ≠ internalDatabase ∧ f.selectsDatabase database = true ∧ d.name = database ∧
      A.Tells f d := by
  constructor
  · intro h
    have hname : database ≠ internalDatabase := fun heq => by
      rw [found?, if_pos heq] at h
      cases h
    have hselects : f.selectsDatabase database = true := by
      by_contra hnot
      rw [found?, if_neg hname, if_neg hnot] at h
      cases h
    rw [found?, if_neg hname, if_pos hselects, database?] at h
    cases hps : A.policies database with
    | error cause =>
      rw [hps] at h
      cases h
    | ok ps =>
      rw [hps] at h
      simp only [] at h
      split at h
      · rename_i hcount
        cases h
        obtain ⟨hemptied, hmeasured⟩ := (eq_filledPolicies_iff fun p hp =>
          measurements_of_policies hps p (List.mem_of_mem_filter hp)).1 rfl
        exact ⟨hname, hselects, rfl, rfl, ⟨ps, hps, hcount, hemptied⟩, hmeasured⟩
      · cases h
  · rintro ⟨hname, hselects, rfl, htells⟩
    obtain ⟨ps, hps, hcount, hemptied⟩ := htells.listed
    have hpolicies := (eq_filledPolicies_iff fun p hp =>
      measurements_of_policies hps p (List.mem_of_mem_filter hp)).2 ⟨hemptied, htells.measured⟩
    rw [found?_of_policies hname hselects hps hcount, ← hpolicies]
    exact congrArg some htells.named.symm

theorem name_of_found? {d : Database} (h : A.found? f database = some d) : d.name = database := by
  rw [found?, database?] at h
  split at h
  · cases h
  · split at h
    · split at h
      · split at h
        · cases h
          rfl
        · cases h
      · cases h
    · cases h

theorem countP_filledPolicies (types : String → String → FieldTypes) (names : List String)
    (ps : List Policy) :
    (filledPolicies f types names ps).countP (·.isDefault) = ps.countP (·.isDefault) := by
  rw [filledPolicies, List.countP_map]
  refine List.countP_congr fun p _ => ?_
  rw [Function.comp_apply]
  split <;> rfl

/-- The one policy that is marked default is found whether it is selected or not. -/
theorem hasOneDefault_of_found? {d : Database} (h : A.found? f database = some d) :
    d.HasOneDefault := by
  rw [found?] at h
  split at h
  · cases h
  rename_i hname
  split at h
  · rw [database?] at h
    split at h
    · split at h
      · rename_i ps _ hcount
        cases h
        refine hasOneDefault_ofPolicies hname ?_
        rw [countP_filledPolicies, List.countP_filter, ← hcount]
        refine List.countP_congr fun p _ => ?_
        cases p.isDefault <;> simp
      · cases h
    · cases h
  · cases h

/-- What is found of a database depends on the answers about it alone. -/
theorem found?_congr (h : ∀ q, About database q → A q = B q) :
    A.found? f database = B.found? f database := by
  have hpolicies : A.policies database = B.policies database := by
    rw [policies, policies, h _ .policies]
  have hmeasurements : A.measurements f database = B.measurements f database := by
    rw [measurements, measurements, h _ .measurements]
  have htypes : A.types database = B.types database := by
    funext policy measurement
    rw [types, types, h _ (.fields policy measurement)]
  rw [found?, found?, database?, database?, hpolicies, hmeasurements, htypes]

/-- A database is found as often as it is listed. -/
theorem filter_filterMap_found? (name : String) (names : List String) :
    (names.filterMap (A.found? f)).filter (·.name = name) =
      (names.filter (· = name)).flatMap fun _ => (A.found? f name).toList := by
  induction names with
  | nil => rfl
  | cons other names ih =>
    have hother : (A.found? f other).toList.filter (·.name = name) =
        if other = name then (A.found? f name).toList else [] := by
      cases hfound : A.found? f other with
      | none =>
        split
        · rename_i heq
          rw [← heq, hfound]
          rfl
        · rfl
      | some d =>
        rw [← name_of_found? hfound]
        split
        · rename_i heq
          rw [← heq, name_of_found? hfound, hfound]
          simp [name_of_found? hfound]
        · rename_i hne
          simp [hne]
    have hcons : (other :: names).filterMap (A.found? f) =
        (A.found? f other).toList ++ names.filterMap (A.found? f) := by
      rw [List.filterMap_cons]
      cases A.found? f other <;> rfl
    rw [hcons, List.filter_append, hother, ih, List.filter_cons]
    by_cases heq : other = name <;> simp [heq]

/-- What becomes of each policy becomes of all that is found. -/
theorem found?_eq_map {g : Policy → Policy} (hg : ∀ p, (g p).label = p.label)
    (hpolicies : B.policies database = A.policies database)
    (hfilled : ∀ p : Policy, p.measurements = ∅ →
      (if f.selectsPolicy p.name then
        filled (B.types database p.name) (B.measurements f database) p else p) =
      g (if f.selectsPolicy p.name then
        filled (A.types database p.name) (A.measurements f database) p else p)) :
    B.found? f database = (A.found? f database).map (Database.mapPolicies g) := by
  rw [found?, found?, database?, database?, hpolicies]
  split
  · rfl
  split
  · cases hps : A.policies database with
    | error cause => rfl
    | ok ps =>
      have hempty := measurements_of_policies hps
      simp only []
      split
      · rw [Option.map_some, ← Database.ofPolicies_map hg, filledPolicies, filledPolicies,
          List.map_map]
        refine congrArg (fun ps => some (Database.ofPolicies database ps)) ?_
        refine List.map_congr_left fun p hp => ?_
        exact hfilled p (hempty p (List.mem_of_mem_filter hp))
      · rfl
  · rfl

/-- Fields of a measurement that are of no use cost that measurement. -/
theorem filled_forget {types types' : String → FieldTypes} {measurement : String}
    (hothers : ∀ m, m ≠ measurement → types' m = types m) (hnone : types' measurement = ∅)
    (names : List String) {p : Policy} (hp : p.measurements = ∅) :
    filled types' names p =
      { filled types names p with
        measurements := (filled types names p).measurements.erase measurement } := by
  have hmeasurements : (filled types' names p).measurements =
      (filled types names p).measurements.erase measurement := by
    refine Std.ExtTreeMap.ext_getElem? fun m => ?_
    rw [Std.ExtTreeMap.getElem?_erase, getElem?_filled, getElem?_filled, hp]
    by_cases hm : m = measurement
    · subst hm
      simp [hnone]
    · have hne : ¬ compare measurement m = .eq := fun heq =>
        hm (Std.LawfulEqCmp.eq_of_compare heq).symm
      rw [if_neg hne, hothers m hm]
  rw [← hmeasurements]
  rfl

theorem found?_forget {policy measurement : String}
    (hothers : ∀ q, q ≠ fieldsOf database policy measurement → B q = A q)
    (hnone : ∀ r, B (fieldsOf database policy measurement) = .ok r → readFields r.rows = ∅) :
    B.found? f database =
      (A.found? f database).map (.mapPolicies (.forget policy measurement)) := by
  have hpolicies : B.policies database = A.policies database := by
    rw [policies, policies, hothers _ (by rintro ⟨⟩)]
  have hmeasurements : B.measurements f database = A.measurements f database := by
    rw [measurements, measurements, hothers _ (by rintro ⟨⟩)]
  have htypes : ∀ p m, ¬ (p = policy ∧ m = measurement) →
      B.types database p m = A.types database p m := by
    intro p m hne
    rw [types, types, hothers]
    intro heq
    cases heq
    exact hne ⟨rfl, rfl⟩
  refine found?_eq_map (Policy.label_forget policy measurement) hpolicies fun p hp => ?_
  have herased : p = { p with measurements := p.measurements.erase measurement } := by
    rw [hp, Std.ExtTreeMap.erase_empty, ← hp]
  rw [hmeasurements, Policy.forget]
  by_cases hpolicy : p.name = policy
  · split
    · have hnone' : B.types database p.name measurement = ∅ := by
        rw [types, hpolicy]
        cases hr : B (fieldsOf database policy measurement) with
        | error cause => rfl
        | ok r => exact hnone r hr
      rw [filled_forget (fun m hm => htypes p.name m fun h => hm h.2) hnone' _ hp]
      exact (if_pos hpolicy).symm
    · exact herased
  · have hsame : B.types database p.name = A.types database p.name :=
      funext fun m => htypes p.name m fun h => hpolicy h.1
    rw [hsame]
    split
    · exact (if_neg hpolicy).symm
    · rfl

theorem found?_emptied (hothers : ∀ q, q ≠ measurementsOf database → B q = A q) {cause : Node.Error}
    (hfails : B (measurementsOf database) = .error cause) :
    B.found? f database = (A.found? f database).map .emptied := by
  have hpolicies : B.policies database = A.policies database := by
    rw [policies, policies, hothers _ (by rintro ⟨⟩)]
  have hmeasurements : B.measurements f database = [] := by
    rw [measurements, hfails]
  refine found?_eq_map (fun _ => rfl) hpolicies fun p hp => ?_
  have hempty : p = p.emptied := by
    rw [Policy.emptied, ← hp]
  rw [hmeasurements]
  split
  · exact hempty
  · exact hempty

/-- What is found of one database alone changes in the list of all that are found. -/
theorem filterMap_found?_eq_map {g : Database → Database} {name : String}
    (hothers : ∀ q, ¬ About name q → B q = A q)
    (hname : B.found? f name = (A.found? f name).map g) (names : List String) :
    names.filterMap (B.found? f) = (names.filterMap (A.found? f)).map (onNamed name g) := by
  rw [List.map_filterMap]
  refine List.filterMap_congr fun other _ => ?_
  by_cases heq : other = name
  · subst heq
    rw [hname]
    refine Option.map_congr fun d hd => ?_
    exact (if_pos (name_of_found? hd)).symm
  · have hsame : B.found? f other = A.found? f other :=
      found?_congr fun q hq => hothers q fun hq' => heq (hq.eq hq')
    rw [hsame]
    refine Option.map_id'.symm.trans (Option.map_congr fun d hd => ?_)
    exact (if_neg (name_of_found? hd ▸ heq)).symm

theorem of_discovered_eq_ok {node : String} {ds : List Database}
    (h : A.discovered f node = .ok ds) : ∃ response,
      A (.ofStatement .showDatabases) = .ok response ∧
        ds = (firstTexts response).filterMap (A.found? f) := by
  rw [discovered] at h
  split at h
  · cases h
  · rename_i response hresponse
    exact ⟨response, hresponse, (Except.ok.inj h).symm⟩

theorem discovered_eq_map {g : Database → Database} {name node node' : String}
    {ds : List Database} (hothers : ∀ q, ¬ About name q → B q = A q)
    (hname : B.found? f name = (A.found? f name).map g) (h : A.discovered f node = .ok ds) :
    B.discovered f node' = .ok (ds.map (onNamed name g)) := by
  obtain ⟨response, hresponse, rfl⟩ := of_discovered_eq_ok h
  have hlisted : B (.ofStatement .showDatabases) = .ok response :=
    (hothers _ (by rintro ⟨⟩)).trans hresponse
  rw [discovered, hlisted]
  exact congrArg Except.ok (filterMap_found?_eq_map hothers hname _)

end Isolation

end Answers

/-- How what is found on a node that gives the answers `A` depends on them, next to what is found
where the answers are `B`. -/
structure Isolates (A B : Answers) (f : Filter) (node : String)
    (found found' : Except DiscoveryError (List Database)) : Prop where
  /-- A discovery fails if the databases cannot be listed, and otherwise does not. -/
  error_iff : ∀ error, found = .error error ↔
    ∃ cause, A (.ofStatement .showDatabases) = .error cause ∧ error = ⟨node, cause⟩
  /-- It finds, in their order, what there is under the names that are listed: -/
  ok_iff : ∀ ds, found = .ok ds ↔ ∃ response,
    A (.ofStatement .showDatabases) = .ok response ∧
      ds = (firstTexts response).filterMap (A.found? f)
  /-- the one database that the answers tell, -/
  found_iff : ∀ name d, A.found? f name = some d ↔ name ≠ internalDatabase ∧
    f.selectsDatabase name = true ∧ d.name = name ∧ A.Tells f d
  /-- and there is one if its policies can be listed and one of them is marked default. -/
  present : ∀ name ps, name ≠ internalDatabase → f.selectsDatabase name = true →
    A.policies name = .ok ps → ps.countP (·.isDefault) = 1 → ∃ d, A.found? f name = some d
  /-- If the measurements cannot be listed, it is found with its policies all the same, and these
  are without measurements. -/
  unlisted : ∀ name ps cause, name ≠ internalDatabase → f.selectsDatabase name = true →
    A.policies name = .ok ps → ps.countP (·.isDefault) = 1 →
    A (measurementsOf name) = .error cause →
      A.found? f name =
        some (.ofPolicies name (ps.filter fun p => p.isDefault || f.selectsPolicy p.name)) ∧
      ∀ p ∈ ps, p.measurements = ∅
  /-- What is found under a name is the same wherever the queries about it have the same answers. -/
  same : ∀ name response response' ds ds', (∀ q, About name q → A q = B q) →
    A (.ofStatement .showDatabases) = .ok response →
    B (.ofStatement .showDatabases) = .ok response' → found = .ok ds → found' = .ok ds' →
      ds.filter (·.name = name) =
        ((firstTexts response).filter (· = name)).flatMap (fun _ => (A.found? f name).toList) ∧
      ds'.filter (·.name = name) =
        ((firstTexts response').filter (· = name)).flatMap (fun _ => (A.found? f name).toList)
  /-- If the fields of one measurement in one policy cannot be listed, or there are none, then it is
  missing there, and nothing else is. -/
  forgotten : ∀ name policy measurement ds,
    (∀ q, q ≠ fieldsOf name policy measurement → B q = A q) →
    (∀ r, B (fieldsOf name policy measurement) = .ok r → readFields r.rows = ∅) →
    found = .ok ds →
      found' = .ok (ds.map (onNamed name (.mapPolicies (.forget policy measurement))))
  /-- If the measurements of one database cannot be listed, they are missing, and nothing else. -/
  emptied : ∀ name cause ds, (∀ q, q ≠ measurementsOf name → B q = A q) →
    B (measurementsOf name) = .error cause → found = .ok ds →
      found' = .ok (ds.map (onNamed name .emptied))
  hasOneDefault : ∀ ds, found = .ok ds → ∀ d ∈ ds, d.HasOneDefault

/-- A discovery of a node that answers each query in one way keeps failures apart, whatever the
answers are. -/
theorem discovery_keeps_failures_apart {ν ν' : Type} {host : Host ν} {host' : Host ν'}
    {A B : Answers} (e e' : Endpoint) (hA : A.AreOf host e.client) (hB : B.AreOf host' e'.client)
    (f : Filter) (start start' : Instant) (s : ν × Span) (s' : ν' × Span) :
    Isolates A B f e.name (host.exec start (discover e f) s).1
      (host'.exec start' (discover e' f) s').1 := by
  rw [hA.exec_discover, hB.exec_discover]
  exact {
    error_iff := fun error => by
      rw [Answers.discovered]
      cases A (.ofStatement .showDatabases) with
      | error cause => simp [eq_comm]
      | ok response => simp
    ok_iff := fun ds => by
      refine ⟨Answers.of_discovered_eq_ok, ?_⟩
      rintro ⟨response, hresponse, rfl⟩
      rw [Answers.discovered, hresponse]
    found_iff := fun name d => Answers.found?_eq_some_iff
    present := fun name ps hname hselects hps hcount =>
      ⟨_, Answers.found?_of_policies hname hselects hps hcount⟩
    unlisted := fun name ps cause hname hselects hps hcount hfails => by
      have hnone : A.measurements f name = [] := by
        rw [Answers.measurements, hfails]
      rw [Answers.found?_of_policies hname hselects hps hcount, hnone, filledPolicies_nil]
      exact ⟨rfl, Answers.measurements_of_policies hps⟩
    same := fun name response response' ds ds' hsame hA' hB' hds hds' => by
      rw [Answers.discovered, hA', Except.ok.injEq] at hds
      rw [Answers.discovered, hB', Except.ok.injEq] at hds'
      subst hds hds'
      refine ⟨Answers.filter_filterMap_found? name _, ?_⟩
      rw [Answers.found?_congr hsame]
      exact Answers.filter_filterMap_found? name _
    forgotten := fun name policy measurement ds hothers hnone hds => by
      refine Answers.discovered_eq_map (fun q hq => hothers q ?_)
        (Answers.found?_forget hothers hnone) hds
      rintro rfl
      exact hq (.fields policy measurement)
    emptied := fun name cause ds hothers hfails hds => by
      refine Answers.discovered_eq_map (fun q hq => hothers q ?_)
        (Answers.found?_emptied hothers hfails) hds
      rintro rfl
      exact hq .measurements
    hasOneDefault := fun ds hds d hd => by
      obtain ⟨response, -, rfl⟩ := Answers.of_discovered_eq_ok hds
      obtain ⟨name, -, hfound⟩ := List.mem_filterMap.1 hd
      exact Answers.hasOneDefault_of_found? hfound }

/-- A node with one database, of one policy with two measurements. -/
private def sampleAnswers : Answers := fun q =>
  match q.statement with
  | .showDatabases =>
    .ok (.single [.untagged "databases" ["name"] [[.string "app"], [.string "_internal"]]])
  | .showPolicies _ =>
    .ok (.single [.untagged "" ["name", "duration", "default"]
      [[.string "auto", .string "0s", .bool true], [.null, .string "0s", .bool true]]])
  | .showMeasurements =>
    .ok (.single [.untagged "measurements" ["name"] [[.string "cpu"], [.string "mem"]]])
  | .showFieldKeys _ _ =>
    .ok (.single [.untagged "" ["fieldKey", "fieldType"] [[.string "load", .string "float"]]])
  | _ => .error (.statement "not a listing")

/-- The same node when it cannot list the fields of one measurement. -/
private def failingAnswers : Answers := fun q =>
  if q = fieldsOf "app" "auto" "cpu" then .error (.unavailable "busy") else sampleAnswers q

/-- A node that does nothing but answer. -/
private def answering (A : Answers) : Host Unit where
  connect _ nodes := ((.zero, .ok ⟨0⟩), nodes)
  call _ c nodes :=
    match c with
    | .query q => ((.zero, A q), nodes)
    | .ping => ((.zero, .error (.unavailable "busy")), nodes)
    | .write _ => ((.zero, .error (.unavailable "busy")), nodes)

private theorem answering_areOf (A : Answers) (client : Client) : A.AreOf (answering A) client :=
  fun _ _ => rfl

/-- The same node when it cannot list measurements. -/
private def unlistedAnswers : Answers := fun q =>
  if q = measurementsOf "app" then .error (.unavailable "busy") else sampleAnswers q

private def loadFields : FieldTypes := Std.ExtTreeMap.insert ∅ "load" .float

/-- What is found of the database, with these measurements. -/
private def sampleDatabase (measurements : List String) : Database :=
  .ofPolicies "app" [{
    name := "auto"
    duration := .zero
    shardDuration := .zero
    replicas := 1
    isDefault := true
    measurements := measurements.foldl (·.insert · loadFields) ∅ }]

private def discoverSample (A : Answers) : Except DiscoveryError (List Database) :=
  ((answering A).exec .epoch (discover ⟨"a", ⟨0⟩⟩ .all) ((), .zero)).1

/-- A discovery on a node that cannot list the fields of one measurement, and on one that cannot
list the measurements. -/
theorem discovery_misses_one_measurement :
    discoverSample sampleAnswers = .ok [sampleDatabase ["cpu", "mem"]] ∧
      discoverSample failingAnswers = .ok [sampleDatabase ["mem"]] ∧
      discoverSample unlistedAnswers = .ok [sampleDatabase []] := by
  have hfound : discoverSample sampleAnswers = .ok [sampleDatabase ["cpu", "mem"]] := by
    decide +kernel
  have hkeeps : ∀ B : Answers, Isolates sampleAnswers B .all "a" (discoverSample sampleAnswers)
      (discoverSample B) := fun B =>
    discovery_keeps_failures_apart ⟨"a", ⟨0⟩⟩ ⟨"a", ⟨0⟩⟩ (answering_areOf sampleAnswers _)
      (answering_areOf B _) .all .epoch .epoch ((), .zero) ((), .zero)
  have hforgets := (hkeeps failingAnswers).forgotten "app" "auto" "cpu" _
    (fun q hq => if_neg hq) (fun r hr => by rw [failingAnswers, if_pos rfl] at hr; cases hr) hfound
  have hempties := (hkeeps unlistedAnswers).emptied "app" (.unavailable "busy") _
    (fun q hq => if_neg hq) (if_pos rfl) hfound
  refine ⟨hfound, hforgets.trans ?_, hempties.trans ?_⟩
  · decide +kernel
  · decide +kernel

end SeriesReplica.Schema
