import SeriesReplica.Proofs.Cluster.Replication
import SeriesReplica.Proofs.Schema.Replication
import SeriesReplica.Proofs.Schema.Selection

/-! A copy of all that a filter finds. Each layer loses and invents nothing: the rows of the copies
are the selected rows of the window, field by field, and all of them are counted. -/
namespace SeriesReplica.Cluster
open Concurrent Time Schema Sync Node Point

/-- A row of a store that a copy is to hold: the database is not the internal one, has a default
policy and is selected, and so are the policy and the measurement; the time lies in the window. -/
structure Selected (f : Filter) (source : Store) (start stop : Instant)
    (database policy : String) (k : RowKey) (row : Fields) : Prop where
  held : source.row? database policy k = some row
  external : database ≠ internalDatabase
  default : ((source.database? database).bind (·.default)).isSome
  database : f.selectsDatabase database = true
  policy : f.selectsPolicy policy = true
  measurement : f.selectsMeasurement k.measurement = true
  window : start.epochNanos ≤ k.timestamp ∧ k.timestamp < stop.epochNanos

/-- A store that holds the selected rows of another one and nothing else, with clean reports that
count each of these rows once. -/
structure Mirrors (f : Filter) (source : Store) (start stop : Instant) (reports : List Report)
    (copy : Store) : Prop where
  row?_iff : ∀ database policy k row, copy.row? database policy k = some row ↔
    Selected f source start stop database policy k row
  clean : ∀ r ∈ reports, r.isClean = true
  counted : ∃ T : Finset ((String × String) × RowKey),
    (∀ c k, (c, k) ∈ T ↔ ∃ row, Selected f source start stop c.1 c.2 k row) ∧
      (reports.map (·.totalPoints)).sum = T.card

/-- A store that can be told in full: floats have a JSON form, no field is keyed as the time is,
policies have names, and lengths of time have 64 bits of seconds. -/
structure Tellable (s : Store) : Prop where
  finite : ∀ database policy k row (f : String) v, s.row? database policy k = some row →
    row[f]? = some v → IsFinite v
  no_time : ∀ database policy measurement m,
    s.measurement? database policy measurement = some m → m.types["time"]? = none
  named : ∀ database, s.policy? database "" = none
  spanned : Spanned s

variable {f : Filter} {source : Store} {s : Cluster.Settings} {master slave : Endpoint}
  {start stop : Instant} {d : StoredDatabase} {q : StoredPolicy} {name n default : String}

/-- A row that is stored is read by the declared types as it is. -/
theorem Tellable.decodedFields_eq (h : Tellable source) (hsound : source.Sound)
    {database policy : String} {k : RowKey} {m : StoredMeasurement} {row : Fields}
    (hm : source.measurement? database policy k.measurement = some m)
    (hrow : source.row? database policy k = some row) :
    decodedFields m.types k.timestamp row = row ∧ row.isEmpty = false := by
  have hstored : m.row? k.tags k.timestamp = some row := by
    rw [Store.row?_eq_measurement, hm, Option.bind_some] at hrow
    exact hrow
  have hmsound := hsound.measurement hm
  exact ⟨decodedFields_self _ (h.no_time _ _ _ m hm)
    (fun f v hv => hmsound.declares _ _ row f v hstored hv)
    fun f v hv => h.finite _ _ k row f v hrow hv, hmsound.nonempty _ _ row hstored⟩

/-- What is decoded of a policy that has been found: its selected rows, as they are. -/
theorem decoded_found (hsound : source.Sound) (htellable : Tellable source)
    (hd : source.database? name = some d) (hq : d.policies[n]? = some q) {j : Job}
    (hj : j = copyJob s master slave start stop (foundDatabase f name d default, foundPolicy f d q))
    (k : RowKey) (row : Fields) :
    ((j.decoded source k).isEmpty = false ∧ row = j.decoded source k) ↔
      source.row? name n k = some row ∧ f.selectsPolicy n = true ∧
        f.selectsMeasurement k.measurement = true := by
  subst hj
  set j := copyJob s master slave start stop (foundDatabase f name d default, foundPolicy f d q)
  have hname : q.spec.name = n := (hsound name d hd).named n q hq
  have hpolicy : j.sourcePolicy.name = n := hname
  have hmeasurement (m : String) : source.measurement? name n m = q.measurements[m]? := by
    rw [Store.measurement?, Store.policy?, hd, Option.bind_some, hq, Option.bind_some]
  constructor
  · rintro ⟨hne, rfl⟩
    obtain ⟨types, row, htypes, hrow⟩ := Job.exists_of_decoded hne
    obtain ⟨hselected, hkept, m, hm, -, rfl⟩ := foundPolicy_measurement.1 htypes
    rw [Job.decoded_eq htypes hrow]
    rw [hpolicy] at hrow
    rw [(htellable.decodedFields_eq hsound ((hmeasurement _).trans hm) hrow).1]
    exact ⟨hrow, hname ▸ hselected, hkept⟩
  · rintro ⟨hrow, hselected, hkept⟩
    obtain ⟨m, hm, hstored⟩ : ∃ m, q.measurements[k.measurement]? = some m ∧
        m.row? k.tags k.timestamp = some row := by
      rw [Store.row?_eq_measurement, hmeasurement] at hrow
      exact Option.bind_eq_some_iff.1 hrow
    obtain ⟨hsame, hne⟩ := htellable.decodedFields_eq hsound ((hmeasurement _).trans hm) hrow
    -- A measurement that declares nothing is not found, but then it has no rows either.
    have hdeclares : m.types.isEmpty = false := by
      refine Bool.eq_false_iff.2 fun hempty => ?_
      rw [← hsame, Std.ExtTreeMap.isEmpty_iff.1 hempty, decodedFields_untyped] at hne
      simp at hne
    have htypes : j.sourcePolicy.measurements[k.measurement]? = some m.types :=
      foundPolicy_measurement.2 ⟨hname.symm ▸ hselected, hkept, m, hm, hdeclares, rfl⟩
    rw [Job.decoded_eq htypes (hpolicy.symm ▸ hrow), hsame]
    exact ⟨hne, rfl⟩

/-- A policy that has been found in a store, under its database and its name. -/
structure FoundAt (f : Filter) (source : Store) (name n : String)
    (x : Schema.Database × Schema.Policy) : Prop where
  external : name ≠ internalDatabase
  selected : f.selectsDatabase name = true
  stored : ∃ d default q, source.database? name = some d ∧ d.default = some default ∧
    d.policies[n]? = some q ∧ x = (foundDatabase f name d default, foundPolicy f d q)

/-- The policies that are found, each with its database, are found under some names. -/
theorem exists_foundAt (hsound : source.Sound) {x : Schema.Database × Schema.Policy}
    (hx : x ∈ policiesOf (found f source)) : ∃ name n, FoundAt f source name n x := by
  obtain ⟨e, he, hx⟩ := List.mem_flatMap.1 hx
  obtain ⟨p, hp, rfl⟩ := List.mem_map.1 hx
  obtain ⟨name, d, default, hd, hdefault, hexternal, hselected, rfl⟩ := mem_found.1 he
  obtain ⟨n, q, hq, -, rfl⟩ := (mem_foundDatabase (hsound name d hd)).1 hp
  exact ⟨name, n, hexternal, hselected, d, default, q, hd, hdefault, hq, rfl⟩

/-- A copy under the names of its original. -/
theorem copyOf_eq {e : Schema.Database} (h : e.KeepsNames) (p : Schema.Policy) :
    copyOf (e, p) = (e.name, p.name) := by
  have hpolicy : e.targetPolicy p = p.name := by
    rw [Schema.Database.targetPolicy, Schema.Database.targetDefaultPolicy,
      h.targetDefaultPolicyName, Option.getD_none]
    split
    case isTrue heq => exact heq.symm
    case isFalse => rfl
  rw [copyOf, hpolicy, Schema.Database.target, h.targetName, Option.getD_none]

/-- No two policies have one copy. -/
theorem policiesOf_distinct {ds : List Schema.Database} (hds : ∀ e ∈ ds, e.KeepsNames)
    (hdistinct : ds.Pairwise fun e e' => e.name ≠ e'.name) :
    (policiesOf ds).Pairwise fun x y => copyOf x ≠ copyOf y := by
  rw [policiesOf, List.pairwise_flatMap]
  constructor
  · intro e he
    rw [List.pairwise_map]
    refine (hds e he).distinct.imp fun {p p'} hne heq => hne ?_
    rw [copyOf_eq (hds e he), copyOf_eq (hds e he)] at heq
    exact (Prod.mk.inj heq).2
  · refine hdistinct.imp_of_mem fun {e e'} he he' hne x hx y hy heq => hne ?_
    obtain ⟨p, -, rfl⟩ := List.mem_map.1 hx
    obtain ⟨p', -, rfl⟩ := List.mem_map.1 hy
    rw [copyOf_eq (hds e he), copyOf_eq (hds e' he')] at heq
    exact (Prod.mk.inj heq).1

/-- All that is found can be copied under its own names. -/
theorem keepsNames_found (hsound : source.Sound) {e : Schema.Database}
    (he : e ∈ found f source) : e.KeepsNames := by
  obtain ⟨name, d, default, hd, hdefault, hexternal, -, rfl⟩ := mem_found.1 he
  exact keepsNames_foundDatabase (hsound name d hd) hdefault hexternal

/-- The copy of a policy that has been found has the same names. -/
theorem FoundAt.copyOf_eq (hsound : source.Sound) {x : Schema.Database × Schema.Policy}
    (h : FoundAt f source name n x) : copyOf x = (name, n) := by
  obtain ⟨d, default, q, hd, hdefault, hq, rfl⟩ := h.stored
  rw [Cluster.copyOf_eq (keepsNames_foundDatabase (hsound name d hd) hdefault h.external)]
  exact congrArg (Prod.mk name) ((hsound name d hd).named n q hq)

/-- A policy that has been found can be copied. -/
theorem FoundAt.copyable (hsound : source.Sound) (htellable : Tellable source)
    {x : Schema.Database × Schema.Policy} (h : FoundAt f source name n x) :
    Copyable source x where
  named := by
    obtain ⟨d, default, q, hd, -, hq, -⟩ := h.stored
    rw [h.copyOf_eq hsound]
    rintro rfl
    have hnone := htellable.named name
    rw [Store.policy?, hd, Option.bind_some, hq] at hnone
    cases hnone
  no_time m sm hm := htellable.no_time _ _ m sm hm

/-- What is planned of a policy that has been found are its selected rows, as they are. -/
theorem FoundAt.planned_iff (hsound : source.Sound) (htellable : Tellable source)
    {x : Schema.Database × Schema.Policy} (h : FoundAt f source name n x) (k : RowKey)
    (row : Fields) :
    ((copyJob s master slave start stop x).Planned source start.epochNanos.toInt
        stop.epochNanos.toInt k ∧ row = (copyJob s master slave start stop x).decoded source k) ↔
      Selected f source start stop name n k row := by
  obtain ⟨hexternal, hselected, d, default, q, hd, hdefault, hq, rfl⟩ := h
  rw [Job.Planned, and_assoc, decoded_found hsound htellable hd hq rfl, ← Int64.le_iff_toInt_le,
    ← Int64.lt_iff_toInt_lt]
  constructor
  · rintro ⟨hwindow, hheld, hpolicy, hmeasurement⟩
    exact ⟨hheld, hexternal, by rw [hd, Option.bind_some, hdefault]; rfl, hselected, hpolicy,
      hmeasurement, hwindow⟩
  · exact fun h => ⟨h.window, h.held, h.policy, h.measurement⟩

/-- A selected row belongs to a policy that is found. -/
theorem Selected.exists_foundAt {database policy : String} {k : RowKey} {row : Fields}
    (hsound : source.Sound) (h : Selected f source start stop database policy k row) :
    ∃ x ∈ policiesOf (found f source), FoundAt f source database policy x := by
  obtain ⟨q, hpolicy, -⟩ := Option.bind_eq_some_iff.1 h.held
  obtain ⟨d, hd, hq⟩ := Option.bind_eq_some_iff.1 hpolicy
  have hdefault := h.default
  rw [hd, Option.bind_some] at hdefault
  obtain ⟨default, hdefault⟩ := Option.isSome_iff_exists.1 hdefault
  refine ⟨(foundDatabase f database d default, foundPolicy f d q), List.mem_flatMap.2
    ⟨_, mem_found.2 ⟨database, d, default, hd, hdefault, h.external, h.database, rfl⟩,
      List.mem_map_of_mem ((mem_foundDatabase (hsound database d hd)).2
        ⟨policy, q, hq, .inr h.policy, rfl⟩)⟩,
    h.external, h.database, d, default, q, hd, hdefault, hq, rfl⟩

/-- Copies of all that is found, where nothing was before, mirror the store. -/
theorem CopiedAll.mirrors (hsound : source.Sound) (htellable : Tellable source)
    {reports : List Report} {before after : Store} {T : Finset ((String × String) × RowKey)}
    (h : CopiedAll source (copyJob s master slave start stop) start.epochNanos.toInt
      stop.epochNanos.toInt (policiesOf (found f source)) reports before after T)
    (hnone : ∀ database policy k, before.row? database policy k = none) :
    Mirrors f source start stop reports after where
  row?_iff database policy k row := by
    by_cases hcopied : ∃ x ∈ policiesOf (found f source), copyOf x = (database, policy)
    · obtain ⟨x, hx, hcopy⟩ := hcopied
      obtain ⟨name, n, hfound⟩ := exists_foundAt hsound hx
      obtain ⟨rfl, rfl⟩ := Prod.mk.inj ((hfound.copyOf_eq hsound).symm.trans hcopy)
      rw [← hfound.planned_iff hsound htellable, ← h.rows x hx, hcopy]
    -- Where no copy is kept nothing has changed, and no row is selected.
    · have hother := h.others (database, policy) fun x hx heq => hcopied ⟨x, hx, heq⟩
      have hempty : after.row? database policy k = none := by
        rw [← hnone database policy k, Store.row?, Store.row?]
        exact congrArg (fun p : Option StoredPolicy => p.bind (·.row? k)) hother
      rw [hempty]
      refine iff_of_false (by simp) fun hselected => hcopied ?_
      obtain ⟨x, hx, hfound⟩ := hselected.exists_foundAt hsound
      exact ⟨x, hx, hfound.copyOf_eq hsound⟩
  clean := h.clean
  counted := by
    refine ⟨T, fun c k => ?_, h.counted⟩
    rw [h.mem_iff]
    constructor
    · rintro ⟨x, hx, rfl, hplanned⟩
      obtain ⟨name, n, hfound⟩ := exists_foundAt hsound hx
      rw [hfound.copyOf_eq hsound]
      exact ⟨_, (hfound.planned_iff hsound htellable k _).1 ⟨hplanned, rfl⟩⟩
    · rintro ⟨row, hselected⟩
      obtain ⟨x, hx, hfound⟩ := hselected.exists_foundAt hsound
      exact ⟨x, hx, hfound.copyOf_eq hsound,
        ((hfound.planned_iff hsound htellable k row).2 hselected).1⟩

end SeriesReplica.Cluster
