import SeriesReplica.Proofs.Schema.Creation
import SeriesReplica.Proofs.Schema.Found

/-! What a filter finds in a sound store. The databases that are found are the selected ones with a
default policy, no two of one name, and each can be copied under its own names. -/
namespace SeriesReplica.Schema
open Query Point Node

variable {f : Filter} {s : Store} {d : StoredDatabase} {name default : String}

theorem foundDatabase_eq_some {x : Database} :
    (if name = internalDatabase then none
      else if f.selectsDatabase name then foundDatabase? f name d else none) = some x ↔
    name ≠ internalDatabase ∧ f.selectsDatabase name = true ∧
      ∃ default, d.default = some default ∧ x = foundDatabase f name d default := by
  by_cases hinternal : name = internalDatabase
  · simp [hinternal]
  · cases hdefault : d.default <;> cases f.selectsDatabase name <;>
      simp [hinternal, foundDatabase?, hdefault, eq_comm]

theorem mem_found {x : Database} : x ∈ found f s ↔ ∃ name d default,
    s.database? name = some d ∧ d.default = some default ∧ name ≠ internalDatabase ∧
      f.selectsDatabase name = true ∧ x = foundDatabase f name d default := by
  rw [found, foundIn, List.mem_filterMap]
  constructor
  · rintro ⟨⟨name, d⟩, hd, hx⟩
    obtain ⟨hexternal, hselected, default, hdefault, rfl⟩ := foundDatabase_eq_some.1 hx
    exact ⟨name, d, default, Std.ExtTreeMap.mem_toList_iff_getElem?_eq_some.1 hd, hdefault,
      hexternal, hselected, rfl⟩
  · rintro ⟨name, d, default, hd, hdefault, hexternal, hselected, rfl⟩
    exact ⟨(name, d), Std.ExtTreeMap.mem_toList_iff_getElem?_eq_some.2 hd,
      foundDatabase_eq_some.2 ⟨hexternal, hselected, default, hdefault, rfl⟩⟩

/-- No two databases of one name are found. -/
theorem found_distinct (f : Filter) (s : Store) :
    (found f s).Pairwise fun x y => x.name ≠ y.name := by
  rw [found, foundIn, List.pairwise_filterMap]
  refine s.databases.distinct_keys_toList.imp fun {a b} hne x hx y hy heq => hne ?_
  obtain ⟨-, -, _, -, rfl⟩ := foundDatabase_eq_some.1 hx
  obtain ⟨-, -, _, -, rfl⟩ := foundDatabase_eq_some.1 hy
  exact Std.LawfulEqCmp.compare_eq_iff_eq.2 heq

/-- The policies that are found are the default and the selected ones, by their names. -/
theorem mem_foundDatabase (hsound : d.Sound) {p : Policy} :
    p ∈ (foundDatabase f name d default).policies ↔ ∃ (n : String) (q : StoredPolicy),
      d.policies[n]? = some q ∧ (d.default = some n ∨ f.selectsPolicy n = true) ∧
        p = foundPolicy f d q := by
  rw [foundDatabase, List.mem_map]
  simp only [keptPolicies, List.mem_filter, Bool.or_eq_true, decide_eq_true_eq]
  constructor
  · rintro ⟨q, ⟨hq, hkept⟩, rfl⟩
    obtain ⟨n, hn⟩ := StoredDatabase.exists_of_mem_values hq
    exact ⟨n, q, hn, hsound.named n q hn ▸ hkept, rfl⟩
  · rintro ⟨n, q, hn, hkept, rfl⟩
    exact ⟨q, ⟨StoredDatabase.mem_values hn, (hsound.named n q hn).symm ▸ hkept⟩, rfl⟩

/-- What is found of a database can be copied under its own names. -/
theorem keepsNames_foundDatabase (hsound : d.Sound) (hdefault : d.default = some default)
    (hexternal : name ≠ internalDatabase) : (foundDatabase f name d default).KeepsNames where
  targetName := rfl
  targetDefaultPolicyName := rfl
  external := hexternal
  default := by
    obtain ⟨q, hq⟩ := Option.isSome_iff_exists.1
      (Std.ExtTreeMap.mem_iff_isSome_getElem?.1 (hsound.default _ hdefault))
    rw [Database.defaultPolicy?, List.find?_isSome]
    have hmem : foundPolicy f d q ∈ (foundDatabase f name d default).policies :=
      (mem_foundDatabase hsound).2 ⟨default, q, hq, .inl hdefault, rfl⟩
    refine ⟨foundPolicy f d q, hmem, ?_⟩
    have hname : q.spec.name = default := hsound.named default q hq
    simp [foundPolicy, listedPolicy, foundDatabase, hname, hdefault]
  distinct := by
    rw [foundDatabase, List.pairwise_map]
    refine List.Pairwise.filter _ ?_
    rw [values_eq_map_toList, List.pairwise_map]
    refine d.policies.distinct_keys_toList.imp_of_mem fun {a b} ha hb hne heq => hne ?_
    have ha := hsound.named a.1 a.2 (Std.ExtTreeMap.mem_toList_iff_getElem?_eq_some.1 ha)
    have hb := hsound.named b.1 b.2 (Std.ExtTreeMap.mem_toList_iff_getElem?_eq_some.1 hb)
    have hsame : a.2.spec.name = b.2.spec.name := heq
    exact Std.LawfulEqCmp.compare_eq_iff_eq.2 (ha.symm.trans (hsame.trans hb))

/-- The measurements that are found in a policy are the selected ones that declare something. -/
theorem foundPolicy_measurement {q : StoredPolicy} {m : String} {types : FieldTypes} :
    (foundPolicy f d q).measurements[m]? = some types ↔
      f.selectsPolicy q.spec.name = true ∧ f.selectsMeasurement m = true ∧
        ∃ sm, q.measurements[m]? = some sm ∧ sm.types.isEmpty = false ∧ sm.types = types := by
  rw [foundPolicy]
  cases f.selectsPolicy q.spec.name with
  | false => simp
  | true =>
    simp only [if_true, foundMeasurements, Std.ExtTreeMap.getElem?_filterMap',
      Option.bind_eq_some_iff, true_and]
    cases f.selectsMeasurement m <;> simp

end SeriesReplica.Schema
