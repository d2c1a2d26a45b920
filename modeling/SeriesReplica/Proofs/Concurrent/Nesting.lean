import Mathlib.Algebra.Order.BigOperators.Group.Multiset
import SeriesReplica.Proofs.Concurrent.Stepping

/-! Pools of many fibers. Each job has a place in the results of the fiber that waits for it, and a
fiber that waits has a job that runs. So a machine on which nothing can go on has no fibers. -/
namespace SeriesReplica.Concurrent
open Time

variable {ν σ ρ α : Type}

/-- The place of a job in the results of its pool. -/
def Body.places (parent : Nat) : Body σ ρ α → Multiset Nat
  | .job p index _ => if p = parent then {index} else 0
  | _ => 0

/-- Waits for a pool. -/
def Body.IsGathering : Body σ ρ α → Prop
  | .gathering .. => True
  | _ => False

/-- The places of results that are missing. -/
def missing (results : List (Option ρ)) : Multiset Nat :=
  (Multiset.range results.length).filter fun i => results[i]?.any Option.isNone = true

theorem mem_missing {results : List (Option ρ)} {i : Nat} :
    i ∈ missing results ↔ results[i]? = some none := by
  rw [missing, Multiset.mem_filter, Multiset.mem_range]
  constructor
  · rintro ⟨hi, hnone⟩
    rw [List.getElem?_eq_getElem hi] at hnone ⊢
    exact congrArg some (Option.isNone_iff_eq_none.1 hnone)
  · intro h
    rw [h]
    exact ⟨(List.getElem?_eq_some_iff.1 h).1, rfl⟩

theorem nodup_missing (results : List (Option ρ)) : (missing results).Nodup :=
  (Multiset.nodup_range _).filter _

/-- A result that is handed in is no longer missing. -/
theorem missing_set {results : List (Option ρ)} {i : Nat} (h : i ∈ missing results) (v : ρ) :
    missing (results.set i (some v)) + {i} = missing results := by
  have herase : missing (results.set i (some v)) = (missing results).erase i := by
    refine ((nodup_missing _).ext ((nodup_missing _).erase i)).2 fun k => ?_
    rw [(nodup_missing results).mem_erase_iff, mem_missing, mem_missing]
    by_cases hk : k = i
    · subst hk
      have hlt := (List.getElem?_eq_some_iff.1 (mem_missing.1 h)).1
      simp [List.getElem?_set_self hlt]
    · rw [List.getElem?_set_ne (Ne.symm hk)]
      simp [hk]
  rw [herase, add_comm, Multiset.singleton_add, Multiset.cons_erase h]

theorem missing_eq_zero {results : List (Option ρ)} :
    missing results = 0 ↔ results.all (·.isSome) = true := by
  rw [Multiset.eq_zero_iff_forall_notMem, List.all_eq_true]
  constructor
  · intro h x hx
    obtain ⟨i, hi⟩ := List.mem_iff_getElem?.1 hx
    cases x with
    | none => exact absurd (mem_missing.2 hi) (h i)
    | some v => rfl
  · intro h i hi
    exact absurd (h none (List.mem_of_getElem? (mem_missing.1 hi))) Bool.false_ne_true

theorem missing_none (jobs : List (Routine ρ)) :
    missing (jobs.map fun _ => (none : Option ρ)) = Multiset.range jobs.length := by
  refine ((nodup_missing _).ext (Multiset.nodup_range _)).2 fun i => ?_
  rw [mem_missing, Multiset.mem_range, List.getElem?_map]
  cases h : jobs[i]? with
  | none => simpa using List.getElem?_eq_none_iff.1 h
  | some r => simpa using (List.getElem?_eq_some_iff.1 h).1

theorem Body.IsGathering.exists {b : Body σ ρ α} (h : b.IsGathering) :
    ∃ waiting results next after, b = .gathering waiting results next after := by
  cases b with
  | gathering waiting results next after => exact ⟨waiting, results, next, after, rfl⟩
  | process | job | waiting => exact h.elim

section Steps
variable {stopping : Bool} {b b' : Body σ ρ α} {s s' : σ}

theorem Body.Step.places_eq (h : b.Step stopping s b' s') (p : Nat) :
    b'.places p = b.places p := by
  cases h <;> rfl

theorem Body.Step.not_gathering (h : b.Step stopping s b' s') :
    ¬ b.IsGathering ∧ ¬ b'.IsGathering := by
  cases h <;> exact ⟨id, id⟩

theorem Body.Quits.places_eq (h : b.Quits stopping) (p : Nat) : b.places p = 0 := by
  cases h <;> rfl

theorem Body.Quits.not_gathering (h : b.Quits stopping) : ¬ b.IsGathering := by
  cases h <;> exact id

end Steps

namespace Machine

/-- The places of the running jobs of a fiber. -/
def jobPlaces (m : Machine ν σ ρ α) (parent : Nat) : Multiset Nat := m.total (Body.places parent)

/-- Jobs belong to fibers that wait for them, and fibers that wait have jobs that run. -/
structure Nested (m : Machine ν σ ρ α) : Prop where
  nodup : m.ids.Nodup
  below : ∀ i ∈ m.ids, i < m.fresh
  parent : ∀ p, m.jobPlaces p ≠ 0 → ∃ g ∈ m.fibers, g.id = p ∧ g.body.IsGathering
  served : ∀ g ∈ m.fibers, ∀ waiting results next after,
    g.body = .gathering waiting results next after → m.jobPlaces g.id ≠ 0 ∧
      m.jobPlaces g.id + (waiting.map Prod.fst : Multiset Nat) = missing results

variable {m m' : Machine ν σ ρ α} {f g k : Fiber σ ρ α}

theorem mem_put_of_ne (hk : k ∈ m.fibers) (hne : k.id ≠ g.id) : k ∈ (m.put g).fibers :=
  List.mem_map.2 ⟨k, hk, if_neg hne⟩

theorem mem_of_mem_put (hk : k ∈ (m.put g).fibers) : k = g ∨ k ∈ m.fibers ∧ k.id ≠ g.id := by
  obtain ⟨j, hj, rfl⟩ := List.mem_map.1 hk
  split
  · exact .inl rfl
  · exact .inr ⟨hj, ‹_›⟩

theorem eq_of_id (hnodup : m.ids.Nodup) (hf : f ∈ m.fibers) (hk : k ∈ m.fibers)
    (hid : k.id = f.id) : k = f :=
  List.inj_on_of_nodup_map hnodup hk hf hid

/-- A fiber is put back that runs the same job, or still none. -/
private theorem jobPlaces_put (hnodup : m.ids.Nodup) (hf : f ∈ m.fibers) (hid : g.id = f.id)
    {q : Nat} (hplaces : g.body.places q = f.body.places q) :
    (m.put g).jobPlaces q = m.jobPlaces q := by
  have hput := total_put (Body.places q) hnodup hf hid
  rw [hplaces] at hput
  exact add_right_cancel hput

namespace Nested

theorem each (h : m.Nested) : m.Each fun _ _ => True := ⟨fun _ _ => trivial, h.nodup, h.below⟩

/-- A fiber that waits for no pool has no jobs. -/
theorem jobPlaces_eq_zero (h : m.Nested) (hf : f ∈ m.fibers) (hbody : ¬ f.body.IsGathering) :
    m.jobPlaces f.id = 0 := by
  by_contra hne
  obtain ⟨g, hg, hid, hgathering⟩ := h.parent f.id hne
  rw [eq_of_id h.nodup hf hg hid] at hgathering
  exact hbody hgathering

/-- A change that concerns one fiber and its jobs. -/
theorem of_change (h : m.Nested) (heach : m'.Each fun _ _ => True) (p : Nat)
    (hnew : ∀ k ∈ m'.fibers, k.body.IsGathering → k.id ≠ p → k ∈ m.fibers)
    (hold : ∀ k ∈ m.fibers, k.body.IsGathering → k.id ≠ p → k ∈ m'.fibers)
    (hplacesOf : ∀ q, q ≠ p → m'.jobPlaces q = m.jobPlaces q)
    (hparent : m'.jobPlaces p ≠ 0 → ∃ g ∈ m'.fibers, g.id = p ∧ g.body.IsGathering)
    (hserved : ∀ g ∈ m'.fibers, g.id = p → ∀ waiting results next after,
      g.body = .gathering waiting results next after → m'.jobPlaces p ≠ 0 ∧
        m'.jobPlaces p + (waiting.map Prod.fst : Multiset Nat) = missing results) : m'.Nested where
  nodup := heach.nodup
  below := heach.below
  parent q hq := by
    by_cases heq : q = p
    · exact heq ▸ hparent (heq ▸ hq)
    · rw [hplacesOf q heq] at hq
      obtain ⟨g, hg, rfl, hgathering⟩ := h.parent q hq
      exact ⟨g, hold g hg hgathering heq, rfl, hgathering⟩
  served g hg waiting results next after hbody := by
    by_cases heq : g.id = p
    · rw [heq]
      exact hserved g hg heq waiting results next after hbody
    · have hgathering : g.body.IsGathering := by rw [hbody]; trivial
      rw [hplacesOf g.id heq]
      exact h.served g (hnew g hg hgathering heq) waiting results next after hbody

/-- A fiber goes on that neither waits for a pool nor comes to wait for one. -/
theorem goes (h : m.Nested) (hf : f ∈ m.fibers) (hid : g.id = f.id)
    (hplaces : ∀ p, g.body.places p = f.body.places p) (hfbody : ¬ f.body.IsGathering)
    (hgbody : ¬ g.body.IsGathering) (hfibers : m'.fibers = (m.put g).fibers)
    (hfresh : m.fresh ≤ m'.fresh) : m'.Nested := by
  have heach : m'.Each fun _ _ => True :=
    (h.each.put (g := g) (fun _ _ _ h => h) trivial).congr hfibers hfresh
  have hplacesOf : ∀ q, m'.jobPlaces q = m.jobPlaces q := fun q =>
    (total_congr _ hfibers).trans (jobPlaces_put h.nodup hf hid (hplaces q))
  refine h.of_change heach f.id (fun k hk hgathering hne => ?_) (fun k hk hgathering hne => ?_)
    (fun q _ => hplacesOf q) (fun hne => ?_) fun k hk heq waiting results next after hbody => ?_
  · rw [hfibers] at hk
    rcases mem_of_mem_put hk with rfl | ⟨hk, -⟩
    · exact absurd hgathering hgbody
    · exact hk
  · exact hfibers ▸ mem_put_of_ne hk (hid ▸ hne)
  · exact absurd (h.jobPlaces_eq_zero hf hfbody) (hplacesOf f.id ▸ hne)
  · rw [hfibers] at hk
    rcases mem_of_mem_put hk with rfl | ⟨-, hne⟩
    · rw [hbody] at hgbody
      exact absurd trivial hgbody
    · exact absurd (heq.trans hid.symm) hne

/-- A fiber goes away that neither waits for a pool nor runs a job. -/
theorem quits (h : m.Nested) (hf : f ∈ m.fibers) (hplaces : ∀ p, f.body.places p = 0)
    (hfbody : ¬ f.body.IsGathering) (hfibers : m'.fibers = (m.remove f.id).fibers)
    (hfresh : m'.fresh = m.fresh) : m'.Nested := by
  have heach : m'.Each fun _ _ => True :=
    (h.each.remove (n := f.id) fun _ _ _ h => h).congr hfibers hfresh.ge
  have hplacesOf : ∀ q, m'.jobPlaces q = m.jobPlaces q := fun q => by
    have hremove := total_remove (Body.places q) h.nodup hf
    rw [hplaces q, add_zero] at hremove
    exact (total_congr _ hfibers).trans hremove
  refine h.of_change heach f.id (fun k hk _ _ => ?_) (fun k hk _ hne => ?_)
    (fun q _ => hplacesOf q) (fun hne => ?_) fun k hk heq waiting results next after hbody => ?_
  · rw [hfibers] at hk
    exact (List.mem_filter.1 hk).1
  · rw [hfibers]
    exact List.mem_filter.2 ⟨hk, decide_eq_true hne⟩
  · exact absurd (h.jobPlaces_eq_zero hf hfbody) (hplacesOf f.id ▸ hne)
  · rw [hfibers] at hk
    exact absurd heq (of_decide_eq_true (List.mem_filter.1 hk).2)

private theorem sum_places (parent q : Nat) (js : List (Nat × Routine ρ)) :
    (js.map fun x => (.job parent x.1 x.2 : Body σ ρ α).places q).sum =
      if parent = q then (js.map Prod.fst : Multiset Nat) else 0 := by
  induction js with
  | nil => split <;> rfl
  | cons j js ih =>
    rw [List.map_cons, List.sum_cons, ih, Body.places]
    split <;> rfl

/-- A fiber comes to wait for a pool, and the first jobs start. -/
theorem openPool (h : m.Nested) (hf : f ∈ m.fibers) (hplaces : ∀ p, f.body.places p = 0)
    (hbody : ¬ f.body.IsGathering) (limit : Nat) {jobs : List (Routine ρ)} (hjobs : jobs ≠ [])
    (next : List ρ → Process σ ρ (Option α)) (after : After σ ρ) :
    (m.openPool f limit jobs next after).Nested := by
  set numbered := jobs.zipIdx.map fun x => (x.2, x.1) with hnumbered
  set g : Fiber σ ρ α := { f with
    body := .gathering (numbered.drop (max limit 1)) (jobs.map fun _ => none) next after } with hg
  obtain ⟨extra, hfibers, hextra⟩ := fibers_openPool m f limit hjobs next after
  have htotal := fun q => total_openPool (Body.places q) m f limit hjobs next after
  set m₁ := m.openPool f limit jobs next after
  have heach : m₁.Each fun _ _ => True := (h.each.openPool
    ⟨fun _ _ => trivial, fun _ _ _ => trivial, fun _ _ _ => trivial, fun _ _ => trivial,
      fun _ _ => trivial, fun _ _ _ _ _ => trivial⟩ fun _ _ => trivial).1
  have hold : ∀ k ∈ (m.put g).fibers, k ∈ m₁.fibers := fun k hk => by
    rw [hfibers]
    exact List.mem_append_left _ hk
  have hnew : ∀ k ∈ m₁.fibers, k.body.IsGathering → k ∈ (m.put g).fibers := by
    intro k hk hgathering
    rw [hfibers] at hk
    refine (List.mem_append.1 hk).resolve_right fun hk => ?_
    obtain ⟨j, -, hjob⟩ := List.mem_map.1 (hextra ▸ List.mem_map_of_mem hk)
    rw [← hjob] at hgathering
    exact hgathering
  have hput : ∀ q, (m.put g).jobPlaces q = m.jobPlaces q := fun q =>
    jobPlaces_put (g := g) h.nodup hf rfl (hplaces q).symm
  have hplacesOf : ∀ q, m₁.jobPlaces q = m.jobPlaces q +
      if f.id = q then ((numbered.take (max limit 1)).map Prod.fst : Multiset Nat) else 0 :=
    fun q => by rw [jobPlaces, htotal, sum_places, ← hput q]; rfl
  have hmem : g ∈ (m.put g).fibers := mem_put hf rfl
  refine h.of_change heach f.id (fun k hk hgathering hne => ?_) (fun k hk _ hne => ?_)
    (fun q hq => ?_) (fun _ => ⟨g, hold g hmem, rfl, trivial⟩)
    fun k hk hid waiting results next' after' hkbody => ?_
  · rcases mem_of_mem_put (hnew k hk hgathering) with rfl | ⟨hk, -⟩
    · exact absurd rfl hne
    · exact hk
  · exact hold k (mem_put_of_ne hk hne)
  · rw [hplacesOf, if_neg (Ne.symm hq), add_zero]
  · have hgathering : k.body.IsGathering := by rw [hkbody]; trivial
    obtain rfl : k = g := by
      rcases mem_of_mem_put (hnew k hk hgathering) with rfl | ⟨-, hne⟩
      · rfl
      · exact absurd hid hne
    injection hkbody with hwaiting hresults
    rw [hplacesOf, if_pos rfl, h.jobPlaces_eq_zero hf hbody, zero_add, ← hwaiting, ← hresults,
      missing_none]
    have hrange : numbered.map Prod.fst = List.range jobs.length := by
      rw [hnumbered, List.map_map, List.range_eq_range', ← List.zipIdx_map_snd 0 jobs]
      rfl
    constructor
    · have hpos := List.length_pos_iff.2 hjobs
      rw [ne_eq, Multiset.coe_eq_zero, ← List.length_eq_zero_iff, List.map_take, hrange,
        List.length_take, List.length_range]
      omega
    · rw [Multiset.coe_add, ← List.map_append, List.take_append_drop, hrange]
      rfl

/-- A job goes away, and the fiber that waits for it is put back, perhaps with another job. -/
private theorem of_removed (h : m.Nested) (hf : f ∈ m.fibers) (hg : g ∈ (m.remove f.id).fibers)
    {index : Nat} {r : Routine ρ} (hbody : f.body = .job g.id index r)
    (heach : m'.Each fun _ _ => True) (hid : k.id = g.id) {extra : List (Fiber σ ρ α)}
    (hfibers : m'.fibers = ((m.remove f.id).put k).fibers ++ extra)
    (hextra : ∀ x ∈ extra, ¬ x.body.IsGathering)
    (hplacesOf : ∀ q, q ≠ g.id → m'.jobPlaces q = (m.remove f.id).jobPlaces q)
    (hparent : m'.jobPlaces g.id ≠ 0 → k.body.IsGathering)
    (hserved : ∀ waiting results next after, k.body = .gathering waiting results next after →
      m'.jobPlaces g.id ≠ 0 ∧
        m'.jobPlaces g.id + (waiting.map Prod.fst : Multiset Nat) = missing results) :
    m'.Nested := by
  have hmem : ∀ x ∈ m'.fibers, x.body.IsGathering → x = k ∨ x ∈ m.fibers ∧ x.id ≠ g.id := by
    intro x hx hgathering
    rw [hfibers] at hx
    rcases List.mem_append.1 hx with hx | hx
    · rcases mem_of_mem_put hx with rfl | ⟨hx, hne⟩
      · exact .inl rfl
      · exact .inr ⟨(List.mem_filter.1 hx).1, hid ▸ hne⟩
    · exact absurd hgathering (hextra x hx)
  have hk : k ∈ m'.fibers := hfibers ▸ List.mem_append_left _ (mem_put hg hid.symm)
  refine h.of_change heach g.id (fun x hx hgathering hne => ?_) (fun x hx hgathering hne => ?_)
    (fun q hq => ?_) (fun hne => ⟨k, hk, hid, hparent hne⟩)
    fun x hx heq waiting results next after hxbody => ?_
  · rcases hmem x hx hgathering with rfl | ⟨hx, -⟩
    · exact absurd hid hne
    · exact hx
  · have hxf : x.id ≠ f.id := fun heq => by
      rw [eq_of_id h.nodup hf hx heq, hbody] at hgathering
      exact hgathering
    rw [hfibers]
    exact List.mem_append_left _
      (mem_put_of_ne (List.mem_filter.2 ⟨hx, decide_eq_true hxf⟩) (hid ▸ hne))
  · have hremove := total_remove (Body.places q) h.nodup hf
    rw [hbody, Body.places, if_neg (Ne.symm hq), add_zero] at hremove
    exact (hplacesOf q hq).trans hremove
  · have hgathering : x.body.IsGathering := by rw [hxbody]; trivial
    rcases hmem x hx hgathering with rfl | ⟨-, hne⟩
    · exact hserved waiting results next after hxbody
    · exact absurd heq hne

/-- A job is not left alone by the fiber that waits for it. -/
theorem exists_parent (h : m.Nested) (hf : f ∈ m.fibers) {parent index : Nat} {r : Routine ρ}
    (hbody : f.body = .job parent index r) :
    ∃ g ∈ m.fibers, g.id = parent ∧ g.body.IsGathering := by
  refine h.parent parent fun hzero => ?_
  have hremove := total_remove (Body.places parent) h.nodup hf
  rw [hbody, Body.places, if_pos rfl] at hremove
  have hmem : index ∈ m.jobPlaces parent := by
    rw [jobPlaces, ← hremove]
    exact Multiset.mem_add.2 (.inr (Multiset.mem_singleton_self index))
  exact Multiset.notMem_zero index (hzero ▸ hmem)

/-- When a job is done, its place is no longer missing, and no job runs for it. -/
private theorem jobPlaces_remove (h : m.Nested) (hf : f ∈ m.fibers) (hg : g ∈ m.fibers)
    {index : Nat} {r : Routine ρ} (hbody : f.body = .job g.id index r)
    {waiting : List (Nat × Routine ρ)} {results : List (Option ρ)}
    {next : List ρ → Process σ ρ (Option α)} {after : After σ ρ}
    (hgbody : g.body = .gathering waiting results next after) (result : ρ) :
    (m.remove f.id).jobPlaces g.id + (waiting.map Prod.fst : Multiset Nat) =
      missing (results.set index (some result)) := by
  have hremoved : (m.remove f.id).jobPlaces g.id + {index} = m.jobPlaces g.id := by
    have hremove := total_remove (Body.places g.id) h.nodup hf
    rwa [hbody, Body.places, if_pos rfl] at hremove
  have hindex : index ∈ m.jobPlaces g.id :=
    hremoved ▸ Multiset.mem_add.2 (.inr (Multiset.mem_singleton_self index))
  obtain ⟨-, hbalanced⟩ := h.served g hg waiting results next after hgbody
  have hmissing : index ∈ missing results := hbalanced ▸ Multiset.mem_add.2 (.inl hindex)
  have hset := missing_set hmissing result
  rw [← hbalanced, ← hremoved] at hset
  refine add_right_cancel (b := {index}) ?_
  rw [hset, add_right_comm]

/-- The fiber that waits for a job is found by its number. -/
private theorem find_parent (hnodup : m.ids.Nodup) (hg : g ∈ m.fibers) :
    m.fibers.find? (·.id = g.id) = some g := by
  obtain ⟨k, hk⟩ := Option.isSome_iff_exists.1
    (List.find?_isSome (p := fun k : Fiber σ ρ α => decide (k.id = g.id)).2
      ⟨g, hg, decide_eq_true rfl⟩)
  have hid : k.id = g.id := by simpa using List.find?_some hk
  rw [hk, eq_of_id hnodup hg (List.mem_of_find?_eq_some hk) hid]

/-- A result is handed in: the next job starts, or the fiber goes on with all results, or it waits
for the jobs that still run. -/
theorem deliver (h : m.Nested) (hf : f ∈ m.fibers) {parent index : Nat} {r : Routine ρ}
    (hbody : f.body = .job parent index r) (result : ρ) :
    ((m.remove f.id).deliver parent index result).Nested := by
  have heach : (m.remove f.id).Each fun _ _ => True := h.each.remove fun _ _ _ h => h
  have hputs : ∀ k : Fiber σ ρ α, ((m.remove f.id).put k).Each fun _ _ => True := fun k =>
    heach.put (g := k) (fun _ _ _ h => h) trivial
  have hnothing : ∀ x ∈ ([] : List (Fiber σ ρ α)), ¬ x.body.IsGathering := List.forall_mem_nil _
  have hdelivered := (m.remove f.id).deliver_delivered parent index result
  generalize (m.remove f.id).deliver parent index result = m' at hdelivered ⊢
  cases hdelivered with
  | @starts g i r' waiting results next after hg hid hgbody =>
    subst hid
    have hrest := h.jobPlaces_remove hf (List.mem_filter.1 hg).1 hbody hgbody result
    set k : Fiber σ ρ α :=
      { g with body := .gathering waiting (results.set index (some result)) next after }
    have hplacesOf : ∀ q, (((m.remove f.id).put k).spawn (.job g.id i r')).jobPlaces q =
        (m.remove f.id).jobPlaces q + if g.id = q then {i} else 0 := fun q => by
      rw [jobPlaces, total_spawn, Body.places,
        ← jobPlaces_put (g := k) heach.nodup hg rfl (by rw [hgbody]; rfl)]
      rfl
    refine h.of_removed hf hg hbody ((hputs k).add trivial) (k := k) rfl rfl (fun x hx => ?_)
      (fun q hq => ?_) (fun _ => trivial) fun waiting' results' next' after' hkbody => ?_
    · rw [List.mem_singleton.1 hx]
      exact id
    · rw [hplacesOf, if_neg (Ne.symm hq), add_zero]
    · injection hkbody with hwaiting hresults
      rw [hplacesOf, if_pos rfl, ← hwaiting, ← hresults, ← hrest, List.map_cons,
        ← Multiset.cons_coe, ← Multiset.singleton_add, add_assoc]
      refine ⟨fun hzero => ?_, rfl⟩
      have hmem : i ∈ (m.remove f.id).jobPlaces g.id + {i} :=
        Multiset.mem_add.2 (.inr (Multiset.mem_singleton_self i))
      exact Multiset.notMem_zero i (hzero ▸ hmem)
  | @gathers g results next after hg hid hgbody hall =>
    subst hid
    have hrest := h.jobPlaces_remove hf (List.mem_filter.1 hg).1 hbody hgbody result
    rw [List.map_nil, Multiset.coe_nil, add_zero, missing_eq_zero.2 hall] at hrest
    set k : Fiber σ ρ α := ⟨g.id, (m.remove f.id).now, (m.remove f.id).fresh,
      .process (next ((results.set index (some result)).filterMap id)) after⟩
    have hput : ∀ q, ((m.remove f.id).put k).jobPlaces q = (m.remove f.id).jobPlaces q := fun q =>
      jobPlaces_put (g := k) heach.nodup hg rfl (by rw [hgbody]; rfl)
    refine h.of_removed hf hg hbody ((hputs k).congr rfl (Nat.le_succ _)) (k := k) rfl
      (List.append_nil _).symm hnothing (fun q _ => hput q) (fun hne => ?_) fun _ _ _ _ hkbody => ?_
    · exact absurd ((hput g.id).trans hrest) hne
    · cases hkbody
  | @waits g results next after hg hid hgbody hall =>
    subst hid
    have hrest := h.jobPlaces_remove hf (List.mem_filter.1 hg).1 hbody hgbody result
    set k : Fiber σ ρ α :=
      { g with body := .gathering [] (results.set index (some result)) next after }
    have hput : ∀ q, ((m.remove f.id).put k).jobPlaces q = (m.remove f.id).jobPlaces q := fun q =>
      jobPlaces_put (g := k) heach.nodup hg rfl (by rw [hgbody]; rfl)
    refine h.of_removed hf hg hbody (hputs k) (k := k) rfl (List.append_nil _).symm hnothing
      (fun q _ => hput q) (fun _ => trivial) fun waiting' results' next' after' hkbody => ?_
    injection hkbody with hwaiting hresults
    rw [List.map_nil, Multiset.coe_nil, add_zero] at hrest
    rw [hput g.id, hrest, ← hwaiting, ← hresults]
    exact ⟨mt missing_eq_zero.1 hall, add_zero _⟩
  | unclaimed hnone =>
    obtain ⟨g, hg, rfl, hgathering⟩ := h.exists_parent hf hbody
    obtain ⟨waiting, results, next, after, hgbody⟩ := hgathering.exists
    have hgf : g.id ≠ f.id := fun heq => by
      rw [eq_of_id h.nodup hf hg heq, hbody] at hgbody
      cases hgbody
    have hg₁ : g ∈ (m.remove f.id).fibers := List.mem_filter.2 ⟨hg, decide_eq_true hgf⟩
    exact absurd hgbody (hnone g (find_parent heach.nodup hg₁) _ _ _ _)

theorem of_no_fibers (hfibers : m.fibers = []) : m.Nested where
  nodup := by rw [ids, hfibers]; exact List.nodup_nil
  below i hi := by rw [ids, hfibers] at hi; exact absurd hi List.not_mem_nil
  parent p hp := by rw [jobPlaces, total, hfibers] at hp; exact absurd rfl hp
  served g hg := by rw [hfibers] at hg; exact absurd hg List.not_mem_nil

/-- A fiber is added that neither waits for a pool nor runs a job. -/
theorem spawn (h : m.Nested) {body : Body σ ρ α} (hplaces : ∀ p, body.places p = 0)
    (hbody : ¬ body.IsGathering) : (m.spawn body).Nested := by
  have hplacesOf : ∀ q, (m.spawn body).jobPlaces q = m.jobPlaces q := fun q => by
    rw [jobPlaces, total_spawn, hplaces, add_zero]
    rfl
  have hmem : ∀ k ∈ (m.spawn body).fibers, k.body.IsGathering → k ∈ m.fibers := by
    intro k hk hgathering
    rcases List.mem_append.1 hk with hk | hk
    · exact hk
    · rw [List.mem_singleton.1 hk] at hgathering
      exact absurd hgathering hbody
  refine ⟨(h.each.add trivial).nodup, (h.each.add trivial).below, fun p hp => ?_,
    fun g hg waiting results next after hgbody => ?_⟩
  · obtain ⟨g, hg, hid, hgathering⟩ := h.parent p (hplacesOf p ▸ hp)
    exact ⟨g, List.mem_append_left _ hg, hid, hgathering⟩
  · have hgathering : g.body.IsGathering := by rw [hgbody]; trivial
    rw [hplacesOf]
    exact h.served g (hmem g hg hgathering) waiting results next after hgbody

theorem addLoop (h : m.Nested) (loop : Loop σ ρ) (delay : Span) : (m.addLoop loop delay).Nested :=
  h.spawn (fun _ => rfl) id

theorem of_bodies (h : m.Nested) (hbodies : m'.bodies = m.bodies) (hfresh : m.fresh ≤ m'.fresh) :
    m'.Nested := by
  have heach := h.each.of_bodies hbodies hfresh
  have hplacesOf : ∀ q, m'.jobPlaces q = m.jobPlaces q := fun q => total_of_bodies _ hbodies
  refine ⟨heach.nodup, heach.below, fun p hp => ?_, fun g hg waiting results next after hbody => ?_⟩
  · obtain ⟨g, hg, rfl, hgathering⟩ := h.parent p (hplacesOf p ▸ hp)
    obtain ⟨k, hk, hid, hbody⟩ := exists_of_bodies hbodies.symm hg
    exact ⟨k, hk, hid, hbody ▸ hgathering⟩
  · obtain ⟨k, hk, hid, hkbody⟩ := exists_of_bodies hbodies hg
    rw [hplacesOf, ← hid]
    exact h.served k hk waiting results next after (hkbody.trans hbody)

/-- A step keeps jobs with the fibers that wait for them. -/
theorem stepped (h : m.Nested) (hf : f ∈ m.fibers) (hstepped : m.Stepped f m') : m'.Nested := by
  have hlater : ({ m with now := m.dueAt f.wake } : Machine ν σ ρ α).Nested :=
    ⟨h.nodup, h.below, h.parent, h.served⟩
  cases hstepped with
  | goes g hid hstep hfibers hfresh =>
    exact h.goes hf hid hstep.places_eq hstep.not_gathering.1 hstep.not_gathering.2 hfibers hfresh
  | quits hquits hshared hfibers hfresh =>
    exact h.quits hf hquits.places_eq hquits.not_gathering hfibers hfresh
  | opens hbody hjobs hopen =>
    rw [hopen]
    refine hlater.openPool hf (fun p => ?_) ?_ _ hjobs _ _ <;> rw [hbody]
    · rfl
    · exact id
  | delivers hbody hdeliver =>
    rw [hdeliver]
    exact hlater.deliver hf hbody _

/-- A machine on which nothing can go on has come to its end. -/
theorem fibers_eq_nil (h : m.Nested) {host : Host ν} (hstuck : ∀ m', ¬ m.Moves host m') :
    m.fibers = [] := by
  have hgathering : ∀ k ∈ m.fibers, k.body.IsGathering := by
    intro k hk
    by_contra hbody
    refine hstuck _ ⟨k, hk, ?_, rfl⟩
    unfold Fiber.isRunnable
    split
    · rename_i heq
      rw [heq] at hbody
      exact absurd trivial hbody
    · rfl
  refine List.eq_nil_iff_forall_not_mem.2 fun k hk => ?_
  -- It has a job that runs, which waits for no pool.
  obtain ⟨waiting, results, next, after, hbody⟩ := (hgathering k hk).exists
  refine (h.served k hk waiting results next after hbody).1 ?_
  rw [jobPlaces, total]
  refine List.sum_eq_zero fun x hx => ?_
  obtain ⟨j, hj, rfl⟩ := List.mem_map.1 hx
  obtain ⟨_, _, _, _, hjbody⟩ := (hgathering j hj).exists
  rw [hjbody]
  rfl

end Nested

end Machine
end SeriesReplica.Concurrent
