import SeriesReplica.Proofs.Node.Rows

/-! What a store holds, and that overlays of one store with the same fields only differ in the rows
that have been written. Writing rows again changes nothing, so the rows of one overlay after
another are those of both together. -/
namespace SeriesReplica.Node
open Point Query Schema

namespace StoredPolicy
variable {before middle after : StoredPolicy} {fields : RowKey → Fields} {U V : Finset RowKey}

/-- Rows that are written again, along with others, are written once. -/
theorem Overlaid.trans (h : before.Overlaid fields U middle) (h' : middle.Overlaid fields V after) :
    before.Overlaid fields (U ∪ V) after where
  spec_eq := h'.spec_eq.trans h.spec_eq
  row?_eq k := by
    rw [h'.row?_eq, h.row?_eq]
    by_cases hU : k ∈ U
    · simp [hU, overlay_overlay]
    · simp [hU]
  type?_iff m f t := by
    have hunion : (∃ k ∈ U ∪ V, k.measurement = m ∧ ∃ v, (fields k)[f]? = some v ∧ v.type = t) ↔
        (∃ k ∈ U, k.measurement = m ∧ ∃ v, (fields k)[f]? = some v ∧ v.type = t) ∨
          ∃ k ∈ V, k.measurement = m ∧ ∃ v, (fields k)[f]? = some v ∧ v.type = t := by
      simp only [Finset.mem_union, or_and_right, exists_or]
    rw [h'.type?_iff, h.type?_iff, hunion, or_assoc]

/-- Overlays with the same rows declare the same types. -/
theorem Overlaid.type?_eq (h : before.Overlaid fields U middle)
    (h' : before.Overlaid fields U after) (m f : String) : middle.type? m f = after.type? m f :=
  Option.ext fun t => (h.type?_iff m f t).trans (h'.type?_iff m f t).symm

/-- What the written rows declare agrees with what agrees with all of them. -/
theorem Overlaid.agrees (h : before.Overlaid fields U after)
    {types : String → String → Option FieldType}
    (htypes : ∀ k (f : String) v, (fields k)[f]? = some v → types k.measurement f = some v.type)
    (hbefore : ∀ m f t t', before.type? m f = some t → types m f = some t' → t = t')
    (m f : String) (t t' : FieldType) (ht : after.type? m f = some t)
    (ht' : types m f = some t') : t = t' := by
  rcases (h.type?_iff m f t).1 ht with ht | ⟨k, -, rfl, v, hv, rfl⟩
  · exact hbefore m f t t' ht ht'
  · exact Option.some.inj ((htypes k f v hv).symm.trans ht')

end StoredPolicy

namespace Store

/-- The declared type of a field of a policy. -/
def type? (s : Store) (database policy measurement field : String) : Option FieldType :=
  (s.policy? database policy).bind (·.type? measurement field)

/-- Stores that hold the same: databases with the same policies, and in these the same rows and
the same declared types. -/
structure SameContents (a b : Store) : Prop where
  default_eq : ∀ d, (a.database? d).map (·.default) = (b.database? d).map (·.default)
  spec_eq : ∀ d p, (a.policy? d p).map (·.spec) = (b.policy? d p).map (·.spec)
  row?_eq : ∀ d p k, a.row? d p k = b.row? d p k
  type?_eq : ∀ d p m f, a.type? d p m f = b.type? d p m f

theorem SameContents.refl (s : Store) : s.SameContents s :=
  ⟨fun _ => rfl, fun _ _ => rfl, fun _ _ _ => rfl, fun _ _ _ _ => rfl⟩

variable {before middle after : Store} {database policy : String} {fields : RowKey → Fields}
  {U V : Finset RowKey}

/-- The policy that is overlaid. -/
theorem Overlaid.policy?_eq (h : before.Overlaid database policy fields U after) :
    ∃ p p', before.policy? database policy = some p ∧ after.policy? database policy = some p' ∧
      p.Overlaid fields U p' := by
  obtain ⟨d, d', p, p', hd, hd', -, -, hp, hp', hover⟩ := h.overlaid
  exact ⟨p, p', by rw [policy?, hd, Option.bind_some, hp],
    by rw [policy?, hd', Option.bind_some, hp'], hover⟩

theorem Overlaid.trans (h : before.Overlaid database policy fields U middle)
    (h' : middle.Overlaid database policy fields V after) :
    before.Overlaid database policy fields (U ∪ V) after := by
  obtain ⟨d, d', p, p', hd, hd', hdefault, hpolicies, hp, hp', hover⟩ := h.overlaid
  obtain ⟨e, e', q, q', he, he', hdefault', hpolicies', hq, hq', hover'⟩ := h'.overlaid
  obtain rfl := Option.some.inj (hd'.symm.trans he)
  obtain rfl := Option.some.inj (hp'.symm.trans hq)
  exact ⟨fun n hn => (h'.others n hn).trans (h.others n hn), d, e', p, q', hd, he',
    hdefault'.trans hdefault, fun n hn => (hpolicies' n hn).trans (hpolicies n hn), hp, hq',
    hover.trans hover'⟩

/-- Overlays of one store with the same rows hold the same. -/
theorem Overlaid.same (h : before.Overlaid database policy fields U middle)
    (h' : before.Overlaid database policy fields U after) : middle.SameContents after := by
  obtain ⟨p, q, hp, hq, hpq⟩ := h.policy?_eq
  obtain ⟨p', q', hp', hq', hpq'⟩ := h'.policy?_eq
  obtain rfl := Option.some.inj (hp.symm.trans hp')
  have hothers : ∀ d n, (d, n) ≠ (database, policy) → middle.policy? d n = after.policy? d n :=
    fun d n hne => (h.policy?_ne hne).trans (h'.policy?_ne hne).symm
  refine ⟨fun d => ?_, fun d n => ?_, fun d n k => ?_, fun d n m f => ?_⟩
  · by_cases hd : d = database
    · subst hd
      obtain ⟨e, e', -, -, he, he', hdefault, -⟩ := h.overlaid
      obtain ⟨g, g', -, -, hg, hg', hdefault', -⟩ := h'.overlaid
      obtain rfl := Option.some.inj (he.symm.trans hg)
      rw [he', hg', Option.map_some, Option.map_some, hdefault, hdefault']
    · rw [h.others d hd, h'.others d hd]
  all_goals
    by_cases hne : (d, n) = (database, policy)
  · obtain ⟨rfl, rfl⟩ := Prod.mk.inj hne
    rw [hq, hq', Option.map_some, Option.map_some, hpq.spec_eq, hpq'.spec_eq]
  · rw [hothers d n hne]
  · obtain ⟨rfl, rfl⟩ := Prod.mk.inj hne
    rw [h.row?_eq, h'.row?_eq]
  · rw [row?, row?, hothers d n hne]
  · obtain ⟨rfl, rfl⟩ := Prod.mk.inj hne
    rw [type?, type?, hq, hq', Option.bind_some, Option.bind_some, hpq.type?_eq hpq']
  · rw [type?, type?, hothers d n hne]

end Store
end SeriesReplica.Node
