import Mathlib.Algebra.BigOperators.Group.List.Basic
import SeriesReplica.Cluster.Replication
import SeriesReplica.Proofs.Sync.Copied

/-! The data of many policies, copied one after another between nodes without failures. Each copy
holds what is decoded of its original within the window, and nothing is counted twice. -/
namespace SeriesReplica.Cluster
open Concurrent Time Schema Sync Node Point

/-- The job that copies a policy over a window. -/
def copyJob (s : Cluster.Settings) (master slave : Endpoint) (start stop : Instant)
    (x : Schema.Database × Schema.Policy) : Job :=
  .ofPolicy master slave x.1 x.2 start stop s.order

/-- The database and the policy in which the copy of a policy is kept. -/
def copyOf (x : Schema.Database × Schema.Policy) : String × String :=
  (x.1.target, x.1.targetPolicy x.2)

/-- What is assumed of a policy that is to be copied: its copy has a name, and no field is keyed
as the time is. -/
structure Copyable (source : Store) (x : Schema.Database × Schema.Policy) : Prop where
  named : (copyOf x).2 ≠ ""
  no_time : ∀ name m, source.measurement? x.1.name x.2.name name = some m →
    m.types["time"]? = none

/-- A policy that is there and holds nothing. -/
def IsBare (s : Store) (c : String × String) : Prop :=
  ∃ p, s.policy? c.1 c.2 = some p ∧ p.measurements = ∅

theorem IsBare.row?_eq {s : Store} {c : String × String} (h : IsBare s c) (k : RowKey) :
    s.row? c.1 c.2 k = none := by
  obtain ⟨p, hp, hempty⟩ := h
  simp [Store.row?, hp, StoredPolicy.row?, hempty]

/-- Copies after a run of syncs, of which the rows in `T` have been counted. -/
structure CopiedAll (source : Store) (job : Schema.Database × Schema.Policy → Job)
    (first past : Int) (ps : List (Schema.Database × Schema.Policy)) (reports : List Report)
    (before after : Store) (T : Finset ((String × String) × RowKey)) : Prop where
  clean : ∀ r ∈ reports, r.isClean = true
  counted : (reports.map (·.totalPoints)).sum = T.card
  mem_iff : ∀ c k, (c, k) ∈ T ↔ ∃ x ∈ ps, copyOf x = c ∧ (job x).Planned source first past k
  rows : ∀ x ∈ ps, ∀ k row, after.row? (copyOf x).1 (copyOf x).2 k = some row ↔
    (job x).Planned source first past k ∧ row = (job x).decoded source k
  others : ∀ c : String × String, (∀ x ∈ ps, copyOf x ≠ c) →
    after.policy? c.1 c.2 = before.policy? c.1 c.2

variable {s : Cluster.Settings} {master slave : Endpoint} {start stop begin : Instant}
  {source before after : Store} {job : Schema.Database × Schema.Policy → Job} {first past : Int}
  {x : Schema.Database × Schema.Policy} {ps : List (Schema.Database × Schema.Policy)}
  {reports : List Report} {T : Finset ((String × String) × RowKey)}

/-- A policy without measurements, or one that has been synced, before the others. -/
theorem CopiedAll.cons {mid : Store} {r : List Report} {U : Finset RowKey}
    (hrest : CopiedAll source job first past ps reports mid after T)
    (hapart : ∀ y ∈ ps, copyOf x ≠ copyOf y)
    (hclean : ∀ q ∈ r, q.isClean = true) (hcounted : (r.map (·.totalPoints)).sum = U.card)
    (hmem : ∀ k, k ∈ U ↔ (job x).Planned source first past k)
    (hrows : ∀ k row, mid.row? (copyOf x).1 (copyOf x).2 k = some row ↔
      (job x).Planned source first past k ∧ row = (job x).decoded source k)
    (hothers : ∀ c : String × String, c ≠ copyOf x → mid.policy? c.1 c.2 = before.policy? c.1 c.2) :
    CopiedAll source job first past (x :: ps) (r ++ reports) before after
      (U.map (.sectR (copyOf x) RowKey) ∪ T) where
  clean q hq := (List.mem_append.1 hq).elim (hclean q) (hrest.clean q)
  counted := by
    rw [List.map_append, List.sum_append, hcounted, hrest.counted, Finset.card_union_of_disjoint,
      Finset.card_map]
    rw [Finset.disjoint_left]
    rintro ⟨c, k⟩ hc hT
    obtain ⟨k', -, heq⟩ := Finset.mem_map.1 hc
    obtain ⟨y, hy, hcy, -⟩ := (hrest.mem_iff c k).1 hT
    exact hapart y hy ((Prod.mk.inj heq).1.trans hcy.symm)
  mem_iff c k := by
    rw [Finset.mem_union, Finset.mem_map, hrest.mem_iff]
    constructor
    · rintro (⟨k', hk', heq⟩ | ⟨y, hy, hc, hk⟩)
      · obtain ⟨rfl, rfl⟩ := Prod.mk.inj heq
        exact ⟨x, List.mem_cons_self, rfl, (hmem k').1 hk'⟩
      · exact ⟨y, List.mem_cons_of_mem _ hy, hc, hk⟩
    · rintro ⟨y, hy, rfl, hk⟩
      rcases List.mem_cons.1 hy with rfl | hy
      · exact .inl ⟨k, (hmem k).2 hk, rfl⟩
      · exact .inr ⟨y, hy, rfl, hk⟩
  rows y hy k row := by
    rcases List.mem_cons.1 hy with rfl | hy
    · have hsame : after.row? (copyOf y).1 (copyOf y).2 k =
          mid.row? (copyOf y).1 (copyOf y).2 k := by
        rw [Store.row?, Store.row?, hrest.others _ fun z hz => (hapart z hz).symm]
      rw [hsame, hrows]
    · exact hrest.rows y hy k row
  others c hc := by
    rw [hrest.others c fun y hy => hc y (List.mem_cons_of_mem _ hy),
      hothers c (hc x List.mem_cons_self).symm]

/-- Nothing is planned of a policy without measurements. -/
theorem not_planned {j : Job} (h : j.sourcePolicy.measurements.isEmpty = true) (k : RowKey) :
    ¬ j.Planned source first past k := by
  rintro ⟨-, hne⟩
  have hnone : j.sourcePolicy.measurements[k.measurement]? = none := by
    rw [Std.ExtTreeMap.isEmpty_iff.1 h, Std.ExtTreeMap.getElem?_empty]
  rw [Job.decoded, hnone] at hne
  simp at hne

/-- A policy of which a copy is there that holds nothing can be synced. -/
theorem Copyable.fits (h : Copyable source x) (hsound : source.Sound)
    (hbare : IsBare before (copyOf x)) (hapart : master.client ≠ slave.client) :
    (copyJob s master slave start stop x).Fits source before where
  apart := hapart
  named := h.named
  sound := hsound
  no_time name _ m _ hm := h.no_time name m hm
  agrees p hp m f t t' ht _ := by
    obtain ⟨q, hq, hempty⟩ := hbare
    obtain rfl := Option.some.inj (hp.symm.trans hq)
    simp [StoredPolicy.type?, hempty] at ht

/-- Policies are synced one after another, and all reports are clean. -/
theorem syncPolicies_yields (hapart : master.client ≠ slave.client) (hwindow : start < stop)
    (hnanos : start.epochNanos < stop.epochNanos) (hchunk : s.sync.chunk.nanos ≠ 0)
    (hsound : source.Sound) (hps : ∀ x ∈ ps, Copyable source x)
    (hdistinct : ps.Pairwise fun x y => copyOf x ≠ copyOf y)
    (hbare : ∀ x ∈ ps, IsBare before (copyOf x)) {scene last : Scene Network Cluster}
    (hmaster : scene.nodes.Serves master.client source)
    (hslave : scene.nodes.Serves slave.client before)
    (h : (syncPolicies s master slave (fun _ => pure (start, stop)) ps).Yields Network.host begin
      reports last scene) :
    ∃ after T, CopiedAll source (copyJob s master slave start stop)
        (plannedFirst start stop s.sync.chunk s.sync.maxRetention) stop.epochNanos.toInt ps reports
        before after T ∧ last.nodes.Serves slave.client after := by
  induction ps generalizing before scene reports with
  | nil =>
    obtain ⟨rfl, rfl⟩ := h
    exact ⟨before, ∅, ⟨by simp, rfl, by simp, by simp, fun _ _ => rfl⟩, hslave⟩
  | cons x ps ih =>
    obtain ⟨hhead, htail⟩ := List.pairwise_cons.1 hdistinct
    have hps' := fun y hy => hps y (List.mem_cons_of_mem x hy)
    have hbare' := fun y hy => hbare y (List.mem_cons_of_mem x hy)
    have hx := hbare x List.mem_cons_self
    obtain ⟨d, p⟩ := x
    rw [syncPolicies] at h
    split at h
    case isTrue hempty =>
      obtain ⟨u, _, hlog, h⟩ := Process.yields_bind.1 h
      obtain rfl := Process.yields_log.1 hlog
      obtain ⟨after, T, hrest, hserves⟩ := ih hps' htail hbare' hmaster hslave h
      have hnone : ∀ k, ¬ (copyJob s master slave start stop (d, p)).Planned source
          (plannedFirst start stop s.sync.chunk s.sync.maxRetention) stop.epochNanos.toInt k :=
        not_planned hempty
      refine ⟨after, _, hrest.cons (r := []) (U := ∅) hhead (by simp) rfl (by simp [hnone])
        (fun k row => ?_) fun _ _ => rfl, hserves⟩
      rw [hx.row?_eq]
      simp [hnone]
    case isFalse =>
      obtain ⟨w, _, ⟨rfl, rfl⟩, h⟩ := Process.yields_bind.1 h
      obtain ⟨result, mid, hsync, h⟩ := Process.yields_bind.1 h
      have ⟨q, hq, _⟩ := hx
      obtain ⟨r, store, U, rfl, hcomplete, hmaster', hslave'⟩ := sync_copies
        ((hps (d, p) List.mem_cons_self).fits hsound hx hapart) hwindow hnanos hchunk
        (Option.isSome_iff_exists.2 ⟨q, hq⟩) hmaster hslave hsync
      -- A sync writes to one copy alone, so those that are still to come hold nothing yet.
      have hbare'' : ∀ y ∈ ps, IsBare store (copyOf y) := by
        intro y hy
        obtain ⟨q', hq', hempty'⟩ := hbare' y hy
        exact ⟨q', (hcomplete.overlaid.policy?_ne (hhead y hy).symm).trans hq', hempty'⟩
      obtain ⟨rest, _, hrest, rfl, rfl⟩ := Process.yields_bind.1 h
      obtain ⟨after, T, hcopied, hserves⟩ := ih hps' htail hbare'' hmaster' hslave' hrest
      exact ⟨after, _, hcopied.cons (r := [r]) hhead (by simp [hcomplete.clean])
        (by simp [hcomplete.counted]) hcomplete.mem_iff (hcomplete.row?_iff hx.row?_eq)
        fun c hc => hcomplete.overlaid.policy?_ne hc, hserves⟩

end SeriesReplica.Cluster
