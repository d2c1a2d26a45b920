import SeriesReplica.Proofs.Node.Listing
import SeriesReplica.Proofs.Schema.Creation

/-! Replication of schemas to a memory node without failures. Databases that are not there yet are
created with all their policies, nothing is reported as an error, and nothing else changes. -/
namespace SeriesReplica.Schema
open Concurrent Time Query Node

variable {start : Instant} {e : Endpoint} {s mid last : Store}

/-- A routine that turns the store of a node into another one, without errors, and leaves the other
nodes alone. -/
def Builds (start : Instant) (c : Client) (r : Routine ReplicationReport) (s last : Store) : Prop :=
  ∀ (net : Network) (now : Span), net.Serves c s → ∃ report net',
    Network.host.exec start r (net, now) = (report, net', now) ∧ report.isClean = true ∧
      net'.Serves c last ∧ ∀ d, d ≠ c → net'.node? d = net.node? d

theorem isClean_append (r s : ReplicationReport) :
    (r.append s).isClean = (r.isClean && s.isClean) := by
  cases hr : r.errors <;> simp [ReplicationReport.isClean, ReplicationReport.append, hr]

theorem builds_pure (c : Client) (s : Store) : Builds start c (pure .empty) s s :=
  fun net _ h => ⟨.empty, net, rfl, rfl, h, fun _ _ => rfl⟩

/-- What two routines build one after the other. -/
theorem Builds.append {c : Client} {first rest : Routine ReplicationReport}
    (hfirst : Builds start c first s mid) (hrest : Builds start c rest mid last) :
    Builds start c (do
      let r ← first
      let r' ← rest
      pure (r.append r')) s last := by
  intro net now h
  obtain ⟨report, net', hexec, hclean, hserves, hothers⟩ := hfirst net now h
  obtain ⟨report', net'', hexec', hclean', hserves', hothers'⟩ := hrest net' now hserves
  refine ⟨report.append report', net'', ?_, ?_, hserves',
    fun d hd => (hothers' d hd).trans (hothers d hd)⟩
  · rw [Host.exec_bind, hexec, Host.exec_bind, hexec']
    rfl
  · rw [isClean_append, hclean, hclean', Bool.and_self]

/-- A statement that the store accepts. -/
theorem builds_execute {st : Statement} {response : Response}
    (h : s.execute (.ofStatement st) = (last, .ok response)) :
    Builds start e.client (Replication.execute e st) s last := by
  intro net now hserves
  obtain ⟨net', hexec, hserves', hothers⟩ := hserves.exec_query start now (.ofStatement st)
  rw [h] at hexec hserves'
  have hreport : ∃ report, Network.host.exec start (Replication.execute e st) (net, now) =
      (report, net', now) ∧ report.isClean = true := by
    rw [Replication.execute, Host.exec_bind, hexec]
    exact ⟨_, rfl, rfl⟩
  obtain ⟨report, hexec, hclean⟩ := hreport
  exact ⟨report, net', hexec, hclean, hserves', hothers⟩

theorem builds_executeAll {ss : List Statement} (h : Accepts s ss last) :
    Builds start e.client (Replication.executeAll e ss) s last := by
  induction ss generalizing s with
  | nil =>
    obtain rfl : last = s := h
    exact builds_pure e.client last
  | cons st ss ih =>
    obtain ⟨response, next, hexecute, hrest⟩ := h
    exact (builds_execute hexecute).append (ih hrest)

/-- A database all of whose statements are accepted. -/
theorem builds_database {d : Database} (hd : d.KeepsNames) (h : Accepts s d.statements last) :
    Builds start e.client (Replication.database e d) s last := by
  obtain ⟨default, hdefault⟩ := Option.isSome_iff_exists.1 hd.default
  rw [statements_eq hd.isInternal_eq hdefault] at h
  intro net now hserves
  have hbuilds : Builds start e.client (Replication.executeAll e (d.creation default)) s last :=
    builds_executeAll h
  obtain ⟨report, net', hexec, hclean, hserves', hothers⟩ := hbuilds net now hserves
  refine ⟨{ report with databases := 1 }, net', ?_, hclean, hserves', hothers⟩
  rw [Replication.database, hd.isInternal_eq, hdefault]
  simp only [Bool.false_eq_true, if_false]
  rw [Host.exec_bind, Host.exec_log, Host.exec_bind, hexec]
  rfl

theorem builds_statements {ds : List Database} (hds : ∀ d ∈ ds, d.KeepsNames)
    (h : Accepts s (ds.flatMap Database.statements) last) :
    Builds start e.client (replicate e ds) s last := by
  induction ds generalizing s with
  | nil =>
    obtain rfl : last = s := h
    exact builds_pure e.client last
  | cons d ds ih =>
    rw [List.flatMap_cons, accepts_append] at h
    obtain ⟨mid, hfirst, hrest⟩ := h
    exact (builds_database (hds d List.mem_cons_self) hfirst).append
      (ih (fun d' hd' => hds d' (List.mem_cons_of_mem _ hd')) hrest)

/-- Databases that are not there yet are created one after another. -/
theorem builds_replicate (start : Instant) (e : Endpoint) {ds : List Database}
    (hds : ∀ d ∈ ds, d.KeepsNames) (hdistinct : ds.Pairwise fun d e => d.name ≠ e.name)
    (hnew : ∀ d ∈ ds, s.database? d.name = none) :
    ∃ last, Builds start e.client (replicate e ds) s last ∧
      (∀ n, (∀ d ∈ ds, d.name ≠ n) → last.database? n = s.database? n) ∧
      ∀ d ∈ ds, ∃ sd, last.database? d.name = some sd ∧ d.IsStored sd := by
  obtain ⟨last, haccepts, hkept, hadded⟩ := accepts_statements hds hdistinct hnew
  exact ⟨last, builds_statements hds haccepts, hkept, hadded⟩

end SeriesReplica.Schema
