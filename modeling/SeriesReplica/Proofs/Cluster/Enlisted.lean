import SeriesReplica.Cluster.Roster
import SeriesReplica.Proofs.Cluster.Locking

/-! Clusters on a roster. A program that works on a cluster or on a monitor of a roster does to the
roster what it does to its part. What counts of a cluster here is the state of its supervisor and
the number of its recoveries: probes leave both alone, and a check comes to one decision. -/
namespace SeriesReplica.Concurrent

variable {σ τ ρ α : Type}

/-- A process that works on a part of a state changes the state where it changes the part. -/
theorem Process.Until.within {K : (τ → τ) → Prop} {L : (τ → τ) → (τ → Process τ ρ α) → Prop}
    {K' : (σ → σ) → Prop} {L' : (σ → σ) → (σ → Process σ ρ α) → Prop} {E : α → Prop}
    {p : Process τ ρ α} (h : p.Until K L E) {read : σ → τ} {put : τ → σ → σ}
    (hK : ∀ change, K change → K' fun s => put (change (read s)) s)
    (hL : ∀ change next, L change next →
      L' (fun s => put (change (read s)) s) fun s => (next (read s)).within read put) :
    (p.within read put).Until K' L' E := by
  induction p with
  | done a => exact h
  | perform effect next ih =>
    cases effect with
    | act action => exact fun x => ih x (h x)
    | pool limit jobs => exact fun x => ih x (h x)
    | update change =>
      rcases h with ⟨hchange, hnext⟩ | hlast
      · exact .inl ⟨hK change hchange, fun s => ih (read s) (hnext (read s))⟩
      · exact .inr (hL change next hlast)

theorem Process.Closes.only {K : (σ → σ) → Prop} {E : α → Prop} {p : Process σ ρ α}
    (h : p.Closes E) : p.Only K :=
  Until.mono h.until (fun _ hc => hc) (fun _ _ hl => hl) fun _ _ => trivial

end SeriesReplica.Concurrent

namespace SeriesReplica.Cluster
open Concurrent Concurrent.Process Time Sync

namespace Roster

/-- The state of a cluster and the number of its recoveries. -/
def standing (k : Nat) (r : Roster) : Option (State × Nat) :=
  r.clusters[k]?.map fun m => (m.supervisor.state, m.supervisor.recoveries)

theorem standing_cluster {k : Nat} {r : Roster} {s : State} {n : Nat}
    (h : r.standing k = some (s, n)) :
    (r.cluster k).supervisor.state = s ∧ (r.cluster k).supervisor.recoveries = n := by
  obtain ⟨m, hm, heq⟩ := Option.map_eq_some_iff.1 h
  have hsupervisor : (r.cluster k).supervisor = m.supervisor := by
    rw [show (r.cluster k).supervisor = (r.clusters[k]?.getD _).supervisor from rfl, hm]
    rfl
  rw [hsupervisor]
  exact ⟨congrArg Prod.fst heq, congrArg Prod.snd heq⟩

theorem standing_putCluster (k : Nat) (c : Cluster) (r : Roster) :
    (r.putCluster k c).standing k =
      (r.standing k).map fun _ => (c.supervisor.state, c.supervisor.recoveries) := by
  have hclusters : (r.putCluster k c).clusters =
      r.clusters.set k { r.clusters[k]?.getD _ with supervisor := c.supervisor } := rfl
  rw [standing, standing, hclusters, List.getElem?_set_self']
  cases r.clusters[k]? <;> rfl

end Roster

variable {α β : Type}

/-- A change of a roster that leaves the state of a cluster and the number of its recoveries. -/
def SparesAt (k : Nat) (change : Roster → Roster) : Prop :=
  ∀ r, (change r).standing k = r.standing k

/-- A program that leaves them. -/
def Keeps (k : Nat) (p : Process Roster Outcome α) : Prop := p.Only (SparesAt k)

/-- A program in the middle of a recovery, to the end of which it certainly comes. -/
def Concludes (k : Nat) (p : Process Roster Outcome α) : Prop :=
  p.Until (SparesAt k) (fun change next => ∀ r s n, r.standing k = some (s, n) →
    (change r).standing k = some (.fine, n + 1) ∧ Keeps k (next r)) fun _ => False

/-- A program that may come to one decision, and begins a recovery if it decides so. -/
def Decides (k : Nat) (p : Process Roster Outcome α) : Prop :=
  p.Until (SparesAt k) (fun change next => ∀ r s n, r.standing k = some (s, n) → s ≠ .recovering →
    ∃ s', (change r).standing k = some (s', n) ∧
      ((s' ≠ .recovering ∧ Keeps k (next r)) ∨ (s' = .recovering ∧ Concludes k (next r))))
    fun _ => True

section Programs
variable {k : Nat} {p : Process Roster Outcome α}

theorem Keeps.decides (h : Keeps k p) : Decides k p :=
  Until.mono h (fun _ hc => hc) (fun _ _ hl => hl.elim) fun _ _ => trivial

theorem Keeps.bind {f : α → Process Roster Outcome β} (h : Keeps k p)
    (hf : ∀ a, Keeps k (f a)) : Keeps k (p.bind f) :=
  Only.bind h hf

theorem Keeps.decides_bind {f : α → Process Roster Outcome β} (h : Keeps k p)
    (hf : ∀ a, Decides k (f a)) : Decides k (p.bind f) :=
  Only.bind h hf

theorem Concludes.map {f : α → β} (h : Concludes k p) :
    Concludes k (p.bind fun a => .done (f a)) := by
  refine Until.bind h (fun change next hl r s n hr => ?_) fun _ ha => ha.elim
  exact ⟨(hl r s n hr).1, (hl r s n hr).2.bind fun _ => trivial⟩

theorem Decides.map {f : α → β} (h : Decides k p) : Decides k (p.bind fun a => .done (f a)) := by
  refine Until.bind h (fun change next hl r s n hr hs => ?_) fun _ _ => trivial
  obtain ⟨s', hstanding, hnext⟩ := hl r s n hr hs
  refine ⟨s', hstanding, hnext.imp (fun ⟨hs', hkeeps⟩ => ⟨hs', hkeeps.bind fun _ => trivial⟩) ?_⟩
  exact fun ⟨hs', hconcludes⟩ => ⟨hs', hconcludes.map⟩

end Programs

section Parts
variable {k : Nat}

/-- A program that works on a monitor keeps all clusters as they are. -/
theorem keeps_onMonitor (i : Nat) (p : Process Monitor Outcome α) :
    Keeps k (p.within (Roster.monitor i) (Roster.putMonitor i)) := by
  induction p with
  | done a => trivial
  | perform effect next ih =>
    cases effect with
    | act action => exact fun x => ih x
    | pool limit jobs => exact fun x => ih x
    | update change => exact .inl ⟨fun _ => rfl, fun s => ih _⟩

theorem sparesAt_of_spares {change : Cluster → Cluster} (h : Spares change) :
    SparesAt k fun r => r.putCluster k (change (r.cluster k)) := by
  intro r
  rw [Roster.standing_putCluster]
  cases hr : r.standing k with
  | none => rfl
  | some x =>
    obtain ⟨hstate, hrecoveries⟩ := Roster.standing_cluster hr
    rw [Option.map_some, (h _).state_eq, (h _).recoveries_eq, hstate, hrecoveries]

theorem keeps_onCluster {p : Operation α} (h : p.Only Spares) :
    Keeps k (p.within (Roster.cluster k) (Roster.putCluster k)) :=
  Until.within h (fun _ => sparesAt_of_spares) fun _ _ hl => hl.elim

theorem concludes_onCluster {E : α → Prop} {p : Operation α} (h : Recovers E p) :
    Concludes k (p.within (Roster.cluster k) (Roster.putCluster k)) := by
  refine Until.within h (fun _ => sparesAt_of_spares) ?_
  rintro _ next ⟨elapsed, rfl, hnext⟩ r s n hr
  refine ⟨?_, keeps_onCluster (hnext _).only⟩
  rw [Roster.standing_putCluster, hr, Option.map_some, ← (Roster.standing_cluster hr).2]
  rfl

/-- A cluster that is not recovering begins to if this is decided. -/
theorem step_recovering_iff {s : Supervisor} (h : s.state ≠ .recovering) (tick : Span)
    (master slave : Sighting) : (s.step tick master slave).state = .recovering ↔
      (s.verdict tick slave).transition = some .recovered := by
  have hverdict : s.verdict tick slave ≠ .stillRecovering := by
    rw [Supervisor.verdict]
    cases hstate : s.state <;> cases slave.isUp <;> try simp_all
    cases s.slave.lastOk.earlier? (Supervisor.margin tick) <;> simp
  rw [Supervisor.step]
  cases hv : s.verdict tick slave <;>
    simp_all [Supervisor.enter, Supervisor.track, Verdict.transition]

/-- A check comes to a decision. -/
theorem decides_check (s : Cluster.Settings) :
    Decides k ((check s).within (Roster.cluster k) (Roster.putCluster k)) := by
  refine Until.mono (Until.within (check_looks s) (fun _ => sparesAt_of_spares) ?_)
    (fun _ hc => hc) (fun _ _ hl => hl) fun _ ha => ha.elim
  rintro _ next ⟨master, slave, rfl, hnext⟩ r state n hr hstate
  obtain ⟨hc, hn⟩ := Roster.standing_cluster hr
  have hne : (r.cluster k).supervisor.state ≠ .recovering := hc ▸ hstate
  have hiff := step_recovering_iff hne s.tick master slave
  have hcount : (decision s.tick master slave (r.cluster k)).supervisor.recoveries = n := by
    rw [← hn]
    simp only [decision, Supervisor.step]
    cases (r.cluster k).supervisor.verdict s.tick slave <;> rfl
  refine ⟨_, by rw [Roster.standing_putCluster, hr, Option.map_some, hcount], ?_⟩
  rcases hnext (r.cluster k) with ⟨hv, hrecovers⟩ | ⟨hv, hcloses⟩
  · exact .inr ⟨hiff.2 hv, concludes_onCluster hrecovers⟩
  · exact .inl ⟨mt hiff.1 hv, keeps_onCluster hcloses.only⟩

end Parts
end SeriesReplica.Cluster
