import SeriesReplica.Proofs.Cluster.Guarded
import SeriesReplica.Proofs.Concurrent.Roots
import SeriesReplica.Proofs.Concurrent.Stopping

/-! Watched clusters. On every run of a machine each recovery that is begun is counted once it ends.
When the loops that watch a cluster are told to stop, every schedule ends, and then no recovery is
left open. -/
namespace SeriesReplica.Concurrent

/-- A process that works on a part of a state, one piece after the other. -/
theorem Process.within_bind {σ τ ρ α β : Type} (p : Process τ ρ α) (f : α → Process τ ρ β)
    (read : σ → τ) (put : τ → σ → σ) :
    Process.within read put (p.bind f) =
      (p.within read put).bind fun a => (f a).within read put := by
  induction p with
  | done a => rfl
  | perform effect next ih =>
    cases effect with
    | act action => exact congrArg _ (funext fun x => ih x)
    | pool limit jobs => exact congrArg _ (funext fun x => ih x)
    | update change => exact congrArg _ (funext fun s => ih (read s))

end SeriesReplica.Concurrent

namespace SeriesReplica.Cluster
open Concurrent Concurrent.Process Time Sync

variable {ν α : Type} {host : Host ν} {k n c c' first : Nat} {role role' : Role}
  {m m' m₁ m₂ : Machine ν Roster Outcome α} {ticks : Prop}

section Loops

/-- A loop that works on a monitor leaves all clusters alone. -/
theorem serves_onMonitor (i : Nat) (loop : Loop Monitor Outcome) (checking : Prop) :
    Serves k checking (loop.within (Roster.monitor i) (Roster.putMonitor i)) where
  hello := keeps_onMonitor i loop.hello
  tick := (keeps_onMonitor i loop.tick).decides
  aside _ := keeps_onMonitor i loop.tick
  bye := keeps_onMonitor i loop.bye

/-- The loop that supervises a cluster checks it. -/
theorem serves_supervise (s : Cluster.Settings) (master slave : String) (k : Nat) {checking : Prop}
    (h : checking) : Serves k checking
      ((supervise s master slave).within (Roster.cluster k) (Roster.putCluster k)) where
  hello := keeps_onCluster (only_log _)
  tick := by
    have htick : ((supervise s master slave).within (Roster.cluster k) (Roster.putCluster k)).tick =
        ((check s).within (Roster.cluster k) (Roster.putCluster k)).bind fun _ => .done () :=
      within_bind _ _ _ _
    rw [htick]
    exact (decides_check s).map
  aside hnot := absurd h hnot
  bye := keeps_onCluster (only_log _)

end Loops

namespace Role

/-- Whether a recovery is under way, as a number. -/
def underway : Role → Nat
  | .recovers => 1
  | .aside | .checks => 0

theorem underway_eq_zero (h : role ≠ .recovers) : role.underway = 0 := by
  cases role with
  | recovers => exact absurd rfl h
  | aside | checks => rfl

/-- The most recoveries that may yet come to their end before the role is taken up again. -/
def outlook : Role → Nat
  | .aside => 0
  | .checks | .recovers => 1

theorem Turns.mono {ticks' : Prop} (h : role.Turns ticks c role' c') (himp : ticks → ticks') :
    role.Turns ticks' c role' c' := by
  cases h with
  | stay => exact .stay
  | settle => exact .settle
  | begin => exact .begin
  | finish => exact .finish
  | wake h => exact .wake (himp h)

/-- A recovery that begins is not counted yet. -/
theorem Turns.of_begins (h : role.Turns ticks c role' c') (hbefore : role ≠ .recovers)
    (hafter : role' = .recovers) : c' + role'.underway = c + role.underway + 1 := by
  cases h with
  | stay => exact absurd hafter hbefore
  | settle | wake => cases hafter
  | begin => rfl
  | finish => exact absurd rfl hbefore

/-- With every other turn a recovery under way stays so or is counted. -/
theorem Turns.of_goes (h : role.Turns ticks c role' c')
    (hgoes : role' = .recovers → role = .recovers) :
    c' + role'.underway = c + role.underway := by
  cases h with
  | stay | settle | finish | wake => rfl
  | begin => cases hgoes rfl

/-- What is counted does not get less, and it gets no more than was to be expected. -/
theorem Turns.bounds (h : role.Turns False c role' c') :
    c + role.underway ≤ c' + role'.underway ∧ c' + role'.outlook ≤ c + role.outlook := by
  cases h with
  | stay => exact ⟨Nat.le_refl _, Nat.le_refl _⟩
  | settle | begin | finish => exact ⟨by simp [underway], by simp [outlook]⟩
  | wake h => exact h.elim

end Role

namespace Guarded

theorem state_iff (h : Guarded k n role c m) :
    (m.shared.cluster k).supervisor.state = .recovering ↔ role = .recovers := by
  obtain ⟨s, hstanding, hs⟩ := h.standing
  rw [(Roster.standing_cluster hstanding).1]
  exact hs

theorem recoveries_eq (h : Guarded k n role c m) :
    (m.shared.cluster k).supervisor.recoveries = c := by
  obtain ⟨s, hstanding, -⟩ := h.standing
  exact (Roster.standing_cluster hstanding).2

theorem alike (h : Guarded k n role c m) (halike : m.Alike m') : Guarded k n role c m' :=
  h.congr halike.bodies_eq halike.fresh_eq.ge halike.shared_eq

end Guarded

/-- A machine on which a cluster is watched by loops with three numbers in a row, the last of
which checks it. -/
structure Watching (k first : Nat) (role : Role) (c : Nat) (m : Machine ν Roster Outcome α) :
    Prop where
  guarded : Guarded k (first + 2) role c m
  nested : m.Nested
  rooted : m.Rooted [first, first + 1, first + 2]

namespace Watching

theorem alike (h : Watching k first role c m) (halike : m.Alike m') :
    Watching k first role c m' :=
  ⟨h.guarded.alike halike, h.nested.alike halike, h.rooted.alike halike⟩

theorem moves (h : Watching k first role c m) (hmoves : m.Moves host m') :
    ∃ role' c', Watching k first role' c' m' ∧ role.Turns (m.stopping = false) c role' c' := by
  obtain ⟨f, hf, hrun, heq⟩ := id hmoves
  obtain ⟨role', c', hguarded, hturns⟩ := h.guarded.resume hf hrun host
  exact ⟨role', c', ⟨heq ▸ hguarded, h.nested.moves hmoves, h.rooted.moves hmoves⟩, hturns⟩

theorem goes (h : Watching k first role c m) (hgoes : m.Goes host m') :
    ∃ role' c', Watching k first role' c' m' ∧ role.Turns True c role' c' := by
  obtain ⟨m₁, m₂, hm₁, heq | hmoves, hm₂⟩ := hgoes.exists
  · exact ⟨role, c, (h.alike hm₁).alike (heq ▸ hm₂), .stay⟩
  · obtain ⟨role', c', hwatching, hturns⟩ := (h.alike hm₁).moves hmoves
    exact ⟨role', c', hwatching.alike hm₂, hturns.mono fun _ => trivial⟩

/-- Once the watchers are gone, nothing is left to be done. -/
theorem fibers_eq_nil (h : Watching k first role c m)
    (hgone : ∀ i ∈ [first, first + 1, first + 2], i ∉ m.ids) : m.fibers = [] :=
  h.rooted.fibers_eq_nil h.nested hgone

/-- Where nothing is left to be done, no recovery is under way. -/
theorem not_recovers (h : Watching k first role c m) (hfibers : m.fibers = []) :
    role ≠ .recovers := by
  intro hrole
  have hpresent := h.guarded.present hrole
  rw [Machine.ids, hfibers] at hpresent
  exact List.not_mem_nil hpresent

end Watching

/-- Whether a cluster is recovering, as a number. -/
def Roster.underway (k : Nat) (r : Roster) : Nat :=
  if (r.cluster k).supervisor.state = .recovering then 1 else 0

theorem Watching.underway_eq (h : Watching k first role c m) :
    m.shared.underway k = role.underway := by
  rw [Roster.underway]
  cases role with
  | recovers => exact if_pos (h.guarded.state_iff.2 rfl)
  | aside | checks => exact if_neg fun hstate => nomatch h.guarded.state_iff.1 hstate

/-- What may happen on a machine in a row, with the number of recoveries of a cluster that are
begun meanwhile. -/
inductive Runs (k : Nat) (host : Host ν) (m : Machine ν Roster Outcome α) :
    Nat → Machine ν Roster Outcome α → Prop
  | start : Runs k host m 0 m
  | begins {n : Nat} {m₁ m₂ : Machine ν Roster Outcome α} (hruns : Runs k host m n m₁)
    (hgoes : m₁.Goes host m₂) (hbefore : (m₁.shared.cluster k).supervisor.state ≠ .recovering)
    (hafter : (m₂.shared.cluster k).supervisor.state = .recovering) : Runs k host m (n + 1) m₂
  | goes {n : Nat} {m₁ m₂ : Machine ν Roster Outcome α} (hruns : Runs k host m n m₁)
    (hgoes : m₁.Goes host m₂)
    (hstate : (m₂.shared.cluster k).supervisor.state = .recovering →
      (m₁.shared.cluster k).supervisor.state = .recovering) : Runs k host m n m₂

namespace Runs

/-- Nothing that may happen is left out. -/
theorem exists_goes (hruns : Runs k host m n m₁) (hgoes : m₁.Goes host m₂) :
    ∃ begun, Runs k host m begun m₂ := by
  by_cases hafter : (m₂.shared.cluster k).supervisor.state = .recovering
  · by_cases hbefore : (m₁.shared.cluster k).supervisor.state = .recovering
    · exact ⟨n, hruns.goes hgoes fun _ => hbefore⟩
    · exact ⟨n + 1, hruns.begins hgoes hbefore hafter⟩
  · exact ⟨n, hruns.goes hgoes fun hstate => absurd hstate hafter⟩

/-- A run by the clock is one of these runs. -/
theorem exists_runUntil (hruns : Runs k host m n m₁) (holds : Machine ν Roster Outcome α → Bool)
    (fuel : Nat) : ∃ begun, Runs k host m begun (m₁.runUntil host holds fuel) := by
  induction fuel generalizing n m₁ with
  | zero => exact ⟨n, hruns⟩
  | succ fuel ih =>
    rw [Machine.runUntil]
    split
    · exact ⟨n, hruns⟩
    · cases hfirst : m₁.first? with
      | none => exact ⟨n, by rwa [Machine.step, hfirst]⟩
      | some f =>
        obtain ⟨hf, hrun⟩ := Machine.first?_eq_some hfirst
        obtain ⟨begun, hbegun⟩ := hruns.exists_goes (.step ⟨f, hf, hrun, rfl⟩)
        rw [Machine.step, hfirst]
        exact ih hbegun

end Runs

/-- On every run each recovery that is begun is counted, or it is still under way. -/
theorem Watching.runs (h : Watching k first role c m) (hruns : Runs k host m n m') :
    ∃ role' c', Watching k first role' c' m' ∧
      c' + role'.underway = c + role.underway + n := by
  induction hruns with
  | start => exact ⟨role, c, h, rfl⟩
  | @begins n m₁ m₂ _ hgoes hbefore hafter ih =>
    obtain ⟨role₁, c₁, h₁, hcount⟩ := ih
    obtain ⟨role₂, c₂, h₂, hturns⟩ := h₁.goes hgoes
    refine ⟨role₂, c₂, h₂, ?_⟩
    rw [hturns.of_begins (mt h₁.guarded.state_iff.2 hbefore) (h₂.guarded.state_iff.1 hafter),
      hcount]
    rfl
  | @goes n m₁ m₂ _ hgoes hstate ih =>
    obtain ⟨role₁, c₁, h₁, hcount⟩ := ih
    obtain ⟨role₂, c₂, h₂, hturns⟩ := h₁.goes hgoes
    refine ⟨role₂, c₂, h₂, ?_⟩
    rw [← hcount]
    exact hturns.of_goes fun hrole =>
      h₁.guarded.state_iff.1 (hstate (h₂.guarded.state_iff.2 hrole))

/-- Nothing is left to be done on a machine, and no recovery of a cluster is left open. -/
structure Settled (k : Nat) (m : Machine ν Roster Outcome α) : Prop where
  fibers_eq : m.fibers = []
  not_moves : ∀ (host : Host ν) m', ¬ m.Moves host m'
  state_ne : (m.shared.cluster k).supervisor.state ≠ .recovering

theorem Watching.settled (h : Watching k first role c m) (hfibers : m.fibers = []) :
    Settled k m :=
  ⟨hfibers, fun _ => Machine.not_moves hfibers,
    mt h.guarded.state_iff.1 (h.not_recovers hfibers)⟩

/-- A recovery that was under way has been carried to its end and counted once; and if there was
none, then at most one that had just been decided. -/
def Carried (k : Nat) (r r' : Roster) : Prop :=
  (r.cluster k).supervisor.recoveries + r.underway k ≤ (r'.cluster k).supervisor.recoveries ∧
    (r'.cluster k).supervisor.recoveries ≤ (r.cluster k).supervisor.recoveries + 1

/-- What may come of a watch whose loops are told to stop. -/
def Ending (k first : Nat) (role : Role) (c : Nat) (m : Machine ν Roster Outcome α) : Prop :=
  ∃ role' c', Watching k first role' c' m ∧ c + role.underway ≤ c' + role'.underway ∧
    c' + role'.outlook ≤ c + role.outlook

theorem Ending.moves (h : Ending k first role c m) (hstopping : m.stopping = true)
    (hmoves : m.Moves host m') : Ending k first role c m' := by
  obtain ⟨role₁, c₁, h₁, hlow, hhigh⟩ := h
  obtain ⟨role₂, c₂, h₂, hturns⟩ := h₁.moves hmoves
  have hnever : m.stopping = false → False := fun hgoing => nomatch hstopping.symm.trans hgoing
  obtain ⟨hlow', hhigh'⟩ := (hturns.mono hnever).bounds
  exact ⟨role₂, c₂, h₂, hlow.trans hlow', hhigh'.trans hhigh⟩

theorem Ending.carried (h : Watching k first role c m) (hending : Ending k first role c m')
    (hfibers : m'.fibers = []) : Settled k m' ∧ Carried k m.shared m'.shared := by
  obtain ⟨role', c', h', hlow, hhigh⟩ := hending
  refine ⟨h'.settled hfibers, ?_⟩
  have hunder := Role.underway_eq_zero (h'.not_recovers hfibers)
  have hone : role.outlook ≤ 1 := by cases role <;> decide
  rw [Carried, h.underway_eq, h.guarded.recoveries_eq, h'.guarded.recoveries_eq]
  omega

/-- Loops that are told to stop do so by every schedule, and leave nothing half done. -/
theorem Watching.inevitably (h : Watching k first role c m) (hstopping : m.stopping = true)
    (host : Host ν) : m.Inevitably host fun m' => m'.fibers = [] ∧ Settled k m' ∧
      Carried k m.shared m'.shared := by
  have hbegin : Ending k first role c m := ⟨role, c, h, Nat.le_refl _, Nat.le_refl _⟩
  have hkeeps : ∀ m₁ m₂ : Machine ν Roster Outcome α, m₁.stopping = true →
      Ending k first role c m₁ → m₁.Moves host m₂ → Ending k first role c m₂ :=
    fun _ _ hstopping₁ hending hmoves => hending.moves hstopping₁ hmoves
  exact (h.nested.inevitably hstopping hbegin hkeeps).mono fun m' ⟨hfibers, hending⟩ =>
    ⟨hfibers, hending.carried h hfibers⟩

end SeriesReplica.Cluster
