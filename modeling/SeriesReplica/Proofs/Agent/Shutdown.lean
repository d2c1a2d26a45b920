import SeriesReplica.Agent.Watch
import SeriesReplica.Node.Network
import SeriesReplica.Proofs.Cluster.Watching
import SeriesReplica.Proofs.Concurrent.Adequacy

/-! The end of a watch. At whatever moment a watch is stopped, what it is in the middle of is
carried to its end: every schedule ends, and then nothing of the watch is left, no recovery is open
and each one that was begun has been counted once. -/
namespace SeriesReplica.Cluster
open Concurrent Concurrent.Process Time Sync Schema

variable {ν α : Type} {host : Host ν} {start : Instant}

/-- A program that spares the state leaves it. -/
theorem sameState_of_yields {p : Operation α} (h : p.Only Spares) {a : α}
    {scene last : Scene ν Cluster} (hyields : p.Yields host start a last scene) :
    SameState scene.shared last.shared := by
  induction p generalizing scene with
  | done b =>
    obtain ⟨-, rfl⟩ := hyields
    rfl
  | perform effect next ih =>
    cases effect with
    | act action =>
      rw [Yields] at hyields
      have hsame := ih _ (h _) hyields
      exact hsame
    | pool limit jobs =>
      obtain ⟨results, nodes, now, -, -, hyields⟩ := hyields
      have hsame := ih results (h results) hyields
      exact hsame
    | update change =>
      rw [Yields] at hyields
      rcases h with ⟨hchange, hnext⟩ | hnot
      · exact (ih _ (hnext _) hyields).trans (hchange _)
      · exact hnot.elim

/-- What is replicated before a watch begins leaves the state of its cluster alone. -/
theorem only_initialReplication (s : Cluster.Settings) (mode : Agent.Initial) :
    (initialReplication s mode).Only Spares := by
  have hschema : ∀ ds, (initialReplication.schemaStep mode ds).IsReading := fun ds => by
    rw [initialReplication.schemaStep]
    split
    · refine IsReading.bind ?_ fun _ => isReading_pure _
      rw [replicateSchema]
      refine isReading_get.bind fun c => ?_
      split
      · exact isReading_pure _
      · refine (isReading_ofRoutine _).bind fun report => ?_
        split
        · exact (isReading_log _).bind fun _ => isReading_pure _
        · exact isReading_pure _
    · exact isReading_pure _
  have hdata : ∀ ds, (initialReplication.dataStep s mode ds).IsReading := fun ds => by
    rw [initialReplication.dataStep]
    split
    · refine IsReading.bind ?_ fun reports => ?_
      · rw [replicateAll, replicateWith]
        refine isReading_get.bind fun c => isReading_get.bind fun c' => ?_
        dsimp only
        split
        · refine (isReading_syncPolicies s _ _ (fun p => ?_) _).bind fun _ => isReading_pure _
          exact isReading_clock.bind fun _ => isReading_pure _
        · exact isReading_pure _
        · exact isReading_pure _
      · cases reports with
        | error e => exact isReading_pure _
        | ok reports => exact (isReading_log _).bind fun _ => isReading_pure _
    · exact isReading_pure _
  rw [initialReplication]
  split
  · trivial
  · have hrefresh : refreshSchema.Only Spares := blind_refreshSchema.mono fun _ => Blind.spares
    refine (only_log _).bind fun _ => hrefresh.bind fun found => ?_
    cases found with
    | error e => trivial
    | ok ds =>
      refine (only_of_isReading (hschema ds)).bind fun result => ?_
      cases result with
      | error e => trivial
      | ok _ => exact only_of_isReading (hdata ds)

end SeriesReplica.Cluster

namespace SeriesReplica.Agent
open Concurrent Cluster Sync Time

variable {ν σ α : Type} {host : Host ν} {start : Instant} {a : Agent}

/-- A cluster that is opened is fine. -/
theorem openCluster_isNew {master slave : String} {c : Cluster} {scene last : Scene ν σ}
    (h : (a.openCluster master slave : Process σ Outcome _).Yields host start (.ok c) last scene) :
    c.supervisor.state = .fine ∧ c.supervisor.recoveries = 0 := by
  rw [openCluster] at h
  obtain ⟨m, _, -, h⟩ := Process.yields_bind.1 h
  cases m with
  | error e => cases h.1
  | ok m =>
    obtain ⟨s, _, -, h⟩ := Process.yields_bind.1 h
    cases s with
    | error e => cases h.1
    | ok s =>
      obtain ⟨now, _, -, h⟩ := Process.yields_bind.1 h
      cases h.1
      exact ⟨rfl, rfl⟩

/-- A cluster to be watched is fine. -/
theorem prepareWatch_isNew {master slave : String} {order : Order} {c : Cluster}
    {scene last : Scene ν σ} (h : (a.prepareWatch master slave order :
      Process σ Outcome _).Yields host start (.ok c) last scene) :
    c.supervisor.state = .fine ∧ c.supervisor.recoveries = 0 := by
  rw [prepareWatch] at h
  obtain ⟨opened, _, hopened, h⟩ := Process.yields_bind.1 h
  cases opened with
  | error e => cases h.1
  | ok c₀ =>
    obtain ⟨⟨result, c₁⟩, _, hreplicated, h⟩ := Process.yields_bind.1 h
    have hsame := sameState_of_yields (only_initialReplication _ _)
      (Process.yields_withOwn.1 hreplicated).1
    cases result with
    | error e => cases h.1
    | ok _ =>
      obtain ⟨_, _, -, h⟩ := Process.yields_bind.1 h
      cases h.1
      obtain ⟨hfine, hzero⟩ := openCluster_isNew hopened
      exact ⟨hsame.state_eq.trans hfine, hsame.recoveries_eq.trans hzero⟩

/-- A cluster that is entered on the roster is fine. -/
theorem enterWatch_standing {master slave : String} {order : Order} {k : Nat}
    {scene last : Scene ν Roster}
    (h : (a.enterWatch master slave order).Yields host start (.ok k) last scene) :
    last.shared.standing k = some (.fine, 0) := by
  rw [enterWatch] at h
  obtain ⟨prepared, mid, hprepared, h⟩ := Process.yields_bind.1 h
  cases prepared with
  | error e => cases h.1
  | ok c =>
    obtain ⟨hfine, hzero⟩ := prepareWatch_isNew hprepared
    obtain ⟨before, _, hbefore, h⟩ := Process.yields_bind.1 h
    obtain ⟨rfl, rfl⟩ := Process.yields_getAndUpdate.1 hbefore
    obtain ⟨hk, rfl⟩ := h
    cases hk
    have hclusters : (Roster.enlist c mid.shared).clusters[mid.shared.clusters.length]? =
        some ⟨mid.shared.monitors.length, mid.shared.monitors.length + 1, c.supervisor⟩ :=
      List.getElem?_concat_length
    rw [Roster.standing, hclusters, Option.map_some, hfine, hzero]

/-- What holds of three loops that are added to an idle machine holds of all its fibers. -/
private theorem each_addLoop {P : Nat → Body Roster Outcome α → Prop}
    {m : Machine ν Roster Outcome α} (hidle : m.fibers = [])
    {loop₀ loop₁ loop₂ : Loop Roster Outcome} {d₀ d₁ d₂ : Span}
    (h₀ : P m.fresh (.waiting loop₀ (m.now + d₀) false))
    (h₁ : P (m.fresh + 1) (.waiting loop₁ (m.now + d₁) false))
    (h₂ : P (m.fresh + 2) (.waiting loop₂ (m.now + d₂) false)) :
    (((m.addLoop loop₀ d₀).addLoop loop₁ d₁).addLoop loop₂ d₂).Each P := by
  have hnone : m.Each P := by
    refine ⟨fun f hf => ?_, ?_, fun i hi => ?_⟩
    · rw [hidle] at hf
      exact absurd hf List.not_mem_nil
    · rw [Machine.ids, hidle]
      exact List.nodup_nil
    · rw [Machine.ids, hidle] at hi
      exact absurd hi List.not_mem_nil
  have hone : (m.addLoop loop₀ d₀).Each P := hnone.add h₀
  have htwo : ((m.addLoop loop₀ d₀).addLoop loop₁ d₁).Each P := hone.add h₁
  exact htwo.add h₂

/-- A watch that begins on an idle machine. -/
theorem beginWatch_watching (a : Agent) (order : Order) {k : Nat} {m : Machine ν Roster Outcome α}
    (hidle : m.fibers = []) (hfine : m.shared.standing k = some (.fine, 0)) :
    Watching k m.fresh .aside 0 (a.beginWatch order k m) ∧
      (a.beginWatch order k m).ids = [m.fresh, m.fresh + 1, m.fresh + 2] := by
  obtain ⟨member, hmember, -⟩ := Option.map_eq_some_iff.1 hfine
  rw [beginWatch, hmember]
  refine ⟨⟨⟨each_addLoop hidle ?_ ?_ ?_, Nat.lt_succ_self _, nofun, .fine, hfine,
    iff_of_false nofun nofun⟩, ?_, each_addLoop hidle ?_ ?_ ?_⟩, ?_⟩
  · exact ⟨by simp, serves_onMonitor _ _ _⟩
  · exact ⟨by simp, serves_onMonitor _ _ _⟩
  · exact ⟨by simp, serves_supervise _ _ _ _ rfl⟩
  · exact (((Machine.Nested.of_no_fibers hidle).addLoop _ _).addLoop _ _).addLoop _ _
  · simp
  · simp
  · simp
  · simp [Machine.ids, Machine.addLoop, Machine.spawn, hidle]

/-- At whatever moment a watch is stopped, it leaves nothing half done. When all of its loops have
ended, also if some of them have ticked once more, then nothing is left that could reach a node, no
recovery is open, and besides those that were begun later the one under way has been counted. The
loops do end by every schedule, and when they are waited for by the clock. -/
theorem stopped_watch_leaves_nothing_open (a : Agent) (master slave : String) (order : Order)
    (host : Host ν) (start : Instant) (nodes : ν) (roster : Roster) :
    ((Machine.initial start nodes roster).launch (a.enterWatch master slave order)).Inevitably host
      fun m => ∀ k, m.answer? 0 = some (.ok k) → ∀ before m₁,
        Runs k host (a.beginWatch order k m) before m₁ →
        (∀ begun m₂, Runs k host m₁.stopLoops begun m₂ →
          (∀ i ∈ (a.beginWatch order k m).ids, i ∉ m₂.ids) → Settled k m₂ ∧
            (m₂.shared.cluster k).supervisor.recoveries =
              (m₁.shared.cluster k).supervisor.recoveries + m₁.shared.underway k + begun) ∧
        m₁.stopLoops.Inevitably host (fun m₂ => Settled k m₂ ∧ Carried k m₁.shared m₂.shared) ∧
        ∃ enough, ∀ fuel, enough ≤ fuel → Settled k (endWatch host fuel m₁) ∧
          Carried k m₁.shared (endWatch host fuel m₁).shared := by
  refine (Machine.launch_inevitably host start nodes roster _).mono ?_
  rintro m ⟨result, last, hyields, hidle, hanswers, -, hshared, -⟩ k hanswer before m₁ hruns
  rw [Machine.answer?, hanswers] at hanswer
  obtain rfl : result = .ok k := Option.some.inj hanswer
  obtain ⟨hbegun, hids⟩ := beginWatch_watching a order hidle
    (hshared ▸ enterWatch_standing hyields)
  obtain ⟨role₁, c₁, h₁, -⟩ := hbegun.runs hruns
  have hstopped := h₁.alike (Machine.alike_stopLoops m₁)
  have hends := hstopped.inevitably rfl host
  refine ⟨fun begun m₂ hruns₂ hgone => ?_, hends.mono fun _ h => h.2, ?_⟩
  · obtain ⟨role₂, c₂, h₂, hcount⟩ := hstopped.runs hruns₂
    have hfibers := h₂.fibers_eq_nil (hids ▸ hgone)
    refine ⟨h₂.settled hfibers, ?_⟩
    rw [h₂.guarded.recoveries_eq, h₁.guarded.recoveries_eq, h₁.underway_eq, ← hcount,
      Role.underway_eq_zero (h₂.not_recovers hfibers), Nat.add_zero]
  · obtain ⟨enough, henough⟩ := hends.exists_fuel
    refine ⟨enough, fun fuel hfuel => ?_⟩
    obtain ⟨hfibers, hsettled, hcarried⟩ := henough fuel hfuel
    exact ⟨⟨hfibers, fun _ => Machine.not_moves hfibers, hsettled.state_ne⟩, hcarried⟩

private def pair : Agent := .ofConfig { nodes := [{ name := "a" }, { name := "b" }] }

/-- Two nodes, of which the second may be off line. -/
private def pairNodes (isOnline : Bool) : Node.Network :=
  ⟨[.memory (.ofName "a"), .memory ((Node.MemoryNode.ofName "b").setOnline isOnline)]⟩

private abbrev PairMachine := Machine Node.Network Roster Outcome (Except Fault Nat)

/-- A watch over both nodes is prepared. -/
private def pairWatch : PairMachine :=
  ((Machine.initial .epoch (pairNodes true) .empty).launch (pair.enterWatch "a" "b"
    .reverse)).runUntil Node.Network.host (fun _ => false) 100

/-- What follows until its cluster is in a state, if both nodes stay as they are. -/
private def goesOn (state : Cluster.State) (isOnline : Bool) (m : PairMachine) : PairMachine :=
  ({ m with nodes := pairNodes isOnline } : PairMachine).runUntil Node.Network.host
    (fun m => (m.shared.cluster 0).supervisor.state = state) 100

/-- The slave has been down, and the check that sees it again has begun to recover it. -/
private def recoveringWatch : PairMachine :=
  goesOn .recovering true (goesOn .slaveSuspected false (pair.beginWatch .reverse 0 pairWatch))

private theorem runs_recoveringWatch : ∃ begun, Runs 0 Node.Network.host
    (pair.beginWatch .reverse 0 pairWatch) begun recoveringWatch := by
  have hgoesOn : ∀ {n : Nat} {m : PairMachine} (state : Cluster.State) (isOnline : Bool),
      Runs 0 Node.Network.host (pair.beginWatch .reverse 0 pairWatch) n m →
        ∃ begun, Runs 0 Node.Network.host (pair.beginWatch .reverse 0 pairWatch) begun
          (goesOn state isOnline m) := fun {_ m} _ isOnline hruns => by
    have hpass : m.Goes Node.Network.host { m with nodes := pairNodes isOnline } :=
      .pass (pairNodes isOnline) m.now (Nat.le_refl _)
    obtain ⟨_, hbegun⟩ := hruns.exists_goes hpass
    exact hbegun.exists_runUntil _ _
  obtain ⟨_, hsuspected⟩ := hgoesOn .slaveSuspected false .start
  exact hgoesOn .recovering true hsuspected

/-- A slave that was down is being recovered, and in the middle of it the watch is stopped: the
recovery still comes to its end and is counted. -/
theorem stopped_watch_leaves_nothing_open_recovering :
    pairWatch.answer? 0 = some (.ok 0) ∧
      (∃ begun, Runs 0 Node.Network.host (pair.beginWatch .reverse 0 pairWatch) begun
        recoveringWatch) ∧
      (recoveringWatch.shared.cluster 0).supervisor.state = .recovering ∧
      (recoveringWatch.shared.cluster 0).supervisor.recoveries = 0 ∧
      (∀ later m, Runs 0 Node.Network.host recoveringWatch.stopLoops later m →
        (∀ i ∈ (pair.beginWatch .reverse 0 pairWatch).ids, i ∉ m.ids) →
          Settled 0 m ∧ (m.shared.cluster 0).supervisor.recoveries = 1 + later) ∧
      recoveringWatch.stopLoops.Inevitably Node.Network.host (fun m =>
        Settled 0 m ∧ (m.shared.cluster 0).supervisor.recoveries = 1) ∧
      ∃ enough, ∀ fuel, enough ≤ fuel →
        Settled 0 (endWatch Node.Network.host fuel recoveringWatch) ∧
          ((endWatch Node.Network.host fuel recoveringWatch).shared.cluster
            0).supervisor.recoveries = 1 := by
  have hanswer : pairWatch.answer? 0 = some (.ok 0) := by decide +kernel
  have hidle : pairWatch.fibers = [] := by
    refine List.isEmpty_iff.1 ?_
    decide +kernel
  have hstate : (recoveringWatch.shared.cluster 0).supervisor.state = .recovering := by
    decide +kernel
  have hnone : (recoveringWatch.shared.cluster 0).supervisor.recoveries = 0 := by decide +kernel
  have hunderway : recoveringWatch.shared.underway 0 = 1 := if_pos hstate
  obtain ⟨begun, hruns⟩ := runs_recoveringWatch
  obtain ⟨hlate, hends, enough, hclock⟩ := (stopped_watch_leaves_nothing_open pair "a" "b" .reverse
    Node.Network.host .epoch (pairNodes true) .empty).at_end 100 hidle 0 hanswer begun
    recoveringWatch hruns
  have hone : ∀ {r : Roster}, Carried 0 recoveringWatch.shared r →
      (r.cluster 0).supervisor.recoveries = 1 := by
    rintro r ⟨hlow, hhigh⟩
    omega
  rw [hnone, hunderway] at hlate
  exact ⟨hanswer, ⟨begun, hruns⟩, hstate, hnone, hlate, hends.mono fun m h => ⟨h.1, hone h.2⟩,
    enough, fun fuel hfuel => (hclock fuel hfuel).imp_right hone⟩

end SeriesReplica.Agent
