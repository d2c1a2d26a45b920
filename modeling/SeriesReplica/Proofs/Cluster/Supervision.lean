import SeriesReplica.Node.Network
import SeriesReplica.Proofs.Cluster.Interleaving

/-! What a supervisor can rely on, however its checks run side by side. No two recoveries run at the
same time, each one is counted when it ends and belongs to the check that answers so, a check in
between changes nothing, and the state follows one diagram. -/
namespace SeriesReplica.Cluster
open Concurrent Time Sync

variable {ν : Type} {s : Cluster.Settings} {host : Host ν} {h l : Chronicle}
  {m m' : Machine ν Cluster Outcome Transition}

/-- What holds at any time of a machine that runs checks, with all that the checks have done. -/
structure Supervised (s : Cluster.Settings) (host : Host ν) (h : Chronicle)
    (m : Machine ν Cluster Outcome Transition) : Prop where
  /-- The state is that of a recovery exactly while one is in flight, -/
  recovering_iff : m.shared.supervisor.state = .recovering ↔ ∃ i, InFlight h i
  /-- and never two are. -/
  single : ∀ i k, InFlight h i → InFlight h k → i = k
  /-- The check of a recovery in flight is still running. -/
  running : ∀ i, InFlight h i → i ∈ m.ids ∧ m.answer? i = none
  /-- All recoveries that have ended are counted, -/
  recoveries_eq : m.shared.supervisor.recoveries = (finishers h).length
  /-- each of a check of its own, -/
  finishes_once : (finishers h).Nodup
  /-- which answers that it has recovered if it has answered. -/
  finisher : ∀ i ∈ finishers h, own h i = Transition.recovered.marks ∧
    (i ∈ m.ids ∨ m.answer? i = some .recovered)
  /-- A check answers what it has decided. -/
  decision : ∀ i t t', (i, .decided t) ∈ h → m.answer? i = some t' → t' = t
  /-- A check that has answered has done what the answer tells, and nothing else; -/
  answered : ∀ i t, m.answer? i = some t → own h i = t.marks
  /-- and one that has done so can always go on to answer. -/
  answers : ∀ i t, own h i = Transition.marks t →
    ∃ m', Run s host m [] m' ∧ m'.shared = m.shared ∧ m'.answer? i = some t
  /-- One after another, all that has been done is a word of the language. -/
  word : h.map Prod.snd ∈ words m.shared.supervisor.state

theorem Orderly.supervised (ho : Orderly s.tick h m) : Supervised s host h m := by
  have hcases : ∀ i, own h i = [] ∨ own h i = [.decided .recovered] ∨
      ∃ t : Transition, own h i = t.marks := fun i => by
    by_cases hnil : own h i = []
    · exact .inl hnil
    · rcases ho.present i hnil with hmem | ⟨t, ht⟩
      · obtain ⟨f, hf, rfl⟩ := List.mem_map.1 hmem
        exact (ho.stands.holds f hf).1.marks_cases
      · exact .inr (.inr ⟨t, ho.answered i t ht⟩)
  refine ⟨ho.serial.recovering_iff, ho.serial.single, fun i hi => ?_, ho.recoveries_eq, ?_,
    fun i hi => ?_, fun i t t' hdecided ht' => ?_, ho.answered, fun i t hi => ?_, ho.word⟩
  · rcases ho.present i (hi.trans_ne nofun) with hmem | ⟨t, ht⟩
    · obtain ⟨f, hf, rfl⟩ := List.mem_map.1 hmem
      exact ⟨hmem, (ho.stands.holds f hf).2⟩
    · exact absurd ((ho.answered i t ht).symm.trans hi) t.marks_ne_recovering
  · refine List.nodup_iff_count_le_one.2 fun i => ?_
    rw [count_finishers]
    rcases hcases i with hown | hown | ⟨t, hown⟩ <;> rw [hown]
    · exact Nat.zero_le 1
    · exact Nat.zero_le 1
    · cases t <;> decide
  · have hfinished : .finished ∈ own h i := mem_own.2 (mem_finishers.1 hi)
    have hown : own h i = Transition.recovered.marks := by
      rcases hcases i with hown | hown | ⟨t, hown⟩ <;> rw [hown] at hfinished
      · exact absurd hfinished List.not_mem_nil
      · exact absurd (List.mem_singleton.1 hfinished) nofun
      · rw [hown, Transition.finished_mem_marks.1 hfinished]
    refine ⟨hown, (ho.present i (List.ne_nil_of_mem hfinished)).imp_right fun ⟨t, ht⟩ => ?_⟩
    rw [ht, Transition.marks_injective ((ho.answered i t ht).symm.trans hown)]
  · have hmem := mem_own.2 hdecided
    rw [ho.answered i t' ht'] at hmem
    exact (Transition.decided_mem_marks.1 hmem).symm
  · rcases ho.present i (hi.trans_ne t.marks_ne_nil) with hmem | ⟨t', ht'⟩
    · obtain ⟨f, hf, rfl⟩ := List.mem_map.1 hmem
      have hstands := (ho.stands.holds f hf).1
      rw [hi] at hstands
      match hbody : f.body with
      | .process p .nothing =>
        rw [hbody] at hstands
        exact Run.answers (Stands.closes hstands) hf hbody
      | .gathering _ _ _ .nothing =>
        rw [hbody] at hstands
        exact absurd rfl (hstands.1 t)
      | .job .. =>
        rw [hbody] at hstands
        exact absurd hstands t.marks_ne_nil
      | .process _ (.tick ..) | .gathering _ _ _ (.tick ..) | .waiting .. =>
        rw [hbody] at hstands
        exact hstands.elim
    · obtain rfl := Transition.marks_injective ((ho.answered i t' ht').symm.trans hi)
      exact ⟨m, .start, rfl, ht'⟩

/-- What one move does, at a time when this has been done. -/
structure Turned (h : Chronicle) (m : Machine ν Cluster Outcome Transition) (l : Chronicle)
    (m' : Machine ν Cluster Outcome Transition) : Prop where
  /-- The state turns only where a mark is left, and in the ways there are. -/
  turns : (l = [] ∧ SameState m.shared m'.shared) ∨ ∃ i e, l = [(i, e)] ∧
    Turns m.shared.supervisor.state e m'.shared.supervisor.state
  /-- A check that decides while a recovery is in flight is to answer that the cluster still
  recovers, and it changes nothing at all. -/
  passes : ∀ i t k, l = [(i, .decided t)] → InFlight h k →
    own (h ++ l) i = Transition.stillRecovering.marks ∧ m'.shared = m.shared
  /-- Only a suspected outage leads to a recovery, -/
  enters : ∀ i, l = [(i, .decided .recovered)] → m.shared.supervisor.state = .slaveSuspected
  /-- and it leads nowhere else. -/
  leaves : m.shared.supervisor.state = .slaveSuspected →
    m'.shared.supervisor.state ≠ .slaveSuspected → ∃ i, l = [(i, .decided .recovered)]
  /-- A recovery that ends, whatever has become of its data, leaves a cluster that is fine. -/
  ends : ∀ i, l = [(i, .finished)] → InFlight h i ∧ m'.shared.supervisor.state = .fine ∧
    m'.shared.supervisor.recoveries = m.shared.supervisor.recoveries + 1

theorem Orderly.turned (ho : Orderly s.tick h m) (hmove : Moves s host m l m') :
    Turned h m l m' := by
  have hquiet : l = [] → SameState m.shared m'.shared → Turned h m l m' := by
    rintro rfl hsame
    exact ⟨.inl ⟨rfl, hsame⟩, nofun, nofun,
      fun hstate hne => absurd (hsame.state_eq.trans hstate) hne, nofun⟩
  have hsame := (ho.moves hmove).2
  cases hmove with
  | check | join | pass | step => exact hquiet rfl (hsame rfl)
  | @mark f change next after e hf hbody hleaves =>
    obtain ⟨-, hturn, hdecided, hfinished⟩ := ho.leaves hf hbody hleaves
    have hshared : (m.resume host f).shared = change m.shared := by rw [Machine.resume_update hbody]
    have hcount := hleaves.recoveries_eq f.id
    rw [← hshared] at hturn hcount
    refine ⟨.inr ⟨_, _, rfl, hturn⟩, fun i t k hl hk => ?_, fun i hl => ?_, fun hstate hne => ?_,
      fun i hl => ?_⟩
    · obtain ⟨rfl, rfl⟩ := Prod.mk.inj (List.singleton_inj.1 hl)
      have hstate := ho.serial.recovering_iff.2 ⟨k, hk⟩
      rw [hstate] at hturn
      rw [own_append_self, hdecided nofun, hturn.decided_of_recovering, hshared]
      exact ⟨rfl, hleaves.eq_self hstate⟩
    · obtain ⟨rfl, rfl⟩ := Prod.mk.inj (List.singleton_inj.1 hl)
      exact hturn.suspected_of_recover
    · rw [hstate] at hturn
      exact ⟨f.id, by rw [hturn.recover_of_suspected hne]⟩
    · obtain ⟨rfl, rfl⟩ := Prod.mk.inj (List.singleton_inj.1 hl)
      exact ⟨hfinished rfl, hturn.fine_of_finished, hcount⟩

/-- However checks, probes and recoveries run side by side: recoveries come one after another, each
is counted once, at its end, and belongs to the check that answers so; a check in between changes
nothing; and all that checks do to the state follows one diagram. -/
theorem checks_take_turns {start now : Instant} {nodes : ν} {master slave : Monitor}
    (hrun : Run s host (.initial start nodes (.ofMonitors master slave now)) h m) :
    Supervised s host h m ∧ (∀ l m', Moves s host m l m' → Turned h m l m') ∧
      ∀ l m', Run s host m l m' →
        m.shared.supervisor.recoveries ≤ m'.shared.supervisor.recoveries := by
  have ho : Orderly s.tick h m := (Orderly.initial s.tick start now nodes master slave).run hrun
  refine ⟨ho.supervised, fun l m' => ho.turned, fun l m' hrun' => ?_⟩
  rw [ho.recoveries_eq, (ho.run hrun').recoveries_eq, finishers_append, List.length_append]
  exact Nat.le_add_right _ _

private def tenSeconds : Cluster.Settings :=
  ⟨.ofSecs 10, .forward, ⟨.ofSecs 3600, .ofSecs 3600, 1, 1000, ⟨1, .zero⟩⟩⟩

private def unseenPair : Cluster :=
  .ofMonitors (.unseen "a" .zero .epoch) (.unseen "b" .zero .epoch) .epoch

/-- Two checks see the slave down and back, and a third one comes while the second recovers. -/
theorem checks_take_turns_overlapping :
    ∃ (h : Chronicle) (m : Machine Node.Network Cluster Outcome Transition),
      Run tenSeconds Node.Network.host (.initial .epoch ⟨[]⟩ unseenPair) h m ∧
      h.map Prod.snd = [.decided .slaveDown, .decided .recovered, .decided .stillRecovering] ∧
      m.shared.supervisor.state = .recovering ∧ Supervised tenSeconds Node.Network.host h m := by
  have hseen : Spares fun c => { c with slave := c.slave.succeed ⟨1⟩ ⟨.zero, ""⟩ .epoch } :=
    fun _ => rfl
  obtain ⟨m₁, hrun₁, hshared₁⟩ := Run.exists_decision (t := .slaveDown) tenSeconds
    Node.Network.host (.initial .epoch ⟨[]⟩ unseenPair) rfl
  obtain ⟨m₂, hrun₂, hshared₂⟩ := Run.exists_of_spares tenSeconds Node.Network.host m₁ hseen
  rw [hshared₁] at hshared₂
  obtain ⟨m₃, hrun₃, hshared₃⟩ := Run.exists_decision (t := .recovered) tenSeconds
    Node.Network.host m₂ (by rw [hshared₂]; rfl)
  rw [hshared₂] at hshared₃
  obtain ⟨m₄, hrun₄, hshared₄⟩ := Run.exists_decision (t := .stillRecovering) tenSeconds
    Node.Network.host m₃ (by rw [hshared₃]; rfl)
  rw [hshared₃] at hshared₄
  have hrun := ((hrun₁.trans hrun₂).trans hrun₃).trans hrun₄
  refine ⟨_, m₄, hrun, rfl, ?_, (checks_take_turns hrun).1⟩
  rw [hshared₄]
  rfl

end SeriesReplica.Cluster
