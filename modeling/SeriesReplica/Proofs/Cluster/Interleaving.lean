import SeriesReplica.Proofs.Cluster.Standing
import SeriesReplica.Proofs.Concurrent.Fibers

/-! Checks side by side. Any number of checks run in any order, next to probes and whatever else
spares the state of their supervisor. At every moment each fiber stands where its marks tell, and
all marks together tell the state: this is what one step keeps, and so every run. -/
namespace SeriesReplica.Cluster
open Concurrent Concurrent.Process Time Sync

variable {ν : Type} {tick : Span} {s : Cluster.Settings} {host : Host ν}

/-- The mark that a change of a cluster leaves: a decision, or the end of a recovery. Where a check
fails, there is none. -/
inductive Leaves (tick : Span) (c : Cluster) : (Cluster → Cluster) → Mark → Prop
  | decided (master : Sighting) {slave : Sighting} {t : Transition}
      (ht : (c.supervisor.verdict tick slave).transition = some t) :
      Leaves tick c (decision tick master slave) (.decided t)
  | finished (elapsed : Span) : Leaves tick c (conclusion elapsed) .finished

theorem Leaves.not_spares {c : Cluster} {change : Cluster → Cluster} {e : Mark}
    (hleaves : Leaves tick c change e) : ¬ Spares change := by
  cases hleaves with
  | decided master ht => exact not_spares_decision tick master _
  | finished elapsed => exact not_spares_conclusion elapsed

/-- A recovery is counted at its end. -/
theorem Leaves.recoveries_eq {c : Cluster} {change : Cluster → Cluster} {e : Mark}
    (hleaves : Leaves tick c change e) (i : Nat) :
    (change c).supervisor.recoveries = c.supervisor.recoveries + (finishers [(i, e)]).length := by
  cases hleaves with
  | @decided master slave _ ht =>
    simp only [decision, Supervisor.step]
    cases c.supervisor.verdict tick slave <;> rfl
  | finished elapsed => rfl

/-- A decision during a recovery changes nothing. -/
theorem Leaves.eq_self {c : Cluster} {change : Cluster → Cluster} {t : Transition}
    (hleaves : Leaves tick c change (.decided t)) (hstate : c.supervisor.state = .recovering) :
    change c = c := by
  generalize he : Mark.decided t = e at hleaves
  cases hleaves with
  | decided master ht =>
    rw [decision, Supervisor.step, Supervisor.verdict, hstate]
    rfl
  | finished elapsed => cases he

/-- A move of a machine that runs checks and, next to them, what spares the state; with the mark
that is left, if there is one. -/
inductive Moves (s : Cluster.Settings) (host : Host ν) (m : Machine ν Cluster Outcome Transition) :
    Chronicle → Machine ν Cluster Outcome Transition → Prop
  /-- Another check begins. -/
  | check : Moves s host m [] (m.spawnFirst (.process (Cluster.check s) .nothing))
  /-- Something else begins, such as a probe. -/
  | join {β : Type} (p : Operation β) (hp : p.Only Spares) :
      Moves s host m [] (m.spawnFirst (.process (p.bind fun _ => .done none) .nothing))
  /-- Time passes, and nodes change. -/
  | pass (nodes : ν) (now : Span) (hnow : m.now ≤ now) :
      Moves s host m [] { m with nodes := nodes, now := now }
  /-- A check decides, or ends its recovery. -/
  | mark {f change next after e} (hf : f ∈ m.fibers)
      (hbody : f.body = .process (.perform (.update change) next) after)
      (hleaves : Leaves s.tick m.shared change e) : Moves s host m [(f.id, e)] (m.resume host f)
  /-- A fiber takes any other step, such as that of a check that fails. -/
  | step {f} (hf : f ∈ m.fibers)
      (hleaves : ∀ change next after e, f.body = .process (.perform (.update change) next) after →
        ¬ Leaves s.tick m.shared change e) : Moves s host m [] (m.resume host f)

/-- Moves in a row, with all marks that they leave. -/
inductive Run (s : Cluster.Settings) (host : Host ν) (m : Machine ν Cluster Outcome Transition) :
    Chronicle → Machine ν Cluster Outcome Transition → Prop
  | start : Run s host m [] m
  | move {h l m₁ m₂} : Run s host m h m₁ → Moves s host m₁ l m₂ → Run s host m (h ++ l) m₂

variable {h l : Chronicle} {m m' m₁ : Machine ν Cluster Outcome Transition}
  {f : Fiber Cluster Outcome Transition} {change : Cluster → Cluster}
  {next : Cluster → Operation (Option Transition)} {after : After Cluster Outcome} {e : Mark}

theorem Run.trans (hrun : Run s host m h m') (hrun' : Run s host m' l m₁) :
    Run s host m (h ++ l) m₁ := by
  induction hrun' with
  | start => rwa [List.append_nil]
  | move hrun' hmove ih =>
    rw [← List.append_assoc]
    exact ih.move hmove

/-- A fiber changes what spares the state. -/
theorem Run.update (s : Cluster.Settings) (host : Host ν) (hf : f ∈ m.fibers)
    (hbody : f.body = .process (.perform (.update change) next) after) (hspares : Spares change) :
    ∃ m', Run s host m [] m' ∧ m'.shared = change m.shared ∧
      { f with body := .process (next m.shared) after } ∈ m'.fibers := by
  have hmove : Moves s host m [] (m.resume host f) :=
    .step hf fun change' next' after' e heq hleaves => by
      injection hbody.symm.trans heq with heq
      injection heq with heffect
      injection heffect with hchange
      exact hleaves.not_spares (hchange ▸ hspares)
  refine ⟨_, Run.start.move hmove, ?_⟩
  rw [Machine.resume_update hbody]
  exact ⟨rfl, Machine.mem_put hf rfl⟩

/-- A fiber reads the clock. -/
theorem Run.clock (s : Cluster.Settings) (host : Host ν)
    {next : Clock → Operation (Option Transition)} (hf : f ∈ m.fibers)
    (hbody : f.body = .process (.perform (.act .clock) next) after) :
    ∃ m', Run s host m [] m' ∧ m'.shared = m.shared ∧ { f with
      body := .process (next ⟨m.start.later (m.dueAt f.wake), m.dueAt f.wake⟩) after } ∈
        m'.fibers := by
  refine ⟨m.resume host f, Run.start.move (.step hf fun _ _ _ _ heq => ?_), ?_⟩
  · exact (nomatch hbody.symm.trans heq)
  · simp only [Machine.resume, hbody, Machine.advanceProcess, Machine.perform,
      Machine.continueAfter]
    exact ⟨rfl, Machine.mem_put hf rfl⟩

/-- What spares the state, such as the outcome of a probe, can come at any time. -/
theorem Run.exists_of_spares (s : Cluster.Settings) (host : Host ν)
    (m : Machine ν Cluster Outcome Transition) (hspares : Spares change) :
    ∃ m', Run s host m [] m' ∧ m'.shared = change m.shared := by
  set p : Operation Unit := .perform (.update change) fun _ => .done ()
  have hjoin : Moves s host m [] _ := .join p (.inl ⟨hspares, fun _ => trivial⟩)
  obtain ⟨m', hrun, hshared, -⟩ := Run.update s host
    (m.mem_spawnFirst (.process (p.bind fun _ => .done none) .nothing)) rfl hspares
  exact ⟨m', (Run.start.move hjoin).trans hrun, hshared⟩

/-- A check that begins can decide at once, by the nodes as they look, whatever else is going on. -/
theorem Run.exists_decision (s : Cluster.Settings) (host : Host ν)
    (m : Machine ν Cluster Outcome Transition) {t : Transition}
    (ht : (m.shared.supervisor.verdict s.tick
      (m.shared.slave.sighting (m.start.later m.now))).transition = some t) :
    ∃ m', Run s host m [(m.fresh, .decided t)] m' ∧
      m'.shared = decision s.tick (m.shared.master.sighting (m.start.later m.now))
        (m.shared.slave.sighting (m.start.later m.now)) m.shared := by
  set change := decision s.tick (m.shared.master.sighting (m.start.later m.now))
    (m.shared.slave.sighting (m.start.later m.now))
  have hread : Spares id := fun _ => rfl
  obtain ⟨m₁, hrun₁, hshared₁, hf₁⟩ := Run.clock s host
    (m.mem_spawnFirst (.process (check s) .nothing)) rfl
  obtain ⟨m₂, hrun₂, hshared₂, hf₂⟩ := Run.update s host hf₁ rfl hread
  obtain ⟨m₃, hrun₃, hshared₃, hf₃⟩ := Run.update s host hf₂ rfl hread
  rw [hshared₂, hshared₁] at hf₃
  have hshared : m₃.shared = m.shared := hshared₃.trans (hshared₂.trans hshared₁)
  have hleaves : Leaves s.tick m₃.shared change (.decided t) := .decided _ (hshared ▸ ht)
  have hreads : Run s host m [] m₃ :=
    (((Run.start.move .check).trans hrun₁).trans hrun₂).trans hrun₃
  refine ⟨_, hreads.move (.mark hf₃ rfl hleaves), ?_⟩
  exact (congrArg Machine.shared (Machine.resume_update rfl)).trans (congrArg change hshared)

/-- A check that has only to write the log answers by its own steps. -/
theorem Run.answers {t : Transition} {p : Operation (Option Transition)}
    (hp : p.Closes (· = some t)) (hf : f ∈ m.fibers) (hbody : f.body = .process p .nothing) :
    ∃ m', Run s host m [] m' ∧ m'.shared = m.shared ∧ m'.answer? f.id = some t := by
  induction p generalizing m f with
  | done result =>
    obtain rfl : result = some t := hp
    refine ⟨m.resume host f, Run.start.move (.step hf fun _ _ _ _ heq => ?_), ?_⟩
    · exact (nomatch hbody.symm.trans heq)
    · rw [Machine.resume_done hbody]
      exact ⟨rfl, List.lookup_cons_self⟩
  | perform effect next ih =>
    match effect with
    | .act (.log line) =>
      set g : Fiber Cluster Outcome Transition := { f with body := .process (next ()) .nothing }
      have hmove : Moves s host m [] (m.resume host f) :=
        .step hf fun _ _ _ _ heq => (nomatch hbody.symm.trans heq)
      have hresume : m.resume host f =
          { m.put g with now := m.dueAt f.wake, log := line :: m.log } := by
        simp only [Machine.resume, hbody, Machine.advanceProcess, Machine.perform,
          Machine.continueAfter]
        rfl
      have hg : g ∈ (m.resume host f).fibers := by
        rw [hresume]
        exact Machine.mem_put hf rfl
      obtain ⟨m', hrun, hshared, hanswer⟩ := ih () (hp ()) hg rfl
      refine ⟨m', (Run.start.move hmove).trans hrun, hshared.trans ?_, hanswer⟩
      rw [hresume]
      rfl
    | .act (.connect ..) | .act (.call ..) | .act (.sleep _) | .act .clock => exact hp.elim
    | .pool .. | .update _ => exact hp.elim

/-- What the marks that have been left tell of a machine: of each fiber where it stands, of all of
them together the state. -/
structure Orderly (tick : Span) (h : Chronicle) (m : Machine ν Cluster Outcome Transition) :
    Prop where
  stands : m.Each fun i b => BodyStands tick (own h i) b ∧ m.answer? i = none
  unknown : ∀ i, m.fresh ≤ i → own h i = [] ∧ m.answer? i = none
  answered : ∀ i t, m.answer? i = some t → own h i = t.marks
  present : ∀ i, own h i ≠ [] → i ∈ m.ids ∨ ∃ t, m.answer? i = some t
  serial : Serial m.shared.supervisor.state h
  recoveries_eq : m.shared.supervisor.recoveries = (finishers h).length
  word : h.map Prod.snd ∈ words m.shared.supervisor.state

namespace Orderly

/-- Before the first check nothing has been done. -/
theorem initial (tick : Span) (start now : Instant) (nodes : ν) (master slave : Monitor) :
    Orderly tick [] (.initial start nodes (.ofMonitors master slave now)) where
  stands := ⟨nofun, List.nodup_nil, nofun⟩
  unknown _ _ := ⟨rfl, rfl⟩
  answered _ _ := nofun
  present _ hne := absurd rfl hne
  serial := ⟨⟨nofun, fun ⟨_, hi⟩ => (nomatch hi)⟩, fun _ _ hi => (nomatch hi)⟩
  recoveries_eq := rfl
  word := Language.nil_mem_kstar _

/-- A step that leaves no mark and gives no answer. -/
theorem quiet (ho : Orderly tick h m)
    (hstands : m'.Each fun i b => BodyStands tick (own h i) b ∧ m.answer? i = none)
    (hids : ∀ i ∈ m.ids, i ∈ m'.ids ∨ own h i = []) (hfresh : m.fresh ≤ m'.fresh)
    (hanswers : m'.answers = m.answers) (hsame : SameState m.shared m'.shared) :
    Orderly tick h m' := by
  have hanswer : m'.answer? = m.answer? := funext fun i => by
    rw [Machine.answer?, Machine.answer?, hanswers]
  refine ⟨hanswer ▸ hstands, fun i hi => ?_, hanswer ▸ ho.answered, fun i hi => ?_,
    hsame.state_eq ▸ ho.serial, hsame.recoveries_eq.trans ho.recoveries_eq,
    hsame.state_eq ▸ ho.word⟩
  · rw [hanswer]
    exact ho.unknown i (Nat.le_trans hfresh hi)
  · rw [hanswer]
    exact (ho.present i hi).imp_left fun hmem => (hids i hmem).resolve_right hi

/-- A new fiber stands at its beginning. -/
theorem spawn (ho : Orderly tick h m) {body : Body Cluster Outcome Transition}
    (hbody : BodyStands tick [] body) : Orderly tick h (m.spawnFirst body) := by
  obtain ⟨hown, hanswer⟩ := ho.unknown m.fresh (Nat.le_refl _)
  refine ho.quiet (ho.stands.add ⟨by rwa [hown], hanswer⟩) (fun i hi => .inl ?_) (Nat.le_succ _)
    rfl rfl
  rw [Machine.ids, Machine.spawnFirst, List.map_append]
  exact List.mem_append_left _ hi

private theorem stable (ho : Orderly tick h m) :
    Machine.Stable (fun i b => BodyStands tick (own h i) b ∧ m.answer? i = none) m.fresh where
  act {_ _ _ after} hb x := by
    cases after with
    | nothing => exact ⟨Stands.act hb.1 x, hb.2⟩
    | tick => exact hb.1.elim
  pool {_ _ _ _ after} hb _ _ := by
    cases after with
    | nothing => exact ⟨Stands.pool hb.1, hb.2⟩
    | tick => exact hb.1.elim
  gathering {_ _ _ _ after} hb _ _ := by
    cases after with
    | nothing => exact ⟨hb.1, hb.2⟩
    | tick => exact hb.1.elim
  gathered {_ _ _ _ after} hb x := by
    cases after with
    | nothing => exact ⟨hb.1.2 _, hb.2⟩
    | tick => exact hb.1.elim
  job hb _ := hb
  started i hi _ _ _ := ho.unknown i hi

/-- What is known where a mark is left: the program stands there, and the state turns. -/
theorem leaves (ho : Orderly tick h m) (hf : f ∈ m.fibers)
    (hbody : f.body = .process (.perform (.update change) next) after)
    (hleaves : Leaves tick m.shared change e) :
    BodyStands tick (own h f.id ++ [e]) (.process (next m.shared) after) ∧
      Turns m.shared.supervisor.state e (change m.shared).supervisor.state ∧
      (e ≠ .finished → own h f.id = []) ∧ (e = .finished → InFlight h f.id) := by
  have hstands := (ho.stands.holds f hf).1
  rw [hbody] at hstands
  cases after with
  | tick => exact hstands.elim
  | nothing =>
    have hnot := hleaves.not_spares
    -- What the program is known to do there must be the same change, so it is of the same kind.
    cases hleaves with
    | @decided master slave t ht =>
      rcases Stands.update hstands with ⟨hspares, -⟩ | ⟨hown, master', slave', heq, hnext⟩ |
        ⟨-, elapsed, heq, -⟩
      · exact absurd hspares hnot
      · have hstood := hnext m.shared
        rw [← verdict_eq_of_decision_eq heq, ht] at hstood
        rw [hown]
        exact ⟨hstood, turns_decision ht, fun _ => rfl, nofun⟩
      · exact absurd heq (decision_ne_conclusion tick master slave elapsed)
    | finished elapsed =>
      rcases Stands.update hstands with ⟨hspares, -⟩ | ⟨-, master, slave, heq, -⟩ |
        ⟨hown, _, -, hnext⟩
      · exact absurd hspares hnot
      · exact absurd heq.symm (decision_ne_conclusion tick master slave elapsed)
      · have hstate := ho.serial.recovering_iff.2 ⟨f.id, hown⟩
        rw [hstate, hown]
        exact ⟨hnext m.shared, .finish, fun hne => absurd rfl hne, fun _ => hown⟩

/-- A step that leaves a mark. -/
theorem mark (ho : Orderly tick h m) (hf : f ∈ m.fibers)
    (hbody : f.body = .process (.perform (.update change) next) after)
    (hleaves : Leaves tick m.shared change e) :
    Orderly tick (h ++ [(f.id, e)]) (m.resume host f) := by
  obtain ⟨hstands, hturn, hdecided, hfinished⟩ := ho.leaves hf hbody hleaves
  have hunanswered := (ho.stands.holds f hf).2
  rw [Machine.resume_update hbody]
  have hput : (m.put { f with body := .process (next m.shared) after }).Each fun i b =>
      BodyStands tick (own (h ++ [(f.id, e)]) i) b ∧ m.answer? i = none := by
    refine ho.stands.put (fun i b hne hb => ?_) ⟨?_, hunanswered⟩
    · rwa [own_append_of_ne hne]
    · rwa [own_append_self]
  refine ⟨hput.congr rfl (Nat.le_refl _), fun i hi => ?_, fun i t hi => ?_, fun i hi => ?_,
    ho.serial.turn hturn hdecided hfinished, ?_, ?_⟩
  · have hne := ho.stands.ne_of_fresh_le hf hi
    rw [own_append_of_ne hne]
    exact ho.unknown i hi
  · have hne : i ≠ f.id := fun heq => by
      subst heq
      exact absurd (hunanswered.symm.trans hi) nofun
    rw [own_append_of_ne hne]
    exact ho.answered i t hi
  · have hids : i ∈ m.ids → i ∈ (m.put { f with body := .process (next m.shared) after }).ids :=
      fun hi => (Machine.ids_put m _).symm ▸ hi
    by_cases hne : i = f.id
    · exact .inl (hids (hne ▸ Machine.mem_ids hf))
    · rw [own_append_of_ne hne] at hi
      exact (ho.present i hi).imp_left hids
  · rw [finishers_append, List.length_append, ← ho.recoveries_eq]
    exact hleaves.recoveries_eq f.id
  · rw [List.map_append]
    exact words_append hturn ho.word

/-- A check that is done has left the marks of its answer. -/
theorem done (ho : Orderly tick h m) (hf : f ∈ m.fibers) {result : Option Transition}
    (hbody : f.body = .process (.done result) .nothing) : Orderly tick h (m.resume host f) := by
  obtain ⟨hstands, hunanswered⟩ := ho.stands.holds f hf
  rw [hbody] at hstands
  rw [Machine.resume_done hbody]
  have hremoved := ho.stands.remove (n := f.id) (Q := fun i b =>
    (BodyStands tick (own h i) b ∧ m.answer? i = none) ∧ i ≠ f.id) fun i b hne hb => ⟨hb, hne⟩
  have hids : ∀ {i}, i ∈ m.ids → i ≠ f.id → i ∈ (m.remove f.id).ids :=
    fun hi hne => Machine.mem_ids_remove.2 ⟨hi, hne⟩
  rcases Stands.done hstands with ⟨rfl, hown⟩ | ⟨t, rfl, hown⟩
  -- It is no check, and nobody waits for its answer.
  · refine ho.quiet ⟨fun g hg => (hremoved.holds g hg).1, hremoved.nodup, hremoved.below⟩
      (fun i hi => ?_) (Nat.le_refl _) rfl rfl
    by_cases hne : i = f.id
    · exact .inr (hne ▸ hown)
    · exact .inl (hids hi hne)
  · have hother : ∀ {i}, i ≠ f.id → List.lookup i ((f.id, t) :: m.answers) = m.answer? i :=
      fun hne => by rw [List.lookup_cons, beq_false_of_ne hne]; rfl
    have hself : List.lookup f.id ((f.id, t) :: m.answers) = some t := List.lookup_cons_self
    refine ⟨⟨fun g hg => ?_, hremoved.nodup, hremoved.below⟩, fun i hi => ?_, fun i t' hi => ?_,
      fun i hi => ?_, ho.serial, ho.recoveries_eq, ho.word⟩
    · obtain ⟨⟨hg, hanswer⟩, hne⟩ := hremoved.holds g hg
      exact ⟨hg, (hother hne).trans hanswer⟩
    · have hne := ho.stands.ne_of_fresh_le hf hi
      exact ⟨(ho.unknown i hi).1, (hother hne).trans (ho.unknown i hi).2⟩
    · by_cases hne : i = f.id
      · subst hne
        rw [← Option.some.inj (hself.symm.trans hi)]
        exact hown
      · exact ho.answered i t' ((hother hne).symm.trans hi)
    · by_cases hne : i = f.id
      · exact .inr ⟨t, hne ▸ hself⟩
      · refine (ho.present i hi).imp (fun hmem => hids hmem hne) ?_
        exact fun ⟨t', ht'⟩ => ⟨t', (hother hne).trans ht'⟩

/-- Any other step keeps the marks in order, and the state. -/
theorem step (ho : Orderly tick h m) (hf : f ∈ m.fibers)
    (hleaves : ∀ change next after e, f.body = .process (.perform (.update change) next) after →
      ¬ Leaves tick m.shared change e) :
    Orderly tick h (m.resume host f) ∧ SameState m.shared (m.resume host f).shared := by
  have hinner : Machine.IsInner f.body → Orderly tick h (m.resume host f) ∧
      SameState m.shared (m.resume host f).shared := fun hinner => by
    obtain ⟨heach, hshared, hanswers, hfresh, hids⟩ :=
      ho.stands.resume host ho.stable hf hinner
    have hsame : SameState m.shared (m.resume host f).shared := by
      rw [hshared]
      rfl
    refine ⟨ho.quiet heach (fun i hi => (hids i hi).imp_right ?_) hfresh hanswers hsame, hsame⟩
    rintro ⟨rfl, parent, index, r, hjob⟩
    have hstands := (ho.stands.holds f hf).1
    rw [hjob] at hstands
    exact hstands
  obtain ⟨hstands, hunanswered⟩ := ho.stands.holds f hf
  match hbody : f.body with
  | .process (.done result) .nothing =>
    refine ⟨ho.done hf hbody, ?_⟩
    rw [Machine.resume_done hbody]
    rfl
  | .process (.perform (.act action) next) after => exact hinner (hbody ▸ trivial)
  | .process (.perform (.pool limit jobs) next) after => exact hinner (hbody ▸ trivial)
  | .job .. => exact hinner (hbody ▸ trivial)
  | .gathering .. => exact hinner (hbody ▸ trivial)
  | .process (.done result) (.tick ..) | .process (.perform (.update _) _) (.tick ..)
  | .waiting .. =>
    rw [hbody] at hstands
    exact hstands.elim
  | .process (.perform (.update change) next) .nothing =>
    rw [hbody] at hstands
    have hnot := fun e => hleaves change next .nothing e hbody
    -- What leaves no mark leaves the state, and the program stands where it stood.
    have hkeeps : BodyStands tick (own h f.id) (.process (next m.shared) .nothing) →
        SameState m.shared (change m.shared) → Orderly tick h (m.resume host f) ∧
          SameState m.shared (m.resume host f).shared := fun hnext hsame => by
      rw [Machine.resume_update hbody]
      have hput := ho.stands.put (g := { f with body := .process (next m.shared) .nothing })
        (fun _ _ _ hb => hb) ⟨hnext, hunanswered⟩
      refine ⟨ho.quiet (hput.congr rfl (Nat.le_refl _)) (fun i hi => .inl ?_) (Nat.le_refl _) rfl
        hsame, hsame⟩
      exact (Machine.ids_put m _).symm ▸ hi
    rcases Stands.update hstands with ⟨hspares, hnext⟩ | ⟨hown, master, slave, rfl, hnext⟩ |
      ⟨-, elapsed, rfl, -⟩
    · exact hkeeps (hnext m.shared) (hspares m.shared)
    · have hstood := hnext m.shared
      cases ht : (m.shared.supervisor.verdict tick slave).transition with
      | none =>
        rw [ht] at hstood
        refine hkeeps (hown ▸ hstood) ?_
        rw [decision_eq_self ht]
        rfl
      | some t => exact absurd (.decided master ht) (hnot _)
    · exact absurd (.finished elapsed) (hnot _)

/-- A move keeps the marks in order, and without a mark it keeps the state. -/
theorem moves (ho : Orderly s.tick h m) (hmove : Moves s host m l m') :
    Orderly s.tick (h ++ l) m' ∧ (l = [] → SameState m.shared m'.shared) := by
  cases hmove with
  | check =>
    rw [List.append_nil]
    exact ⟨ho.spawn (.looking (check_looks s)), fun _ => rfl⟩
  | join p hp =>
    rw [List.append_nil]
    exact ⟨ho.spawn (.aside (hp.bind fun _ => rfl)), fun _ => rfl⟩
  | pass nodes now hnow =>
    rw [List.append_nil]
    exact ⟨ho.quiet (ho.stands.congr rfl (Nat.le_refl _)) (fun _ hi => .inl hi) (Nat.le_refl _) rfl
      rfl, fun _ => rfl⟩
  | mark hf hbody hleaves => exact ⟨ho.mark hf hbody hleaves, nofun⟩
  | step hf hleaves =>
    rw [List.append_nil]
    exact (ho.step hf hleaves).imp_right fun hsame _ => hsame

/-- A run keeps the marks in order, move by move. -/
theorem run (ho : Orderly s.tick h m) (hrun : Run s host m l m') : Orderly s.tick (h ++ l) m' := by
  induction hrun with
  | start => rwa [List.append_nil]
  | move hrun hmove ih =>
    rw [← List.append_assoc]
    exact (ih.moves hmove).1

end Orderly

end SeriesReplica.Cluster
