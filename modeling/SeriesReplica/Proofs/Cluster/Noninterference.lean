import SeriesReplica.Node.Network
import SeriesReplica.Proofs.Cluster.Sequential

/-! The master never steers a cluster. However the nodes answer, what checks do is the story of what
was seen of the slave and of when the checks looked at it: with what the check under way has yet to
do, this is kept by whatever happens. -/
namespace SeriesReplica.Cluster
open Concurrent Concurrent.Process Time Sync

variable {ν : Type} {s : Cluster.Settings} {host : Host ν}

/-- A check that is under way, and its stage. -/
abbrev Underway := Option (Nat × Stage)

namespace Underway

/-- The stage of a fiber if it is the one that checks. -/
def stage (u : Underway) (i : Nat) : Option Stage :=
  match u with
  | some (k, st) => if i = k then some st else none
  | none => none

/-- What is yet to be done, and what it comes to. -/
def rest (tick : Span) (u : Underway) (v : View) : View × List Reaction :=
  match u with
  | some (_, st) => st.rest tick v
  | none => (v, [])

theorem stage_self (k : Nat) (st : Stage) : stage (some (k, st)) k = some st := if_pos rfl

theorem stage_ne {k i : Nat} (st : Stage) (h : i ≠ k) : stage (some (k, st)) i = none := if_neg h

theorem stage_of_ne {u : Underway} {i : Nat} (h : u.map Prod.fst ≠ some i) : u.stage i = none := by
  cases u with
  | none => rfl
  | some x => exact if_neg fun heq => h (congrArg some heq.symm)

end Underway

/-- What a program may still do: that of a check what is left of it, and any other one nothing that
shows, apart from probes of the slave. -/
def Holds (s : Cluster.Settings) : Option Stage → Operation (Option Transition) → Prop
  | some st, p => st.Fits s p
  | none, p => p.Until IsApart (fun _ _ => False) (· = none)

/-- What a fiber may still do. -/
def BodyHolds (s : Cluster.Settings) (st : Option Stage) : Body Cluster Outcome Transition → Prop
  | .process p .nothing => Holds s st p
  | .gathering _ _ next .nothing => ∀ x, Holds s st (next x)
  | .job .. => st = none
  | _ => False

section Holds
variable {st : Option Stage}

/-- A fiber takes a step that leaves the cluster, or it is at its end, or it changes the cluster. -/
theorem BodyHolds.inner_or {b : Body Cluster Outcome Transition} (h : BodyHolds s st b) :
    Machine.IsInner b ∨ (∃ result, b = .process (.done result) .nothing) ∨
      ∃ change next, b = .process (.perform (.update change) next) .nothing := by
  match b with
  | .process (.perform (.act action) next) after => exact .inl trivial
  | .process (.perform (.pool limit jobs) next) after => exact .inl trivial
  | .job .. | .gathering .. => exact .inl trivial
  | .process (.done result) .nothing => exact .inr (.inl ⟨result, rfl⟩)
  | .process (.perform (.update change) next) .nothing => exact .inr (.inr ⟨change, next, rfl⟩)
  | .process (.done _) (.tick ..) | .process (.perform (.update _) _) (.tick ..) | .waiting .. =>
    exact h.elim

theorem Holds.act {action : Action} {next : action.Answer → Operation (Option Transition)}
    (h : Holds s st (.perform (.act action) next)) (x : action.Answer) : Holds s st (next x) := by
  cases st with
  | none => exact h x
  | some st => exact Stage.Fits.act h x

theorem Holds.pool {limit : Nat} {jobs : List (Routine Outcome)}
    {next : List Outcome → Operation (Option Transition)}
    (h : Holds s st (.perform (.pool limit jobs) next)) (x : List Outcome) :
    Holds s st (next x) := by
  cases st with
  | none => exact h x
  | some st => exact Stage.Fits.pool h x

end Holds

/-- What is told of a machine on which checks have run one after another: with what the check under
way has yet to do, it is the story of what was learned of the slave. -/
structure Told (s : Cluster.Settings) (first : Story) (is : List Stimulus) (rs : List Reaction)
    (u : Underway) (m : Machine ν Cluster Outcome Transition) : Prop where
  each : m.Each fun i b => BodyHolds s (u.stage i) b
  below : ∀ i, u.map Prod.fst = some i → i < m.fresh
  slave_eq : m.shared.slave.tracked = (first.run s.tick is).slave
  view_eq : (u.rest s.tick m.shared.supervisor.view).1 = (first.run s.tick is).view
  reactions_eq : rs ++ (u.rest s.tick m.shared.supervisor.view).2 =
    (first.run s.tick is).reactions

namespace Told
variable {first : Story} {is js : List Stimulus} {rs qs : List Reaction} {u : Underway}
  {w : Option Nat} {m m' : Machine ν Cluster Outcome Transition}
  {f g : Fiber Cluster Outcome Transition} {change : Cluster → Cluster}
  {next : Cluster → Operation (Option Transition)} {after : After Cluster Outcome}

/-- What happens besides and does not show. -/
theorem steady (h : Told s first is rs u m)
    (heach : m'.Each fun i b => BodyHolds s (u.stage i) b) (hfresh : m.fresh ≤ m'.fresh)
    (hview : SameView m.shared m'.shared) : Told s first is rs u m' where
  each := heach
  below i hi := (h.below i hi).trans_le hfresh
  slave_eq := hview.1.trans h.slave_eq
  view_eq := by rw [hview.2, h.view_eq]
  reactions_eq := by rw [hview.2, h.reactions_eq]

theorem stable (h : Told s first is rs u m) :
    Machine.Stable (fun i b => BodyHolds s (u.stage i) b) m.fresh where
  act {_ _ _ after} hb x := by
    cases after with
    | nothing => exact Holds.act hb x
    | tick => exact hb.elim
  pool {_ _ _ _ after} hb _ _ := by
    cases after with
    | nothing => exact Holds.pool hb
    | tick => exact hb.elim
  gathering {_ _ _ _ after} hb _ _ := by
    cases after with
    | nothing => exact hb
    | tick => exact hb.elim
  gathered {_ _ _ _ after} hb x := by
    cases after with
    | nothing => exact hb x
    | tick => exact hb.elim
  job hb _ := hb
  started i hi _ _ _ :=
    Underway.stage_of_ne fun hu => absurd (h.below i hu) (Nat.not_lt.2 hi)

theorem inner (h : Told s first is rs u m) (hf : f ∈ m.fibers) (hinner : Machine.IsInner f.body) :
    Told s first is rs u (m.resume host f) := by
  obtain ⟨heach, hshared, -, hfresh, -⟩ := h.each.resume host h.stable hf hinner
  exact h.steady heach hfresh (hshared ▸ ⟨rfl, rfl⟩)

/-- A fiber changes the cluster, and nothing of it shows. -/
theorem blind (h : Told s first is rs u m)
    (hbody : f.body = .process (.perform (.update change) next) .nothing)
    (hblind : Blind change) (hnext : Holds s (u.stage f.id) (next m.shared)) :
    Told s first is rs u (m.resume host f) := by
  rw [Machine.resume_update hbody]
  have hput := h.each.put (g := { f with body := .process (next m.shared) .nothing })
    (fun _ _ _ hb => hb) hnext
  exact h.steady (hput.congr rfl (Nat.le_refl _)) (Nat.le_refl _) (hblind m.shared)

/-- A new fiber begins next to the others. -/
theorem spawn (h : Told s first is rs u m) {body : Body Cluster Outcome Transition}
    (hbody : BodyHolds s none body) : Told s first is rs u (m.spawnFirst body) := by
  have hnone : u.stage m.fresh = none :=
    Underway.stage_of_ne fun hu => Nat.lt_irrefl _ (h.below _ hu)
  exact h.steady (h.each.add (hnone.symm ▸ hbody)) (Nat.le_succ _) ⟨rfl, rfl⟩

/-- A check begins. -/
theorem check (h : Told s first is rs none m) :
    Told s first is rs (some (m.fresh, .looks))
      (m.spawnFirst (.process (Cluster.check s) .nothing)) := by
  have heach : m.Each fun i b => BodyHolds s (Underway.stage (some (m.fresh, .looks)) i) b := by
    refine ⟨fun k hk => ?_, h.each.nodup, h.each.below⟩
    rw [Underway.stage_ne _ (h.each.below k.id (Machine.mem_ids hk)).ne]
    exact h.each.holds k hk
  refine ⟨heach.add ?_, fun i hi => ?_, h.slave_eq, h.view_eq, h.reactions_eq⟩
  · rw [Underway.stage_self]
    exact check_looking s
  · rw [← Option.some.inj hi]
    exact Nat.lt_succ_self m.fresh

/-- A probe of the slave comes to its end. -/
theorem probed (h : Told s first is rs u m) (hf : f ∈ m.fibers)
    (hother : u.map Prod.fst ≠ some f.id)
    (hbody : f.body = .process (.perform (.update change) next) after) {i : Stimulus}
    (hbrings : i.Brings change) : Told s first (is ++ [i]) rs u (m.resume host f) := by
  have hnone : u.stage f.id = none := Underway.stage_of_ne hother
  have hholds := h.each.holds f hf
  rw [hnone, hbody] at hholds
  cases after with
  | tick => exact hholds.elim
  | nothing =>
    rcases hholds with ⟨-, hnext⟩ | hlast
    · have hput := h.each.put (g := { f with body := .process (next m.shared) .nothing })
        (fun _ _ _ hb => hb) (hnone.symm ▸ hnext m.shared)
      rw [Machine.resume_update hbody]
      refine ⟨hput.congr rfl (Nat.le_refl _), h.below, ?_, ?_, ?_⟩ <;> rw [Story.run_append]
      · have hslave := h.slave_eq
        cases hbrings with
        | seen => rfl
        | missed => exact congrArg (fun t : Tracked => (⟨false, t.lastOk⟩ : Tracked)) hslave
      · cases hbrings <;> exact h.view_eq
      · cases hbrings <;> exact h.reactions_eq
    · exact hlast.elim

/-- A fiber that does not check takes a step that is not told of. -/
theorem aside (h : Told s first is rs u m) (hf : f ∈ m.fibers) (hother : u.map Prod.fst ≠ some f.id)
    (hnot : ∀ change next after, f.body = .process (.perform (.update change) next) after →
      ∀ i : Stimulus, ¬ i.Brings change) : Told s first is rs u (m.resume host f) := by
  have hnone : u.stage f.id = none := Underway.stage_of_ne hother
  have hholds := h.each.holds f hf
  rcases hholds.inner_or with hinner | ⟨result, hbody⟩ | ⟨change, next, hbody⟩
  · exact h.inner hf hinner
  · rw [Machine.resume_done hbody]
    have hremoved := h.each.remove (n := f.id) fun _ _ _ hb => hb
    exact h.steady (hremoved.congr rfl (Nat.le_refl _)) (Nat.le_refl _) ⟨rfl, rfl⟩
  · rw [hnone, hbody] at hholds
    rcases hholds with ⟨hblind | ⟨i, hbrings⟩, hnext⟩ | hlast
    · exact h.blind hbody hblind (hnone.symm ▸ hnext m.shared)
    · exact absurd hbrings (hnot _ _ _ hbody i)
    · exact hlast.elim

section Check
variable {st : Stage} {p : Operation (Option Transition)}

private theorem fits (h : Told s first is rs (some (f.id, st)) m) (hf : f ∈ m.fibers)
    (hbody : f.body = .process p .nothing) : st.Fits s p := by
  have hholds := h.each.holds f hf
  rw [hbody, Underway.stage_self] at hholds
  exact hholds

/-- The check comes to another stage. -/
private theorem turned (h : Told s first is rs (some (f.id, st)) m) {st' : Stage}
    (hnext : st'.Fits s (next m.shared)) :
    (m.put { f with body := .process (next m.shared) .nothing }).Each fun i b =>
      BodyHolds s (Underway.stage (some (f.id, st')) i) b := by
  refine h.each.put (fun i b hne hb => ?_) ?_
  · rw [Underway.stage_ne _ hne] at hb ⊢
    exact hb
  · rw [Underway.stage_self]
    exact hnext

/-- The check takes a step that is told of. -/
theorem tell (h : Told s first is rs (some (f.id, st)) m) (hf : f ∈ m.fibers)
    (hbody : f.body = .process p .nothing) (htells : Tells s m.shared p js qs) :
    ∃ st', Told s first (is ++ js) (rs ++ qs) (some (f.id, st')) (m.resume host f) := by
  obtain ⟨change, next, rfl⟩ : ∃ change next, p = .perform (.update change) next := by
    cases htells <;> exact ⟨_, _, rfl⟩
  have hview := h.view_eq
  have hreactions := h.reactions_eq
  rw [Machine.resume_update hbody]
  obtain ⟨hslave, ⟨rfl, rfl, rfl, hsupervisor, hnext⟩ | ⟨rfl, st', hnext, hrest⟩⟩ :=
    (h.fits hf hbody).tells htells
  -- It looks: the story tells at once all that it will come to, and that is now yet to be done.
  · refine ⟨_, (h.turned hnext).congr rfl (Nat.le_refl _), h.below, ?_, ?_, ?_⟩ <;>
      rw [Story.run_append]
    · exact (congrArg Monitor.tracked hslave).trans h.slave_eq
    · change (Stage.rest s.tick _ (change m.shared).supervisor.view).1 = (Stage.rest s.tick _ _).1
      rw [hsupervisor, h.slave_eq, ← hview]
      rfl
    · change _ ++ (Stage.rest s.tick _ (change m.shared).supervisor.view).2 =
        _ ++ (Stage.rest s.tick _ _).2
      rw [hsupervisor, h.slave_eq, ← hview, ← hreactions]
      simp only [Underway.rest, Stage.rest, Stage.afterwards, List.append_nil]
  -- It does the first of what was yet to be done, and the story stays.
  · refine ⟨st', (h.turned hnext).congr rfl (Nat.le_refl _), h.below, ?_, ?_, ?_⟩ <;>
      rw [List.append_nil]
    · exact (congrArg Monitor.tracked hslave).trans h.slave_eq
    · rw [← hview]
      exact (congrArg Prod.fst hrest).symm
    · rw [← hreactions, List.append_assoc]
      exact congrArg (rs ++ ·) (congrArg Prod.snd hrest).symm

/-- The check answers, or it has failed. -/
theorem answer (h : Told s first is rs (some (f.id, st)) m) (hf : f ∈ m.fibers)
    {t : Option Transition} (hbody : f.body = .process (.done t) .nothing) :
    Told s first is (rs ++ (t.map Reaction.answered).toList) none (m.resume host f) := by
  obtain rfl := (h.fits hf hbody).done
  have hview := h.view_eq
  have hreactions := h.reactions_eq
  rw [Machine.resume_done hbody]
  have hremoved : (m.remove f.id).Each fun i b => BodyHolds s (Underway.stage none i) b :=
    h.each.remove fun i b hne hb => by
      rwa [Underway.stage_ne _ hne] at hb
  refine ⟨hremoved.congr rfl (Nat.le_refl _), nofun, h.slave_eq, hview, ?_⟩
  rw [← hreactions]
  exact List.append_nil _

/-- The check takes a step that is not told of. -/
theorem quiet (h : Told s first is rs (some (f.id, st)) m) (hf : f ∈ m.fibers)
    (hnot : ∀ p, f.body = .process p .nothing → ∀ is rs, ¬ Tells s m.shared p is rs)
    (hdone : ∀ t, f.body ≠ .process (.done t) .nothing) :
    Told s first is rs (some (f.id, st)) (m.resume host f) := by
  rcases (h.each.holds f hf).inner_or with hinner | ⟨result, hbody⟩ | ⟨change, next, hbody⟩
  · exact h.inner hf hinner
  · exact absurd hbody (hdone result)
  · obtain ⟨hblind, hnext⟩ := (h.fits hf hbody).quiet (hnot _ hbody)
    exact h.blind hbody hblind (by rw [Underway.stage_self]; exact hnext)

end Check

/-- What is told stays the story of what is learned of the slave, whatever happens next. -/
theorem advance (h : Told s first is rs u m)
    (hadvances : Advances s host (u.map Prod.fst) m js qs w m') :
    ∃ u' : Underway, u'.map Prod.fst = w ∧ Told s first (is ++ js) (rs ++ qs) u' m' := by
  have hown : ∀ {f : Fiber Cluster Outcome Transition}, u.map Prod.fst = some f.id →
      ∃ st, u = some (f.id, st) := fun hw => by
    obtain ⟨⟨_, st⟩, hu, rfl⟩ := Option.map_eq_some_iff.1 hw
    exact ⟨st, hu⟩
  generalize hw : u.map Prod.fst = v at hadvances
  cases hadvances with
  | check =>
    obtain rfl := Option.map_eq_none_iff.1 hw
    rw [List.append_nil, List.append_nil]
    exact ⟨some (m.fresh, .looks), rfl, h.check⟩
  | join p hp =>
    rw [List.append_nil, List.append_nil]
    exact ⟨u, hw, h.spawn (hp.bind fun _ => rfl)⟩
  | pass nodes now hnow =>
    rw [List.append_nil, List.append_nil]
    exact ⟨u, hw, h.steady (h.each.congr rfl (Nat.le_refl _)) (Nat.le_refl _) ⟨rfl, rfl⟩⟩
  | probed hf hother hbody hbrings =>
    rw [List.append_nil]
    exact ⟨u, hw, h.probed hf (hw ▸ hother) hbody hbrings⟩
  | aside hf hother hnot =>
    rw [List.append_nil, List.append_nil]
    exact ⟨u, hw, h.aside hf (hw ▸ hother) hnot⟩
  | tell hf hbody htells =>
    obtain ⟨st, rfl⟩ := hown hw
    obtain ⟨st', htold⟩ := h.tell hf hbody htells
    exact ⟨_, rfl, htold⟩
  | answer hf hbody =>
    obtain ⟨st, rfl⟩ := hown hw
    rw [List.append_nil]
    exact ⟨none, rfl, h.answer hf hbody⟩
  | quiet hf hnot hdone =>
    obtain ⟨st, rfl⟩ := hown hw
    rw [List.append_nil, List.append_nil]
    exact ⟨_, rfl, h.quiet hf hnot hdone⟩

/-- Before the first check there is nothing to tell. -/
theorem initial (s : Cluster.Settings) (start now : Instant) (nodes : ν) (master slave : Monitor) :
    Told s ⟨slave.tracked, ⟨.fine, 0, slave.tracked⟩, []⟩ [] [] none
      (.initial start nodes (.ofMonitors master slave now)) :=
  ⟨⟨nofun, List.nodup_nil, nofun⟩, nofun, rfl, rfl, rfl⟩

theorem run (h : Told s first [] [] none m) (hrun : Sequential s host m is rs w m') :
    ∃ u : Underway, u.map Prod.fst = w ∧ Told s first is rs u m' := by
  induction hrun with
  | start => exact ⟨none, rfl, h⟩
  | advance _ hadvances ih =>
    obtain ⟨u, rfl, htold⟩ := ih
    exact htold.advance hadvances

/-- What checks have done is the beginning of the story, and all of it where no check is under
way. -/
theorem isPrefix (h : Told s first is rs u m) : rs <+: (first.run s.tick is).reactions :=
  ⟨_, h.reactions_eq⟩

theorem complete (h : Told s first is rs none m) :
    rs = (first.run s.tick is).reactions ∧ m.shared.supervisor.view = (first.run s.tick is).view :=
  ⟨(List.append_nil rs).symm.trans h.reactions_eq, h.view_eq⟩

end Told

/-- Two runs in which the same is learned of the slave and checks look at it at the same points,
whatever their masters, their nodes and all answers to reads and writes: what the checks have done
in one of them, with each verdict, each recovered window, and each state, count and tracked slave
that they have come to, is the beginning of what they have done in the other, and it is the same
where no check is under way. -/
theorem master_never_steers {ν' : Type} {host' : Host ν'} {start start' now now' : Instant}
    {nodes : ν} {nodes' : ν'} {master slave master' slave' : Monitor} {is : List Stimulus}
    {rs rs' : List Reaction} {w w' : Option Nat} {m : Machine ν Cluster Outcome Transition}
    {m' : Machine ν' Cluster Outcome Transition} (hslave : slave'.tracked = slave.tracked)
    (hrun : Sequential s host (.initial start nodes (.ofMonitors master slave now)) is rs w m)
    (hrun' : Sequential s host' (.initial start' nodes' (.ofMonitors master' slave' now')) is rs' w'
      m') :
    (rs <+: rs' ∨ rs' <+: rs) ∧ (w = none → rs' <+: rs) ∧ (w = none → w' = none →
      rs' = rs ∧ m'.shared.supervisor.view = m.shared.supervisor.view) := by
  obtain ⟨u, hu, htold⟩ := (Told.initial s start now nodes master slave).run hrun
  obtain ⟨u', hu', htold'⟩ := (Told.initial s start' now' nodes' master' slave').run hrun'
  rw [hslave] at htold'
  refine ⟨List.prefix_or_prefix_of_prefix htold.isPrefix htold'.isPrefix, fun hw => ?_,
    fun hw hw' => ?_⟩
  · obtain rfl := Option.map_eq_none_iff.1 (hu.trans hw)
    exact htold.complete.1 ▸ htold'.isPrefix
  · obtain rfl := Option.map_eq_none_iff.1 (hu.trans hw)
    obtain rfl := Option.map_eq_none_iff.1 (hu'.trans hw')
    exact ⟨htold'.complete.1.trans htold.complete.1.symm,
      htold'.complete.2.trans htold.complete.2.symm⟩

namespace Sequential
variable {is : List Stimulus} {rs : List Reaction} {m₀ m : Machine ν Cluster Outcome Transition}

/-- A slave that is down is suspected by the next check, -/
theorem exists_suspected (h : Sequential s host m₀ is rs none m)
    (hfine : m.shared.supervisor.state = .fine) (hdown : m.shared.slave.isUp = false) :
    ∃ rs' m', Sequential s host m₀ (is ++ [.looked]) rs' none m' ∧
      m'.shared.supervisor.state = .slaveSuspected ∧ m'.shared.master = m.shared.master ∧
      m'.shared.supervisor.slave.lastOk = m.shared.slave.lastOk := by
  obtain ⟨m₁, f, p, master, slave, hslave, hrun, hshared, hf, hbody, hproceeds⟩ := h.exists_decided
  have hslaveDown : slave.isUp = false := (congrArg Tracked.isUp hslave).trans hdown
  have hverdict : m.shared.supervisor.verdict s.tick slave = .slaveDown := by
    rw [Supervisor.verdict, hfine, hslaveDown]
  rw [hverdict] at hproceeds
  obtain ⟨m₂, hrun₂, hshared₂⟩ := hrun.exists_answered hf hbody hproceeds
  rw [hshared] at hshared₂
  have hentered : m₂.shared.supervisor = m.shared.supervisor.enter .slaveDown master slave := by
    rw [hshared₂, decision, Supervisor.step, hverdict]
  refine ⟨_, m₂, hrun₂, by rw [hentered]; rfl, by rw [hshared₂, decision], ?_⟩
  rw [hentered]
  exact congrArg Tracked.lastOk hslave

/-- and once it is seen again, the check after recovers it. -/
theorem exists_recovering (h : Sequential s host m₀ is rs none m)
    (hsuspected : m.shared.supervisor.state = .slaveSuspected) {left : Instant}
    (hleft : m.shared.supervisor.slave.lastOk.earlier? (Supervisor.margin s.tick) = some left)
    (now : Instant) :
    ∃ rs' w m', Sequential s host m₀ (is ++ [.seen now, .looked]) rs' w m' ∧
      m'.shared.supervisor.state = .recovering ∧ m'.shared.master = m.shared.master := by
  obtain ⟨m₁, hrun₁, hshared₁⟩ := h.exists_probed (.seen ⟨1⟩ ⟨.zero, ""⟩ now)
  obtain ⟨m₂, _, _, master, slave, hslave, hrun₂, hshared₂, -⟩ := hrun₁.exists_decided
  have hslaveUp : slave.isUp = true := by
    rw [hshared₁] at hslave
    exact congrArg Tracked.isUp hslave
  rw [List.append_assoc] at hrun₂
  rw [hshared₁] at hshared₂
  refine ⟨_, _, m₂, hrun₂, ?_, by rw [hshared₂, decision]⟩
  rw [hshared₂]
  simp only [decision, Supervisor.step, Supervisor.verdict, hsuspected, hslaveUp, hleft,
    Supervisor.enter]

end Sequential

private def everyMinute : Cluster.Settings :=
  ⟨.ofSecs 60, .forward, ⟨.ofSecs 3600, .ofSecs 3600, 1, 1000, ⟨1, .zero⟩⟩⟩

private def quietPair : Cluster :=
  .ofMonitors (.unseen "a" .zero .epoch) (.unseen "b" .zero .epoch) .epoch

/-- An outage under a master that is down all the time, and under one that has been seen. -/
theorem master_never_steers_up_or_down :
    ∃ (rs rs' : List Reaction) (m m' : Machine Node.Network Cluster Outcome Transition),
      Sequential everyMinute Node.Network.host (.initial .epoch ⟨[]⟩ quietPair) [.looked] rs none
        m ∧
      Sequential everyMinute Node.Network.host
        (.initial .epoch ⟨[.memory (.ofName "a")]⟩ quietPair) [.looked] rs' none m' ∧
      m.shared.master.isUp = false ∧ m'.shared.master.isUp = true ∧
      m.shared.supervisor.state = .slaveSuspected ∧ rs' = rs ∧
      m'.shared.supervisor.view = m.shared.supervisor.view ∧
      ∃ (qs qs' : List Reaction) (w w' : Option Nat)
        (n n' : Machine Node.Network Cluster Outcome Transition),
        Sequential everyMinute Node.Network.host (.initial .epoch ⟨[]⟩ quietPair)
          [.looked, .seen .epoch, .looked] qs w n ∧
        Sequential everyMinute Node.Network.host
          (.initial .epoch ⟨[.memory (.ofName "a")]⟩ quietPair)
          [.looked, .seen .epoch, .looked] qs' w' n' ∧
        n.shared.master.isUp = false ∧ n'.shared.master.isUp = true ∧
        n.shared.supervisor.state = .recovering ∧ (qs <+: qs' ∨ qs' <+: qs) := by
  have hbegin : Sequential everyMinute Node.Network.host (.initial .epoch ⟨[]⟩ quietPair)
    [] [] none _ := .start
  have hbegin' : Sequential everyMinute Node.Network.host
    (.initial .epoch ⟨[.memory (.ofName "a")]⟩ quietPair) [] [] none _ := .start
  have hseen : Blind fun c => { c with master := c.master.succeed ⟨0⟩ ⟨.zero, ""⟩ .epoch } :=
    fun _ => ⟨rfl, rfl⟩
  obtain ⟨m₁, hrun₁, hshared₁⟩ := hbegin'.exists_blind hseen
  obtain ⟨rs, m, hrun, hstate, hmaster, hleft⟩ := hbegin.exists_suspected rfl rfl
  obtain ⟨rs', m', hrun', hstate', hmaster', hleft'⟩ := hrun₁.exists_suspected
    (by rw [hshared₁]; rfl) (by rw [hshared₁]; rfl)
  obtain ⟨qs, w, n, hlater, hrecovering, hkept⟩ := hrun.exists_recovering hstate
    (by rw [hleft]; rfl) .epoch
  obtain ⟨qs', w', n', hlater', -, hkept'⟩ := hrun'.exists_recovering hstate'
    (by rw [hleft', hshared₁]; rfl) .epoch
  have hdown : m.shared.master.isUp = false := by rw [hmaster]; rfl
  have hup : m'.shared.master.isUp = true := by rw [hmaster', hshared₁]; rfl
  obtain ⟨-, -, hsame⟩ := master_never_steers rfl hrun hrun'
  obtain ⟨hreactions, hview⟩ := hsame rfl rfl
  exact ⟨rs, rs', m, m', hrun, hrun', hdown, hup, hstate, hreactions, hview, qs, qs', w, w', n, n',
    hlater, hlater', by rw [hkept, hdown], by rw [hkept', hup], hrecovering,
    (master_never_steers rfl hlater hlater').1⟩

end SeriesReplica.Cluster
