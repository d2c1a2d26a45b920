import SeriesReplica.Proofs.Cluster.Enlisted
import SeriesReplica.Proofs.Cluster.Reactions
import SeriesReplica.Proofs.Concurrent.Stepping

/-! Checks one after another. Next to them nodes are probed, and whatever else a program does goes
on as long as it leaves the state of the supervisor alone; it is told what is learned of the slave
and what the checks do. -/
namespace SeriesReplica.Cluster
open Concurrent Concurrent.Process Time Sync

variable {ν : Type} {s : Cluster.Settings} {host : Host ν}

/-- The change that a probe of the slave makes. -/
inductive Stimulus.Brings : Stimulus → (Cluster → Cluster) → Prop
  | seen (client : Client) (pong : Pong) (now : Instant) :
    Brings (.seen now) fun c => { c with slave := c.slave.succeed client pong now }
  | missed (e : Node.Error) : Brings .missed fun c => { c with slave := c.slave.fail e }

/-- A change that a program next to the checks may make: it is one of a probe of the slave, or
nothing of it shows. -/
def IsApart (change : Cluster → Cluster) : Prop := Blind change ∨ ∃ i : Stimulus, i.Brings change

section Probes
variable {α : Type}

/-- Whatever is done to the master, such as a probe. -/
theorem onMaster_isApart (p : Process Monitor Outcome α) :
    (p.within Cluster.master fun m c => { c with master := m }).Only IsApart := by
  induction p with
  | done a => trivial
  | perform effect next ih =>
    cases effect with
    | act action => exact fun x => ih x
    | pool limit jobs => exact fun x => ih x
    | update change => exact .inl ⟨.inl fun c => ⟨rfl, rfl⟩, fun c => ih c.master⟩

/-- A change that a probe of a node makes. -/
def IsProbing (change : Monitor → Monitor) : Prop :=
  (∀ m, change m = m) ∨ (∃ client pong now, change = fun m => m.succeed client pong now) ∨
    ∃ e, change = fun m => m.fail e

theorem isReading_isProbing {p : Process Monitor Outcome α} (h : p.IsReading) :
    p.Only IsProbing :=
  h.only fun _ => .inl

theorem checkNode_isProbing : (checkNode : Process Monitor Outcome Bool).Only IsProbing := by
  have hprobe : (probe : Process Monitor Outcome _).Only IsProbing := by
    rw [probe]
    refine (isReading_isProbing isReading_get).bind fun m => ?_
    refine (isReading_isProbing isReading_clock).bind fun started => ?_
    refine (isReading_isProbing (isReading_ofRoutine _)).bind fun found => ?_
    cases found with
    | ok found =>
      refine (isReading_isProbing isReading_clock).bind fun now => ?_
      exact .inl ⟨.inr (.inl ⟨_, _, _, rfl⟩), fun _ => trivial⟩
    | error e => exact .inl ⟨.inr (.inr ⟨e, rfl⟩), fun _ => trivial⟩
  rw [checkNode]
  refine hprobe.bind fun result => isReading_isProbing ?_
  cases result with
  | ok pong =>
    exact isReading_get.bind fun m => (isReading_log _).bind fun _ => isReading_pure _
  | error e =>
    exact isReading_get.bind fun m => isReading_clock.bind fun now =>
      (isReading_log _).bind fun _ => isReading_pure _

/-- Probes of the slave, as they are made. -/
theorem onSlave_isApart {p : Process Monitor Outcome α} (h : p.Only IsProbing) :
    (p.within Cluster.slave fun m c => { c with slave := m }).Only IsApart := by
  refine Until.within h (fun change hchange => ?_) fun _ _ hlast => hlast.elim
  rcases hchange with hsame | ⟨client, pong, now, rfl⟩ | ⟨e, rfl⟩
  · exact .inl (blind_of_id fun c => by rw [hsame])
  · exact .inr ⟨_, .seen client pong now⟩
  · exact .inr ⟨_, .missed e⟩

end Probes

/-- What may happen where checks run one after another. It is known which check is under way, and it
is told what is learned of the slave, and what the check does. -/
inductive Advances (s : Cluster.Settings) (host : Host ν) : Option Nat →
    Machine ν Cluster Outcome Transition → List Stimulus → List Reaction → Option Nat →
    Machine ν Cluster Outcome Transition → Prop
  /-- The next check begins. -/
  | check {m : Machine ν Cluster Outcome Transition} :
    Advances s host none m [] [] (some m.fresh)
      (m.spawnFirst (.process (Cluster.check s) .nothing))
  /-- Something else begins, such as a probe. -/
  | join {w : Option Nat} {m : Machine ν Cluster Outcome Transition} {β : Type} (p : Operation β)
    (hp : p.Only IsApart) :
    Advances s host w m [] [] w (m.spawnFirst (.process (p.bind fun _ => .done none) .nothing))
  /-- Time passes, and nodes change. -/
  | pass {w : Option Nat} {m : Machine ν Cluster Outcome Transition} (nodes : ν) (now : Span)
    (hnow : m.now ≤ now) : Advances s host w m [] [] w { m with nodes := nodes, now := now }
  /-- A probe of the slave comes to its end. -/
  | probed {w : Option Nat} {m : Machine ν Cluster Outcome Transition}
    {f : Fiber Cluster Outcome Transition} {change : Cluster → Cluster}
    {next : Cluster → Operation (Option Transition)} {after : After Cluster Outcome}
    {i : Stimulus} (hf : f ∈ m.fibers) (hother : w ≠ some f.id)
    (hbody : f.body = .process (.perform (.update change) next) after) (hbrings : i.Brings change) :
    Advances s host w m [i] [] w (m.resume host f)
  /-- A fiber that does not check takes any other step. -/
  | aside {w : Option Nat} {m : Machine ν Cluster Outcome Transition}
    {f : Fiber Cluster Outcome Transition} (hf : f ∈ m.fibers) (hother : w ≠ some f.id)
    (hnot : ∀ change next after, f.body = .process (.perform (.update change) next) after →
      ∀ i : Stimulus, ¬ i.Brings change) : Advances s host w m [] [] w (m.resume host f)
  /-- The check looks at the slave, or it decides, or its recovery ends. -/
  | tell {m : Machine ν Cluster Outcome Transition} {f : Fiber Cluster Outcome Transition}
    {p : Operation (Option Transition)} {is : List Stimulus} {rs : List Reaction}
    (hf : f ∈ m.fibers) (hbody : f.body = .process p .nothing)
    (htells : Tells s m.shared p is rs) :
    Advances s host (some f.id) m is rs (some f.id) (m.resume host f)
  /-- The check answers, or it has failed. -/
  | answer {m : Machine ν Cluster Outcome Transition} {f : Fiber Cluster Outcome Transition}
    {t : Option Transition} (hf : f ∈ m.fibers) (hbody : f.body = .process (.done t) .nothing) :
    Advances s host (some f.id) m [] (t.map Reaction.answered).toList none (m.resume host f)
  /-- The check takes any other step. -/
  | quiet {m : Machine ν Cluster Outcome Transition} {f : Fiber Cluster Outcome Transition}
    (hf : f ∈ m.fibers)
    (hnot : ∀ p, f.body = .process p .nothing → ∀ is rs, ¬ Tells s m.shared p is rs)
    (hdone : ∀ t, f.body ≠ .process (.done t) .nothing) :
    Advances s host (some f.id) m [] [] (some f.id) (m.resume host f)

/-- No step of a fiber is left out. -/
theorem exists_advances (s : Cluster.Settings) (host : Host ν) (w : Option Nat)
    {m : Machine ν Cluster Outcome Transition} {f : Fiber Cluster Outcome Transition}
    (hf : f ∈ m.fibers) : ∃ is rs w', Advances s host w m is rs w' (m.resume host f) := by
  by_cases hw : w = some f.id
  · subst hw
    by_cases htells : ∃ p is rs, f.body = .process p .nothing ∧ Tells s m.shared p is rs
    · obtain ⟨p, is, rs, hbody, htells⟩ := htells
      exact ⟨is, rs, _, .tell hf hbody htells⟩
    by_cases hdone : ∃ t, f.body = .process (.done t) .nothing
    · obtain ⟨t, hbody⟩ := hdone
      exact ⟨_, _, _, .answer hf hbody⟩
    · exact ⟨_, _, _, .quiet hf (fun p hbody is rs ht => htells ⟨p, is, rs, hbody, ht⟩)
        fun t hbody => hdone ⟨t, hbody⟩⟩
  · by_cases hprobed : ∃ change next after, ∃ i : Stimulus,
        f.body = .process (.perform (.update change) next) after ∧ i.Brings change
    · obtain ⟨change, next, after, i, hbody, hbrings⟩ := hprobed
      exact ⟨_, _, _, .probed hf hw hbody hbrings⟩
    · exact ⟨_, _, _, .aside hf hw fun change next after hbody i hbrings =>
        hprobed ⟨change, next, after, i, hbody, hbrings⟩⟩

/-- What happens in a row. -/
inductive Sequential (s : Cluster.Settings) (host : Host ν)
    (m : Machine ν Cluster Outcome Transition) : List Stimulus → List Reaction → Option Nat →
    Machine ν Cluster Outcome Transition → Prop
  | start : Sequential s host m [] [] none m
  | advance {is is' : List Stimulus} {rs rs' : List Reaction} {w w' : Option Nat}
    {m₁ m₂ : Machine ν Cluster Outcome Transition} (hrun : Sequential s host m is rs w m₁)
    (hadvances : Advances s host w m₁ is' rs' w' m₂) :
    Sequential s host m (is ++ is') (rs ++ rs') w' m₂

section Exists
variable {is : List Stimulus} {rs : List Reaction} {w w' : Option Nat}
  {m₀ m m' : Machine ν Cluster Outcome Transition} {f : Fiber Cluster Outcome Transition}
  {change : Cluster → Cluster} {next : Cluster → Operation (Option Transition)}
  {p : Operation (Option Transition)} {t : Option Transition}

/-- What a probe of the slave brings does show. -/
theorem Stimulus.Brings.not_blind {i : Stimulus} (h : i.Brings change) : ¬ Blind change := by
  set node : Bool → Monitor := fun isUp => { Monitor.unseen "" .zero .epoch with isUp := isUp }
  set cluster : Bool → Cluster := fun isUp => .ofMonitors (node true) (node isUp) .epoch
  intro hblind
  cases h with
  | seen client pong now =>
    exact absurd (congrArg Tracked.isUp (hblind (cluster false)).1) Bool.noConfusion
  | missed e => exact absurd (congrArg Tracked.isUp (hblind (cluster true)).1) Bool.noConfusion

/-- A check that is still to look at the slave is not told of. -/
theorem not_tells_of_looking (h : ∀ c, Looking s (next c)) {c : Cluster} {is : List Stimulus}
    {rs : List Reaction} : ¬ Tells s c (.perform (.update id) next) is rs := by
  generalize hp : (Program.perform (.update id) next : Operation (Option Transition)) = p
  intro htells
  cases htells with
  | looked hjudging =>
    injection hp with _ hnext
    have hlooks : Stage.looks.Fits s (next c) := h c
    obtain ⟨_, heq⟩ := hlooks.of_judging (hnext ▸ hjudging c)
    cases heq
  | decided =>
    injection hp with heffect
    injection heffect with hchange
    exact decision_ne_id _ _ _ hchange.symm
  | finished =>
    injection hp with heffect
    injection heffect with hchange
    exact conclusion_ne_id _ hchange.symm

namespace Sequential

theorem silent (h : Sequential s host m₀ is rs w m) (hadvances : Advances s host w m [] [] w' m') :
    Sequential s host m₀ is rs w' m' := by
  have hnext := h.advance hadvances
  rwa [List.append_nil, List.append_nil] at hnext

/-- What is changed by a fiber, and what is left of it. -/
private theorem resume_update (host : Host ν) (hf : f ∈ m.fibers)
    (hbody : f.body = .process (.perform (.update change) next) .nothing) :
    (m.resume host f).shared = change m.shared ∧
      { f with body := .process (next m.shared) .nothing } ∈ (m.resume host f).fibers := by
  rw [Machine.resume_update hbody]
  exact ⟨rfl, Machine.mem_put hf rfl⟩

/-- What does not show, such as a probe of the master, can come at any time, -/
theorem exists_blind (h : Sequential s host m₀ is rs none m) (hblind : Blind change) :
    ∃ m', Sequential s host m₀ is rs none m' ∧ m'.shared = change m.shared := by
  set p : Operation Unit := .perform (.update change) fun _ => .done ()
  have hp : p.Only IsApart := .inl ⟨.inl hblind, fun _ => trivial⟩
  have hf := m.mem_spawnFirst (.process (p.bind fun _ => .done none) .nothing)
  refine ⟨_, (h.silent (.join p hp)).silent (.aside hf nofun ?_), (resume_update host hf rfl).1⟩
  intro change' next' after' hbody i hbrings
  injection hbody with hprogram
  injection hprogram with heffect
  injection heffect with hchange
  exact hbrings.not_blind (hchange ▸ hblind)

/-- and so can a probe of the slave. -/
theorem exists_probed (h : Sequential s host m₀ is rs none m) {i : Stimulus}
    (hbrings : i.Brings change) :
    ∃ m', Sequential s host m₀ (is ++ [i]) rs none m' ∧ m'.shared = change m.shared := by
  set p : Operation Unit := .perform (.update change) fun _ => .done ()
  have hp : p.Only IsApart := .inl ⟨.inr ⟨i, hbrings⟩, fun _ => trivial⟩
  have hf := m.mem_spawnFirst (.process (p.bind fun _ => .done none) .nothing)
  have hprobed := (h.silent (.join p hp)).advance (.probed hf nofun rfl hbrings)
  rw [List.append_nil] at hprobed
  exact ⟨_, hprobed, (resume_update host hf rfl).1⟩

/-- A check that does something with the nodes, the clock or the log goes on with the answer. -/
theorem exists_act {action : Action} {next : action.Answer → Operation (Option Transition)}
    (h : Sequential s host m₀ is rs (some f.id) m) (hf : f ∈ m.fibers)
    (hbody : f.body = .process (.perform (.act action) next) .nothing) :
    ∃ m' g answer, Sequential s host m₀ is rs (some g.id) m' ∧ m'.shared = m.shared ∧
      g ∈ m'.fibers ∧ g.body = .process (next answer) .nothing := by
  have hnot : ∀ p, f.body = .process p .nothing → ∀ is rs, ¬ Tells s m.shared p is rs := by
    intro p hp is rs htells
    injection hbody.symm.trans hp with hp
    subst hp
    cases htells
  have hquiet : Sequential s host m₀ is rs (some f.id) (m.resume host f) :=
    h.silent (.quiet hf hnot fun t ht => nomatch hbody.symm.trans ht)
  have hrun : f.isRunnable := by rw [Fiber.isRunnable, hbody]
  cases m.resume_stepped host hrun with
  | goes g hid hstep hfibers =>
    have hg : g ∈ (m.resume host f).fibers := hfibers ▸ Machine.mem_put hf hid.symm
    rw [hbody] at hstep
    generalize hgbody : g.body = b, hshared : (m.resume host f).shared = c at hstep
    cases hstep with
    | act answer => exact ⟨_, g, answer, hid ▸ hquiet, hshared, hg, hgbody⟩
  | quits hquits =>
    rw [hbody] at hquits
    cases hquits
  | opens hopens => cases hbody.symm.trans hopens
  | delivers hdelivers => cases hbody.symm.trans hdelivers

/-- A check that is to look at the slave does so by its own steps, -/
theorem exists_looked (h : Sequential s host m₀ is rs (some f.id) m) (hf : f ∈ m.fibers)
    (hbody : f.body = .process p .nothing) (hlooking : Looking s p) :
    ∃ m' g q, Sequential s host m₀ (is ++ [.looked]) rs (some g.id) m' ∧ m'.shared = m.shared ∧
      g ∈ m'.fibers ∧ g.body = .process q .nothing ∧ Judging s m.shared.slave.tracked q := by
  induction hlooking generalizing m f with
  | clock hnext ih =>
    obtain ⟨m', g, now, hrun, hshared, hg, hgbody⟩ := h.exists_act hf hbody
    obtain ⟨m₁, k, q, hlooked, hsame, hk, hkbody, hjudging⟩ := ih now hrun hg hgbody
    rw [hshared] at hsame hjudging
    exact ⟨m₁, k, q, hlooked, hsame, hk, hkbody, hjudging⟩
  | @master next hnext ih =>
    set g : Fiber Cluster Outcome Transition := { f with body := .process (next m.shared) .nothing }
    have hnot : ∀ p, f.body = .process p .nothing → ∀ is rs, ¬ Tells s m.shared p is rs := by
      intro p hp is rs
      injection hbody.symm.trans hp with hp
      exact hp ▸ not_tells_of_looking hnext
    obtain ⟨hshared, hg⟩ := resume_update host hf hbody
    have hquiet : Sequential s host m₀ is rs (some g.id) (m.resume host f) :=
      h.silent (.quiet hf hnot fun t ht => nomatch hbody.symm.trans ht)
    obtain ⟨m', k, q, hlooked, hsame, hk, hkbody, hjudging⟩ := ih m.shared hquiet hg rfl
    rw [hshared] at hsame hjudging
    exact ⟨m', k, q, hlooked, hsame, hk, hkbody, hjudging⟩
  | @slave next hjudging =>
    obtain ⟨hshared, hg⟩ := resume_update host hf hbody
    have hlooked := h.advance (.tell hf hbody (.looked hjudging))
    rw [List.append_nil] at hlooked
    exact ⟨_, { f with body := .process (next m.shared) .nothing }, _, hlooked, hshared, hg, rfl,
      hjudging m.shared⟩

/-- and one that only writes the log then answers, or it has failed. -/
theorem exists_answered (h : Sequential s host m₀ is rs (some f.id) m) (hf : f ∈ m.fibers)
    (hbody : f.body = .process p .nothing) (hp : p.Closes (· = t)) :
    ∃ m', Sequential s host m₀ is (rs ++ (t.map Reaction.answered).toList) none m' ∧
      m'.shared = m.shared := by
  induction p generalizing m f with
  | done result =>
    obtain rfl : result = t := hp
    have hanswer := h.advance (.answer hf hbody)
    rw [List.append_nil] at hanswer
    refine ⟨_, hanswer, ?_⟩
    rw [Machine.resume_done hbody]
    rfl
  | perform effect next ih =>
    match effect with
    | .act (.log line) =>
      obtain ⟨m', g, answer, hrun, hshared, hg, hgbody⟩ := h.exists_act hf hbody
      obtain ⟨m₁, hanswered, hsame⟩ := ih answer hrun hg hgbody (hp answer)
      exact ⟨m₁, hanswered, hsame.trans hshared⟩
    | .act (.connect ..) | .act (.call ..) | .act (.sleep _) | .act .clock => exact hp.elim
    | .pool .. | .update _ => exact hp.elim

/-- A check can begin whenever there is none, and come to its decision. -/
theorem exists_decided (h : Sequential s host m₀ is rs none m) :
    ∃ m' f p, ∃ master slave : Sighting, Tracked.ofSighting slave = m.shared.slave.tracked ∧
      Sequential s host m₀ (is ++ [.looked])
        (rs ++ [.decided (m.shared.supervisor.verdict s.tick slave)
          (decision s.tick master slave m.shared).supervisor.view]) (some f.id) m' ∧
      m'.shared = decision s.tick master slave m.shared ∧ f ∈ m'.fibers ∧
      f.body = .process p .nothing ∧ Proceeds s (m.shared.supervisor.verdict s.tick slave) p := by
  have hf := m.mem_spawnFirst (.process (Cluster.check s) .nothing)
  obtain ⟨m₁, g, q, hlooked, hshared, hg, hgbody, master, slave, next, hslave, rfl, hproceeds⟩ :=
    (h.silent .check).exists_looked hf rfl (check_looking s)
  replace hshared : m₁.shared = m.shared := hshared
  obtain ⟨hdecided, hmem⟩ := resume_update host hg hgbody
  have hdecision := hlooked.advance (.tell hg hgbody (.decided (hproceeds m₁.shared)))
  rw [List.append_nil, hshared] at hdecision
  rw [hshared] at hdecided hmem
  exact ⟨_, { g with body := .process (next m.shared) .nothing }, _, master, slave, hslave,
    hdecision, hdecided, hmem, rfl, hproceeds m.shared⟩

end Sequential

end Exists

end SeriesReplica.Cluster
