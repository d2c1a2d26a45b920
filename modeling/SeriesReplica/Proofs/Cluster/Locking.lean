import SeriesReplica.Proofs.Cluster.Check

/-! What checks do to the state of their supervisor. A check looks at the nodes and decides in one
change of the state; only if it decides to recover there is another one, at the end of its
recovery. Nothing else that a cluster runs changes the state or the number of recoveries. -/
namespace SeriesReplica.Concurrent
open Process

variable {σ τ ρ α β : Type} {K : (σ → σ) → Prop} {L L' : (σ → σ) → (σ → Process σ ρ α) → Prop}
  {E E' : α → Prop}

/-- A process whose changes of the shared state are of one kind, up to a first one, if there is
one, of which with what follows something else is known; a process that ends before has a
result with a property. -/
def Process.Until (K : (σ → σ) → Prop) (L : (σ → σ) → (σ → Process σ ρ α) → Prop) (E : α → Prop) :
    Process σ ρ α → Prop
  | .done a => E a
  | .perform (.act _) next => ∀ x, Until K L E (next x)
  | .perform (.pool _ _) next => ∀ x, Until K L E (next x)
  | .perform (.update change) next => (K change ∧ ∀ s, Until K L E (next s)) ∨ L change next

theorem Process.Until.bind {p : Process σ ρ α} {f : α → Process σ ρ β}
    {M : (σ → σ) → (σ → Process σ ρ β) → Prop} {F : β → Prop} (h : p.Until K L E)
    (hL : ∀ change next, L change next → M change fun s => (next s).bind f)
    (hf : ∀ a, E a → (f a).Until K M F) : (p >>= f).Until K M F := by
  change Until K M F (Program.bind p f)
  induction p with
  | done a => exact hf a h
  | perform effect next ih =>
    cases effect with
    | act action => exact fun x => ih x (h x)
    | pool limit jobs => exact fun x => ih x (h x)
    | update change =>
      rcases h with ⟨hchange, hnext⟩ | hlast
      · exact .inl ⟨hchange, fun s => ih s (hnext s)⟩
      · exact .inr (hL change next hlast)

theorem Process.Until.mono {K' : (σ → σ) → Prop} {p : Process σ ρ α} (h : p.Until K L E)
    (hK : ∀ change, K change → K' change)
    (hL : ∀ change next, L change next → L' change next) (hE : ∀ a, E a → E' a) :
    p.Until K' L' E' := by
  induction p with
  | done a => exact hE a h
  | perform effect next ih =>
    cases effect with
    | act action => exact fun x => ih x (h x)
    | pool limit jobs => exact fun x => ih x (h x)
    | update change =>
      rcases h with ⟨hchange, hnext⟩ | hlast
      · exact .inl ⟨hK change hchange, fun s => ih s (hnext s)⟩
      · exact .inr (hL change next hlast)

/-- A process with changes of one kind only. -/
def Process.Only (K : (σ → σ) → Prop) (p : Process σ ρ α) : Prop :=
  p.Until K (fun _ _ => False) fun _ => True

theorem Process.Only.bind {p : Process σ ρ α} {f : α → Process σ ρ β}
    {M : (σ → σ) → (σ → Process σ ρ β) → Prop} {F : β → Prop} (h : p.Only K)
    (hf : ∀ a, (f a).Until K M F) : (p >>= f).Until K M F :=
  Until.bind h (fun _ _ h => h.elim) fun a _ => hf a

theorem Process.Only.mono {p : Process σ ρ α} {K' : (σ → σ) → Prop} (h : p.Only K)
    (hK : ∀ change, K change → K' change) : p.Only K' :=
  Until.mono h hK (fun _ _ h => h.elim) fun _ _ => trivial

theorem Process.IsReading.only {p : Process σ ρ α} (h : p.IsReading)
    (hK : ∀ change : σ → σ, (∀ s, change s = s) → K change) : p.Only K := by
  induction p with
  | done a => trivial
  | perform effect next ih =>
    cases effect with
    | act action => exact fun x => ih x (h x)
    | pool limit jobs => exact fun x => ih x (h x)
    | update change => exact .inl ⟨hK change h.1, fun s => ih s (h.2 s)⟩

/-- A process that does no more than write the log, and has a result with a property. -/
def Process.Closes (E : α → Prop) : Process σ ρ α → Prop
  | .done a => E a
  | .perform (.act (.log _)) next => ∀ x, Closes E (next x)
  | _ => False

theorem Process.Closes.bind {p : Process σ ρ α} {f : α → Process σ ρ β} {F : β → Prop}
    (h : p.Closes E) (hf : ∀ a, E a → (f a).Closes F) : (p >>= f).Closes F := by
  change Closes F (Program.bind p f)
  induction p with
  | done a => exact hf a h
  | perform effect next ih =>
    match effect with
    | .act (.log line) => exact fun x => ih x (h x)
    | .act (.connect ..) | .act (.call ..) | .act (.sleep _) | .act .clock => exact h.elim
    | .pool .. | .update _ => exact h.elim

/-- What only writes the log does not change the state. -/
theorem Process.Closes.until {p : Process σ ρ α} (h : p.Closes E) : p.Until K L E := by
  induction p with
  | done a => exact h
  | perform effect next ih =>
    match effect with
    | .act (.log line) => exact fun x => ih x (h x)
    | .act (.connect ..) | .act (.call ..) | .act (.sleep _) | .act .clock => exact h.elim
    | .pool .. | .update _ => exact h.elim

theorem Process.closes_log (line : Log.Line) :
    (Process.log line : Process σ ρ Unit).Closes fun _ => True :=
  fun _ => trivial

theorem Process.closes_logAll (lines : List Log.Line) :
    (Process.logAll lines : Process σ ρ Unit).Closes fun _ => True := by
  induction lines with
  | nil => trivial
  | cons line lines ih => exact fun _ => ih

end SeriesReplica.Concurrent

namespace SeriesReplica.Cluster
open Concurrent Concurrent.Process Time

variable {α β : Type}

/-- A node as it was seen last. -/
def Monitor.tracked (m : Monitor) : Tracked := ⟨m.isUp, m.lastOk⟩

/-- What a supervisor has come to, whatever it knows of the master. -/
structure View where
  state : State
  recoveries : Nat
  slave : Tracked
  deriving DecidableEq

def Supervisor.view (s : Supervisor) : View := ⟨s.state, s.recoveries, s.slave⟩

/-- The slave was seen as before, and the supervisor has come to no more. -/
def SameView (c c' : Cluster) : Prop :=
  c'.slave.tracked = c.slave.tracked ∧ c'.supervisor.view = c.supervisor.view

/-- A change of a cluster that leaves both. -/
def Blind (change : Cluster → Cluster) : Prop := ∀ c, SameView c (change c)

theorem blind_of_id {change : Cluster → Cluster} (h : ∀ c, change c = c) : Blind change :=
  fun c => by rw [h c]; exact ⟨rfl, rfl⟩

/-- The supervisor is in the same state, after as many recoveries, and has noted no more of the
slave. -/
def SameState (c c' : Cluster) : Prop := c'.supervisor.view = c.supervisor.view

theorem SameState.state_eq {c c' : Cluster} (h : SameState c c') :
    c'.supervisor.state = c.supervisor.state := congrArg View.state h

theorem SameState.recoveries_eq {c c' : Cluster} (h : SameState c c') :
    c'.supervisor.recoveries = c.supervisor.recoveries := congrArg View.recoveries h

/-- A change of a cluster that leaves the state of its supervisor, the number of recoveries and what
is noted of the slave. -/
def Spares (change : Cluster → Cluster) : Prop := ∀ c, SameState c (change c)

theorem Blind.spares {change : Cluster → Cluster} (h : Blind change) : Spares change :=
  fun c => (h c).2

theorem spares_of_id {change : Cluster → Cluster} (h : ∀ c, change c = c) : Spares change :=
  (blind_of_id h).spares

/-- The decision of a check that has seen both nodes. -/
def decision (tick : Span) (master slave : Sighting) (c : Cluster) : Cluster :=
  { c with supervisor := c.supervisor.step tick master slave }

/-- The end of a recovery. -/
def conclusion (elapsed : Span) (c : Cluster) : Cluster :=
  { c with supervisor := c.supervisor.finish elapsed }

private def someCluster (state : State) (slave : Tracked) : Cluster :=
  ⟨.unseen "" .zero .epoch, .unseen "" .zero .epoch,
    ⟨state, ⟨true, .epoch⟩, slave, 0, .zero, []⟩⟩

/-- A check of a cluster that is fine notes how the slave looks. -/
private theorem slave_decision (tick : Span) (master slave : Sighting) (noted : Tracked) :
    (decision tick master slave (someCluster .fine noted)).supervisor.slave =
      .ofSighting slave := by
  cases hup : slave.isUp <;>
    simp [decision, someCluster, Supervisor.step, Supervisor.verdict, Supervisor.enter,
      Supervisor.track, hup]

/-- There is a state in which a decision shows. -/
theorem not_spares_decision (tick : Span) (master slave : Sighting) :
    ¬ Spares (decision tick master slave) := by
  intro h
  have hnoted := congrArg View.slave (h (someCluster .fine ⟨!slave.isUp, .epoch⟩))
  have hup := congrArg Tracked.isUp ((slave_decision tick master slave _).symm.trans hnoted)
  exact (Bool.eq_not_self slave.isUp).mp hup

theorem not_spares_conclusion (elapsed : Span) : ¬ Spares (conclusion elapsed) := fun h =>
  absurd (h (someCluster .fine ⟨true, .epoch⟩)).recoveries_eq (Nat.succ_ne_self _)

theorem decision_ne_conclusion (tick : Span) (master slave : Sighting) (elapsed : Span) :
    decision tick master slave ≠ conclusion elapsed := by
  intro h
  have hstate := congrArg (fun c : Cluster => c.supervisor.state)
    (congrFun h (someCluster .recovering ⟨true, .epoch⟩))
  simp [decision, conclusion, someCluster, Supervisor.step, Supervisor.verdict, Supervisor.enter,
    Supervisor.finish] at hstate

/-- A decision shows what it has been made by. -/
theorem verdict_eq_of_decision_eq {tick : Span} {master slave master' slave' : Sighting}
    (h : decision tick master slave = decision tick master' slave') (s : Supervisor) :
    s.verdict tick slave = s.verdict tick slave' := by
  have hnoted := slave_decision tick master slave ⟨true, .epoch⟩
  rw [h, slave_decision] at hnoted
  have hup : slave.isUp = slave'.isUp := congrArg Tracked.isUp hnoted.symm
  have hlast : slave.lastOk = slave'.lastOk := congrArg Tracked.lastOk hnoted.symm
  rw [Supervisor.verdict, Supervisor.verdict, hup, hlast]

/-- What a check answers that comes to a verdict; one that fails has no answer. -/
def Verdict.transition : Verdict → Option Transition
  | .steady => some .steady
  | .slaveDown => some .slaveDown
  | .stillDown => some .stillDown
  | .recover _ _ => some .recovered
  | .stillRecovering => some .stillRecovering
  | .overflow => none

/-- A program that spares the state and has a result with a property. -/
def Ends (E : α → Prop) (p : Operation α) : Prop := p.Until Spares (fun _ _ => False) E

/-- A program that spares the state up to the end of a recovery, to which it certainly comes. -/
def Recovers (E : α → Prop) (p : Operation α) : Prop :=
  p.Until Spares (fun change next => ∃ elapsed, change = conclusion elapsed ∧
    ∀ c, (next c).Closes E) fun _ => False

/-- A recovery up to its end, to which it certainly comes. -/
def Restores (E : α → Prop) (p : Operation α) : Prop :=
  p.Until Blind (fun change next => ∃ elapsed, change = conclusion elapsed ∧
    ∀ c, (next c).Closes E) fun _ => False

theorem Restores.recovers {E : α → Prop} {p : Operation α} (h : Restores E p) : Recovers E p :=
  h.mono (fun _ => Blind.spares) (fun _ _ hlast => hlast) fun _ ha => ha

/-- What a check does after a verdict, and what it answers: if it is not to recover, it only writes
the log. -/
def Follows (v : Verdict) (p : Operation (Option Transition)) : Prop :=
  (v.transition = some .recovered ∧ Recovers (· = some .recovered) p) ∨
    (v.transition ≠ some .recovered ∧ p.Closes (· = v.transition))

/-- A check that spares the state up to its decision, to which it certainly comes, and then follows
its verdict. -/
def Looks (tick : Span) (p : Operation (Option Transition)) : Prop :=
  p.Until Spares (fun change next => ∃ master slave, change = decision tick master slave ∧
    ∀ c, Follows (c.supervisor.verdict tick slave) (next c)) fun _ => False

/-- What is made of the answer after a recovery. -/
theorem Restores.map {E : α → Prop} {F : β → Prop} {f : α → β} {p : Operation α}
    (h : Restores E p) (hf : ∀ a, E a → F (f a)) : Restores F (p.bind fun a => .done (f a)) := by
  refine Until.bind h ?_ fun _ ha => ha.elim
  rintro change next ⟨elapsed, hchange, hnext⟩
  exact ⟨elapsed, hchange, fun c => (hnext c).bind hf⟩

theorem only_of_isReading {p : Operation α} (h : p.IsReading) : p.Only Spares :=
  h.only fun _ => spares_of_id

theorem only_log (line : Log.Line) : (Process.log line : Operation Unit).Only Spares :=
  only_of_isReading (isReading_log line)

theorem blind_of_isReading {p : Operation α} (h : p.IsReading) : p.Only Blind :=
  h.only fun _ => blind_of_id

theorem blind_log (line : Log.Line) : (Process.log line : Operation Unit).Only Blind :=
  blind_of_isReading (isReading_log line)

theorem blind_refreshSchema : refreshSchema.Only Blind := by
  have hdiscover : (discover .all).IsReading := by
    rw [discover]
    refine isReading_get.bind fun c => ?_
    split
    · exact isReading_pure _
    · exact (isReading_ofRoutine _).bind fun found => isReading_pure _
  rw [refreshSchema]
  refine (blind_of_isReading hdiscover).bind fun found => ?_
  cases found with
  | error e => trivial
  | ok found => exact .inl ⟨fun c => ⟨rfl, rfl⟩, fun _ => trivial⟩

theorem blind_recoverySchema : recoverySchema.Only Blind := by
  rw [recoverySchema]
  refine blind_refreshSchema.bind fun found => ?_
  cases found with
  | ok found => trivial
  | error e =>
    exact (blind_log _).bind fun _ => (blind_of_isReading isReading_get).bind fun _ => trivial

/-- Whatever fails on the way, a recovery comes to its end, and then there is only the log. -/
theorem recover_restores (s : Cluster.Settings) (start stop : Instant) :
    Restores (fun _ => True) (recover s start stop) := by
  rw [recover_eq]
  refine (blind_of_isReading isReading_get).bind fun c => (blind_log _).bind fun _ => ?_
  refine (blind_of_isReading isReading_clock).bind fun started => ?_
  refine .inl ⟨fun c => ⟨rfl, rfl⟩, fun before => ?_⟩
  have hwarned : (if before.slave.probed.isNone then
      Process.log (Log.warn ("No probed connection to " ++ before.slave.name ++ " to refresh"))
    else pure () : Operation Unit).Only Blind := by
    split
    · exact blind_log _
    · exact blind_of_isReading (isReading_pure ())
  refine hwarned.bind fun _ => blind_recoverySchema.bind fun ds => ?_
  refine (blind_of_isReading (isReading_replay s ds start stop)).bind fun _ => ?_
  refine (blind_of_isReading isReading_clock).bind fun ended => ?_
  exact .inr ⟨_, rfl, fun c => closes_log _⟩

/-- A check looks at the nodes, decides, and answers by its verdict. -/
theorem check_looks (s : Cluster.Settings) : Looks s.tick (check s) := by
  rw [check]
  refine (only_of_isReading isReading_clock).bind fun now => ?_
  refine (only_of_isReading isReading_get).bind fun c => ?_
  refine (only_of_isReading isReading_get).bind fun c' => ?_
  refine .inr ⟨_, _, rfl, fun before => ?_⟩
  dsimp only [Program.bind]
  cases before.supervisor.verdict s.tick (c'.slave.sighting now.wall) with
  | recover start stop =>
    have hanswer : Restores (· = some Transition.recovered)
        ((recover s start stop).bind fun _ => .done (some .recovered)) :=
      (recover_restores s start stop).map fun _ _ => rfl
    exact .inl ⟨rfl, hanswer.recovers⟩
  | slaveDown => exact .inr ⟨by decide, (closes_log _).bind fun _ _ => rfl⟩
  | stillDown => exact .inr ⟨by decide, (closes_log _).bind fun _ _ => rfl⟩
  | stillRecovering => exact .inr ⟨by decide, (closes_log _).bind fun _ _ => rfl⟩
  | steady => exact .inr ⟨by decide, (closes_logAll _).bind fun _ _ => rfl⟩
  | overflow => exact .inr ⟨by decide, rfl⟩

end SeriesReplica.Cluster
