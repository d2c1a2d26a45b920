import SeriesReplica.Proofs.Cluster.Locking

/-! What checks make of a slave. All that they decide, count and hand to a recovery is a function of
what probes have seen of the slave and of when checks have looked at it. What a check that is
under way has yet to do is known from how far its program has come. -/
namespace SeriesReplica.Cluster
open Concurrent Concurrent.Process Time Sync

variable {tick : Span}

/-- What a supervisor learns of its slave. -/
inductive Stimulus where
  /-- A probe that succeeds. -/
  | seen (now : Instant)
  /-- A probe that fails. -/
  | missed
  /-- A check looks at the slave. -/
  | looked

/-- What a check does. -/
inductive Reaction where
  /-- It comes to a verdict, which tells the window that it hands to a recovery. -/
  | decided (v : Verdict) (view : View)
  /-- Its recovery ends. -/
  | finished (view : View)
  | answered (t : Transition)

section Views

/-- The tracked node as it may look at some moment. -/
def Tracked.sighting (t : Tracked) : Sighting := ⟨t.isUp, t.lastOk, .zero⟩

namespace View

/-- A supervisor that has come to this. -/
def supervisor (v : View) : Supervisor :=
  ⟨v.state, ⟨false, .epoch⟩, v.slave, v.recoveries, .zero, []⟩

def verdict (tick : Span) (v : View) (slave : Tracked) : Verdict :=
  v.supervisor.verdict tick slave.sighting

def step (tick : Span) (v : View) (slave : Tracked) : View :=
  (v.supervisor.step tick slave.sighting slave.sighting).view

def finish (v : View) : View := (v.supervisor.finish .zero).view

end View

/-- A verdict depends on no more than a view and how the slave looks. -/
theorem verdict_view (s : Supervisor) (tick : Span) (slave : Sighting) :
    s.verdict tick slave = s.view.verdict tick (.ofSighting slave) := rfl

theorem step_view (s : Supervisor) (tick : Span) (master slave : Sighting) :
    (s.step tick master slave).view = s.view.step tick (.ofSighting slave) := by
  rw [View.step, Supervisor.step, Supervisor.step, verdict_view s tick slave]
  change _ = ((s.view.supervisor).enter (s.view.verdict tick (.ofSighting slave)) _ _).view
  cases s.view.verdict tick (.ofSighting slave) <;> rfl

end Views

/-- How far a check has come. -/
inductive Stage where
  | looks
  /-- It has seen the slave so. -/
  | judges (slave : Tracked)
  | recovers
  /-- It answers so, or it fails. -/
  | closes (t : Option Transition)

/-- The stage of a check that has come to a verdict. -/
def Verdict.stage : Verdict → Stage
  | .recover _ _ => .recovers
  | v => .closes v.transition

namespace Stage

/-- What a check that has come to a verdict does then, and what it comes to. -/
def afterwards (st : Stage) (v : View) : View × List Reaction :=
  match st with
  | .recovers => (v.finish, [.finished v.finish, .answered .recovered])
  | .closes t => (v, (t.map Reaction.answered).toList)
  | .looks | .judges _ => (v, [])

/-- What a check has yet to do, and what it comes to. A check that has not looked yet is not to be
foreseen. -/
def rest (tick : Span) (st : Stage) (v : View) : View × List Reaction :=
  match st with
  | .judges slave =>
    let verdict := v.verdict tick slave
    let closing := verdict.stage.afterwards (v.step tick slave)
    (closing.1, .decided verdict (v.step tick slave) :: closing.2)
  | st => st.afterwards v

theorem rest_stage (verdict : Verdict) (v : View) :
    verdict.stage.rest tick v = verdict.stage.afterwards v := by
  cases verdict <;> rfl

end Stage

/-- What is known of a slave, what its supervisor has come to and all that checks have done. -/
structure Story where
  slave : Tracked
  view : View
  reactions : List Reaction

namespace Story

/-- How a story goes on; a check that looks is told to its end at once. -/
def next (tick : Span) (x : Story) : Stimulus → Story
  | .seen now => { x with slave := ⟨true, now⟩ }
  | .missed => { x with slave := ⟨false, x.slave.lastOk⟩ }
  | .looked =>
    let check := (Stage.judges x.slave).rest tick x.view
    { x with view := check.1, reactions := x.reactions ++ check.2 }

def run (tick : Span) (x : Story) (is : List Stimulus) : Story := is.foldl (next tick) x

theorem run_append (x : Story) (is js : List Stimulus) :
    x.run tick (is ++ js) = (x.run tick is).run tick js :=
  List.foldl_append

end Story

section Programs
variable {s : Cluster.Settings} {p : Operation (Option Transition)}

/-- What is left of a check that is to recover a window. -/
def recovering (s : Cluster.Settings) (start stop : Instant) : Operation (Option Transition) :=
  (recover s start stop).bind fun _ => .done (some .recovered)

/-- A check goes on as its verdict tells: it recovers just the window that is told, or there is
only the log. -/
def Proceeds (s : Cluster.Settings) (v : Verdict) (p : Operation (Option Transition)) : Prop :=
  match v with
  | .recover start stop => p = recovering s start stop
  | v => p.Closes (· = v.transition)

/-- A check that has seen the slave decides next. -/
def Judging (s : Cluster.Settings) (slave : Tracked) (p : Operation (Option Transition)) : Prop :=
  ∃ master sighting next, Tracked.ofSighting sighting = slave ∧
    p = .perform (.update (decision s.tick master sighting)) next ∧
    ∀ c : Cluster, Proceeds s (c.supervisor.verdict s.tick sighting) (next c)

/-- A check reads the clock, looks at the master and then at the slave. -/
inductive Looking (s : Cluster.Settings) : Operation (Option Transition) → Prop
  | clock {next : Clock → Operation (Option Transition)} (h : ∀ now, Looking s (next now)) :
    Looking s (.perform (.act .clock) next)
  | master {next : Cluster → Operation (Option Transition)} (h : ∀ c, Looking s (next c)) :
    Looking s (.perform (.update id) next)
  | slave {next : Cluster → Operation (Option Transition)}
    (h : ∀ c, Judging s c.slave.tracked (next c)) : Looking s (.perform (.update id) next)

theorem check_looking (s : Cluster.Settings) : Looking s (check s) := by
  refine .clock fun now => .master fun c => .slave fun c' => ?_
  refine ⟨c.master.sighting now.wall, c'.slave.sighting now.wall, _, rfl, rfl, fun before => ?_⟩
  dsimp only [Program.bind]
  cases before.supervisor.verdict s.tick (c'.slave.sighting now.wall) with
  | recover start stop => rfl
  | slaveDown | stillDown | stillRecovering => exact (closes_log _).bind fun _ _ => rfl
  | steady => exact (closes_logAll _).bind fun _ _ => rfl
  | overflow => exact rfl

/-- How far the program of a check has come. -/
def Stage.Fits (s : Cluster.Settings) : Stage → Operation (Option Transition) → Prop
  | .looks, p => Looking s p
  | .judges slave, p => Judging s slave p
  | .recovers, p => Restores (· = some .recovered) p
  | .closes t, p => p.Closes (· = t)

/-- A step of a check that is to be told of. -/
inductive Tells (s : Cluster.Settings) (c : Cluster) :
    Operation (Option Transition) → List Stimulus → List Reaction → Prop
  | looked {next : Cluster → Operation (Option Transition)}
    (h : ∀ c, Judging s c.slave.tracked (next c)) :
    Tells s c (.perform (.update id) next) [.looked] []
  | decided {master slave : Sighting} {next : Cluster → Operation (Option Transition)}
    (h : Proceeds s (c.supervisor.verdict s.tick slave) (next c)) :
    Tells s c (.perform (.update (decision s.tick master slave)) next) []
      [.decided (c.supervisor.verdict s.tick slave)
        (decision s.tick master slave c).supervisor.view]
  | finished {elapsed : Span} {next : Cluster → Operation (Option Transition)} :
    Tells s c (.perform (.update (conclusion elapsed)) next) []
      [.finished (conclusion elapsed c).supervisor.view]

theorem Proceeds.fits {v : Verdict} (h : Proceeds s v p) : v.stage.Fits s p := by
  cases v with
  | recover start stop =>
    obtain rfl : p = recovering s start stop := h
    exact (recover_restores s start stop).map fun _ _ => rfl
  | steady | slaveDown | stillDown | stillRecovering | overflow => exact h

theorem not_blind_decision (tick : Span) (master slave : Sighting) :
    ¬ Blind (decision tick master slave) :=
  fun h => not_spares_decision tick master slave h.spares

theorem not_blind_conclusion (elapsed : Span) : ¬ Blind (conclusion elapsed) :=
  fun h => not_spares_conclusion elapsed h.spares

theorem decision_ne_id (tick : Span) (master slave : Sighting) : decision tick master slave ≠ id :=
  fun h => not_blind_decision tick master slave (h ▸ blind_of_id fun _ => rfl)

theorem conclusion_ne_id (elapsed : Span) : conclusion elapsed ≠ id :=
  fun h => not_blind_conclusion elapsed (h ▸ blind_of_id fun _ => rfl)

namespace Stage.Fits
variable {st : Stage} {c : Cluster} {change : Cluster → Cluster}
  {next : Cluster → Operation (Option Transition)} {is : List Stimulus} {rs : List Reaction}

theorem act {action : Action} {next : action.Answer → Operation (Option Transition)}
    (h : st.Fits s (.perform (.act action) next)) (x : action.Answer) : st.Fits s (next x) := by
  cases st with
  | looks =>
    cases h with
    | clock h => exact h x
  | judges slave =>
    obtain ⟨_, _, _, _, heq, _⟩ := h
    cases heq
  | recovers => exact h x
  | closes t =>
    cases action with
    | log line => exact h x
    | connect | call | sleep | clock => exact h.elim

theorem pool {limit : Nat} {jobs : List (Routine Outcome)}
    {next : List Outcome → Operation (Option Transition)}
    (h : st.Fits s (.perform (.pool limit jobs) next)) (x : List Outcome) :
    st.Fits s (next x) := by
  cases st with
  | looks => cases h
  | judges slave =>
    obtain ⟨_, _, _, _, heq, _⟩ := h
    cases heq
  | recovers => exact h x
  | closes t => exact h.elim

theorem done {result : Option Transition} (h : st.Fits s (.done result)) :
    st = .closes result := by
  cases st with
  | looks => cases h
  | judges slave =>
    obtain ⟨_, _, _, _, heq, _⟩ := h
    cases heq
  | recovers => exact h.elim
  | closes t => exact congrArg Stage.closes h.symm

/-- A check changes what shows only where it decides and where its recovery ends. -/
theorem update (h : st.Fits s (.perform (.update change) next)) :
    (Blind change ∧ (∀ slave, st ≠ .judges slave) ∧ ∀ c, st.Fits s (next c)) ∨
    (st = .looks ∧ change = id ∧ ∀ c, Judging s c.slave.tracked (next c)) ∨
    (∃ master slave, st = .judges (.ofSighting slave) ∧ change = decision s.tick master slave ∧
      ∀ c : Cluster, Proceeds s (c.supervisor.verdict s.tick slave) (next c)) ∨
    (st = .recovers ∧ ∃ elapsed, change = conclusion elapsed ∧
      ∀ c, (Stage.closes (some .recovered)).Fits s (next c)) := by
  cases st with
  | looks =>
    cases h with
    | master h => exact .inl ⟨blind_of_id fun _ => rfl, by rintro _ ⟨⟩, h⟩
    | slave h => exact .inr (.inl ⟨rfl, rfl, h⟩)
  | judges slave =>
    obtain ⟨master, sighting, _, rfl, heq, hnext⟩ := h
    cases heq
    exact .inr (.inr (.inl ⟨master, sighting, rfl, rfl, hnext⟩))
  | recovers =>
    rcases h with ⟨hchange, hnext⟩ | ⟨elapsed, hchange, hnext⟩
    · exact .inl ⟨hchange, by rintro _ ⟨⟩, hnext⟩
    · exact .inr (.inr (.inr ⟨rfl, elapsed, hchange, hnext⟩))
  | closes t => exact h.elim

/-- A program that decides next can be at no other stage. -/
theorem of_judging {slave : Tracked} (h : st.Fits s p) (hjudging : Judging s slave p) :
    ∃ slave', st = .judges slave' := by
  obtain ⟨master, sighting, next, -, rfl, -⟩ := hjudging
  rcases h.update with ⟨hblind, -⟩ | ⟨-, heq, -⟩ | ⟨_, _, hst, -⟩ | ⟨-, elapsed, heq, -⟩
  · exact absurd hblind (not_blind_decision _ _ _)
  · exact absurd heq (decision_ne_id _ _ _)
  · exact ⟨_, hst⟩
  · exact absurd heq (decision_ne_conclusion _ _ _ _)

/-- A step that is not told of changes nothing that shows. -/
theorem quiet (h : st.Fits s (.perform (.update change) next))
    (hnot : ∀ is rs, ¬ Tells s c (.perform (.update change) next) is rs) :
    Blind change ∧ st.Fits s (next c) := by
  rcases h.update with ⟨hblind, -, hnext⟩ | ⟨-, rfl, hnext⟩ | ⟨_, _, -, rfl, hnext⟩ |
    ⟨-, _, rfl, -⟩
  · exact ⟨hblind, hnext c⟩
  · exact absurd (.looked hnext) (hnot _ _)
  · exact absurd (.decided (hnext c)) (hnot _ _)
  · exact absurd .finished (hnot _ _)

/-- What a step does that is told of: a check that looks goes on to judge what it sees, and every
other step does the first of what the check has yet to do. -/
theorem tells (h : st.Fits s (.perform (.update change) next))
    (htells : Tells s c (.perform (.update change) next) is rs) :
    (change c).slave = c.slave ∧
    ((st = .looks ∧ is = [.looked] ∧ rs = [] ∧ (change c).supervisor = c.supervisor ∧
      (Stage.judges c.slave.tracked).Fits s (next c)) ∨
    (is = [] ∧ ∃ st' : Stage, st'.Fits s (next c) ∧ st.rest s.tick c.supervisor.view =
      ((st'.rest s.tick (change c).supervisor.view).1,
        rs ++ (st'.rest s.tick (change c).supervisor.view).2))) := by
  cases htells with
  | looked hjudging =>
    refine ⟨rfl, .inl ?_⟩
    rcases h.update with ⟨-, hne, hfits⟩ | ⟨hst, -⟩ | ⟨_, _, -, heq, -⟩ | ⟨-, _, heq, -⟩
    · obtain ⟨slave, hst⟩ := (hfits c).of_judging (hjudging c)
      exact absurd hst (hne slave)
    · exact ⟨hst, rfl, rfl, rfl, hjudging c⟩
    · exact absurd heq.symm (decision_ne_id _ _ _)
    · exact absurd heq.symm (conclusion_ne_id _)
  | @decided master slave _ hproceeds =>
    refine ⟨rfl, .inr ⟨rfl, (c.supervisor.verdict s.tick slave).stage, hproceeds.fits, ?_⟩⟩
    rcases h.update with ⟨hblind, -⟩ | ⟨-, heq, -⟩ | ⟨master', slave', rfl, heq, -⟩ | ⟨-, _, heq, -⟩
    · exact absurd hblind (not_blind_decision _ _ _)
    · exact absurd heq (decision_ne_id _ _ _)
    · have hverdict := verdict_eq_of_decision_eq heq c.supervisor
      have hview : (decision s.tick master slave c).supervisor.view =
          c.supervisor.view.step s.tick (.ofSighting slave') := by
        rw [heq]
        exact step_view c.supervisor s.tick master' slave'
      rw [rest_stage, hview, hverdict, verdict_view]
      rfl
    · exact absurd heq (decision_ne_conclusion _ _ _ _)
  | @finished elapsed _ =>
    refine ⟨rfl, .inr ⟨rfl, .closes (some .recovered), ?_⟩⟩
    rcases h.update with ⟨hblind, -⟩ | ⟨-, heq, -⟩ | ⟨_, _, -, heq, -⟩ | ⟨rfl, _, -, hnext⟩
    · exact absurd hblind (not_blind_conclusion _)
    · exact absurd heq (conclusion_ne_id _)
    · exact absurd heq.symm (decision_ne_conclusion _ _ _ _)
    · exact ⟨hnext c, rfl⟩

end Stage.Fits

end Programs
end SeriesReplica.Cluster
