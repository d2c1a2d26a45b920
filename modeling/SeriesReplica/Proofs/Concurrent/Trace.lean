import SeriesReplica.Proofs.Concurrent.Outcome
import SeriesReplica.Proofs.Concurrent.Schedule

/-! Traces. A schedule of a machine leaves a trace of the calls to nodes, with the job each of them
belongs to and the moments at which it begins and ends. Apart from any machine, a routine comes to
its result by exchanges with nodes, one after another, and a process that leaves all calls to jobs
by phases, one for every pool. -/
namespace SeriesReplica.Concurrent
open Time

variable {ν σ ρ α β : Type}

/-- A call to a node and how it was answered. -/
structure Exchange where
  client : Client
  call : NodeCall
  reply : Except Node.Error call.Reply

/-- A call in a trace. -/
structure Event where
  /-- The position of the job that made the call; a process itself has none. -/
  job : Option Nat
  exchange : Exchange
  begun : Span
  ended : Span

/-- The calls of one job. -/
def Event.ofJob (i : Nat) (es : List Event) : List Event := es.filter fun e => e.job = some i

/-- At a moment of a trace a job has begun to make calls and has not ended with them. -/
def Event.InFlight (es : List Event) (moment : Span) (i : Nat) : Prop :=
  (∃ e ∈ es, e.job = some i ∧ e.begun ≤ moment) ∧ ∃ e ∈ es, e.job = some i ∧ moment < e.ended

/-- At every moment of a trace there are no more jobs in flight. -/
def Event.AtMost (limit : Nat) (es : List Event) : Prop :=
  ∀ (moment : Span) (is : List Nat), is.Nodup → (∀ i ∈ is, InFlight es moment i) →
    is.length ≤ limit

/-- Only a call of a node is an exchange. -/
def Action.exchanges : (action : Action) → action.Answer → List Exchange
  | .call client c _, reply => [⟨client, c, reply⟩]
  | .connect .., _ => []
  | .sleep _, _ => []
  | .clock, _ => []
  | .log _, _ => []

/-- The trace of an action that is begun at a moment and answered after a time. -/
def Action.events (action : Action) (job : Option Nat) (begun : Span)
    (reply : Span × action.Answer) : List Event :=
  (action.exchanges reply.2).map fun x => ⟨job, x, begun, begun + reply.1⟩

namespace Machine

/-- The calls that are made when a fiber takes its next step. -/
def calls (host : Host ν) (m : Machine ν σ ρ α) (f : Fiber σ ρ α) : List Event :=
  let now := m.dueAt f.wake
  match f.body with
  | .process (.perform (.act action) _) _ =>
    action.events none now (perform host { m with now := now } action).1
  | .job _ index (.perform action _) =>
    action.events (some index) now (perform host { m with now := now } action).1
  | _ => []

/-- A machine comes to another one by steps of any fibers that can go on, and this is the trace. -/
inductive Traced (host : Host ν) (m : Machine ν σ ρ α) :
    List Event → Machine ν σ ρ α → Prop where
  | refl : Traced host m [] m
  | step {es : List Event} {m' : Machine ν σ ρ α} {f : Fiber σ ρ α} (before : Traced host m es m')
    (member : f ∈ m'.fibers) (runnable : f.isRunnable) :
    Traced host m (es ++ m'.calls host f) (m'.resume host f)

/-- A run by the clock is one of these schedules. -/
theorem Traced.runUntil {host : Host ν} {m₀ m : Machine ν σ ρ α} {es : List Event}
    (h : Traced host m₀ es m) (holds : Machine ν σ ρ α → Bool) (fuel : Nat) :
    ∃ es', Traced host m₀ (es ++ es') (m.runUntil host holds fuel) := by
  induction fuel generalizing m es with
  | zero => exact ⟨[], by rwa [List.append_nil]⟩
  | succ fuel ih =>
    rw [Machine.runUntil]
    split
    · exact ⟨[], by rwa [List.append_nil]⟩
    · cases hfirst : m.first? with
      | none => exact ⟨[], by rwa [List.append_nil, Machine.step, hfirst]⟩
      | some f =>
        obtain ⟨hf, hrun⟩ := first?_eq_some hfirst
        obtain ⟨es', hes'⟩ := ih (h.step hf hrun)
        refine ⟨m.calls host f ++ es', ?_⟩
        rw [Machine.step, hfirst, ← List.append_assoc]
        exact hes'

/-- The number of jobs that run. -/
def running (m : Machine ν σ ρ α) : Nat :=
  m.fibers.countP fun f => match f.body with
    | .job .. => true
    | _ => false

end Machine

/-- A routine may come to a result by these exchanges, one after another. -/
def Routine.Talks (a : α) : Routine α → List Exchange → Prop
  | .done b, xs => b = a ∧ xs = []
  | .perform action next, xs => ∃ answer rest,
    xs = action.exchanges answer ++ rest ∧ Talks a (next answer) rest

/-- A pool that has been run: its jobs, their calls and their results. -/
structure Phase (ρ : Type) where
  jobs : List (Routine ρ)
  events : List Event
  results : List ρ

namespace Phase

/-- All calls of a pool are those of its jobs, no more jobs were in flight at a time than allowed,
each job has come to its result by its calls, and made each after the one before had ended. -/
structure IsComplete (limit : Nat) (q : Phase ρ) : Prop where
  length : q.results.length = q.jobs.length
  owned : ∀ e ∈ q.events, ∃ i < q.jobs.length, e.job = some i
  talks : ∀ (i : Nat) (r : Routine ρ) (a : ρ), q.jobs[i]? = some r → q.results[i]? = some a →
    r.Talks a ((Event.ofJob i q.events).map Event.exchange)
  inTurn : ∀ i, (Event.ofJob i q.events).Pairwise fun e e' => e.ended ≤ e'.begun
  atMost : Event.AtMost limit q.events

end Phase

/-- Every call of one trace has ended when the first call of another one begins. -/
def Precedes (es es' : List Event) : Prop := ∀ e ∈ es, ∀ e' ∈ es', e.ended ≤ e'.begun

/-- A process that leaves all calls to jobs may come to a result by these phases. -/
def Process.GoesThrough (a : α) : Process σ ρ α → List (Phase ρ) → Prop
  | .done b, qs => b = a ∧ qs = []
  | .perform (.act _) next, qs => ∃ answer, GoesThrough a (next answer) qs
  | .perform (.pool limit jobs) next, qs => ∃ q rest, qs = q :: rest ∧
    q.IsComplete (max limit 1) ∧ q.jobs = jobs ∧ GoesThrough a (next q.results) rest
  | .perform (.update _) next, qs => ∃ s, GoesThrough a (next s) qs

/-- A process makes no calls itself, and none of its pools runs more jobs at a time. -/
def Process.Delegates (limit : Nat) : Process σ ρ α → Prop
  | .done _ => True
  | .perform (.act action) next =>
    (∀ answer, action.exchanges answer = []) ∧ ∀ answer, Delegates limit (next answer)
  | .perform (.pool n _) next => max n 1 ≤ limit ∧ ∀ results, Delegates limit (next results)
  | .perform (.update _) next => ∀ s, Delegates limit (next s)

@[simp] theorem Event.ofJob_append (i : Nat) (es es' : List Event) :
    Event.ofJob i (es ++ es') = Event.ofJob i es ++ Event.ofJob i es' := List.filter_append ..

theorem Event.mem_ofJob {i : Nat} {es : List Event} {e : Event} :
    e ∈ Event.ofJob i es ↔ e ∈ es ∧ e.job = some i := by
  simp [Event.ofJob]

namespace Action

variable {action : Action} {job : Option Nat} {begun : Span} {reply : Span × action.Answer}

theorem mem_events {e : Event} (h : e ∈ action.events job begun reply) :
    e.job = job ∧ e.begun = begun ∧ e.ended = begun + reply.1 := by
  obtain ⟨x, -, rfl⟩ := List.mem_map.1 h
  exact ⟨rfl, rfl, rfl⟩

theorem events_map_exchange :
    (action.events job begun reply).map Event.exchange = action.exchanges reply.2 := by
  rw [events, List.map_map]
  exact List.map_id _

theorem ofJob_events (i : Nat) : Event.ofJob i (action.events job begun reply) =
    if job = some i then action.events job begun reply else [] := by
  split
  · exact List.filter_eq_self.2 fun e he => by simpa [(mem_events he).1]
  · exact List.filter_eq_nil_iff.2 fun e he => by simpa [(mem_events he).1]

/-- An action makes at most one call. -/
theorem events_pairwise (R : Event → Event → Prop) :
    (action.events job begun reply).Pairwise R := by
  cases action <;> simp [events, exchanges]

end Action

namespace Routine

theorem talks_bind {r : Routine α} {f : α → Routine β} {b : β} {xs : List Exchange} :
    (r >>= f).Talks b xs ↔ ∃ a ys zs, xs = ys ++ zs ∧ r.Talks a ys ∧ (f a).Talks b zs := by
  change Talks b (r.bind f) xs ↔ _
  induction r generalizing xs with
  | done a =>
    constructor
    · exact fun h => ⟨a, [], xs, rfl, ⟨rfl, rfl⟩, h⟩
    · rintro ⟨_, ys, zs, rfl, ⟨rfl, rfl⟩, h⟩
      exact h
  | perform action next ih =>
    constructor
    · rintro ⟨answer, rest, rfl, h⟩
      obtain ⟨a, ys, zs, rfl, hr, hf⟩ := (ih answer).1 h
      exact ⟨a, _, zs, (List.append_assoc ..).symm, ⟨answer, ys, rfl, hr⟩, hf⟩
    · rintro ⟨a, ys, zs, rfl, ⟨answer, rest, rfl, hr⟩, hf⟩
      exact ⟨answer, rest ++ zs, List.append_assoc .., (ih answer).2 ⟨a, rest, zs, rfl, hr, hf⟩⟩

@[simp] theorem talks_pure {a b : α} {xs : List Exchange} :
    (pure a : Routine α).Talks b xs ↔ a = b ∧ xs = [] := Iff.rfl

@[simp] theorem talks_log {line : Log.Line} {u : Unit} {xs : List Exchange} :
    (log line).Talks u xs ↔ xs = [] := by
  simp [log, Program.ofOp, Talks, Action.exchanges]

@[simp] theorem talks_sleep {d : Span} {u : Unit} {xs : List Exchange} :
    (sleep d).Talks u xs ↔ xs = [] := by
  simp [sleep, Program.ofOp, Talks, Action.exchanges]

@[simp] theorem talks_logAll {lines : List Log.Line} {u : Unit} {xs : List Exchange} :
    (logAll lines).Talks u xs ↔ xs = [] := by
  induction lines generalizing xs with
  | nil => simp [logAll]
  | cons line lines ih => simp [logAll, talks_bind, ih]

end Routine

namespace Process

theorem goesThrough_bind {p : Process σ ρ α} {f : α → Process σ ρ β} {b : β}
    {qs : List (Phase ρ)} : (p >>= f).GoesThrough b qs ↔
      ∃ a us vs, qs = us ++ vs ∧ p.GoesThrough a us ∧ (f a).GoesThrough b vs := by
  change GoesThrough b (p.bind f) qs ↔ _
  induction p generalizing qs with
  | done a =>
    constructor
    · exact fun h => ⟨a, [], qs, rfl, ⟨rfl, rfl⟩, h⟩
    · rintro ⟨_, us, vs, rfl, ⟨rfl, rfl⟩, h⟩
      exact h
  | perform effect next ih =>
    cases effect with
    | act action =>
      constructor
      · rintro ⟨answer, h⟩
        obtain ⟨a, us, vs, rfl, hp, hf⟩ := (ih answer).1 h
        exact ⟨a, us, vs, rfl, ⟨answer, hp⟩, hf⟩
      · rintro ⟨a, us, vs, rfl, ⟨answer, hp⟩, hf⟩
        exact ⟨answer, (ih answer).2 ⟨a, us, vs, rfl, hp, hf⟩⟩
    | pool limit jobs =>
      constructor
      · rintro ⟨q, rest, rfl, hq, hjobs, h⟩
        obtain ⟨a, us, vs, rfl, hp, hf⟩ := (ih q.results).1 h
        exact ⟨a, q :: us, vs, rfl, ⟨q, us, rfl, hq, hjobs, hp⟩, hf⟩
      · rintro ⟨a, us, vs, rfl, ⟨q, rest, rfl, hq, hjobs, hp⟩, hf⟩
        exact ⟨q, rest ++ vs, rfl, hq, hjobs, (ih q.results).2 ⟨a, rest, vs, rfl, hp, hf⟩⟩
    | update change =>
      constructor
      · rintro ⟨s, h⟩
        obtain ⟨a, us, vs, rfl, hp, hf⟩ := (ih s).1 h
        exact ⟨a, us, vs, rfl, ⟨s, hp⟩, hf⟩
      · rintro ⟨a, us, vs, rfl, ⟨s, hp⟩, hf⟩
        exact ⟨s, (ih s).2 ⟨a, us, vs, rfl, hp, hf⟩⟩

@[simp] theorem goesThrough_pure {a b : α} {qs : List (Phase ρ)} :
    (pure a : Process σ ρ α).GoesThrough b qs ↔ a = b ∧ qs = [] := Iff.rfl

/-- A routine runs no pools. -/
theorem goesThrough_ofRoutine {r : Routine α} {a : α} {qs : List (Phase ρ)}
    (h : (ofRoutine r : Process σ ρ α).GoesThrough a qs) : qs = [] := by
  induction r with
  | done b => exact h.2
  | perform action next ih =>
    obtain ⟨answer, h⟩ := h
    exact ih answer h

theorem goesThrough_pool {limit : Nat} {jobs : List (Routine ρ)} {results : List ρ}
    {qs : List (Phase ρ)} : (pool limit jobs : Process σ ρ _).GoesThrough results qs ↔
      ∃ q, qs = [q] ∧ q.IsComplete (max limit 1) ∧ q.jobs = jobs ∧ q.results = results := by
  constructor
  · rintro ⟨q, rest, rfl, hq, hjobs, hresults, rfl⟩
    exact ⟨q, rfl, hq, hjobs, hresults⟩
  · rintro ⟨q, rfl, hq, hjobs, hresults⟩
    exact ⟨q, [], rfl, hq, hjobs, hresults, rfl⟩

variable {limit : Nat}

theorem Delegates.bind {p : Process σ ρ α} {f : α → Process σ ρ β} (h : p.Delegates limit)
    (hf : ∀ a, (f a).Delegates limit) : (p >>= f).Delegates limit := by
  change Delegates limit (p.bind f)
  induction p with
  | done a => exact hf a
  | perform effect next ih =>
    cases effect with
    | act action => exact ⟨h.1, fun answer => ih answer (h.2 answer)⟩
    | pool n jobs => exact ⟨h.1, fun results => ih results (h.2 results)⟩
    | update change => exact fun s => ih s (h s)

theorem delegates_pure (a : α) : (pure a : Process σ ρ α).Delegates limit := trivial

theorem delegates_log (line : Log.Line) : (log line : Process σ ρ Unit).Delegates limit :=
  ⟨fun _ => rfl, fun _ => trivial⟩

theorem delegates_clock : (clock : Process σ ρ Clock).Delegates limit :=
  ⟨fun _ => rfl, fun _ => trivial⟩

theorem delegates_pool {n : Nat} (jobs : List (Routine ρ)) (h : max n 1 ≤ limit) :
    (pool n jobs : Process σ ρ _).Delegates limit :=
  ⟨h, fun _ => trivial⟩

end Process
end SeriesReplica.Concurrent
