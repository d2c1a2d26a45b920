import SeriesReplica.Proofs.Concurrent.Discipline

/-! Conversations. A routine that is launched on a machine of its own leaves a trace of one call
after another. Whatever the host answers, the routine comes to its result by just these exchanges,
and until then what is left of it completes them. -/
namespace SeriesReplica.Concurrent
open Time

variable {ν σ ρ α : Type} {host : Host ν}

/-- A query is one exchange, whatever the answer. -/
@[simp] theorem Routine.talks_query {client : Client} {request : Query.Request}
    {deadline : Option Deadline} {reply : Except Node.Error Query.Response} {xs : List Exchange} :
    (query client request deadline).Talks reply xs ↔ xs = [⟨client, .query request, reply⟩] := by
  constructor
  · rintro ⟨_, _, rfl, rfl, rfl⟩
    rfl
  · rintro rfl
    exact ⟨reply, [], rfl, rfl, rfl⟩

/-- How a machine and its trace stand to a routine that has been launched as the fiber `id`. -/
inductive Converses (origin : Routine α) (id : Nat) (es : List Event) :
    Machine ν σ ρ α → Prop where
  /-- The rest of the routine completes the trace. -/
  | talking {m : Machine ν σ ρ α} (rest : Routine α) (wake : Span) (turn : Nat)
    (fibers : m.fibers = [⟨id, wake, turn,
      .process ((Process.ofRoutine rest).bind fun a => .done (some a)) .nothing⟩])
    (talks : ∀ a xs, rest.Talks a xs → origin.Talks a (es.map Event.exchange ++ xs)) :
    Converses origin id es m
  /-- The routine has come to its result. -/
  | ended {m : Machine ν σ ρ α} (a : α) (fibers : m.fibers = []) (answer : m.answer? id = some a)
    (talks : origin.Talks a (es.map Event.exchange)) : Converses origin id es m

namespace Converses
variable {origin : Routine α} {id : Nat} {es : List Event} {m : Machine ν σ ρ α}

/-- An action adds its exchange to the trace, and the rest of the routine has one less to make. -/
private theorem step_talking {rest : Routine α} {wake : Span} {turn : Nat}
    (hfibers : m.fibers = [⟨id, wake, turn,
      .process ((Process.ofRoutine rest).bind fun a => .done (some a)) .nothing⟩])
    (htalks : ∀ a xs, rest.Talks a xs → origin.Talks a (es.map Event.exchange ++ xs))
    (host : Host ν) :
    let f : Fiber σ ρ α := ⟨id, wake, turn,
      .process ((Process.ofRoutine rest).bind fun a => .done (some a)) .nothing⟩
    Converses origin id (es ++ m.calls host f) (m.resume host f) := by
  intro f
  cases rest with
  | done a =>
    have htalks := htalks a [] ⟨rfl, rfl⟩
    rw [List.append_nil] at htalks
    have hbody : f.body = .process (.done (some a)) .nothing := rfl
    rw [show m.calls host f = [] from rfl, List.append_nil, Machine.resume_done hbody]
    refine .ended a ?_ ?_ htalks
    · simp [Machine.remove, hfibers, f]
    · simp [Machine.answer?, Machine.remove, f]
  | perform action next =>
    obtain ⟨log, wake', turn', fresh, -, -, hresume⟩ :=
      Machine.resume_act host m id turn wake action
        fun a => (Process.ofRoutine (next a)).bind fun b => .done (some b)
    set answer := (host.answer m.start (m.dueAt wake) m.nodes action).1 with hanswer
    have hcalls : m.calls host f = action.events none (m.dueAt wake) answer := by
      have hperform := Machine.perform_fst host { m with now := m.dueAt wake } action
      exact congrArg (action.events none (m.dueAt wake)) hperform
    refine (congrArg (Converses origin id _) hresume).mpr ?_
    refine .talking (next answer.2) wake' turn' (Machine.put_single hfibers rfl) ?_
    intro a xs hxs
    rw [hcalls, List.map_append, Action.events_map_exchange, List.append_assoc]
    exact htalks a _ ⟨answer.2, xs, rfl, hxs⟩

/-- What a routine that has been launched is known by is kept by every step. -/
theorem step (h : Converses origin id es m) (host : Host ν) {f : Fiber σ ρ α}
    (hf : f ∈ m.fibers) : Converses origin id (es ++ m.calls host f) (m.resume host f) := by
  cases h with
  | talking rest wake turn fibers talks =>
    rw [fibers, List.mem_singleton] at hf
    subst hf
    exact step_talking fibers talks host
  | ended _ fibers => simp [fibers] at hf

/-- Where no fiber is left, the routine has come to its result by the exchanges of the trace. -/
theorem at_end (h : Converses origin id es m) (hfibers : m.fibers = []) :
    ∃ a, m.answer? id = some a ∧ origin.Talks a (es.map Event.exchange) := by
  cases h with
  | talking _ _ _ fibers => simp [fibers] at hfibers
  | ended a _ answer talks => exact ⟨a, answer, talks⟩

end Converses

/-- Whatever the schedule of a routine on a machine of its own, its trace is at every moment what
the routine has said so far. -/
theorem Machine.Traced.converses {r : Routine α} {start : Instant} {nodes : ν} {shared : σ}
    {es : List Event} {m : Machine ν σ ρ α}
    (h : Traced host ((initial start nodes shared).launch (Process.ofRoutine r)) es m) :
    Converses r 0 es m := by
  induction h with
  | refl => exact .talking r .zero 0 rfl fun a xs hxs => hxs
  | step _ member _ ih => exact ih.step host member

end SeriesReplica.Concurrent
