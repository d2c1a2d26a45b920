import Mathlib.Algebra.GroupWithZero.Nat
import SeriesReplica.Proofs.Concurrent.Outcome

/-! What a routine does. Whoever answers it, a routine comes to its result by deeds, one after
another: actions with their answers and the time they took. A routine that runs alone is no
exception, and its clock goes on by the time of its deeds. -/
namespace SeriesReplica.Concurrent
open Time

variable {ν α β : Type}

/-- How long an action may last. A sleep lasts as long as it is told to, a node answers when it
does, and all else takes no time. -/
def Action.Lasts : Action → Span → Prop
  | .connect .., _ | .call .., _ => True
  | .sleep d, time => time = d
  | .clock, time | .log _, time => time = .zero

/-- An action that has been done. -/
structure Deed where
  action : Action
  answer : action.Answer
  time : Span
  lasts : action.Lasts time

namespace Deed

def log (line : Log.Line) : Deed := ⟨.log line, (), .zero, rfl⟩

def sleep (d : Span) : Deed := ⟨.sleep d, (), d, rfl⟩

/-- The nanoseconds that deeds take together. -/
def nanos (ds : List Deed) : Nat := (ds.map fun d => d.time.nanos).sum

@[simp] theorem nanos_nil : nanos [] = 0 := rfl

@[simp] theorem nanos_cons (d : Deed) (ds : List Deed) :
    nanos (d :: ds) = d.time.nanos + nanos ds := rfl

@[simp] theorem nanos_append (ds es : List Deed) : nanos (ds ++ es) = nanos ds + nanos es := by
  simp [nanos]

@[simp] theorem log_nanos (line : Log.Line) : (log line).time.nanos = 0 := rfl

@[simp] theorem sleep_nanos (d : Span) : (sleep d).time.nanos = d.nanos := rfl

end Deed

namespace Routine

/-- A routine may come to a result by these deeds, one after another. -/
def Acts (a : α) : Routine α → List Deed → Prop
  | .done b, ds => b = a ∧ ds = []
  | .perform action next, ds => ∃ answer time lasts rest,
    ds = ⟨action, answer, time, lasts⟩ :: rest ∧ Acts a (next answer) rest

theorem acts_bind {r : Routine α} {f : α → Routine β} {b : β} {ds : List Deed} :
    (r >>= f).Acts b ds ↔ ∃ a es gs, ds = es ++ gs ∧ r.Acts a es ∧ (f a).Acts b gs := by
  change Acts b (r.bind f) ds ↔ _
  induction r generalizing ds with
  | done a =>
    constructor
    · exact fun h => ⟨a, [], ds, rfl, ⟨rfl, rfl⟩, h⟩
    · rintro ⟨_, es, gs, rfl, ⟨rfl, rfl⟩, h⟩
      exact h
  | perform action next ih =>
    constructor
    · rintro ⟨answer, time, lasts, rest, rfl, h⟩
      obtain ⟨a, es, gs, rfl, hr, hf⟩ := (ih answer).1 h
      exact ⟨a, _, gs, rfl, ⟨answer, time, lasts, es, rfl, hr⟩, hf⟩
    · rintro ⟨a, es, gs, rfl, ⟨answer, time, lasts, rest, rfl, hr⟩, hf⟩
      exact ⟨answer, time, lasts, rest ++ gs, rfl, (ih answer).2 ⟨a, rest, gs, rfl, hr, hf⟩⟩

@[simp] theorem acts_pure {a b : α} {ds : List Deed} :
    (pure a : Routine α).Acts b ds ↔ a = b ∧ ds = [] := Iff.rfl

@[simp] theorem acts_log {line : Log.Line} {u : Unit} {ds : List Deed} :
    (log line).Acts u ds ↔ ds = [.log line] := by
  constructor
  · rintro ⟨_, _, rfl, _, rfl, -, rfl⟩
    rfl
  · rintro rfl
    exact ⟨(), .zero, rfl, [], rfl, rfl, rfl⟩

@[simp] theorem acts_sleep {d : Span} {u : Unit} {ds : List Deed} :
    (sleep d).Acts u ds ↔ ds = [.sleep d] := by
  constructor
  · rintro ⟨_, _, rfl, _, rfl, -, rfl⟩
    rfl
  · rintro rfl
    exact ⟨(), d, rfl, [], rfl, rfl, rfl⟩

end Routine

theorem Host.answer_lasts (host : Host ν) (start : Instant) (now : Span) (nodes : ν)
    (action : Action) : action.Lasts (host.answer start now nodes action).1.1 := by
  cases action with
  | connect | call => trivial
  | sleep | clock | log => rfl

/-- What a routine does that runs alone. -/
theorem Host.exec_acts (host : Host ν) (start : Instant) (r : Routine α) (s : ν × Span) :
    ∃ ds, r.Acts (host.exec start r s).1 ds ∧
      (host.exec start r s).2.2.nanos = s.2.nanos + Deed.nanos ds := by
  induction r generalizing s with
  | done a => exact ⟨[], ⟨rfl, rfl⟩, rfl⟩
  | perform action next ih =>
    have hlasts := host.answer_lasts start s.2 s.1 action
    obtain ⟨ds, hacts, hnanos⟩ := ih (host.answer start s.2 s.1 action).1.2
      ((host.answer start s.2 s.1 action).2, s.2 + (host.answer start s.2 s.1 action).1.1)
    exact ⟨⟨action, _, _, hlasts⟩ :: ds, ⟨_, _, hlasts, ds, rfl, hacts⟩,
      hnanos.trans (Nat.add_assoc ..)⟩

end SeriesReplica.Concurrent
