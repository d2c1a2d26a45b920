import SeriesReplica.Proofs.Cluster.Chronicle

/-! Where the programs of checks stand. The marks that a check has left tell what its program is
still to do: to decide, to end its recovery, or no more than to write the log and to answer. -/
namespace SeriesReplica.Cluster
open Concurrent Concurrent.Process Time Sync

variable {tick : Span}

/-- Where a program stands that has left these marks. -/
inductive Stands (tick : Span) : List Mark → Operation (Option Transition) → Prop
  /-- It is no check, or one that has failed. -/
  | aside {p} : Ends (· = none) p → Stands tick [] p
  | looking {p} : Looks tick p → Stands tick [] p
  | recovering {p} : Recovers (· = some .recovered) p → Stands tick [.decided .recovered] p
  | closing {p t} : p.Closes (· = some t) → Stands tick t.marks p

variable {es : List Mark} {p : Operation (Option Transition)}

namespace Stands

theorem act {action : Action} {next : action.Answer → Operation (Option Transition)}
    (h : Stands tick es (.perform (.act action) next)) (x : action.Answer) :
    Stands tick es (next x) := by
  cases h with
  | aside h => exact .aside (h x)
  | looking h => exact .looking (h x)
  | recovering h => exact .recovering (h x)
  | closing h =>
    cases action with
    | log line => exact .closing (h x)
    | connect | call | sleep | clock => exact h.elim

/-- A program that only has to write the log opens no pool. -/
theorem pool {limit : Nat} {jobs : List (Routine Outcome)}
    {next : List Outcome → Operation (Option Transition)}
    (h : Stands tick es (.perform (.pool limit jobs) next)) :
    (∀ t : Transition, es ≠ t.marks) ∧ ∀ x, Stands tick es (next x) := by
  cases h with
  | aside h => exact ⟨fun t => (t.marks_ne_nil ·.symm), fun x => .aside (h x)⟩
  | looking h => exact ⟨fun t => (t.marks_ne_nil ·.symm), fun x => .looking (h x)⟩
  | recovering h => exact ⟨fun t => (t.marks_ne_recovering ·.symm), fun x => .recovering (h x)⟩
  | closing h => exact h.elim

/-- A program changes the state only where it decides or ends its recovery. A check that fails
leaves no mark. -/
theorem update {change : Cluster → Cluster} {next : Cluster → Operation (Option Transition)}
    (h : Stands tick es (.perform (.update change) next)) :
    (Spares change ∧ ∀ c, Stands tick es (next c)) ∨
    (es = [] ∧ ∃ master slave, change = decision tick master slave ∧ ∀ c : Cluster,
      Stands tick ((c.supervisor.verdict tick slave).transition.map Mark.decided).toList
        (next c)) ∨
    (es = [.decided .recovered] ∧ ∃ elapsed, change = conclusion elapsed ∧ ∀ c : Cluster,
      Stands tick [.decided .recovered, .finished] (next c)) := by
  cases h with
  | aside h =>
    rcases h with ⟨hchange, hnext⟩ | h
    · exact .inl ⟨hchange, fun c => .aside (hnext c)⟩
    · exact h.elim
  | looking h =>
    rcases h with ⟨hchange, hnext⟩ | ⟨master, slave, hchange, hnext⟩
    · exact .inl ⟨hchange, fun c => .looking (hnext c)⟩
    · refine .inr (.inl ⟨rfl, master, slave, hchange, fun c => ?_⟩)
      rcases hnext c with ⟨hv, hrecovers⟩ | ⟨hv, hcloses⟩
      · rw [hv]
        exact .recovering hrecovers
      · cases ht : (c.supervisor.verdict tick slave).transition with
        | none => exact .aside (ht ▸ hcloses).until
        | some t =>
          rw [ht] at hv hcloses
          have hstands : Stands tick t.marks (next c) := .closing hcloses
          rwa [Transition.marks_of_ne fun h => hv (congrArg some h)] at hstands
  | recovering h =>
    rcases h with ⟨hchange, hnext⟩ | ⟨elapsed, hchange, hnext⟩
    · exact .inl ⟨hchange, fun c => .recovering (hnext c)⟩
    · exact .inr (.inr ⟨rfl, elapsed, hchange, fun c => .closing (t := .recovered) (hnext c)⟩)
  | closing h => exact h.elim

theorem done {result : Option Transition} (h : Stands tick es (.done result)) :
    (result = none ∧ es = []) ∨ ∃ t, result = some t ∧ es = t.marks := by
  cases h with
  | aside h => exact .inl ⟨h, rfl⟩
  | looking h | recovering h => exact h.elim
  | closing h => exact .inr ⟨_, h, rfl⟩

theorem closes {t : Transition} (h : Stands tick t.marks p) : p.Closes (· = some t) := by
  generalize hes : t.marks = es at h
  cases h with
  | aside h | looking h => exact absurd hes t.marks_ne_nil
  | recovering h => exact absurd hes t.marks_ne_recovering
  | closing h => exact Transition.marks_injective hes ▸ h

end Stands

/-- Where a fiber stands that has left these marks. Jobs leave none, and whoever has yet to answer
only waits for no pool. -/
def BodyStands (tick : Span) (es : List Mark) : Body Cluster Outcome Transition → Prop
  | .process p .nothing => Stands tick es p
  | .gathering _ _ next .nothing => (∀ t : Transition, es ≠ t.marks) ∧ ∀ x, Stands tick es (next x)
  | .job .. => es = []
  | _ => False

/-- A check has done nothing, or it recovers, or it has done all that it does. -/
theorem BodyStands.marks_cases {b : Body Cluster Outcome Transition} (h : BodyStands tick es b) :
    es = [] ∨ es = [.decided .recovered] ∨ ∃ t : Transition, es = t.marks := by
  have hstands : ∀ {p}, Stands tick es p →
      es = [] ∨ es = [.decided .recovered] ∨ ∃ t : Transition, es = t.marks := by
    rintro p (_ | _ | _ | _)
    · exact .inl rfl
    · exact .inl rfl
    · exact .inr (.inl rfl)
    · exact .inr (.inr ⟨_, rfl⟩)
  match b, h with
  | .process p .nothing, h => exact hstands h
  | .gathering _ _ next .nothing, h => exact hstands (h.2 [])
  | .job .., h => exact .inl h

end SeriesReplica.Cluster
