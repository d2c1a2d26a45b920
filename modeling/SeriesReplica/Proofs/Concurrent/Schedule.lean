import Mathlib.Order.GameAdd
import SeriesReplica.Proofs.Concurrent.Outcome

/-! Schedules. At every moment any fiber that is not waiting for its pool may take the next step.
Whatever the choices, a process that is launched on a machine of its own comes to its end, and
there is an outcome of the process that the machine then shows. -/
namespace SeriesReplica.Concurrent
open Time

variable {ν σ ρ α : Type}

namespace Machine

/-- Some fiber that can go on takes a step. -/
def Moves (host : Host ν) (m m' : Machine ν σ ρ α) : Prop :=
  ∃ f ∈ m.fibers, f.isRunnable ∧ m.resume host f = m'

/-- Every schedule from a machine ends, and where it ends the machine has the property. -/
inductive Inevitably (host : Host ν) (P : Machine ν σ ρ α → Prop) : Machine ν σ ρ α → Prop where
  | intro {m : Machine ν σ ρ α} (moves : ∀ m', m.Moves host m' → Inevitably host P m')
    (ends : (∀ m', ¬ m.Moves host m') → P m) : Inevitably host P m

variable {host : Host ν} {P Q : Machine ν σ ρ α → Prop} {m : Machine ν σ ρ α}

theorem Inevitably.mono (h : m.Inevitably host P) (hPQ : ∀ m, P m → Q m) :
    m.Inevitably host Q := by
  induction h with
  | intro _ ends ih => exact .intro ih fun hstuck => hPQ _ (ends hstuck)

theorem not_moves (hfibers : m.fibers = []) (m' : Machine ν σ ρ α) : ¬ m.Moves host m' := by
  rintro ⟨f, hf, -⟩
  simp [hfibers] at hf

/-- A machine without fibers is at its end. -/
theorem Inevitably.of_no_fibers (hfibers : m.fibers = []) (hP : P m) : m.Inevitably host P :=
  .intro (fun m' h => absurd h (not_moves hfibers m')) fun _ => hP

theorem Inevitably.holds (h : m.Inevitably host P) (hfibers : m.fibers = []) : P m := by
  cases h with
  | intro _ ends => exact ends (not_moves hfibers)

/-- A machine with one fiber that can go on takes that fiber's step. -/
theorem Inevitably.of_single {f : Fiber σ ρ α} (hfibers : m.fibers = [f]) (hrun : f.isRunnable)
    (h : (m.resume host f).Inevitably host P) : m.Inevitably host P := by
  refine .intro ?_ fun hstuck => absurd ⟨f, by simp [hfibers], hrun, rfl⟩ (hstuck _)
  rintro m' ⟨g, hg, -, rfl⟩
  simp only [hfibers, List.mem_singleton] at hg
  exact hg ▸ h

/-- What is picked from a list, one after another, is the first pick or in the list. -/
private theorem eq_or_mem_of_foldl {β : Type} {pick : Option β → β → Option β}
    (hpick : ∀ best b, pick best b = best ∨ pick best b = some b) {bs : List β}
    {best : Option β} {b : β} (h : bs.foldl pick best = some b) : best = some b ∨ b ∈ bs := by
  induction bs generalizing best with
  | nil => exact .inl h
  | cons c bs ih =>
    rcases ih h with hbest | hb
    · rcases hpick best c with hc | hc
      · exact .inl (hc ▸ hbest)
      · rw [hc] at hbest
        exact .inr (Option.some.inj hbest ▸ List.mem_cons_self)
    · exact .inr (List.mem_cons_of_mem c hb)

/-- The fiber that is due first is one that can go on. -/
theorem first?_eq_some {f : Fiber σ ρ α} (h : m.first? = some f) :
    f ∈ m.fibers ∧ f.isRunnable := by
  rw [first?] at h
  have hf := eq_or_mem_of_foldl (fun best g => ?_) h
  · rcases hf with hnone | hf
    · cases hnone
    · exact List.mem_filter.1 hf
  · cases best with
    | none => exact .inr rfl
    | some k =>
      dsimp only
      split
      · exact .inr rfl
      · exact .inl rfl

/-- What every schedule ends with is what a run by the clock ends with. -/
theorem Inevitably.at_end (h : m.Inevitably host P) (fuel : Nat)
    (hend : (m.runUntil host (fun _ => false) fuel).fibers = []) :
    P (m.runUntil host (fun _ => false) fuel) := by
  induction fuel generalizing m with
  | zero => exact h.holds hend
  | succ fuel ih =>
    cases hfirst : m.first? with
    | some f =>
      have hrun : m.runUntil host (fun _ => false) (fuel + 1) =
          (m.resume host f).runUntil host (fun _ => false) fuel := by
        simp only [runUntil, step, hfirst, Option.map_some, Bool.false_eq_true, if_false]
      rw [hrun] at hend ⊢
      cases h with
      | intro moves _ =>
        obtain ⟨hf, hrunnable⟩ := first?_eq_some hfirst
        exact ih (moves _ ⟨f, hf, hrunnable, rfl⟩) hend
    | none =>
      have hrun : m.runUntil host (fun _ => false) (fuel + 1) = m := by
        simp only [runUntil, step, hfirst, Option.map_none, Bool.false_eq_true, if_false]
      rw [hrun] at hend ⊢
      exact h.holds hend

/-- The moment at which a fiber that is due at `wake` goes on. -/
def dueAt (m : Machine ν σ ρ α) (wake : Span) : Span := if m.now < wake then wake else m.now

theorem now_le_dueAt (m : Machine ν σ ρ α) (wake : Span) : m.now ≤ m.dueAt wake := by
  unfold dueAt
  split
  · exact Nat.le_of_lt (show m.now.nanos < wake.nanos from ‹_›)
  · exact Nat.le_refl m.now.nanos

theorem le_dueAt (m : Machine ν σ ρ α) (wake : Span) : wake ≤ m.dueAt wake := by
  unfold dueAt
  split
  · exact Nat.le_refl wake.nanos
  · exact Nat.not_lt.1 ‹_›

theorem dueAt_of_le {wake : Span} (h : wake ≤ m.now) : m.dueAt wake = m.now :=
  if_neg (Nat.not_lt.2 h)

/-- To perform an action is to get the host's answer; besides, only the log grows. -/
theorem perform_eq (host : Host ν) (m : Machine ν σ ρ α) (action : Action) :
    ∃ log, m.perform host action =
      ((host.answer m.start m.now m.nodes action).1,
        { m with nodes := (host.answer m.start m.now m.nodes action).2, log := log }) := by
  cases action with
  | connect node deadline => exact ⟨m.log, rfl⟩
  | call client c deadline => exact ⟨m.log, rfl⟩
  | sleep d => exact ⟨m.log, rfl⟩
  | clock => exact ⟨m.log, rfl⟩
  | log line => exact ⟨line :: m.log, rfl⟩

end Machine

/-- One of several jobs has taken an action. -/
def JobStep (jobs' jobs : List (Routine ρ)) : Prop :=
  ∃ (i : Nat) (action : Action) (next : action.Answer → Routine ρ) (answer : action.Answer),
    jobs[i]? = some (.perform action next) ∧ jobs' = jobs.set i (next answer)

/-- A routine is a continuation of another one after one action. -/
private def Continues (r' r : Routine ρ) : Prop :=
  ∃ (action : Action) (next : action.Answer → Routine ρ) (answer : action.Answer),
    r = .perform action next ∧ r' = next answer

private theorem continues_acc (r : Routine ρ) : Acc Continues r := by
  induction r with
  | done value =>
    refine .intro _ ?_
    rintro r' ⟨action, next, answer, h, -⟩
    cases h
  | perform action next ih =>
    refine .intro _ ?_
    rintro r' ⟨action', next', answer, h, rfl⟩
    cases h
    exact ih answer

/-- Jobs side by side take finitely many actions. -/
theorem jobStep_acc (jobs : List (Routine ρ)) : Acc JobStep jobs := by
  induction jobs with
  | nil =>
    refine .intro _ ?_
    rintro jobs' ⟨i, action, next, answer, h, -⟩
    simp at h
  | cons r rs ih =>
    -- The head and the tail take turns, each of them finitely often.
    have hpair := Acc.prod_gameAdd (continues_acc r) ih
    generalize hp : (r, rs) = p at hpair
    induction hpair generalizing r rs with
    | intro p _ ihp =>
      subst hp
      refine .intro _ ?_
      rintro jobs' ⟨i, action, next, answer, h, rfl⟩
      cases i with
      | zero =>
        obtain rfl := Option.some.inj h
        exact ihp _ (.fst ⟨action, next, answer, rfl, rfl⟩) _ _ ih rfl
      | succ i =>
        have hstep : JobStep (rs.set i (next answer)) rs := ⟨i, action, next, answer, h, rfl⟩
        exact ihp _ (.snd hstep) _ _ (ih.inv hstep) rfl

end SeriesReplica.Concurrent
