import Mathlib.Computability.Language
import SeriesReplica.Proofs.Cluster.Locking

/-! What checks have done to the state of their supervisor. A check decides, once; if it decides to
recover, it says later that it is done. Decisions and ends of recoveries follow one another as words
of a regular language. -/
namespace SeriesReplica.Cluster
open Concurrent Time
open scoped Computability

/-- What a check does to the state: it decides, which is told by what it is to answer, and if it
is to recover there is the end of its recovery. -/
inductive Mark where
  | decided (t : Transition)
  | finished
  deriving DecidableEq

/-- What a check has done once it has answered. -/
def Transition.marks : Transition → List Mark
  | .recovered => [.decided .recovered, .finished]
  | t => [.decided t]

theorem Transition.marks_of_ne {t : Transition} (h : t ≠ .recovered) :
    t.marks = [.decided t] := by
  cases t with
  | recovered => exact absurd rfl h
  | steady | slaveDown | stillDown | stillRecovering => rfl

theorem Transition.marks_ne_nil (t : Transition) : t.marks ≠ [] := by
  cases t <;> simp [marks]

theorem Transition.marks_ne_recovering (t : Transition) : t.marks ≠ [.decided .recovered] := by
  cases t <;> simp [marks]

theorem Transition.decided_mem_marks {t t' : Transition} :
    .decided t ∈ t'.marks ↔ t = t' := by
  cases t' <;> simp [marks]

theorem Transition.marks_injective {t t' : Transition} (h : t.marks = t'.marks) : t = t' :=
  decided_mem_marks.1 (h ▸ decided_mem_marks.2 rfl)

theorem Transition.finished_mem_marks {t : Transition} : .finished ∈ t.marks ↔ t = .recovered := by
  cases t <;> simp [marks]

/-- All that has been done to the state, with the numbers of the checks. -/
abbrev Chronicle := List (Nat × Mark)

/-- What one check has done. -/
def own (h : Chronicle) (i : Nat) : List Mark := (h.filter (·.1 = i)).map (·.2)

/-- The checks that have ended a recovery, once for each. -/
def finishers (h : Chronicle) : List Nat := (h.filter (·.2 = .finished)).map (·.1)

/-- A check has decided to recover, and its recovery has not ended. -/
def InFlight (h : Chronicle) (i : Nat) : Prop := own h i = [.decided .recovered]

section Chronicle
variable {h : Chronicle} {i k : Nat} {e : Mark}

theorem mem_own : e ∈ own h i ↔ (i, e) ∈ h := by
  simp only [own, List.mem_map, List.mem_filter, decide_eq_true_eq]
  constructor
  · rintro ⟨⟨k, e⟩, ⟨hmem, rfl⟩, rfl⟩
    exact hmem
  · exact fun hmem => ⟨(i, e), ⟨hmem, rfl⟩, rfl⟩

theorem mem_finishers : i ∈ finishers h ↔ (i, .finished) ∈ h := by
  simp only [finishers, List.mem_map, List.mem_filter, decide_eq_true_eq]
  constructor
  · rintro ⟨⟨i, e⟩, ⟨hmem, rfl⟩, rfl⟩
    exact hmem
  · exact fun hmem => ⟨(i, .finished), ⟨hmem, rfl⟩, rfl⟩

theorem own_append_self (h : Chronicle) (i : Nat) (e : Mark) :
    own (h ++ [(i, e)]) i = own h i ++ [e] := by
  simp [own]

theorem own_append_of_ne (hne : i ≠ k) : own (h ++ [(k, e)]) i = own h i := by
  simp [own, Ne.symm hne]

theorem finishers_append (h l : Chronicle) : finishers (h ++ l) = finishers h ++ finishers l := by
  simp [finishers]

/-- How often a check has ended a recovery. -/
theorem count_finishers (h : Chronicle) (i : Nat) :
    (finishers h).count i = (own h i).count .finished := by
  induction h with
  | nil => rfl
  | cons a h ih =>
    obtain ⟨k, e⟩ := a
    by_cases hk : k = i <;> by_cases he : e = .finished <;>
      simp_all [finishers, own]

theorem inFlight_append_self :
    InFlight (h ++ [(i, e)]) i ↔ own h i = [] ∧ e = .decided .recovered := by
  rw [InFlight, own_append_self, List.append_eq_singleton_iff]
  simp

theorem inFlight_append_of_ne (hne : i ≠ k) : InFlight (h ++ [(k, e)]) i ↔ InFlight h i := by
  rw [InFlight, own_append_of_ne hne, InFlight]

end Chronicle

/-- No two recoveries run at the same time, and the state is that of a recovery while one runs. -/
structure Serial (state : State) (h : Chronicle) : Prop where
  recovering_iff : state = .recovering ↔ ∃ i, InFlight h i
  single : ∀ i k, InFlight h i → InFlight h k → i = k

/-- The states before and after something is done to the state of a supervisor. -/
inductive Turns : State → Mark → State → Prop
  | steady : Turns .fine (.decided .steady) .fine
  | slaveDown : Turns .fine (.decided .slaveDown) .slaveSuspected
  | stillDown : Turns .slaveSuspected (.decided .stillDown) .slaveSuspected
  | recover : Turns .slaveSuspected (.decided .recovered) .recovering
  | stillRecovering : Turns .recovering (.decided .stillRecovering) .recovering
  | finish : Turns .recovering .finished .fine

namespace Turns
variable {state state' : State} {t : Transition} {e : Mark}

theorem decided_of_recovering (h : Turns .recovering (.decided t) state') :
    t = .stillRecovering := by
  cases h
  rfl

theorem suspected_of_recover (h : Turns state (.decided .recovered) state') :
    state = .slaveSuspected := by
  cases h
  rfl

theorem recover_of_suspected (h : Turns .slaveSuspected e state') (hne : state' ≠ .slaveSuspected) :
    e = .decided .recovered := by
  cases h with
  | stillDown => exact absurd rfl hne
  | recover => rfl

theorem fine_of_finished (h : Turns state .finished state') : state' = .fine := by
  cases h
  rfl

end Turns

/-- A decision turns the state as its verdict says. -/
theorem turns_decision {tick : Span} {master slave : Sighting} {c : Cluster} {t : Transition}
    (h : (c.supervisor.verdict tick slave).transition = some t) :
    Turns c.supervisor.state (.decided t) (decision tick master slave c).supervisor.state := by
  simp only [decision, Supervisor.step]
  rw [Supervisor.verdict] at h ⊢
  cases hstate : c.supervisor.state <;> cases hup : slave.isUp <;> simp only [hstate, hup] at h ⊢
  case slaveSuspected.true =>
    cases hstart : c.supervisor.slave.lastOk.earlier? (Supervisor.margin tick) <;>
      rw [hstart] at h <;> cases h
    exact .recover
  all_goals
    cases h
    simp only [Supervisor.enter, Supervisor.track, hstate]
    constructor

/-- A check that fails has changed nothing. -/
theorem decision_eq_self {tick : Span} {master slave : Sighting} {c : Cluster}
    (h : (c.supervisor.verdict tick slave).transition = none) :
    decision tick master slave c = c := by
  cases hv : c.supervisor.verdict tick slave <;> rw [hv] at h <;> cases h
  rw [decision, Supervisor.step, hv]
  rfl

/-- Recoveries stay apart if a check decides once, and no recovery ends that does not run. -/
theorem Serial.turn {h : Chronicle} {state state' : State} {i : Nat} {e : Mark}
    (hserial : Serial state h) (hturn : Turns state e state')
    (hdecided : e ≠ .finished → own h i = []) (hfinished : e = .finished → InFlight h i) :
    Serial state' (h ++ [(i, e)]) := by
  have hkept : ∀ t, e = .decided t → t ≠ .recovered →
      ∀ k, InFlight (h ++ [(i, e)]) k ↔ InFlight h k := by
    rintro t rfl ht k
    by_cases hk : k = i
    · subst hk
      rw [inFlight_append_self, InFlight, hdecided nofun]
      simp [ht]
    · exact inFlight_append_of_ne hk
  cases hturn with
  | steady | slaveDown | stillDown | stillRecovering =>
    -- No recovery begins or ends.
    have hsame := hkept _ rfl nofun
    exact ⟨by simpa only [hsame, reduceCtorEq] using hserial.recovering_iff,
      by simpa only [hsame] using hserial.single⟩
  | recover =>
    have honly : ∀ k, InFlight (h ++ [(i, .decided .recovered)]) k → k = i := fun k hk => by
      by_contra hne
      have hbefore := (inFlight_append_of_ne hne).1 hk
      exact absurd (hserial.recovering_iff.2 ⟨k, hbefore⟩) nofun
    exact ⟨⟨fun _ => ⟨i, inFlight_append_self.2 ⟨hdecided nofun, rfl⟩⟩, fun _ => rfl⟩,
      fun k l hk hl => (honly k hk).trans (honly l hl).symm⟩
  | finish =>
    have hnone : ∀ k, ¬ InFlight (h ++ [(i, .finished)]) k := fun k hk => by
      by_cases hki : k = i
      · subst hki
        exact absurd (inFlight_append_self.1 hk).2 nofun
      · exact hki (hserial.single k i ((inFlight_append_of_ne hki).1 hk) (hfinished rfl))
    exact ⟨⟨nofun, fun ⟨k, hk⟩ => (hnone k hk).elim⟩, fun k l hk => (hnone k hk).elim⟩

/-- The slave goes down, and stays down. -/
def outage : Language Mark := {[.decided .slaveDown]} * {[.decided .stillDown]}∗

/-- A recovery that has begun, with the checks that come while it runs. -/
def recovery : Language Mark := {[.decided .recovered]} * {[.decided .stillRecovering]}∗

/-- Checks of a cluster that is fine, and outages with the recoveries that end them. -/
def rounds : Language Mark := ({[.decided .steady]} + outage * recovery * {[.finished]})∗

/-- What can have been done to a state since a supervisor began. -/
def words : State → Language Mark
  | .fine => rounds
  | .slaveSuspected => rounds * outage
  | .recovering => rounds * outage * recovery

/-- Each turn goes on with a word of the language. -/
theorem words_append {s s' : State} {e : Mark} {w : List Mark} (h : Turns s e s')
    (hw : w ∈ words s) : w ++ [e] ∈ words s' := by
  have hround : ∀ {l : Language Mark},
      l ≤ {[.decided .steady]} + outage * recovery * {[.finished]} → rounds * l ≤ rounds :=
    fun hl => (mul_le_mul_right hl _).trans kstar_mul_le_kstar
  have hstay : ∀ (l : Language Mark) (a : Mark), l * {[a]}∗ * {[a]} ≤ l * {[a]}∗ := fun l a => by
    rw [mul_assoc]
    exact mul_le_mul_right kstar_mul_le_kstar l
  have hword : ∀ {l l' : Language Mark}, l * {[e]} ≤ l' → w ∈ l → w ++ [e] ∈ l' :=
    fun hl hw => hl (Language.append_mem_mul hw rfl)
  cases h with
  | steady => exact hword (hround le_self_add) hw
  | slaveDown =>
    refine hword ?_ hw
    exact mul_le_mul_right (le_mul_of_one_le_right' one_le_kstar) _
  | stillDown =>
    refine hword ?_ hw
    rw [words, outage, ← mul_assoc]
    exact hstay _ _
  | recover =>
    refine hword ?_ hw
    exact mul_le_mul_right (le_mul_of_one_le_right' one_le_kstar) _
  | stillRecovering =>
    refine hword ?_ hw
    rw [words, recovery, ← mul_assoc]
    exact hstay _ _
  | finish =>
    refine hword ?_ hw
    have hwords : words .recovering * {[.finished]} =
        rounds * (outage * recovery * {[.finished]}) := by simp only [words, mul_assoc]
    rw [hwords]
    exact hround le_add_self

end SeriesReplica.Cluster
