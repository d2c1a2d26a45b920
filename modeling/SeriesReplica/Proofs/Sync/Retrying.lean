import Mathlib.Algebra.BigOperators.Group.Finset.Basic
import Mathlib.Data.ENat.Lattice
import SeriesReplica.Proofs.Concurrent.Acting
import SeriesReplica.Sync.Retry

/-! What becomes of an operation that is repeated. However its attempts would come out, it is called
until it succeeds or the attempts are used up, and between two calls the delay is slept. The number
of the attempt that is being made never outgrows 32 bits. -/
namespace SeriesReplica.Sync.RetryPolicy
open Time Concurrent

variable {ε α : Type}

section Spec

/-- The position of the first success, counted from one; infinite if there is none. -/
noncomputable def firstSuccess (outcomes : Nat → Except ε α) : ℕ∞ :=
  ⨅ (n : Nat) (_ : (outcomes n).isOk), ((n + 1 : Nat) : ℕ∞)

/-- How many of at most `left + 1` attempts are made, if they come out like this. -/
def callsWithin : (left : Nat) → (outcomes : Nat → Except ε α) → Nat
  | 0, _ => 1
  | left + 1, outcomes =>
    if (outcomes 0).isOk then 1 else callsWithin left (fun n => outcomes (n + 1)) + 1

/-- How many attempts are made, if they come out like this. -/
def calls (p : RetryPolicy) (outcomes : Nat → Except ε α) : Nat :=
  callsWithin (p.total - 1) outcomes

/-- What is logged of a failure after which there is another attempt. -/
def failure (p : RetryPolicy) (what : String) (number : Nat) (cause : String) : Log.Line :=
  Log.warn (what ++ " failed (attempt " ++ toString number ++ "/" ++ toString p.total ++ "): " ++
    cause ++ ", retrying in " ++ p.delay.text)

/-- What is logged of a success that is not the first attempt's. -/
def success (what : String) (number : Nat) : Log.Line :=
  Log.debug (what ++ " succeeded on attempt " ++ toString number)

/-- What is done between two attempts: the failure of the first one is logged, and the delay is
slept. -/
def pause (p : RetryPolicy) (what : String) (message : ε → String) (number : Nat)
    (outcome : Except ε α) : List Deed :=
  (match outcome with
    | .ok _ => []
    | .error e => [.log (p.failure what number (message e))]) ++ [.sleep p.delay]

/-- What is done after the last attempt. -/
def ending (what : String) (number : Nat) : Except ε α → List Deed
  | .ok _ => if number = 1 then [] else [.log (success what number)]
  | .error _ => []

/-- What is done in so many attempts, the first of which has the given number. -/
def storyFrom (p : RetryPolicy) (what : String) (message : ε → String) (number calls : Nat)
    (outcomes : Nat → Except ε α) (deeds : Nat → List Deed) : List Deed :=
  (List.range (calls - 1)).flatMap (fun n =>
      deeds n ++ p.pause what message (number + n) (outcomes n)) ++
    deeds (calls - 1) ++ ending what (number + (calls - 1)) (outcomes (calls - 1))

/-- What is done if the attempts come out like this and these are the deeds of each of them. -/
def story (p : RetryPolicy) (what : String) (message : ε → String)
    (outcomes : Nat → Except ε α) (deeds : Nat → List Deed) : List Deed :=
  p.storyFrom what message 1 (p.calls outcomes) outcomes deeds

/-- The loop that counts its attempts in 32 bits. It gives nothing if the count overflows. -/
def counted (p : RetryPolicy) (what : String) (message : ε → String)
    (operation : Routine (Except ε α)) (number : UInt32) : Routine (Option (Except ε α)) := do
  match ← operation with
  | .ok value =>
    if 1 < number then Routine.log (success what number.toNat)
    pure (some (.ok value))
  | .error e =>
    if number < max p.attempts 1 then
      Routine.log (p.failure what number.toNat (message e))
      Routine.sleep p.delay
      if number.toNat + 1 < UInt32.size then counted p what message operation (number + 1)
      else pure none
    else pure (some (.error e))
termination_by UInt32.size - number.toNat
decreasing_by
  have hsize : UInt32.size = 4294967296 := rfl
  rw [UInt32.toNat_add, Nat.mod_eq_of_lt (by simpa using ‹number.toNat + 1 < UInt32.size›)]
  simp only [UInt32.reduceToNat]
  omega

end Spec

section Calls
variable {outcomes : Nat → Except ε α} {most calls : Nat}

/-- So many calls are made of at most so many: all but the last one fail, and the last one does not
unless there can be no more. -/
structure Stops (outcomes : Nat → Except ε α) (most calls : Nat) : Prop where
  pos : 0 < calls
  le : calls ≤ most
  failed : ∀ n, n + 1 < calls → (outcomes n).isOk = false
  last : calls = most ∨ (outcomes (calls - 1)).isOk

theorem callsWithin_stops (left : Nat) (outcomes : Nat → Except ε α) :
    Stops outcomes (left + 1) (callsWithin left outcomes) := by
  induction left generalizing outcomes with
  | zero => exact ⟨Nat.one_pos, Nat.le_refl 1, fun n hn => by simp [callsWithin] at hn, .inl rfl⟩
  | succ left ih =>
    rw [callsWithin]
    split
    case isTrue hok => exact ⟨Nat.one_pos, by omega, fun n hn => by omega, .inr hok⟩
    case isFalse herror =>
      obtain ⟨hpos, hle, hfailed, hlast⟩ := ih fun n => outcomes (n + 1)
      refine ⟨Nat.succ_pos _, Nat.succ_le_succ hle, fun n hn => ?_, ?_⟩
      · cases n with
        | zero => simpa using herror
        | succ n => exact hfailed n (by omega)
      · obtain hall | hok := hlast
        · exact .inl (congrArg (· + 1) hall)
        · rw [Nat.sub_add_cancel hpos] at hok
          exact .inr hok

namespace Stops

/-- The first success has not come before the last call. -/
theorem le_firstSuccess (h : Stops outcomes most calls) : (calls : ℕ∞) ≤ firstSuccess outcomes := by
  refine le_iInf₂ fun n hok => Nat.cast_le.2 (Nat.not_lt.1 fun hn => ?_)
  rw [h.failed n hn] at hok
  cases hok

theorem firstSuccess_le (h : Stops outcomes most calls) (hok : (outcomes (calls - 1)).isOk) :
    firstSuccess outcomes ≤ calls := by
  have hle : firstSuccess outcomes ≤ ((calls - 1 + 1 : Nat) : ℕ∞) := iInf₂_le (calls - 1) hok
  rwa [Nat.sub_add_cancel h.pos] at hle

theorem eq_min (h : Stops outcomes most calls) :
    (calls : ℕ∞) = min (firstSuccess outcomes) most := by
  refine le_antisymm (le_min h.le_firstSuccess (Nat.cast_le.2 h.le)) ?_
  obtain rfl | hok := h.last
  · exact min_le_right _ _
  · exact (min_le_left _ _).trans (h.firstSuccess_le hok)

/-- The last call succeeds if any call could. -/
theorem isOk_iff (h : Stops outcomes most calls) :
    (outcomes (calls - 1)).isOk ↔ firstSuccess outcomes ≤ most := by
  constructor
  · exact fun hok => (h.firstSuccess_le hok).trans (Nat.cast_le.2 h.le)
  · intro hle
    obtain hall | hok := h.last
    · by_contra herror
      -- Without a success among all the calls, the first one can only come later.
      have hlater : ((most + 1 : Nat) : ℕ∞) ≤ firstSuccess outcomes := by
        refine le_iInf₂ fun n hok => Nat.cast_le.2 (Nat.not_lt.1 fun hn => ?_)
        obtain hbefore | rfl : n + 1 < calls ∨ n = calls - 1 := by omega
        · rw [h.failed n hbefore] at hok
          cases hok
        · exact herror hok
      exact absurd (Nat.cast_le.1 (hlater.trans hle)) (Nat.not_succ_le_self most)
    · exact hok

end Stops

theorem total_pos (p : RetryPolicy) : 0 < p.total := Nat.le_max_right _ _

theorem calls_stops (p : RetryPolicy) (outcomes : Nat → Except ε α) :
    Stops outcomes p.total (p.calls outcomes) := by
  have hstops := callsWithin_stops (p.total - 1) outcomes
  rwa [Nat.sub_add_cancel p.total_pos] at hstops

end Calls

section Story
variable {p : RetryPolicy} {what : String} {message : ε → String} {number calls : Nat}
  {outcomes : Nat → Except ε α} {deeds : Nat → List Deed}

theorem storyFrom_one : p.storyFrom what message number 1 outcomes deeds =
    deeds 0 ++ ending what number (outcomes 0) := rfl

/-- The first attempt and the pause after it come before the others. -/
theorem storyFrom_succ (h : 0 < calls) :
    p.storyFrom what message number (calls + 1) outcomes deeds =
      deeds 0 ++ p.pause what message number (outcomes 0) ++
        p.storyFrom what message (number + 1) calls (fun n => outcomes (n + 1))
          fun n => deeds (n + 1) := by
  obtain ⟨k, rfl⟩ := Nat.exists_eq_add_of_le' h
  have hnumber (n : Nat) : number + 1 + n = number + (n + 1) := by omega
  rw [storyFrom, storyFrom, Nat.add_sub_cancel, Nat.add_sub_cancel, List.range_succ_eq_map,
    List.flatMap_cons, List.flatMap_map]
  simp only [hnumber, Nat.add_zero, List.append_assoc]

theorem nanos_pause (outcome : Except ε α) :
    Deed.nanos (p.pause what message number outcome) = p.delay.nanos := by
  cases outcome <;> simp [pause]

theorem nanos_ending (outcome : Except ε α) : Deed.nanos (ending what number outcome) = 0 := by
  cases outcome with
  | ok value =>
    rw [ending]
    split <;> rfl
  | error e => rfl

/-- Besides the attempts, only the delays between them take time. -/
theorem nanos_storyFrom (p : RetryPolicy) (what : String) (message : ε → String)
    (number : Nat) (h : 0 < calls) (outcomes : Nat → Except ε α) (deeds : Nat → List Deed) :
    Deed.nanos (p.storyFrom what message number calls outcomes deeds) =
      ∑ n ∈ Finset.range calls, Deed.nanos (deeds n) + (calls - 1) * p.delay.nanos := by
  induction calls, h using Nat.le_induction generalizing number outcomes deeds with
  | base => simp [storyFrom_one, nanos_ending]
  | succ calls hpos ih =>
    rw [storyFrom_succ hpos, Deed.nanos_append, Deed.nanos_append, nanos_pause, ih,
      Finset.sum_range_succ', Nat.add_sub_cancel]
    obtain ⟨k, rfl⟩ := Nat.exists_eq_add_of_le' hpos
    rw [Nat.add_sub_cancel, Nat.add_mul]
    omega

end Story

section Attempt
variable {what : String} {message : ε → String} {operation : Routine (Except ε α)}
  {outcomes : Nat → Except ε α} {deeds : Nat → List Deed} {result : Except ε α} {ds : List Deed}
  {made left : Nat}

theorem succeed_acts {value : α} :
    (attempt.succeed what made value : Routine (Except ε α)).Acts result ds ↔
      .ok value = result ∧ ds = ending what (made + 1) (.ok value : Except ε α) := by
  rw [attempt.succeed, ending]
  by_cases hmade : made = 0
  · simp [hmade]
  · rw [if_pos hmade, if_neg (by omega), Routine.acts_bind]
    constructor
    · rintro ⟨_, es, gs, rfl, hlog, rfl, rfl⟩
      exact ⟨rfl, by rw [Routine.acts_log.1 hlog]; rfl⟩
    · rintro ⟨rfl, rfl⟩
      exact ⟨(), _, [], rfl, Routine.acts_log.2 rfl, rfl, rfl⟩

/-- However the attempts come out and whatever their deeds, the loop goes along with them. -/
theorem attempt_acts (p : RetryPolicy) (what : String) (message : ε → String)
    (hdeeds : ∀ n, operation.Acts (outcomes n) (deeds n)) (made left : Nat) :
    (p.attempt what message operation made left).Acts (outcomes (callsWithin left outcomes - 1))
      (p.storyFrom what message (made + 1) (callsWithin left outcomes) outcomes deeds) := by
  induction left generalizing made outcomes deeds with
  | zero =>
    rw [attempt]
    refine Routine.acts_bind.2 ⟨outcomes 0, deeds 0, _, storyFrom_one, hdeeds 0, ?_⟩
    change Routine.Acts (outcomes 0) _ _
    cases outcomes 0 with
    | ok value => exact succeed_acts.2 ⟨rfl, rfl⟩
    | error e => exact ⟨rfl, rfl⟩
  | succ left ih =>
    have hrest := ih (fun n => hdeeds (n + 1)) (made + 1)
    have hpos : 0 < callsWithin left fun n => outcomes (n + 1) := (callsWithin_stops left _).pos
    rw [attempt, callsWithin]
    cases hfirst : outcomes 0 with
    | ok value =>
      rw [if_pos (show (Except.ok value).isOk = true from rfl)]
      refine Routine.acts_bind.2 ⟨.ok value, deeds 0, _, storyFrom_one, hfirst ▸ hdeeds 0, ?_⟩
      rw [show 1 - 1 = 0 from rfl, hfirst]
      exact succeed_acts.2 ⟨rfl, rfl⟩
    | error e =>
      rw [if_neg (show ¬ (Except.error e).isOk = true from nofun), storyFrom_succ hpos, hfirst]
      refine Routine.acts_bind.2
        ⟨.error e, deeds 0, _, List.append_assoc .., hfirst ▸ hdeeds 0, ?_⟩
      refine Routine.acts_bind.2 ⟨(), _, _, List.append_assoc .., Routine.acts_log.2 rfl, ?_⟩
      refine Routine.acts_bind.2 ⟨(), _, _, rfl, Routine.acts_sleep.2 rfl, ?_⟩
      rw [Nat.add_sub_cancel]
      rwa [Nat.sub_add_cancel hpos] at hrest

/-- A sequence with one more item before all others. -/
def preceded {β : Type} (first : β) (others : Nat → β) : Nat → β
  | 0 => first
  | n + 1 => others n

theorem callsWithin_preceded {e : ε} :
    callsWithin (left + 1) (preceded (.error e) outcomes) = callsWithin left outcomes + 1 :=
  if_neg (show ¬ (Except.error e : Except ε α).isOk = true from nofun)

/-- Whatever the loop does, it goes along with some attempts. -/
theorem exists_of_attempt_acts {p : RetryPolicy}
    (h : (p.attempt what message operation made left).Acts result ds) :
    ∃ (outcomes : Nat → Except ε α) (deeds : Nat → List Deed),
      (∀ n, operation.Acts (outcomes n) (deeds n)) ∧
        result = outcomes (callsWithin left outcomes - 1) ∧
        ds = p.storyFrom what message (made + 1) (callsWithin left outcomes) outcomes deeds := by
  induction left generalizing made ds with
  | zero =>
    rw [attempt] at h
    obtain ⟨outcome, es, gs, rfl, hcall, hrest⟩ := Routine.acts_bind.1 h
    refine ⟨fun _ => outcome, fun _ => es, fun _ => hcall, ?_⟩
    cases outcome with
    | ok value =>
      obtain ⟨rfl, rfl⟩ := succeed_acts.1 hrest
      exact ⟨rfl, rfl⟩
    | error e =>
      obtain ⟨rfl, rfl⟩ := Routine.acts_pure.1 hrest
      exact ⟨rfl, rfl⟩
  | succ left ih =>
    rw [attempt] at h
    obtain ⟨outcome, es, gs, rfl, hcall, hrest⟩ := Routine.acts_bind.1 h
    cases outcome with
    | ok value =>
      obtain ⟨rfl, rfl⟩ := succeed_acts.1 hrest
      exact ⟨fun _ => .ok value, fun _ => es, fun _ => hcall, rfl, rfl⟩
    | error e =>
      obtain ⟨_, ls, hs, rfl, hlog, hslept⟩ := Routine.acts_bind.1 hrest
      obtain ⟨_, ss, rs, rfl, hsleep, hagain⟩ := Routine.acts_bind.1 hslept
      obtain ⟨outcomes, deeds, hdeeds, rfl, rfl⟩ := ih hagain
      have hpos : 0 < callsWithin left outcomes := (callsWithin_stops left _).pos
      -- The failed attempt comes before those of the rest.
      refine ⟨preceded (.error e) outcomes, preceded es deeds, fun n => ?_, ?_, ?_⟩
      · cases n with
        | zero => exact hcall
        | succ n => exact hdeeds n
      · obtain ⟨k, hk⟩ := Nat.exists_eq_add_of_le' hpos
        rw [callsWithin_preceded, Nat.add_sub_cancel, hk]
        rfl
      · rw [callsWithin_preceded, storyFrom_succ hpos, Routine.acts_log.1 hlog,
          Routine.acts_sleep.1 hsleep]
        simp [pause, failure, preceded]

end Attempt

section Counted
variable {p : RetryPolicy} {what : String} {message : ε → String}
  {operation : Routine (Except ε α)} {made left : Nat} {number : UInt32}

theorem toNat_max_attempts (p : RetryPolicy) : (max p.attempts 1).toNat = p.total := by
  rw [total, UInt32.max_def]
  split
  case isTrue hle => exact (Nat.max_eq_right (UInt32.le_iff_toNat_le.1 hle)).symm
  case isFalse hgt =>
    have hle : 1 ≤ p.attempts := UInt32.le_of_lt (UInt32.not_le.1 hgt)
    exact (Nat.max_eq_left (UInt32.le_iff_toNat_le.1 hle)).symm

theorem total_lt_size (p : RetryPolicy) : p.total < UInt32.size :=
  Nat.max_lt.2 ⟨p.attempts.toNat_lt_size, by decide⟩

theorem map_succeed (hnumber : number.toNat = made + 1) (value : α) :
    (do
      if 1 < number then Routine.log (success what number.toNat)
      pure (some (.ok value)) : Routine (Option (Except ε α))) =
      some <$> attempt.succeed what made value := by
  have hlater : 1 < number ↔ made ≠ 0 := by
    rw [UInt32.lt_iff_toNat_lt, hnumber, UInt32.toNat_one]
    omega
  rw [attempt.succeed, success, hnumber]
  by_cases hmade : made = 0
  · simp [hlater, hmade]
  · simp [hlater, hmade]

/-- As long as no more attempts are made than there may be, the count is right. -/
theorem counted_eq (hnumber : number.toNat = made + 1) (htotal : made + left + 1 = p.total) :
    p.counted what message operation number =
      some <$> p.attempt what message operation made left := by
  induction left generalizing made number with
  | zero =>
    have hlast : ¬ number < max p.attempts 1 := by
      rw [UInt32.lt_iff_toNat_lt, toNat_max_attempts]
      omega
    rw [counted, attempt, map_bind]
    refine congrArg (operation >>= ·) (funext fun outcome => ?_)
    cases outcome with
    | ok value => exact map_succeed hnumber value
    | error e =>
      simp only [if_neg hlast, map_pure]
  | succ left ih =>
    have hmore : number < max p.attempts 1 := by
      rw [UInt32.lt_iff_toNat_lt, toNat_max_attempts]
      omega
    have hfits : number.toNat + 1 < UInt32.size := by
      have := p.total_lt_size
      omega
    have hnext : (number + 1).toNat = made + 1 + 1 := by
      rw [UInt32.toNat_add, UInt32.toNat_one, Nat.mod_eq_of_lt hfits, hnumber]
    rw [counted, attempt, map_bind]
    refine congrArg (operation >>= ·) (funext fun outcome => ?_)
    cases outcome with
    | ok value => exact map_succeed hnumber value
    | error e =>
      simp only [if_pos hmore, if_pos hfits, map_bind]
      rw [failure, hnumber, ih hnext (by omega)]

end Counted

variable (p : RetryPolicy) (what : String) (message : ε → String)
  (operation : Routine (Except ε α))

/-- A run does what is done in the attempts of some sequence, and nothing else. -/
theorem run_acts_iff {result : Except ε α} {ds : List Deed} :
    (p.run what message operation).Acts result ds ↔
      ∃ (outcomes : Nat → Except ε α) (deeds : Nat → List Deed),
        (∀ n, operation.Acts (outcomes n) (deeds n)) ∧
          result = outcomes (p.calls outcomes - 1) ∧ ds = p.story what message outcomes deeds := by
  constructor
  · exact exists_of_attempt_acts
  · rintro ⟨outcomes, deeds, hdeeds, rfl, rfl⟩
    exact attempt_acts p what message hdeeds 0 _

theorem nanos_story (outcomes : Nat → Except ε α) (deeds : Nat → List Deed) :
    Deed.nanos (p.story what message outcomes deeds) =
      ∑ n ∈ Finset.range (p.calls outcomes), Deed.nanos (deeds n) +
        (p.calls outcomes - 1) * p.delay.nanos :=
  nanos_storyFrom p what message 1 (p.calls_stops outcomes).pos outcomes deeds

/-- A repeated operation is called until it succeeds or the attempts are used up, at least once,
whatever comes of it. The run ends with what the last call has given, the delay is slept between
calls and at no other time, and the count of the attempts fits its 32 bits. -/
theorem run_is_bounded :
    (∀ (result : Except ε α) (ds : List Deed),
      (p.run what message operation).Acts result ds ↔
        ∃ (outcomes : Nat → Except ε α) (deeds : Nat → List Deed),
          (∀ n, operation.Acts (outcomes n) (deeds n)) ∧
            result = outcomes (p.calls outcomes - 1) ∧
            ds = p.story what message outcomes deeds) ∧
    (∀ (outcomes : Nat → Except ε α) (deeds : Nat → List Deed),
      (p.calls outcomes : ℕ∞) = min (firstSuccess outcomes) (max 1 p.attempts.toNat : Nat) ∧
      ((outcomes (p.calls outcomes - 1)).isOk ↔
        firstSuccess outcomes ≤ (max 1 p.attempts.toNat : Nat)) ∧
      Deed.nanos (p.story what message outcomes deeds) =
        ∑ n ∈ Finset.range (p.calls outcomes), Deed.nanos (deeds n) +
          (p.calls outcomes - 1) * p.delay.nanos) ∧
    (∀ (ν : Type) (host : Host ν) (start : Instant) (s : ν × Span),
      ∃ (outcomes : Nat → Except ε α) (deeds : Nat → List Deed),
        (∀ n, operation.Acts (outcomes n) (deeds n)) ∧
          (host.exec start (p.run what message operation) s).1 =
            outcomes (p.calls outcomes - 1) ∧
          (host.exec start (p.run what message operation) s).2.2.nanos =
            s.2.nanos + ∑ n ∈ Finset.range (p.calls outcomes), Deed.nanos (deeds n) +
              (p.calls outcomes - 1) * p.delay.nanos) ∧
    p.counted what message operation 1 = some <$> p.run what message operation := by
  have hmost : max 1 p.attempts.toNat = p.total := max_comm ..
  refine ⟨fun result ds => run_acts_iff p what message operation, fun outcomes deeds => ?_,
    fun ν host start s => ?_, ?_⟩
  · have hstops := p.calls_stops outcomes
    rw [hmost]
    exact ⟨hstops.eq_min, hstops.isOk_iff, p.nanos_story what message outcomes deeds⟩
  · obtain ⟨ds, hacts, hnanos⟩ := host.exec_acts start (p.run what message operation) s
    obtain ⟨outcomes, deeds, hdeeds, hresult, rfl⟩ :=
      (run_acts_iff p what message operation).1 hacts
    refine ⟨outcomes, deeds, hdeeds, hresult, ?_⟩
    rw [hnanos, p.nanos_story, Nat.add_assoc]
  · have hpos := p.total_pos
    exact counted_eq rfl (by omega)

/-- A node that answers after two failures. -/
private def recovering (n : Nat) : Except Node.Error Pong :=
  if n < 2 then .error (.unavailable "down") else .ok ⟨.zero, "1.8"⟩

/-- A ping that is answered at once. -/
private def pinged (n : Nat) : List Deed :=
  [⟨.call ⟨0⟩ .ping none, recovering n, .zero, trivial⟩]

private def failing (_ : Nat) : Except Unit Unit := .error ()

/-- Of five attempts at a node that answers the third one, three are made, with ten seconds slept
in between twice. An operation that always fails is called once if no attempts are allowed, and
4294967295 times if as many as can be are. -/
theorem run_is_bounded_pings :
    (∃ ds, (RetryPolicy.run ⟨5, .ofSecs 10⟩ "ping" Node.Error.message
        (Routine.ping ⟨0⟩ none)).Acts (.ok ⟨.zero, "1.8"⟩) ds ∧ Deed.nanos ds = 20000000000) ∧
    RetryPolicy.calls ⟨0, .ofSecs 10⟩ failing = 1 ∧
    RetryPolicy.calls ⟨4294967295, .ofSecs 10⟩ failing = 4294967295 := by
  obtain ⟨hruns, hbounds, -, -⟩ :=
    run_is_bounded ⟨5, .ofSecs 10⟩ "ping" Node.Error.message (Routine.ping ⟨0⟩ none)
  have hpinged (n : Nat) : (Routine.ping ⟨0⟩ none).Acts (recovering n) (pinged n) :=
    ⟨recovering n, .zero, trivial, [], rfl, rfl, rfl⟩
  have hnever : firstSuccess failing = ⊤ := by
    simp [firstSuccess, failing, Except.isOk, Except.toBool]
  have hfailing (p : RetryPolicy) : p.calls failing = max 1 p.attempts.toNat := by
    have hcalls := ((run_is_bounded p "fail" (fun _ => "") (pure (failing 0))).2.1 failing
      fun _ => []).1
    rw [hnever, min_eq_right le_top] at hcalls
    exact Nat.cast_inj.1 hcalls
  refine ⟨⟨_, (hruns _ _).2 ⟨recovering, pinged, hpinged, rfl, rfl⟩, ?_⟩, hfailing _, hfailing _⟩
  exact (hbounds recovering pinged).2.2.trans rfl

end SeriesReplica.Sync.RetryPolicy
