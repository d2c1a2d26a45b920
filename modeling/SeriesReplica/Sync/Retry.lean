import SeriesReplica.Concurrent.Effect

/-!
Repeating a fallible routine a bounded number of times, with a fixed delay between attempts.
-/
namespace SeriesReplica.Sync
open Time Concurrent

/-- How often a call is attempted, and how long to wait in between. -/
structure RetryPolicy where
  attempts : UInt32
  delay : Span
  deriving DecidableEq

namespace RetryPolicy

/-- A policy with at least one attempt. -/
def ofAttempts (attempts : UInt32) (delay : Span) : RetryPolicy := ⟨max attempts 1, delay⟩

/-- Attempts in all; there is always one. -/
def total (p : RetryPolicy) : Nat := max p.attempts.toNat 1

variable {ε α : Type}

/-- Makes up to `left + 1` more attempts; `made` have failed before. -/
def attempt (p : RetryPolicy) (what : String) (message : ε → String)
    (operation : Routine (Except ε α)) (made : Nat) : Nat → Routine (Except ε α)
  | 0 => do
    match ← operation with
    | .ok value => succeed value
    | .error e => pure (.error e)
  | left + 1 => do
    match ← operation with
    | .ok value => succeed value
    | .error e =>
      Routine.log (Log.warn (what ++ " failed (attempt " ++ toString (made + 1) ++ "/" ++
        toString p.total ++ "): " ++ message e ++ ", retrying in " ++ p.delay.text))
      Routine.sleep p.delay
      attempt p what message operation (made + 1) left
where
  succeed (value : α) : Routine (Except ε α) := do
    if made ≠ 0 then
      Routine.log (Log.debug (what ++ " succeeded on attempt " ++ toString (made + 1)))
    pure (.ok value)

/-- Runs an operation until it succeeds or the attempts are used up; gives the first success or
the last failure. -/
def run (p : RetryPolicy) (what : String) (message : ε → String)
    (operation : Routine (Except ε α)) : Routine (Except ε α) :=
  attempt p what message operation 0 (p.total - 1)

end RetryPolicy
end SeriesReplica.Sync
