import SeriesReplica.Sync.Retry

/-!
Settings of a sync.
-/
namespace SeriesReplica.Sync
open Time

/-- How a sync cuts its window and moves its points. -/
structure Settings where
  chunk : Span
  /-- The longest window of one sync. -/
  maxRetention : Span
  /-- Measurements moved at the same time. A pool takes any number of them; a semaphore that keeps
  three bits of its 64-bit count for itself would refuse more than `2 ^ 61 - 1` permits. -/
  workers : Nat
  /-- Points in one write. -/
  maxPoints : Nat
  retry : RetryPolicy
  deriving DecidableEq

namespace Settings

def withChunk (s : Settings) (chunk : Span) : Settings := { s with chunk := chunk }

/-- Sets the number of workers, at least one. -/
def withWorkers (s : Settings) (workers : Nat) : Settings := { s with workers := max workers 1 }

def withRetry (s : Settings) (retry : RetryPolicy) : Settings := { s with retry := retry }

end Settings
end SeriesReplica.Sync
