import SeriesReplica.Time.Span

/-!
Instants in universal time, as seconds since 1970 and nanoseconds within the second. A
nanosecond part of a whole second or more marks a leap second. Instants outside 64-bit
nanosecond counts exist, so a count of nanoseconds is saturated.
-/
namespace SeriesReplica.Time

/-- The first second of the calendar's range. -/
abbrev minSecs : Int := -8334601228800

/-- The last second of the calendar's range. -/
abbrev maxSecs : Int := 8210266876799

/-- A moment in universal time. -/
structure Instant where
  secs : Int
  nanos : Nat
  valid : minSecs ≤ secs ∧ secs ≤ maxSecs ∧ nanos < 2 * nanosPerSec
  deriving DecidableEq

namespace Instant

/-- The instant with these parts, if the calendar has it. -/
def ofUnix? (secs : Int) (nanos : Nat) : Option Instant :=
  if h : minSecs ≤ secs ∧ secs ≤ maxSecs ∧ nanos < 2 * nanosPerSec then some ⟨secs, nanos, h⟩
  else none

/-- The start of 1970. -/
def epoch : Instant := ⟨0, 0, by decide⟩

instance : Inhabited Instant := ⟨epoch⟩

/-- The first instant of the calendar's range. -/
def earliest : Instant := ⟨minSecs, 0, by decide⟩

/-- The last instant of the calendar's range. -/
def latest : Instant := ⟨maxSecs, nanosPerSec - 1, by decide⟩

instance : LT Instant :=
  ⟨fun a b => a.secs < b.secs ∨ (a.secs = b.secs ∧ a.nanos < b.nanos)⟩
instance : LE Instant :=
  ⟨fun a b => a.secs < b.secs ∨ (a.secs = b.secs ∧ a.nanos ≤ b.nanos)⟩
instance (a b : Instant) : Decidable (a < b) :=
  inferInstanceAs (Decidable (a.secs < b.secs ∨ (a.secs = b.secs ∧ a.nanos < b.nanos)))
instance (a b : Instant) : Decidable (a ≤ b) :=
  inferInstanceAs (Decidable (a.secs < b.secs ∨ (a.secs = b.secs ∧ a.nanos ≤ b.nanos)))

theorem lt_def {a b : Instant} :
    a < b ↔ a.secs < b.secs ∨ (a.secs = b.secs ∧ a.nanos < b.nanos) := Iff.rfl

theorem le_def {a b : Instant} :
    a ≤ b ↔ a.secs < b.secs ∨ (a.secs = b.secs ∧ a.nanos ≤ b.nanos) := Iff.rfl

/-- Nanoseconds since 1970, without a bound. -/
def totalNanos (t : Instant) : Int := t.secs * nanosPerSec + t.nanos

/-- Nanoseconds since 1970, saturated to 64 bits. -/
def epochNanos (t : Instant) : Int64 :=
  Int64.ofInt (max Int64.minValue.toInt (min Int64.maxValue.toInt t.totalNanos))

/-- Nanoseconds since 1970, if they fit 64 bits. -/
def epochNanos? (t : Instant) : Option Int64 :=
  if Int64.minValue.toInt ≤ t.totalNanos ∧ t.totalNanos ≤ Int64.maxValue.toInt then
    some (Int64.ofInt t.totalNanos)
  else none

/-- The instant at a count of nanoseconds since 1970. -/
def ofEpochNanos (n : Int64) : Instant where
  secs := n.toInt / nanosPerSec
  nanos := (n.toInt % nanosPerSec).toNat
  valid := by
    have h₁ := n.toInt_lt
    have h₂ := n.le_toInt
    simp only [minSecs, maxSecs, nanosPerSec]
    omega

/-- The instant a length of time earlier, if the calendar has it. From within a leap second a
length below one second leads at most to the second before it. -/
def earlier? (t : Instant) (d : Span) : Option Instant :=
  if t.nanos ≥ nanosPerSec ∧ d.secs = 0 then ofUnix? t.secs (t.nanos - d.subsec)
  else
    let secs := if t.nanos ≥ nanosPerSec then t.secs + 1 else t.secs
    let total := secs * nanosPerSec + (t.nanos % nanosPerSec : Nat) - d.nanos
    ofUnix? (total / nanosPerSec) (total % nanosPerSec).toNat

/-- The instant a length of time later, if the calendar has it. -/
def later? (t : Instant) (d : Span) : Option Instant :=
  if t.nanos ≥ nanosPerSec ∧ t.nanos + d.nanos < 2 * nanosPerSec then
    ofUnix? t.secs (t.nanos + d.nanos)
  else
    let total := t.secs * nanosPerSec + (t.nanos % nanosPerSec : Nat) + d.nanos
    ofUnix? (total / nanosPerSec) (total % nanosPerSec).toNat

/-- The instant a length of time later, or the last one. -/
def later (t : Instant) (d : Span) : Instant := (t.later? d).getD latest

/-- Time passed from an earlier instant, zero if it is not earlier. -/
def since (t start : Instant) : Span := ⟨(t.totalNanos - start.totalNanos).toNat⟩

end Instant

/-- The longest length that calendar arithmetic takes, in nanoseconds: a signed 64-bit count of
milliseconds. -/
abbrev maxShiftNanos : Nat := 9223372036854775807 * 1000000

/-- Whether calendar arithmetic takes the length. -/
def Span.fitsCalendar (d : Span) : Bool := d.nanos ≤ maxShiftNanos

end SeriesReplica.Time
