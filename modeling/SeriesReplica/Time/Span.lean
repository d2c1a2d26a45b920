import SeriesReplica.Text.Numeral

/-!
Lengths of time in whole nanoseconds, and the short text in which messages show them: the
largest unit among `s`, `ms`, `µs` and `ns` whose whole part is not zero, with the exact
fraction.
-/
namespace SeriesReplica.Time
open Text

/-- Nanoseconds in one second. -/
abbrev nanosPerSec : Nat := 1000000000

/-- A length of time. -/
structure Span where
  nanos : Nat
  deriving DecidableEq, Repr, Inhabited

namespace Span

def zero : Span := ⟨0⟩

def ofSecs (n : Nat) : Span := ⟨n * nanosPerSec⟩

def ofMillis (n : Nat) : Span := ⟨n * 1000000⟩

/-- A length given as whole seconds and a nanosecond part. -/
def ofParts (secs nanos : Nat) : Span := ⟨secs * nanosPerSec + nanos⟩

/-- Whole seconds. -/
def secs (d : Span) : Nat := d.nanos / nanosPerSec

/-- Nanoseconds past the last whole second. -/
def subsec (d : Span) : Nat := d.nanos % nanosPerSec

def millis (d : Span) : Nat := d.nanos / 1000000

def isZero (d : Span) : Bool := d.nanos = 0

instance : LE Span := ⟨fun a b => a.nanos ≤ b.nanos⟩
instance : LT Span := ⟨fun a b => a.nanos < b.nanos⟩
instance (a b : Span) : Decidable (a ≤ b) := inferInstanceAs (Decidable (a.nanos ≤ b.nanos))
instance (a b : Span) : Decidable (a < b) := inferInstanceAs (Decidable (a.nanos < b.nanos))
instance : Add Span := ⟨fun a b => ⟨a.nanos + b.nanos⟩⟩
instance : Sub Span := ⟨fun a b => ⟨a.nanos - b.nanos⟩⟩

/-- A whole part and a fraction of the given number of digits, zeros at the end dropped. -/
private def withFraction (whole fraction width : Nat) : List Char :=
  let ds := Numeral.trimZeros (Numeral.padded width fraction)
  if ds = [] then Numeral.ofNat whole else Numeral.ofNat whole ++ '.' :: ds

/-- The text of a length in messages. -/
def text (d : Span) : String :=
  let n := d.nanos
  String.ofList <|
    if n ≥ 1000000000 then withFraction (n / 1000000000) (n % 1000000000) 9 ++ ['s']
    else if n ≥ 1000000 then withFraction (n / 1000000) (n % 1000000) 6 ++ ['m', 's']
    else if n ≥ 1000 then withFraction (n / 1000) (n % 1000) 3 ++ ['µ', 's']
    else Numeral.ofNat n ++ ['n', 's']

end Span
end SeriesReplica.Time
