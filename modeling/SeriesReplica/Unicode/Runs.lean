import SeriesReplica.Text.Blank
import SeriesReplica.Unicode.CharSet

/-!
Tables of code points in a short text form: words of a key and a count, which go through all
code points from zero on, or words of intervals.
-/
namespace SeriesReplica.Unicode
open Text

/-- Code points from `low` to `high` with one value of a property. -/
structure Run where
  key : String
  low : Nat
  high : Nat

namespace Run

/-- Reads a word of a key in letters and a count. -/
private def word? (cs : List Char) : Option (String × Nat) :=
  (Numeral.readNat? (cs.dropWhile Char.isAlpha)).map fun n =>
    (String.ofList (cs.takeWhile Char.isAlpha), n)

private def place (low : Nat) : List (String × Nat) → List Run
  | [] => []
  | (key, n) :: rest => ⟨key, low, low + n - 1⟩ :: place (low + n) rest

/-- Reads words of keys and counts. -/
def readAll (table : String) : List Run := place 0 ((words table.toList).filterMap word?)

/-- The code points with one of the keys. -/
def set (runs : List Run) (keys : List String) : CharSet :=
  CharSet.normalize ⟨runs.filterMap fun r => if r.key ∈ keys then some (r.low, r.high) else none⟩

/-- Reads two ends with a dash between them, or a single code point. -/
def interval? (cs : List Char) : Option (Nat × Nat) := do
  let low ← Numeral.readNat? (cs.takeWhile Char.isDigit)
  match cs.dropWhile Char.isDigit with
  | [] => pure (low, low)
  | _ :: cs => pure (low, ← Numeral.readNat? cs)

/-- Reads words of intervals and single code points. -/
def readRanges (table : String) : CharSet := ⟨(words table.toList).filterMap interval?⟩

end Run
end SeriesReplica.Unicode
