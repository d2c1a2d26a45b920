import SeriesReplica.Text.Blank
import SeriesReplica.Time.Span

/-!
Retention lengths as servers report them: `168h0m0s`, `1h30m`, `500ms`, and `INF` or nothing
for an infinite one, which counts as zero. Sums beyond 64-bit seconds are saturated.
-/
namespace SeriesReplica.Query.Duration
open Text Time

/-- Nanoseconds in a unit. -/
def unitNanos? : List Char → Option Nat
  | ['n', 's'] => some 1
  | ['u', 's'] | ['µ', 's'] | ['u'] => some 1000
  | ['m', 's'] => some 1000000
  | ['s'] => some 1000000000
  | ['m'] => some (60 * 1000000000)
  | ['h'] => some (3600 * 1000000000)
  | ['d'] => some (86400 * 1000000000)
  | ['w'] => some (604800 * 1000000000)
  | _ => none

/-- The largest unsigned 128-bit number. -/
abbrev largestWide : Nat := Nat.pow 2 128 - 1

/-- The largest count of whole seconds. -/
abbrev largestSecs : Nat := Nat.pow 2 64 - 1

/-- What is left after a run of digits and a run of other characters. -/
def afterItem (cs : List Char) : List Char :=
  (cs.dropWhile Char.isDigit).dropWhile (!·.isDigit)

theorem length_afterItem_lt {cs : List Char} (h : cs ≠ []) : (afterItem cs).length < cs.length := by
  match cs, h with
  | c :: cs, _ =>
    have h₁ := (List.dropWhile_suffix (l := cs) Char.isDigit).length_le
    have h₂ := (List.dropWhile_suffix (l := cs) (!·.isDigit)).length_le
    have h₃ := (List.dropWhile_suffix (l := cs.dropWhile Char.isDigit) (!·.isDigit)).length_le
    by_cases hc : c.isDigit
    · simp only [afterItem, List.dropWhile_cons, hc, if_true, List.length_cons]
      omega
    · simp only [Bool.not_eq_true] at hc
      simp only [afterItem, List.dropWhile_cons, hc, List.length_cons, Bool.false_eq_true,
        if_false, Bool.not_false, if_true]
      omega

/-- The numbers of a text with the nanoseconds of their units. A number beyond 128 bits is
refused. -/
def items? (cs : List Char) : Option (List (Nat × Nat)) :=
  if cs = [] then some []
  else do
    let n ← Numeral.readNat? (cs.takeWhile Char.isDigit)
    let each ← unitNanos? ((cs.dropWhile Char.isDigit).takeWhile (!·.isDigit))
    if n ≤ largestWide then pure ((n, each) :: (← items? (afterItem cs))) else none
termination_by cs.length
decreasing_by exact length_afterItem_lt (by assumption)

/-- The sum of the items in nanoseconds; it stops growing at 128 bits. -/
def total (items : List (Nat × Nat)) : Nat :=
  min largestWide ((items.map fun (n, each) => n * each).foldr (· + ·) 0)

/-- Whole seconds saturated at 64 bits, and the nanoseconds past them. -/
def saturate (nanos : Nat) : Span :=
  .ofParts (min largestSecs (nanos / nanosPerSec)) (nanos % nanosPerSec)

/-- Reads a length; white space around it does not count. -/
def read? (s : String) : Option Span :=
  let cs := trimChars s.toList
  if cs = [] ∨ cs.map Char.toLower = ['i', 'n', 'f'] then some .zero
  else (items? cs).map fun items => saturate (total items)

/-- The form in which servers report a length, without its part below one second. -/
def chars (d : Span) : List Char :=
  Numeral.ofNat (d.secs / 3600) ++ 'h' :: Numeral.ofNat (d.secs % 3600 / 60) ++
    'm' :: Numeral.ofNat (d.secs % 60) ++ ['s']

def text (d : Span) : String := String.ofList (chars d)

/-- Why a length is refused. -/
def refusal (s : String) : String := "invalid duration '" ++ s ++ "'"

end SeriesReplica.Query.Duration
