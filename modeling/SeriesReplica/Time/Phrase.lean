import SeriesReplica.Text.Blank
import SeriesReplica.Time.Span

/-!
Lengths of time as people write them: `1h 30m`, `1.5 days`, `90sec`. A phrase is a sequence of
numbers with units; blanks may stand inside numbers and between items. Numbers are unsigned
64-bit, and a fraction must be exact in nanoseconds up to minutes and in seconds from hours on.
-/
namespace SeriesReplica.Time.Phrase
open Text

/-- Why a phrase is refused; offsets count bytes. -/
inductive Error where
  | empty
  | numberExpected (offset : Nat)
  | invalidCharacter (offset : Nat)
  | imprecise
  | unknownUnit (unit : String) (number : Nat)
  deriving DecidableEq, Repr

def Error.message : Error → String
  | .empty => "value was empty"
  | .numberExpected n => "expected number at " ++ toString n
  | .invalidCharacter n => "invalid character at " ++ toString n
  | .imprecise =>
    "number is too large or cannot be represented without a lack of precision " ++
      "(values below 1ns are not supported)"
  | .unknownUnit unit n =>
    if unit = "" then
      "time unit needed, for example " ++ toString n ++ "sec or " ++ toString n ++ "ms"
    else
      "unknown time unit \"" ++ unit ++ "\", supported units: ns, us/µs, ms, sec, min, hours, " ++
        "days, weeks, months, years (and few variations)"

/-- One unit of a unit of time, counted in nanoseconds or in seconds. -/
inductive Scale where
  | nanos (each : Nat)
  | seconds (each : Nat)

/-- The length of a unit and the grain in which its fractions must be exact. -/
def unitScales : String → Option (Scale × Scale)
  | "nanos" | "nsec" | "ns" => some (.nanos 1, .nanos 0)
  | "usec" | "us" | "µs" => some (.nanos 1000, .nanos 1000)
  | "millis" | "msec" | "ms" => some (.nanos 1000000, .nanos 1000000)
  | "seconds" | "second" | "secs" | "sec" | "s" => some (.seconds 1, .nanos 1000000000)
  | "minutes" | "minute" | "min" | "mins" | "m" => some (.seconds 60, .nanos 60000000000)
  | "hours" | "hour" | "hr" | "hrs" | "h" => some (.seconds 3600, .seconds 3600)
  | "days" | "day" | "d" => some (.seconds 86400, .seconds 86400)
  | "weeks" | "week" | "wk" | "wks" | "w" => some (.seconds 604800, .seconds 604800)
  | "months" | "month" | "M" => some (.seconds 2630016, .seconds 2630016)
  | "years" | "year" | "yr" | "yrs" | "y" => some (.seconds 31557600, .seconds 31557600)
  | _ => none

/-- One past the largest number. -/
abbrev wordLimit : Nat := 18446744073709551616

private def word (n : Nat) : Except Error Nat :=
  if n < wordLimit then .ok n else .error .imprecise

/-- Adds seconds and nanoseconds; nothing on the way may pass 64 bits. -/
private def extend (total : Span) (secs nanos : Nat) : Except Error Span := do
  let nanos ← word (total.subsec + nanos)
  let secs ← word (secs + nanos / nanosPerSec)
  let secs ← word (total.secs + secs)
  pure (.ofParts secs (nanos % nanosPerSec))

/-- Adds a number of units of the given scale. -/
private def extendScaled (total : Span) (n : Nat) : Scale → Except Error Span
  | .nanos each => do extend total 0 (← word (n * each))
  | .seconds each => do extend total (← word (n * each)) 0

/-- A fraction `numerator / denominator` of a scale, if it is a whole number of its grain. -/
private def fractionOf (numerator denominator : Nat) : Scale → Except Error Scale
  | .nanos each => do
    let n ← word (numerator * each)
    if each ≠ 0 ∧ n % denominator = 0 then pure (.nanos (n / denominator)) else .error .imprecise
  | .seconds each => do
    let n ← word (numerator * each)
    if n % denominator = 0 then pure (.seconds (n / denominator)) else .error .imprecise

/-- Adds one item: a number, its fraction if it has one, and a unit. -/
private def closeItem (total : Span) (n : Nat) (fraction : Option (Nat × Nat))
    (unit : String) : Except Error Span :=
  match unitScales unit with
  | none => .error (.unknownUnit unit n)
  | some (whole, grain) => do
    let total ← extendScaled total n whole
    match fraction with
    | none => pure total
    | some (numerator, denominator) =>
      extendScaled total 1 (← fractionOf numerator denominator grain)

/-- What the reader is in the middle of. -/
private inductive Phase where
  | before (start : Nat) (first : Bool)
  | number (n : Nat)
  | fraction (n numerator denominator accepted : Nat)
  | unit (n : Nat) (fraction : Option (Nat × Nat)) (letters : List Char)

private def isLetter (c : Char) : Bool := c.isAlpha || c = 'µ'

private def digit (c : Char) : Nat := c.toNat - '0'.toNat

/-- Reads one character at the given offset. -/
private def advance (offset : Nat) (c : Char) (total : Span) : Phase → Except Error (Phase × Span)
  | .before start first =>
    if c.isDigit then .ok (.number (digit c), total)
    else if isBlank c then .ok (.before start first, total)
    else .error (.numberExpected start)
  | .number n =>
    if c.isDigit then do pure (.number (← word (n * 10 + digit c)), total)
    else if isBlank c then .ok (.number n, total)
    else if isLetter c then .ok (.unit n none [c], total)
    else if c = '.' then .ok (.fraction n 0 1 offset, total)
    else .error (.invalidCharacter offset)
  | .fraction n numerator denominator accepted =>
    if c.isDigit then do
      let denominator ← word (denominator * 10)
      let numerator ← word (numerator * 10 + digit c)
      pure (.fraction n numerator denominator (offset + 1), total)
    else if isBlank c then
      .ok (.fraction n numerator denominator (offset + c.utf8Size), total)
    else if isLetter c ∧ denominator ≠ 1 then .ok (.unit n (some (numerator, denominator)) [c], total)
    else .error (.invalidCharacter accepted)
  | .unit n fraction letters =>
    if c.isDigit then do
      pure (.number (digit c), ← closeItem total n fraction (String.ofList letters.reverse))
    else if isBlank c then do
      pure (.before (offset + c.utf8Size) false,
        ← closeItem total n fraction (String.ofList letters.reverse))
    else if isLetter c then .ok (.unit n fraction (c :: letters), total)
    else .error (.invalidCharacter offset)

private def finish (total : Span) : Phase → Except Error Span
  | .before _ first => if first then .error .empty else .ok total
  | .number n => closeItem total n none ""
  | .fraction n numerator denominator accepted =>
    if denominator = 1 then .error (.invalidCharacter accepted)
    else closeItem total n (some (numerator, denominator)) ""
  | .unit n fraction letters => closeItem total n fraction (String.ofList letters.reverse)

private def readFrom (offset : Nat) (phase : Phase) (total : Span) :
    List Char → Except Error Span
  | [] => finish total phase
  | c :: cs => do
    let (phase, total) ← advance offset c total phase
    readFrom (offset + c.utf8Size) phase total cs

/-- Reads a phrase. -/
def read (cs : List Char) : Except Error Span := readFrom 0 (.before 0 true) .zero cs

end SeriesReplica.Time.Phrase
