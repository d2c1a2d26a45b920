import SeriesReplica.Numeric.Float64

/-!
The shortest decimal that reads back as a given floating-point number, the positional form it
takes in line protocol, and the reader for both positional and scientific forms. A grid of
powers of ten is refined until one of the two neighbours of the number on it reads back.
-/
namespace SeriesReplica.Numeric
open Text

/-- The value `digits · 10 ^ exponent`. -/
structure Decimal where
  digits : Nat
  exponent : Int
  deriving DecidableEq, Repr

namespace Decimal

/-- Digits before the point, less one, when written with one digit before it. -/
def order (d : Decimal) : Int := (Numeral.ofNat d.digits).length + d.exponent - 1

/-- Without an exponent: zeros fill up to the point on either side. -/
def positional (d : Decimal) : List Char :=
  let ds := Numeral.ofNat d.digits
  if 0 ≤ d.exponent then ds ++ List.replicate d.exponent.toNat '0'
  else
    let places := (-d.exponent).toNat
    let ds := List.replicate (places + 1 - ds.length) '0' ++ ds
    ds.take (ds.length - places) ++ '.' :: ds.drop (ds.length - places)

/-- One digit before the point, the others after it, and a signed exponent. -/
def scientific (d : Decimal) : List Char :=
  let head := match Numeral.ofNat d.digits with
    | [] => []
    | [c] => [c]
    | c :: cs => c :: '.' :: cs
  head ++ 'e' :: (if 0 ≤ d.order then ['+'] else []) ++ Numeral.ofInt d.order

end Decimal

/-- Which of two shortest decimals at the same distance is taken: the upper one, or the one that
ends with an even digit. -/
inductive TieRule where
  | upper
  | even
  deriving DecidableEq, Repr

/-- Whether the lower of two neighbours is nearer, given twice the distance to it and the
distance between them, or taken as near as the other. -/
private def TieRule.prefersLow (tie : TieRule) (low twice gap : Nat) : Bool :=
  twice < gap || (twice = gap && tie = .even && low % 2 = 0)

namespace Float64

/-- Whether the decimal is read as the given number without its sign. -/
def readsBack (x : Float64) (d : Decimal) : Bool :=
  (ofDecimal false d.digits d.exponent).magnitudeBits = x.magnitudeBits

/-- The nearer of the two neighbours on the grid `10 ^ exponent` that reads back. -/
def onGrid (tie : TieRule) (x : Float64) (exponent : Int) : Option Decimal :=
  let (a, b) := x.ratio
  let (num, den) :=
    if 0 ≤ exponent then (a, b * Nat.pow 10 exponent.toNat)
    else (a * Nat.pow 10 (-exponent).toNat, b)
  let low : Decimal := ⟨num / den, exponent⟩
  let high : Decimal := ⟨num / den + 1, exponent⟩
  let lowFits := low.digits ≠ 0 && x.readsBack low
  let highFits := x.readsBack high
  if lowFits && (!highFits || tie.prefersLow low.digits (2 * (num % den)) den) then some low
  else if highFits then some high
  else none

/-- The exact decimal expansion: every binary fraction ends. -/
def exact (x : Float64) : Decimal :=
  if 1074 ≤ x.scale then ⟨x.mantissa * Nat.pow 2 (x.scale - 1074), 0⟩
  else ⟨x.mantissa * Nat.pow 5 (1074 - x.scale), (x.scale : Int) - 1074⟩

/-- Tries ever finer grids. -/
def search (tie : TieRule) (x : Float64) (exponent : Int) : Nat → Decimal
  | 0 => x.exact
  | steps + 1 =>
    match x.onGrid tie exponent with
    | some d => d
    | none => search tie x (exponent - 1) steps

/-- The shortest decimal that reads back as the magnitude of a finite number. -/
def shortest (tie : TieRule) (x : Float64) : Decimal :=
  if x.isZero then ⟨0, 0⟩
  else
    let top : Int := (Nat.log2 x.mantissa : Int) + x.scale - 1074
    search tie x (top * 30103 / 100000 + 2) 24

/-- Positional form with the fewest digits; whole numbers have no point, and of two decimals at
the same distance the upper one is taken. -/
def chars (x : Float64) : List Char :=
  if x.isNaN then ['N', 'a', 'N']
  else
    let magnitude := if x.isInfinite then ['i', 'n', 'f'] else (x.shortest .upper).positional
    if x.isNegative then '-' :: magnitude else magnitude

def text (x : Float64) : String := String.ofList x.chars

/-- Digits with an optional point, then an optional exponent. -/
def readUnsigned? (negative : Bool) (cs : List Char) : Option Float64 := do
  let whole := cs.takeWhile Char.isDigit
  let rest := cs.dropWhile Char.isDigit
  let (fraction, rest) := match rest with
    | '.' :: r => (r.takeWhile Char.isDigit, r.dropWhile Char.isDigit)
    | r => ([], r)
  let exponent ← match rest with
    | [] => some 0
    | c :: r => if c = 'e' ∨ c = 'E' then Numeral.readInt? r else none
  let digits ← Numeral.readNat? (whole ++ fraction)
  pure (ofDecimal negative digits (exponent - fraction.length))

def readMagnitude? (negative : Bool) (cs : List Char) : Option Float64 :=
  match String.ofList (cs.map Char.toLower) with
  | "inf" | "infinity" => some (infinity negative)
  | "nan" => some nan
  | _ => readUnsigned? negative cs

/-- Reads a number after an optional sign: a name in any case, or digits with an optional point
and exponent. -/
def read? : List Char → Option Float64
  | '-' :: cs => readMagnitude? true cs
  | '+' :: cs => readMagnitude? false cs
  | cs => readMagnitude? false cs

end Float64
end SeriesReplica.Numeric
