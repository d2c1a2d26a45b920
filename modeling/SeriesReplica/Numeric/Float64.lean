import SeriesReplica.Text.Numeral

/-!
Binary floating-point numbers of 64 bits, kept as their bit patterns. Every operation goes
through an exact ratio that is rounded once to the nearest number, ties to the even mantissa.
-/
namespace SeriesReplica.Numeric

/-- A 64-bit floating-point number. -/
structure Float64 where
  bits : UInt64
  deriving DecidableEq, Repr, Inhabited

namespace Float64

/-- The bit pattern of positive infinity. -/
abbrev infinityBits : Nat := 0x7FF0000000000000

/-- The bit that marks negative numbers. -/
abbrev signBit : Nat := 0x8000000000000000

def withSign (negative : Bool) (bits : Nat) : Float64 :=
  ⟨UInt64.ofNat (if negative then signBit + bits else bits)⟩

def zero (negative : Bool) : Float64 := withSign negative 0
def infinity (negative : Bool) : Float64 := withSign negative infinityBits
def nan : Float64 := ⟨0x7FF8000000000000⟩

def isNegative (x : Float64) : Bool := signBit ≤ x.bits.toNat

/-- The bits below the sign. -/
def magnitudeBits (x : Float64) : Nat := x.bits.toNat % signBit

def isFinite (x : Float64) : Bool := x.magnitudeBits < infinityBits
def isInfinite (x : Float64) : Bool := x.magnitudeBits = infinityBits
def isNaN (x : Float64) : Bool := infinityBits < x.magnitudeBits
def isZero (x : Float64) : Bool := x.magnitudeBits = 0

def neg (x : Float64) : Float64 := withSign (!x.isNegative) x.magnitudeBits

/-- The integer mantissa of a finite number. -/
def mantissa (x : Float64) : Nat :=
  let e := x.magnitudeBits / Nat.pow 2 52
  let f := x.magnitudeBits % Nat.pow 2 52
  if e = 0 then f else Nat.pow 2 52 + f

/-- The binary exponent that goes with the mantissa, less the least one, which is -1074. -/
def scale (x : Float64) : Nat := x.magnitudeBits / Nat.pow 2 52 - 1

/-- The magnitude of a finite number as an exact ratio. -/
def ratio (x : Float64) : Nat × Nat :=
  if 1074 ≤ x.scale then (x.mantissa * Nat.pow 2 (x.scale - 1074), 1)
  else (x.mantissa, Nat.pow 2 (1074 - x.scale))

/-- The quotient rounded to the nearest integer, ties to the even one. -/
def roundDiv (num den : Nat) : Nat :=
  let q := num / den
  let twice := 2 * (num % den)
  if twice > den ∨ (twice = den ∧ q % 2 = 1) then q + 1 else q

/-- Whether `2 ^ e ≤ num / den`. -/
def reaches (num den : Nat) (e : Int) : Bool :=
  if 0 ≤ e then den * Nat.pow 2 e.toNat ≤ num else den ≤ num * Nat.pow 2 (-e).toNat

/-- The number nearest to a ratio with a positive denominator. -/
def ofRatio (negative : Bool) (num den : Nat) : Float64 :=
  if num = 0 then zero negative
  else
    let guess : Int := (Nat.log2 num : Int) - Nat.log2 den
    let top := if reaches num den guess then guess else guess - 1
    let scale := (top + 1022).toNat
    let m :=
      if 1074 ≤ scale then roundDiv num (den * Nat.pow 2 (scale - 1074))
      else roundDiv (num * Nat.pow 2 (1074 - scale)) den
    withSign negative (min infinityBits (scale * Nat.pow 2 52 + m))

def ofNat (n : Nat) : Float64 := ofRatio false n 1

def ofInt (i : Int) : Float64 := ofRatio (i < 0) i.natAbs 1

/-- The number nearest to `digits · 10 ^ exponent`. Beyond 400 places from the point every
value is infinite or zero. -/
def ofDecimal (negative : Bool) (digits : Nat) (exponent : Int) : Float64 :=
  let magnitude : Int := (Text.Numeral.ofNat digits).length + exponent
  if digits = 0 then zero negative
  else if 400 < magnitude then infinity negative
  else if magnitude < -400 then zero negative
  else if 0 ≤ exponent then ofRatio negative (digits * Nat.pow 10 exponent.toNat) 1
  else ofRatio negative digits (Nat.pow 10 (-exponent).toNat)

/-- Product of two finite numbers. -/
def mul (x y : Float64) : Float64 :=
  let (a, b) := x.ratio
  let (c, d) := y.ratio
  ofRatio (x.isNegative != y.isNegative) (a * c) (b * d)

/-- Quotient of two finite numbers, the second not zero. -/
def div (x y : Float64) : Float64 :=
  let (a, b) := x.ratio
  let (c, d) := y.ratio
  ofRatio (x.isNegative != y.isNegative) (a * d) (b * c)

end Float64
end SeriesReplica.Numeric
