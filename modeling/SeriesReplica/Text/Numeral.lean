/-!
Decimal numerals as lists of characters: how natural numbers and integers are written, and
the reader that accepts an optional sign, at least one ASCII digit and nothing else.
-/
namespace SeriesReplica.Text.Numeral

/-- The digits of a number, without leading zeros. -/
def ofNat (n : Nat) : List Char := Nat.toDigits 10 n

/-- The digits of an integer, after a minus sign if it is negative. -/
def ofInt (i : Int) : List Char :=
  if i < 0 then '-' :: ofNat i.natAbs else ofNat i.natAbs

/-- The digits of a number with zeros in front up to the given width. -/
def padded (width n : Nat) : List Char :=
  let ds := ofNat n
  List.replicate (width - ds.length) '0' ++ ds

/-- Drops the zeros at the end. -/
def trimZeros (ds : List Char) : List Char :=
  (ds.reverse.dropWhile (· = '0')).reverse

/-- Reads one or more ASCII digits. -/
def readNat? (cs : List Char) : Option Nat :=
  if cs ≠ [] ∧ cs.all Char.isDigit then some (Nat.ofDigitChars 10 cs 0) else none

/-- Reads digits after an optional sign. -/
def readInt? : List Char → Option Int
  | '-' :: cs => (readNat? cs).map fun n => -(n : Int)
  | '+' :: cs => (readNat? cs).map Int.ofNat
  | cs => (readNat? cs).map Int.ofNat

/-- Reads a signed numeral that fits 64 bits. -/
def readInt64? (cs : List Char) : Option Int64 :=
  (readInt? cs).bind fun i =>
    if Int64.minValue.toInt ≤ i ∧ i ≤ Int64.maxValue.toInt then some (Int64.ofInt i) else none

theorem readNat?_ofNat (n : Nat) : readNat? (ofNat n) = some n := by
  have hne : ofNat n ≠ [] := Nat.toDigits_ne_nil
  have hd : (ofNat n).all Char.isDigit = true := by
    simp only [List.all_eq_true, ofNat]
    exact fun c hc => Nat.isDigit_of_mem_toDigits (by decide) (by decide) hc
  rw [readNat?, if_pos ⟨hne, hd⟩, ofNat, Nat.ofDigitChars_ten_toDigits]

theorem ofNat_injective {a b : Nat} (h : ofNat a = ofNat b) : a = b := by
  have := congrArg readNat? h
  simpa [readNat?_ofNat] using this

end SeriesReplica.Text.Numeral
