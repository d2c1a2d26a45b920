/-!
Percent encoding: bytes outside a safe set are written as a percent sign and two capital
hexadecimal digits.
-/
namespace SeriesReplica.Url.Percent

/-- The UTF-8 bytes of a character. -/
def bytes (c : Char) : List UInt8 := (String.ofList [c]).toUTF8.toList

private def hexDigit (n : Nat) : Char := (Nat.digitChar n).toUpper

/-- One byte in its written form. -/
def escape (b : UInt8) : List Char := ['%', hexDigit (b.toNat / 16), hexDigit (b.toNat % 16)]

/-- Writes the characters that are not safe by their bytes. -/
def encode (isSafe : Char → Bool) (cs : List Char) : List Char :=
  cs.flatMap fun c => if isSafe c then [c] else (bytes c).flatMap escape

private def hexValue? (c : Char) : Option Nat :=
  if c.isDigit then some (c.toNat - '0'.toNat)
  else if 'a' ≤ c ∧ c ≤ 'f' then some (c.toNat - 'a'.toNat + 10)
  else if 'A' ≤ c ∧ c ≤ 'F' then some (c.toNat - 'A'.toNat + 10)
  else none

private def byte? (a b : Char) : Option UInt8 := do
  pure (.ofNat ((← hexValue? a) * 16 + (← hexValue? b)))

/-- The bytes of a text, those in written form read back. -/
def decodeBytes : List Char → List UInt8
  | [] => []
  | '%' :: a :: b :: cs =>
    match byte? a b with
    | some n => n :: decodeBytes cs
    | none => bytes '%' ++ decodeBytes (a :: b :: cs)
  | c :: cs => bytes c ++ decodeBytes cs

/-- A text with its written bytes read back, if they are UTF-8. -/
def decode? (cs : List Char) : Option (List Char) :=
  (String.fromUTF8? ⟨(decodeBytes cs).toArray⟩).map (·.toList)

/-- Whether a character stands for itself in a form. -/
def isFormSafe (c : Char) : Bool := c.isAlphanum || c ∈ ['*', '-', '.', '_']

/-- A text in a form: blanks are plus signs. -/
def formText (cs : List Char) : List Char :=
  cs.flatMap fun c => if c = ' ' then ['+'] else encode isFormSafe [c]

/-- Names with their values, as a form holds them. -/
def form : List (String × String) → List Char
  | [] => []
  | [(k, v)] => formText k.toList ++ '=' :: formText v.toList
  | (k, v) :: rest => formText k.toList ++ '=' :: formText v.toList ++ '&' :: form rest

end SeriesReplica.Url.Percent
