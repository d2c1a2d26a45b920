/-!
Base64: three bytes are written as four characters of six bits each, and what is missing at the
end is made up by equals signs.
-/
namespace SeriesReplica.Text.Base64

/-- The digits in order of their values. -/
def digits : List Char :=
  "ABCDEFGHIJKLMNOPQRSTUVWXYZabcdefghijklmnopqrstuvwxyz0123456789+/".toList

/-- The digit of the six lowest bits. -/
def digit (n : Nat) : Char := digits.getD (n % 64) 'A'

/-- The written form of bytes. -/
def encode : List UInt8 → List Char
  | [] => []
  | [a] =>
    let n := a.toNat * 16
    [digit (n / 64), digit n, '=', '=']
  | [a, b] =>
    let n := (a.toNat * 256 + b.toNat) * 4
    [digit (n / 4096), digit (n / 64), digit n, '=']
  | a :: b :: c :: rest =>
    let n := (a.toNat * 256 + b.toNat) * 256 + c.toNat
    digit (n / 262144) :: digit (n / 4096) :: digit (n / 64) :: digit n :: encode rest

end SeriesReplica.Text.Base64
