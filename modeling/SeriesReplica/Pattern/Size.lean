import SeriesReplica.Pattern.Expr

/-!
The size of a pattern once its repetitions are written out, in bytes of a machine that reads
UTF-8 backwards. Patterns beyond a limit are refused.
-/
namespace SeriesReplica.Pattern
open Unicode

namespace Utf8

/-- The last code points written in one, two, three and four bytes. -/
def limits : List Nat := [0x7F, 0x7FF, 0xFFFF, 0x10FFFF]

/-- Cuts an interval behind the given point. -/
private def cutAfter (point : Nat) (r : Nat × Nat) : List (Nat × Nat) :=
  if r.1 ≤ point ∧ point < r.2 then [(r.1, point), (point + 1, r.2)] else [r]

/-- Leaves out the surrogates. -/
private def withoutSurrogates (r : Nat × Nat) : List (Nat × Nat) :=
  [(r.1, min r.2 0xD7FF), (max r.1 0xE000, r.2)].filter fun (a, b) => a ≤ b

/-- Cuts an interval so that its ends differ in the last `n` continuation bytes only if these
run over their whole range. -/
private def align : Nat → Nat × Nat → List (Nat × Nat)
  | 0, r => [r]
  | n + 1, (a, b) =>
    let unit := Nat.pow 2 (6 * (n + 1))
    if a / unit = b / unit then align n (a, b)
    else
      let low := if a % unit = 0 then a else (a / unit + 1) * unit
      let high := if b % unit = unit - 1 then b + 1 else b / unit * unit
      let head := if a < low then align n (a, low - 1) else []
      let middle := if low < high then [(low, high - 1)] else []
      let tail := if high ≤ b then align n (high, b) else []
      head ++ middle ++ tail

/-- The bytes of a code point. -/
def encode (n : Nat) : List Nat :=
  if n ≤ 0x7F then [n]
  else if n ≤ 0x7FF then [0xC0 + n / 64, 0x80 + n % 64]
  else if n ≤ 0xFFFF then [0xE0 + n / 4096, 0x80 + n / 64 % 64, 0x80 + n % 64]
  else [0xF0 + n / 262144, 0x80 + n / 4096 % 64, 0x80 + n / 64 % 64, 0x80 + n % 64]

/-- The interval as sequences of byte intervals. -/
def sequences (r : Nat × Nat) : List (List (Nat × Nat)) :=
  let parts := limits.foldl (fun rs l => rs.flatMap (cutAfter l)) (withoutSurrogates r)
  (parts.flatMap fun (a, b) => align ((encode a).length - 1) (a, b)).map fun (a, b) =>
    (encode a).zip (encode b)

/-- How many items two lists share at their start. -/
private def shared {α : Type} [DecidableEq α] : List α → List α → Nat
  | x :: xs, y :: ys => if x = y then shared xs ys + 1 else 0
  | _, _ => 0

/-- Byte intervals of all sequences, those at a shared start once. -/
def nodes (previous : List (Nat × Nat)) : List (List (Nat × Nat)) → Nat
  | [] => 0
  | s :: ss => s.length - shared previous s + nodes s ss

end Utf8

/-- Bytes of one state. -/
abbrev stateSize : Nat := 32

/-- The size of a set of characters. -/
def setSize (s : CharSet) : Nat :=
  let ranges := s.normalize.ranges
  match ranges with
  | [(a, b)] =>
    if a = b then stateSize * (Utf8.encode a).length else several ranges
  | _ => several ranges
where
  several (ranges : List (Nat × Nat)) : Nat :=
    if ranges.all fun (_, b) => b ≤ 0x7F then 2 * stateSize + 8 * ranges.length
    else
      let seqs := ranges.flatMap Utf8.sequences
      stateSize * (Utf8.nodes [] seqs + 2) + 4 * seqs.length

/-- The size of a pattern. -/
def Expr.size : Expr → Nat
  | .empty => stateSize
  | .chars set => setSize set
  | .look _ => stateSize
  | .cat e f => e.size + f.size
  | .alt e f => e.size + f.size + 2 * stateSize + 8
  | .times e least none => max least 1 * e.size + stateSize + 8
  | .times e least (some most) =>
    if most = least then max (least * e.size) stateSize
    else least * e.size + (most - least) * (e.size + stateSize + 8) + stateSize

/-- The largest size that is not refused. -/
abbrev sizeLimit : Nat := 10485760

end SeriesReplica.Pattern
