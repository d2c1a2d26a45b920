import SeriesReplica.Text.Numeral

/-!
Sets of characters as intervals of code points. Complements reach over all code points.
-/
namespace SeriesReplica.Unicode

/-- The last code point. -/
abbrev lastPoint : Nat := 0x10FFFF

/-- A set of code points, given by intervals that hold their ends. -/
structure CharSet where
  ranges : List (Nat × Nat)
  deriving DecidableEq, Repr, Inhabited

namespace CharSet

def empty : CharSet := ⟨[]⟩

def full : CharSet := ⟨[(0, lastPoint)]⟩

def ofRange (low high : Char) : CharSet := ⟨[(low.toNat, high.toNat)]⟩

def ofChar (c : Char) : CharSet := ofRange c c

/-- Whether a code point is in the set. -/
def mem (s : CharSet) (n : Nat) : Bool := s.ranges.any fun (a, b) => a ≤ n && n ≤ b

def union (s t : CharSet) : CharSet := ⟨s.ranges ++ t.ranges⟩

/-- Puts an interval in front of sorted ones, joined with those it touches. -/
private def join (a b : Nat) : List (Nat × Nat) → List (Nat × Nat)
  | [] => [(a, b)]
  | (c, d) :: rest => if c ≤ b + 1 then join a (max b d) rest else (a, b) :: (c, d) :: rest

/-- The same set by sorted intervals that do not touch. -/
def normalize (s : CharSet) : CharSet :=
  let sorted := (s.ranges.filter fun (a, b) => a ≤ b).mergeSort fun x y => x.1 ≤ y.1
  ⟨sorted.foldr (fun (a, b) rest => join a b rest) []⟩

/-- The gaps between sorted intervals from a code point on. -/
private def gaps (start : Nat) : List (Nat × Nat) → List (Nat × Nat)
  | [] => if start ≤ lastPoint then [(start, lastPoint)] else []
  | (a, b) :: rest =>
    if start < a then (start, a - 1) :: gaps (b + 1) rest else gaps (max start (b + 1)) rest

def complement (s : CharSet) : CharSet := ⟨gaps 0 s.normalize.ranges⟩

def inter (s t : CharSet) : CharSet := (s.complement.union t.complement).complement

def diff (s t : CharSet) : CharSet := s.inter t.complement

/-- What is in one of the sets only. -/
def symmetricDiff (s t : CharSet) : CharSet := (s.diff t).union (t.diff s)

theorem mem_union (s t : CharSet) (n : Nat) : (s.union t).mem n = (s.mem n || t.mem n) := by
  simp [mem, union]

end CharSet
end SeriesReplica.Unicode
