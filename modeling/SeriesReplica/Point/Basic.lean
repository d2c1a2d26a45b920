import Std.Data.ExtTreeMap.Lemmas
import SeriesReplica.Point.Field

/-!
Points of a time series and batches of them. A point belongs to a series, given by its
measurement and tags, and carries fields at a time in nanoseconds.
-/
namespace SeriesReplica.Point

/-- Tag values by tag key. -/
abbrev Tags := Std.ExtTreeMap String String

/-- Field values by field key. -/
abbrev Fields := Std.ExtTreeMap String FieldValue

namespace Tags

/-- Pairs in order of their keys, then of their values. -/
def comparePair : String × String → String × String → Ordering :=
  compareLex (compareOn Prod.fst) (compareOn Prod.snd)

/-- Tag sets in the order of their sorted pairs. -/
def compare (a b : Tags) : Ordering := List.compareLex comparePair a.toList b.toList

instance : Std.TransCmp comparePair := inferInstanceAs (Std.TransCmp (compareLex _ _))

instance : Std.LawfulEqCmp comparePair where
  eq_of_compare {a b} h := by
    simp only [comparePair, compareLex_eq_eq, compareOn] at h
    exact Prod.ext (Std.LawfulEqOrd.eq_of_compare h.1) (Std.LawfulEqOrd.eq_of_compare h.2)

instance : Std.TransCmp compare where
  eq_swap := (inferInstance : Std.OrientedCmp (List.compareLex comparePair)).eq_swap
  isLE_trans := (inferInstance : Std.TransCmp (List.compareLex comparePair)).isLE_trans

instance : Std.LawfulEqCmp compare where
  compare_self := (inferInstance : Std.ReflCmp (List.compareLex comparePair)).compare_self
  eq_of_compare h :=
    Std.ExtTreeMap.toList_inj.1
      ((inferInstance : Std.LawfulEqCmp (List.compareLex comparePair)).eq_of_compare h)

end Tags
end SeriesReplica.Point

namespace SeriesReplica

/-- One point of a time series. -/
structure Point where
  measurement : String
  tags : Point.Tags
  fields : Point.Fields
  timestamp : Int64
  deriving DecidableEq

/-- Points bound for one retention policy of a database. -/
structure Batch where
  database : String
  policy : String
  points : List Point
  deriving DecidableEq

namespace Batch

/-- Cuts a list into pieces of `n + 1` elements and a rest. -/
def pieces {α : Type} (n : Nat) (xs : List α) : List (List α) :=
  if xs = [] then [] else xs.take (n + 1) :: pieces n (xs.drop (n + 1))
termination_by xs.length
decreasing_by
  have := List.length_pos_iff.2 (by assumption)
  simp only [List.length_drop]
  omega

/-- Cuts a batch into batches of at most the given number of points, at least one. A batch
within the limit stays as it is, even if it is empty. -/
def split (b : Batch) (limit : Nat) : List Batch :=
  if b.points.length ≤ max limit 1 then [b]
  else (pieces (max limit 1 - 1) b.points).map fun ps => { b with points := ps }

end Batch
end SeriesReplica
