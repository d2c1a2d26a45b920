import Mathlib.Algebra.Order.Floor.Div
import SeriesReplica.Point.Basic

/-! Batches in parts. A batch is cut into full parts and a rest, and one that is within the limit
comes to the same as if it had been cut. The parts hold the points of the batch in order, and there
are as many as its points divided by the limit, rounded up. -/
namespace SeriesReplica.Batch

section Pieces
variable {α : Type} {n : Nat} {xs ys : List α}

theorem pieces_nil : pieces n ([] : List α) = [] := by
  rw [pieces, if_pos rfl]

theorem pieces_of_ne_nil (hxs : xs ≠ []) :
    pieces n xs = xs.take (n + 1) :: pieces n (xs.drop (n + 1)) := by
  rw [pieces, if_neg hxs]

/-- A list that fits into one piece is that piece. -/
theorem pieces_of_length_le (hxs : xs ≠ []) (h : xs.length ≤ n + 1) : pieces n xs = [xs] := by
  rw [pieces_of_ne_nil hxs, List.take_of_length_le h, List.drop_eq_nil_of_le h, pieces_nil]

/-- The pieces of a list are the list. -/
theorem flatten_pieces (n : Nat) (xs : List α) : (pieces n xs).flatten = xs := by
  induction xs using pieces.induct n with
  | case1 => rw [pieces_nil, List.flatten_nil]
  | case2 xs hxs ih => rw [pieces_of_ne_nil hxs, List.flatten_cons, ih, List.take_append_drop]

theorem length_le_of_mem_pieces (h : ys ∈ pieces n xs) : ys.length ≤ n + 1 := by
  induction xs using pieces.induct n with
  | case1 => simp [pieces_nil] at h
  | case2 xs hxs ih =>
    rw [pieces_of_ne_nil hxs] at h
    obtain rfl | h := List.mem_cons.1 h
    · exact List.length_take_le _ _
    · exact ih h

theorem ne_nil_of_mem_pieces (h : ys ∈ pieces n xs) : ys ≠ [] := by
  induction xs using pieces.induct n with
  | case1 => simp [pieces_nil] at h
  | case2 xs hxs ih =>
    rw [pieces_of_ne_nil hxs] at h
    obtain rfl | h := List.mem_cons.1 h
    · simpa using hxs
    · exact ih h

/-- All pieces but the last one are full. -/
theorem length_of_mem_dropLast_pieces (h : ys ∈ (pieces n xs).dropLast) : ys.length = n + 1 := by
  induction xs using pieces.induct n with
  | case1 => simp [pieces_nil] at h
  | case2 xs hxs ih =>
    rw [pieces_of_ne_nil hxs] at h
    by_cases hrest : xs.drop (n + 1) = []
    · simp [hrest, pieces_nil] at h
    · have hlong : n + 1 < xs.length := by simpa using hrest
      have hmore : pieces n (xs.drop (n + 1)) ≠ [] := by simp [pieces_of_ne_nil hrest]
      rw [List.dropLast_cons_of_ne_nil hmore] at h
      obtain rfl | h := List.mem_cons.1 h
      · rw [List.length_take]
        omega
      · exact ih h

/-- There are as many pieces as it takes. -/
theorem length_pieces (n : Nat) (xs : List α) : (pieces n xs).length = xs.length ⌈/⌉ (n + 1) := by
  induction xs using pieces.induct n with
  | case1 => rw [pieces_nil, List.length_nil, List.length_nil, zero_ceilDiv]
  | case2 xs hxs ih =>
    have hpos : 0 < xs.length := List.length_pos_iff.2 hxs
    rw [pieces_of_ne_nil hxs, List.length_cons, ih, List.length_drop,
      Nat.ceilDiv_eq_add_pred_div, Nat.ceilDiv_eq_add_pred_div]
    rcases Nat.lt_or_ge xs.length (n + 1) with hshort | hlong
    · rw [Nat.div_eq_of_lt (by omega), Nat.div_eq_of_lt_le] <;> omega
    · rw [← Nat.add_div_right _ n.succ_pos]
      congr 1
      omega

end Pieces

variable {b c : Batch} {limit : Nat}

theorem split_of_eq_nil (h : b.points = []) : b.split limit = [b] := by
  rw [split, if_pos (by simp [h])]

/-- A batch that is within the limit is its only piece, so it need not be told from the others. -/
theorem split_of_ne_nil (h : b.points ≠ []) :
    b.split limit = (pieces (max limit 1 - 1) b.points).map fun ps => { b with points := ps } := by
  rw [split]
  split
  case isTrue hfits => rw [pieces_of_length_le h (by omega), List.map_singleton]
  case isFalse => rfl

/-- The parts of a batch hold its points in order. -/
theorem flatMap_split (b : Batch) (limit : Nat) :
    (b.split limit).flatMap (·.points) = b.points := by
  by_cases h : b.points = []
  · rw [split_of_eq_nil h, List.flatMap_singleton]
  · rw [split_of_ne_nil h, List.flatMap_map]
    exact List.flatMap_id.trans (flatten_pieces _ _)

/-- The parts of a batch go where it goes. -/
theorem place_of_mem_split (hc : c ∈ b.split limit) :
    c.database = b.database ∧ c.policy = b.policy := by
  by_cases h : b.points = []
  · rw [split_of_eq_nil h, List.mem_singleton] at hc
    exact hc ▸ ⟨rfl, rfl⟩
  · rw [split_of_ne_nil h] at hc
    obtain ⟨ps, -, rfl⟩ := List.mem_map.1 hc
    exact ⟨rfl, rfl⟩

theorem length_le_of_mem_split (hc : c ∈ b.split limit) : c.points.length ≤ max limit 1 := by
  by_cases h : b.points = []
  · rw [split_of_eq_nil h, List.mem_singleton] at hc
    simp [hc, h]
  · rw [split_of_ne_nil h] at hc
    obtain ⟨ps, hps, rfl⟩ := List.mem_map.1 hc
    have hlength := length_le_of_mem_pieces hps
    dsimp only
    omega

/-- The parts of a batch that is not empty are not empty. -/
theorem points_ne_nil_of_mem_split (hb : b.points ≠ []) (hc : c ∈ b.split limit) :
    c.points ≠ [] := by
  rw [split_of_ne_nil hb] at hc
  obtain ⟨ps, hps, rfl⟩ := List.mem_map.1 hc
  exact ne_nil_of_mem_pieces hps

theorem length_of_mem_dropLast_split (hc : c ∈ (b.split limit).dropLast) :
    c.points.length = max limit 1 := by
  by_cases h : b.points = []
  · simp [split_of_eq_nil h] at hc
  · rw [split_of_ne_nil h, ← List.map_dropLast] at hc
    obtain ⟨ps, hps, rfl⟩ := List.mem_map.1 hc
    have hlength := length_of_mem_dropLast_pieces hps
    dsimp only
    omega

theorem length_split (h : b.points ≠ []) :
    (b.split limit).length = b.points.length ⌈/⌉ max limit 1 := by
  rw [split_of_ne_nil h, List.length_map, length_pieces, Nat.sub_add_cancel (Nat.le_max_right _ _)]

/-- Cutting a batch into parts loses, doubles and reorders nothing, at whatever limit, zero being
as good as one. -/
theorem split_fills_parts (b : Batch) (limit : Nat) :
    (b.split limit).flatMap (·.points) = b.points ∧
      (∀ c ∈ b.split limit, c.database = b.database ∧ c.policy = b.policy ∧
        c.points.length ≤ max 1 limit) ∧
      (∀ c ∈ (b.split limit).dropLast, c.points.length = max 1 limit) ∧
      (b.points ≠ [] → (b.split limit).length = b.points.length ⌈/⌉ max 1 limit ∧
        ∀ c ∈ b.split limit, c.points ≠ []) ∧
      (b.points = [] → b.split limit = [⟨b.database, b.policy, []⟩]) := by
  rw [max_comm 1 limit]
  refine ⟨flatMap_split b limit, fun c hc => ?_, fun c hc => ?_, fun h => ?_, fun h => ?_⟩
  · obtain ⟨hdatabase, hpolicy⟩ := place_of_mem_split hc
    exact ⟨hdatabase, hpolicy, length_le_of_mem_split hc⟩
  · exact length_of_mem_dropLast_split hc
  · exact ⟨length_split h, fun c hc => points_ne_nil_of_mem_split h hc⟩
  · rw [split_of_eq_nil h, ← h]

/-- Points at so many moments. -/
private def readings (n : Nat) : Batch :=
  ⟨"telegraf", "autogen", (List.range n).map fun t => ⟨"cpu", ∅, ∅, .ofNat t⟩⟩

/-- At a limit of two, four points make two parts, a fifth one makes a part of its own, and no
points make one part. -/
theorem split_fills_parts_pairs :
    (readings 4).points ≠ [] ∧ ((readings 4).split 2).length = 2 ∧
    (readings 5).points ≠ [] ∧ ((readings 5).split 2).length = 3 ∧
    ((readings 5).split 2).flatMap (·.points) = (readings 5).points ∧
    (readings 0).points = [] ∧ (readings 0).split 2 = [readings 0] := by
  have hfour : (readings 4).points ≠ [] := by simp [readings]
  have hfive : (readings 5).points ≠ [] := by simp [readings]
  obtain ⟨-, -, -, hfourParts, -⟩ := split_fills_parts (readings 4) 2
  obtain ⟨horder, -, -, hfiveParts, -⟩ := split_fills_parts (readings 5) 2
  obtain ⟨-, -, -, -, hnone⟩ := split_fills_parts (readings 0) 2
  exact ⟨hfour, (hfourParts hfour).1, hfive, (hfiveParts hfive).1, horder, rfl, hnone rfl⟩

end SeriesReplica.Batch
