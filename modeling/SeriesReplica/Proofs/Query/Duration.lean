import SeriesReplica.Query.Duration
import SeriesReplica.Proofs.Numeric.Text

/-! Lengths in the forms in which servers report them. What is read is a grammar of items, each a
number and a unit, and the sum of the items is exact up to the largest count of seconds. The form in
which lengths are written is read back, without the part below one second that it does not show. -/
namespace SeriesReplica.Query.Duration
open Text Time

/-- The units and their lengths in nanoseconds. -/
def units : List (List Char × Nat) :=
  [(['n', 's'], 1), (['u', 's'], 1000), (['µ', 's'], 1000), (['u'], 1000), (['m', 's'], 1000000),
    (['s'], 1000000000), (['m'], 60000000000), (['h'], 3600000000000), (['d'], 86400000000000),
    (['w'], 604800000000000)]

/-- A text that is one item after another, each a number of at least one digit and a unit, with the
numbers and the lengths of their units. -/
inductive Itemized : List Char → List (Nat × Nat) → Prop
  | nil : Itemized [] []
  | cons {ds u rest : List Char} {each : Nat} {items : List (Nat × Nat)} (nonempty : ds ≠ [])
    (digits : ∀ c ∈ ds, c.isDigit = true) (fits : Nat.ofDigitChars 10 ds 0 ≤ largestWide)
    (unit : (u, each) ∈ units) (others : Itemized rest items) :
    Itemized (ds ++ (u ++ rest)) ((Nat.ofDigitChars 10 ds 0, each) :: items)

section Items
variable {ds u rest cs : List Char} {n each : Nat} {items : List (Nat × Nat)}

theorem unitNanos?_eq_some_iff : unitNanos? u = some each ↔ (u, each) ∈ units := by
  constructor
  · intro h
    unfold unitNanos? at h
    split at h <;> simp_all [units]
  · intro h
    simp only [units, List.mem_cons, List.not_mem_nil, or_false, Prod.mk.injEq] at h
    rcases h with ⟨rfl, rfl⟩ | ⟨rfl, rfl⟩ | ⟨rfl, rfl⟩ | ⟨rfl, rfl⟩ | ⟨rfl, rfl⟩ | ⟨rfl, rfl⟩ |
      ⟨rfl, rfl⟩ | ⟨rfl, rfl⟩ | ⟨rfl, rfl⟩ | ⟨rfl, rfl⟩ <;> rfl

/-- A unit is a name without digits. -/
theorem unit_spec (h : (u, each) ∈ units) : u ≠ [] ∧ ∀ c ∈ u, c.isDigit = false := by
  have hall : ∀ x ∈ units, x.1 ≠ [] ∧ ∀ c ∈ x.1, c.isDigit = false := by simp [units]
  exact hall (u, each) h

/-- What follows an item is nothing or the number of another one. -/
theorem Itemized.isDigit_head (h : Itemized cs items) {c : Char} (hc : cs.head? = some c) :
    c.isDigit = true := by
  cases h with
  | nil => cases hc
  | @cons ds u rest each items nonempty digits =>
    obtain ⟨d, ds, rfl⟩ := List.exists_cons_of_ne_nil nonempty
    obtain rfl := Option.some.inj hc
    exact digits d List.mem_cons_self

theorem Itemized.eq_nil (h : Itemized cs []) : cs = [] := by
  generalize hitems : ([] : List (Nat × Nat)) = items at h
  cases h with
  | nil => rfl
  | cons => cases hitems

/-- The reader cuts an item off where its number ends, and where its unit does. -/
private theorem cut_item (hds : ∀ c ∈ ds, c.isDigit = true) (hu : u ≠ [])
    (hname : ∀ c ∈ u, c.isDigit = false) (hrest : ∀ c, rest.head? = some c → c.isDigit = true) :
    (ds ++ (u ++ rest)).takeWhile Char.isDigit = ds ∧
      ((ds ++ (u ++ rest)).dropWhile Char.isDigit).takeWhile (!·.isDigit) = u ∧
      afterItem (ds ++ (u ++ rest)) = rest := by
  have hstop : (u ++ rest).takeWhile Char.isDigit = [] ∧
      (u ++ rest).dropWhile Char.isDigit = u ++ rest := by
    obtain ⟨c, u, rfl⟩ := List.exists_cons_of_ne_nil hu
    simp [hname c List.mem_cons_self]
  have hbound : rest.takeWhile (!·.isDigit) = [] ∧ rest.dropWhile (!·.isDigit) = rest := by
    cases rest with
    | nil => exact ⟨rfl, rfl⟩
    | cons c rest => simp [hrest c rfl]
  have hnot : ∀ c ∈ u, (!c.isDigit) = true := fun c hc => by rw [hname c hc]; rfl
  have hdrop : (ds ++ (u ++ rest)).dropWhile Char.isDigit = u ++ rest := by
    rw [List.dropWhile_append_of_pos hds, hstop.2]
  refine ⟨?_, ?_, ?_⟩
  · rw [List.takeWhile_append_of_pos hds, hstop.1, List.append_nil]
  · rw [hdrop, List.takeWhile_append_of_pos hnot, hbound.1, List.append_nil]
  · rw [afterItem, hdrop, List.dropWhile_append_of_pos hnot, hbound.2]

/-- One item is read, and then the rest. -/
private theorem items?_item (hne : ds ≠ []) (hds : ∀ c ∈ ds, c.isDigit = true)
    (hfits : Nat.ofDigitChars 10 ds 0 ≤ largestWide) (hunit : (u, each) ∈ units)
    (hrest : ∀ c, rest.head? = some c → c.isDigit = true) :
    items? (ds ++ (u ++ rest)) = (items? rest).map ((Nat.ofDigitChars 10 ds 0, each) :: ·) := by
  obtain ⟨hu, hname⟩ := unit_spec hunit
  obtain ⟨htake, hunitText, hafter⟩ := cut_item hds hu hname hrest
  have hread : Numeral.readNat? ds = some (Nat.ofDigitChars 10 ds 0) :=
    if_pos ⟨hne, List.all_eq_true.2 hds⟩
  rw [items?, if_neg (by simp [hne]), htake, hunitText, hafter, hread,
    unitNanos?_eq_some_iff.2 hunit]
  simp only [bind, Option.bind_some, if_pos hfits, pure]
  cases items? rest <;> rfl

/-- What is read is one item after another. -/
theorem items?_eq_some_iff : items? cs = some items ↔ Itemized cs items := by
  constructor
  · intro h
    induction cs using items?.induct generalizing items with
    | case1 =>
      rw [items?, if_pos rfl] at h
      obtain rfl := Option.some.inj h
      exact .nil
    | case2 cs hne ih =>
      rw [items?, if_neg hne] at h
      obtain ⟨n, hnumber, h⟩ := Option.bind_eq_some_iff.1 h
      obtain ⟨each, hunit, h⟩ := Option.bind_eq_some_iff.1 h
      split at h
      · rename_i hfits
        obtain ⟨others, hothers, h⟩ := Option.bind_eq_some_iff.1 h
        obtain rfl := Option.some.inj h
        rw [Numeral.readNat?, Option.ite_none_right_eq_some] at hnumber
        obtain ⟨⟨hdigits, hall⟩, hvalue⟩ := hnumber
        obtain rfl := Option.some.inj hvalue
        have hcut : cs = cs.takeWhile Char.isDigit ++
            ((cs.dropWhile Char.isDigit).takeWhile (!·.isDigit) ++ afterItem cs) := by
          rw [afterItem, List.takeWhile_append_dropWhile, List.takeWhile_append_dropWhile]
        have hitem := Itemized.cons hdigits (List.all_eq_true.1 hall) hfits
          (unitNanos?_eq_some_iff.1 hunit) (ih hothers)
        rwa [← hcut] at hitem
      · cases h
  · intro h
    induction h with
    | nil => rw [items?, if_pos rfl]
    | cons nonempty digits fits unit others ih =>
      rw [items?_item nonempty digits fits unit fun c => others.isDigit_head, ih]
      rfl

end Items

section Sums
variable {items : List (Nat × Nat)}

/-- The sum of the items in nanoseconds, without a bound. -/
def weight (items : List (Nat × Nat)) : Nat := (items.map fun x => x.1 * x.2).sum

@[simp] theorem weight_nil : weight [] = 0 := rfl

@[simp] theorem weight_cons (n each : Nat) (items : List (Nat × Nat)) :
    weight ((n, each) :: items) = n * each + weight items := rfl

theorem total_eq_min (items : List (Nat × Nat)) : total items = min largestWide (weight items) :=
  rfl

/-- The sum does not depend on whether each product and each sum is cut off on the way. -/
theorem total_eq_foldl (items : List (Nat × Nat)) : total items =
    items.foldl (fun sum x => min largestWide (sum + min largestWide (x.1 * x.2))) 0 := by
  have hall (items : List (Nat × Nat)) (sum : Nat) (hsum : sum ≤ largestWide) :
      items.foldl (fun sum x => min largestWide (sum + min largestWide (x.1 * x.2))) sum =
        min largestWide (sum + weight items) := by
    induction items generalizing sum with
    | nil => exact (Nat.min_eq_right hsum).symm
    | cons x items ih =>
      rw [List.foldl_cons, ih _ (Nat.min_le_left ..), weight_cons]
      omega
  rw [hall items 0 (Nat.zero_le _), Nat.zero_add, total_eq_min]

/-- A sum of less than the largest count of seconds and one more is exact. -/
theorem saturate_total (h : weight items < (largestSecs + 1) * nanosPerSec) :
    saturate (total items) = ⟨weight items⟩ := by
  have hwide : (largestSecs + 1) * nanosPerSec ≤ largestWide := by decide
  have hsecs : weight items / nanosPerSec ≤ largestSecs :=
    Nat.le_of_lt_succ ((Nat.div_lt_iff_lt_mul (by decide)).2 h)
  rw [total_eq_min, Nat.min_eq_right (by omega), saturate, Span.ofParts, Nat.min_eq_right hsecs,
    Nat.div_add_mod']

/-- A larger one is cut off at the largest count of seconds. -/
theorem saturate_total_of_le (h : (largestSecs + 1) * nanosPerSec ≤ weight items) :
    (saturate (total items)).secs = largestSecs := by
  have hwide : (largestSecs + 1) * nanosPerSec ≤ largestWide := by decide
  have htotal : largestSecs + 1 ≤ total items / nanosPerSec :=
    (Nat.le_div_iff_mul_le (by decide)).2 (by rw [total_eq_min]; omega)
  rw [saturate, Nat.min_eq_left (by omega), Span.secs, Span.ofParts, Nat.mul_comm,
    Nat.mul_add_div (by decide), Nat.div_eq_of_lt (Nat.mod_lt _ (by decide)), Nat.add_zero]

end Sums
section Forms
variable {cs : List Char} {d : Span}

/-- The forms of an infinite length: nothing, or three letters, each small or capital. -/
def IsInfinite (cs : List Char) : Prop :=
  cs = [] ∨ ∃ i ∈ ['i', 'I'], ∃ n ∈ ['n', 'N'], ∃ f ∈ ['f', 'F'], cs = [i, n, f]

private theorem toLower_eq_iff {c small capital : Char}
    (hsmall : ¬ (small.val ≥ 'A'.val ∧ small.val ≤ 'Z'.val)) (hcapital : capital.toLower = small)
    (hval : small.val = capital.val + 32) : c.toLower = small ↔ c ∈ [small, capital] := by
  rw [List.mem_cons, List.mem_singleton]
  constructor
  · intro h
    by_cases hc : c.val ≥ 'A'.val ∧ c.val ≤ 'Z'.val
    · have hlower : c.toLower = _ := dif_pos hc
      refine .inr (Char.ext ((UInt32.add_left_inj 32).1 ?_))
      rw [← hval, ← h]
      exact (congrArg Char.val hlower).symm
    · exact .inl ((dif_neg hc).symm.trans h)
  · rintro (rfl | rfl)
    · exact dif_neg hsmall
    · exact hcapital

theorem isInfinite_iff : IsInfinite cs ↔ cs = [] ∨ cs.map Char.toLower = ['i', 'n', 'f'] := by
  have hi (c : Char) : c.toLower = 'i' ↔ c ∈ ['i', 'I'] :=
    toLower_eq_iff (by decide) (by decide) (by decide)
  have hn (c : Char) : c.toLower = 'n' ↔ c ∈ ['n', 'N'] :=
    toLower_eq_iff (by decide) (by decide) (by decide)
  have hf (c : Char) : c.toLower = 'f' ↔ c ∈ ['f', 'F'] :=
    toLower_eq_iff (by decide) (by decide) (by decide)
  refine or_congr_right ⟨?_, fun h => ?_⟩
  · rintro ⟨i, hi', n, hn', f, hf', rfl⟩
    rw [List.map_cons, List.map_cons, List.map_cons, List.map_nil, (hi i).2 hi', (hn n).2 hn',
      (hf f).2 hf']
  · obtain ⟨i, cs, rfl, hi', h⟩ := List.map_eq_cons_iff.1 h
    obtain ⟨n, cs, rfl, hn', h⟩ := List.map_eq_cons_iff.1 h
    obtain ⟨f, cs, rfl, hf', h⟩ := List.map_eq_cons_iff.1 h
    obtain rfl := List.map_eq_nil_iff.1 h
    exact ⟨i, (hi i).1 hi', n, (hn n).1 hn', f, (hf f).1 hf', rfl⟩

instance (cs : List Char) : Decidable (IsInfinite cs) := decidable_of_iff' _ isInfinite_iff

/-- Items begin with a digit. -/
theorem Itemized.not_isInfinite {items : List (Nat × Nat)} (h : Itemized cs items) (hne : cs ≠ []) :
    ¬ IsInfinite cs := by
  rintro (rfl | ⟨i, hi, n, -, f, -, rfl⟩)
  · exact hne rfl
  · have hdigit := h.isDigit_head rfl
    rw [List.mem_cons, List.mem_singleton] at hi
    rcases hi with rfl | rfl <;> exact absurd hdigit (by decide)

theorem read?_of_isInfinite {s : String} (h : IsInfinite (trimChars s.toList)) :
    read? s = some .zero :=
  if_pos (isInfinite_iff.1 h)

theorem read?_of_not_isInfinite {s : String} (h : ¬ IsInfinite (trimChars s.toList)) :
    read? s = (items? (trimChars s.toList)).map fun items => saturate (total items) :=
  if_neg fun hforms => h (isInfinite_iff.2 hforms)

theorem Itemized.ofNat {u rest : List Char} {n each : Nat} {items : List (Nat × Nat)}
    (h : Itemized rest items) (hn : n ≤ largestWide) (hunit : (u, each) ∈ units) :
    Itemized (Numeral.ofNat n ++ (u ++ rest)) ((n, each) :: items) := by
  have hvalue : Nat.ofDigitChars 10 (Numeral.ofNat n) 0 = n := Nat.ofDigitChars_ten_toDigits
  have hne : Numeral.ofNat n ≠ [] := Nat.toDigits_ne_nil
  have hitem := Itemized.cons hne (Numeric.isDigit_ofNat n) (hvalue.symm ▸ hn) hunit h
  rwa [hvalue] at hitem

/-- The reported form has hours, minutes and seconds. -/
theorem itemized_chars (h : d.secs ≤ largestSecs) :
    Itemized (chars d) [(d.secs / 3600, 3600000000000), (d.secs % 3600 / 60, 60000000000),
      (d.secs % 60, 1000000000)] := by
  have hwide : largestSecs ≤ largestWide := by decide
  have hs : (['s'], 1000000000) ∈ units := by decide
  have hm : (['m'], 60000000000) ∈ units := by decide
  have hh : (['h'], 3600000000000) ∈ units := by decide
  have hsecs := Itemized.nil.ofNat (n := d.secs % 60) (by omega) hs
  have hminutes := hsecs.ofNat (n := d.secs % 3600 / 60) (by omega) hm
  have hhours := hminutes.ofNat (n := d.secs / 3600) (by omega) hh
  simpa [chars] using hhours

/-- White space at the ends of a reported length is not part of it. -/
private theorem trimChars_chars (h : d.secs ≤ largestSecs) : trimChars (chars d) = chars d := by
  have hfirst : (chars d).dropWhile isBlank = chars d := by
    cases hchars : chars d with
    | nil => rfl
    | cons c rest =>
      refine List.dropWhile_cons_of_neg ?_
      have hdigit := (itemized_chars h).isDigit_head (congrArg List.head? hchars)
      rw [Char.isDigit, Bool.and_eq_true, decide_eq_true_eq, decide_eq_true_eq] at hdigit
      have hlow : 48 ≤ c.toNat := hdigit.1
      have hhigh : c.toNat ≤ 57 := hdigit.2
      simp only [isBlank, Bool.or_eq_true, Bool.and_eq_true, decide_eq_true_eq]
      omega
  have hlast : (chars d).reverse.dropWhile isBlank = (chars d).reverse := by
    rw [chars, List.reverse_append]
    rfl
  rw [trimChars, hfirst, hlast, List.reverse_reverse]

/-- A reported length is read as its whole seconds. -/
theorem read?_text (h : d.secs ≤ largestSecs) : read? (text d) = some (.ofSecs d.secs) := by
  have hitems := itemized_chars h
  have hsum : weight [(d.secs / 3600, 3600000000000), (d.secs % 3600 / 60, 60000000000),
      (d.secs % 60, 1000000000)] = d.secs * nanosPerSec := by
    rw [weight_cons, weight_cons, weight_cons, weight_nil, nanosPerSec]
    omega
  have hbound : weight [(d.secs / 3600, 3600000000000), (d.secs % 3600 / 60, 60000000000),
      (d.secs % 60, 1000000000)] < (largestSecs + 1) * nanosPerSec := by
    rw [hsum]
    exact Nat.mul_lt_mul_of_pos_right (Nat.lt_add_one_of_le h) (by decide)
  have hne : chars d ≠ [] := by simp [chars]
  have htrimmed : trimChars (text d).toList = chars d := by
    rw [text, String.toList_ofList, trimChars_chars h]
  have hforms : ¬ IsInfinite (trimChars (text d).toList) :=
    htrimmed ▸ hitems.not_isInfinite hne
  rw [read?_of_not_isInfinite hforms, htrimmed, items?_eq_some_iff.2 hitems, Option.map_some,
    saturate_total hbound, hsum, Span.ofSecs]

end Forms

/-- A length is read exactly if its text, without white space at both ends, is a form of the
infinite one, which counts as zero, or one item after another. The sum of the items is exact up to
the largest count of seconds, and a larger one has that many; cutting off each product and each sum
on the way at 128 bits comes to the same. What is reported of a length is read as its whole
seconds. -/
theorem read?_itemized :
    (∀ s : String,
      (IsInfinite (trimChars s.toList) → read? s = some .zero) ∧
      (¬ IsInfinite (trimChars s.toList) →
        ((read? s).isSome ↔ ∃ items, items ≠ [] ∧ Itemized (trimChars s.toList) items) ∧
        ∀ items, Itemized (trimChars s.toList) items → ∃ d, read? s = some d ∧
          (weight items < (largestSecs + 1) * nanosPerSec → d.nanos = weight items) ∧
          ((largestSecs + 1) * nanosPerSec ≤ weight items → d.secs = largestSecs))) ∧
    (∀ items, total items =
      items.foldl (fun sum x => min largestWide (sum + min largestWide (x.1 * x.2))) 0) ∧
    ∀ d : Span, d.secs ≤ largestSecs → read? (text d) = some (.ofSecs d.secs) := by
  refine ⟨fun s => ⟨read?_of_isInfinite, fun hforms => ?_⟩, total_eq_foldl, fun d => read?_text⟩
  rw [read?_of_not_isInfinite hforms]
  refine ⟨⟨fun h => ?_, ?_⟩, fun items hitems => ?_⟩
  · rw [Option.isSome_map, Option.isSome_iff_exists] at h
    obtain ⟨items, hitems⟩ := h
    refine ⟨items, ?_, items?_eq_some_iff.1 hitems⟩
    rintro rfl
    exact hforms (.inl (Itemized.eq_nil (items?_eq_some_iff.1 hitems)))
  · rintro ⟨items, -, hitems⟩
    rw [items?_eq_some_iff.2 hitems]
    rfl
  · rw [items?_eq_some_iff.2 hitems]
    exact ⟨_, rfl, fun h => congrArg Span.nanos (saturate_total h), saturate_total_of_le⟩

/-- An hour and a half between blanks, a count of seconds beyond the largest one, a unit that there
is not, and a second and a half as it is reported. -/
theorem read?_itemized_ninety_minutes :
    Itemized (trimChars " 1h30m\n".toList) [(1, 3600000000000), (30, 60000000000)] ∧
    read? " 1h30m\n" = some (.ofSecs 5400) ∧ read? "iNf" = some .zero ∧
    (∃ d, read? "20000000000000000000s" = some d ∧ d.secs = largestSecs) ∧
    read? "10x" = none ∧
    read? (text (.ofMillis 1500)) = some (.ofSecs 1) := by
  obtain ⟨hread, -, htext⟩ := read?_itemized
  have hh : (['h'], 3600000000000) ∈ units := by decide
  have hm : (['m'], 60000000000) ∈ units := by decide
  have hs : (['s'], 1000000000) ∈ units := by decide
  have hitems : Itemized (trimChars " 1h30m\n".toList) [(1, 3600000000000), (30, 60000000000)] :=
    (Itemized.nil.ofNat (n := 30) (by decide) hm).ofNat (n := 1) (by decide) hh
  have hlong : Itemized (trimChars "20000000000000000000s".toList)
      [(20000000000000000000, 1000000000)] :=
    Itemized.nil.ofNat (n := 20000000000000000000) (by decide) hs
  obtain ⟨d, hd, hshort, -⟩ :=
    ((hread " 1h30m\n").2 (hitems.not_isInfinite (by decide))).2 _ hitems
  obtain ⟨e, he, -, hlarge⟩ :=
    ((hread "20000000000000000000s").2 (hlong.not_isInfinite (by decide))).2 _ hlong
  refine ⟨hitems, ?_, (hread "iNf").1 (by decide), ⟨e, he, hlarge (by decide)⟩, ?_,
    htext _ (by decide)⟩
  · obtain rfl : d = .ofSecs 5400 := congrArg Span.mk (hshort (by decide))
    exact hd
  · have hforms : ¬ IsInfinite (trimChars "10x".toList) := by decide
    have hunread : items? (trimChars "10x".toList) = none := by
      rw [items?, if_neg (by decide)]
      rfl
    rw [← Option.not_isSome_iff_eq_none, ((hread "10x").2 hforms).1]
    rintro ⟨items, -, hitems⟩
    cases hunread.symm.trans (items?_eq_some_iff.2 hitems)

end SeriesReplica.Query.Duration
