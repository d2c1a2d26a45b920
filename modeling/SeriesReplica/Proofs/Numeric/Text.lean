import Mathlib.Data.List.TakeWhile
import SeriesReplica.Proofs.Numeric.Rounding

/-! The text of a number is read as the number. The shortest decimal reads back by the way it is
searched for, and where the search ends without one, the exact expansion does. -/
namespace SeriesReplica.Numeric
open Text

namespace Float64
variable {x : Float64} {d : Decimal}

/-- A ratio is rounded to the same magnitude under either sign. -/
theorem exists_ofRatio (num den : Nat) :
    ∃ bits ≤ infinityBits, ∀ negative, ofRatio negative num den = withSign negative bits := by
  simp only [ofRatio]
  split
  · exact ⟨0, Nat.zero_le _, fun _ => rfl⟩
  · exact ⟨_, Nat.min_le_left _ _, fun _ => rfl⟩

/-- A decimal is read as the same magnitude under either sign. -/
theorem exists_ofDecimal (digits : Nat) (exponent : Int) :
    ∃ bits ≤ infinityBits, ∀ negative,
      ofDecimal negative digits exponent = withSign negative bits := by
  simp only [ofDecimal]
  split
  · exact ⟨0, Nat.zero_le _, fun _ => rfl⟩
  split
  · exact ⟨infinityBits, le_rfl, fun _ => rfl⟩
  split
  · exact ⟨0, Nat.zero_le _, fun _ => rfl⟩
  split
  · exact exists_ofRatio _ _
  · exact exists_ofRatio _ _

/-- A decimal that reads back as the magnitude of a number is, with its sign, read as the
number. -/
theorem ofDecimal_of_readsBack (h : x.readsBack d = true) :
    ofDecimal x.isNegative d.digits d.exponent = x := by
  obtain ⟨bits, hbits, hsigned⟩ := exists_ofDecimal d.digits d.exponent
  rw [readsBack, hsigned, magnitudeBits_withSign _ hbits, decide_eq_true_eq] at h
  rw [hsigned, h, withSign_magnitudeBits]

section Exact
variable {n j k s m : Nat}

theorem two_pow_le_five_pow (h : n ≤ 2 * j) : 2 ^ n ≤ 5 ^ j :=
  calc 2 ^ n ≤ 2 ^ (2 * j) := Nat.pow_le_pow_right (by decide) h
    _ = 4 ^ j := Nat.pow_mul ..
    _ ≤ 5 ^ j := Nat.pow_le_pow_left (by decide) j

theorem two_pow_le_ten_pow (h : n ≤ 3 * j) : 2 ^ n ≤ 10 ^ j :=
  calc 2 ^ n ≤ 2 ^ (3 * j) := Nat.pow_le_pow_right (by decide) h
    _ = 8 ^ j := Nat.pow_mul ..
    _ ≤ 10 ^ j := Nat.pow_le_pow_left (by decide) j

/-- A number below a power of ten has no more digits than it has zeros. -/
theorem length_ofNat_le (hk : 0 < k) (h : n < 10 ^ k) : (Numeral.ofNat n).length ≤ k :=
  (Nat.length_toDigits_le_iff (by decide) hk).2 h

theorem lt_length_ofNat (h : 10 ^ k ≤ n) : k < (Numeral.ofNat n).length := by
  rcases Nat.eq_zero_or_pos k with rfl | hk
  · exact Nat.length_toDigits_pos
  · exact Nat.lt_of_not_le fun hle =>
      Nat.not_lt_of_le h ((Nat.length_toDigits_le_iff (by decide) hk).1 hle)

/-- A decimal that is not out of all bounds is read as its ratio. -/
theorem ofDecimal_eq (negative : Bool) {digits : Nat} {exponent : Int} (hdigits : 0 < digits)
    (hhigh : (Numeral.ofNat digits).length + exponent ≤ 400)
    (hlow : -400 ≤ (Numeral.ofNat digits).length + exponent) :
    ofDecimal negative digits exponent =
      if 0 ≤ exponent then ofRatio negative (digits * Nat.pow 10 exponent.toNat) 1
      else ofRatio negative digits (Nat.pow 10 (-exponent).toNat) := by
  simp only [ofDecimal]
  rw [if_neg hdigits.ne', if_neg (by omega), if_neg (by omega)]

theorem mul_two_pow_lt_ten_pow (hm : m < 2 ^ 53) (h : 53 + n ≤ 3 * j) : m * 2 ^ n < 10 ^ j :=
  calc m * 2 ^ n < 2 ^ 53 * 2 ^ n := Nat.mul_lt_mul_of_pos_right hm (Nat.two_pow_pos n)
    _ = 2 ^ (53 + n) := (Nat.pow_add ..).symm
    _ ≤ 10 ^ j := two_pow_le_ten_pow h

theorem mul_five_pow_lt_ten_pow (hm : m < 2 ^ 53) : m * 5 ^ k < 10 ^ (18 + k) :=
  calc m * 5 ^ k < 10 ^ 18 * 5 ^ k :=
        Nat.mul_lt_mul_of_pos_right (hm.trans_le (two_pow_le_ten_pow (by decide)))
          (Nat.pow_pos (by decide))
    _ ≤ 10 ^ 18 * 10 ^ k := Nat.mul_le_mul_left _ (Nat.pow_le_pow_left (by decide) k)
    _ = 10 ^ (18 + k) := (Nat.pow_add ..).symm

theorem ten_pow_le_mul_five_pow (hm : 0 < m) (h : k ≤ 3 * j) : 10 ^ (k - j) ≤ m * 5 ^ k := by
  refine Nat.le_trans ?_ (Nat.le_mul_of_pos_left _ hm)
  rcases Nat.le_total k j with hle | hle
  · rw [Nat.sub_eq_zero_of_le hle]
    exact Nat.pow_pos (by decide)
  · calc 10 ^ (k - j) = 2 ^ (k - j) * 5 ^ (k - j) := Nat.mul_pow 2 5 _
      _ ≤ 5 ^ j * 5 ^ (k - j) := Nat.mul_le_mul_right _ (two_pow_le_five_pow (by omega))
      _ = 5 ^ k := by rw [← Nat.pow_add, Nat.add_sub_cancel' hle]

/-- Fives make up for the powers of two that are missing. -/
theorem mul_five_pow_eq (m : Nat) (h : k + s = j) :
    m * 5 ^ k * 2 ^ j = 10 ^ k * (m * 2 ^ s) := by
  rw [show 10 ^ k = 2 ^ k * 5 ^ k from Nat.mul_pow 2 5 k, ← h, Nat.pow_add,
    Nat.mul_mul_mul_comm, Nat.mul_comm m, Nat.mul_mul_mul_comm (2 ^ k)]

theorem mul_two_pow_eq (m : Nat) (h : j ≤ s) : m * 2 ^ (s - j) * 2 ^ j = 1 * (m * 2 ^ s) := by
  rw [Nat.mul_assoc, ← Nat.pow_add, Nat.sub_add_cancel h, Nat.one_mul]

/-- A ratio that equals a finite number is rounded to its magnitude. -/
theorem ofRatio_eq (negative : Bool) (hfinite : x.isFinite = true) (hzero : x.isZero = false)
    {num den : Nat} (hden : 0 < den) (h : num * 2 ^ 1074 = den * (x.mantissa * 2 ^ x.scale)) :
    ofRatio negative num den = withSign negative x.magnitudeBits := by
  rw [ofRatio_exact negative hden (mantissa_pos hzero) x.mantissa_lt x.mantissa_normal
    (scale_le hfinite) h, x.scale_mantissa]

theorem magnitudeBits_le (hfinite : x.isFinite = true) : x.magnitudeBits ≤ infinityBits :=
  (of_decide_eq_true hfinite).le

/-- The exact expansion of a number reads back. -/
theorem readsBack_exact (hfinite : x.isFinite = true) (hzero : x.isZero = false) :
    x.readsBack x.exact = true := by
  have hmantissa := mantissa_pos hzero
  have hscale := scale_le hfinite
  have hread : ofDecimal false x.exact.digits x.exact.exponent =
      withSign false x.magnitudeBits := by
    rw [exact]
    split
    case isTrue hwhole =>
      dsimp only [Nat.pow_eq]
      have hlength := length_ofNat_le (k := 400) (by decide)
        (mul_two_pow_lt_ten_pow x.mantissa_lt (n := x.scale - 1074) (by omega))
      rw [ofDecimal_eq false (Nat.mul_pos hmantissa (Nat.two_pow_pos _)) (by omega) (by omega),
        if_pos le_rfl]
      refine ofRatio_eq false hfinite hzero Nat.one_pos ?_
      rw [Int.toNat_zero, show Nat.pow 10 0 = 1 from rfl, Nat.mul_one]
      exact mul_two_pow_eq x.mantissa hwhole
    case isFalse hfraction =>
      dsimp only [Nat.pow_eq]
      have hlength := length_ofNat_le (by omega)
        (mul_five_pow_lt_ten_pow x.mantissa_lt (k := 1074 - x.scale))
      have hdigits := lt_length_ofNat
        (ten_pow_le_mul_five_pow hmantissa (k := 1074 - x.scale) (j := 400) (by omega))
      rw [ofDecimal_eq false (Nat.mul_pos hmantissa (Nat.pow_pos (by decide))) (by omega)
        (by omega), if_neg (by omega)]
      refine ofRatio_eq false hfinite hzero (Nat.pow_pos (by decide)) ?_
      rw [show (-((x.scale : Int) - 1074)).toNat = 1074 - x.scale by omega]
      exact mul_five_pow_eq x.mantissa (by omega)
  rw [readsBack, hread, magnitudeBits_withSign _ (magnitudeBits_le hfinite), decide_eq_true_eq]

end Exact

section Shortest

theorem readsBack_of_onGrid {tie : TieRule} {exponent : Int}
    (h : x.onGrid tie exponent = some d) : x.readsBack d = true ∧ d.digits ≠ 0 := by
  simp only [onGrid] at h
  generalize (if 0 ≤ exponent then (x.ratio.1, x.ratio.2 * Nat.pow 10 exponent.toNat)
    else (x.ratio.1 * Nat.pow 10 (-exponent).toNat, x.ratio.2)) = q at h
  split at h
  case isTrue hlow =>
    simp only [Bool.and_eq_true, decide_eq_true_eq] at hlow
    obtain rfl := Option.some.inj h
    exact ⟨hlow.1.2, hlow.1.1⟩
  case isFalse =>
    split at h
    case isTrue hhigh =>
      obtain rfl := Option.some.inj h
      exact ⟨hhigh, Nat.succ_ne_zero _⟩
    case isFalse => cases h

theorem exact_digits_ne_zero (hzero : x.isZero = false) : x.exact.digits ≠ 0 := by
  have hmantissa := mantissa_pos hzero
  rw [exact]
  split
  · exact (Nat.mul_pos hmantissa (Nat.two_pow_pos _)).ne'
  · exact (Nat.mul_pos hmantissa (Nat.pow_pos (by decide))).ne'

/-- Whatever grid the search ends on, what it finds reads back. -/
theorem readsBack_search (tie : TieRule) (hfinite : x.isFinite = true) (hzero : x.isZero = false)
    (exponent : Int) (steps : Nat) :
    x.readsBack (search tie x exponent steps) = true ∧
      (search tie x exponent steps).digits ≠ 0 := by
  induction steps generalizing exponent with
  | zero => exact ⟨readsBack_exact hfinite hzero, exact_digits_ne_zero hzero⟩
  | succ steps ih =>
    rw [search]
    split
    case h_1 d hgrid => exact readsBack_of_onGrid hgrid
    case h_2 => exact ih (exponent - 1)

/-- The shortest decimal of a finite number reads back. -/
theorem readsBack_shortest (tie : TieRule) (hfinite : x.isFinite = true) :
    x.readsBack (x.shortest tie) = true ∧
      ((x.shortest tie).digits = 0 → (x.shortest tie).exponent = 0) := by
  rw [shortest]
  cases hzero : x.isZero with
  | true =>
    refine ⟨?_, fun _ => rfl⟩
    rw [if_pos rfl, readsBack]
    simp only [isZero, decide_eq_true_eq] at hzero
    rw [hzero, show ofDecimal false 0 0 = withSign false 0 from rfl,
      magnitudeBits_withSign false (Nat.zero_le _), decide_eq_true rfl]
  | false =>
    rw [if_neg Bool.false_ne_true]
    obtain ⟨hback, hdigits⟩ := readsBack_search tie hfinite hzero
      (((Nat.log2 x.mantissa : Int) + x.scale - 1074) * 30103 / 100000 + 2) 24
    exact ⟨hback, fun h => absurd h hdigits⟩

end Shortest

end Float64

section Digits

/-- The digits of a number are digits. -/
theorem isDigit_ofNat (n : Nat) : ∀ c ∈ Numeral.ofNat n, c.isDigit = true :=
  fun _ hc => Nat.isDigit_of_mem_toDigits (by decide) (by decide) hc

theorem exists_ofNat_eq_cons (n : Nat) :
    ∃ c cs, Numeral.ofNat n = c :: cs ∧ c.isDigit = true := by
  obtain ⟨c, cs, hcons⟩ := List.exists_cons_of_ne_nil (l := Numeral.ofNat n) Nat.toDigits_ne_nil
  exact ⟨c, cs, hcons, isDigit_ofNat n c (hcons ▸ List.mem_cons_self)⟩

theorem cons_ne_of_isDigit {c d : Char} (hc : c.isDigit = true) (hd : d.isDigit = false)
    (cs ds : List Char) : c :: cs ≠ d :: ds := by
  intro heq
  rw [(List.cons.inj heq).1, hd] at hc
  cases hc

theorem readNat?_digits {cs : List Char} (hne : cs ≠ []) (hcs : ∀ c ∈ cs, c.isDigit = true) :
    Numeral.readNat? cs = some (Nat.ofDigitChars 10 cs 0) :=
  if_pos ⟨hne, List.all_eq_true.2 hcs⟩

/-- The signed digits of an integer are read as the integer. -/
theorem readInt?_ofInt (i : Int) : Numeral.readInt? (Numeral.ofInt i) = some i := by
  rw [Numeral.ofInt]
  split
  case isTrue hneg =>
    have habs : -(i.natAbs : Int) = i := by omega
    rw [Numeral.readInt?, Numeral.readNat?_ofNat]
    exact congrArg some habs
  case isFalse hpos =>
    obtain ⟨c, cs, hcons, hc⟩ := exists_ofNat_eq_cons i.natAbs
    rw [hcons, Numeral.readInt?, ← hcons, Numeral.readNat?_ofNat, Option.map_some]
    · exact congrArg some (by simp; omega)
    · exact fun rest => cons_ne_of_isDigit hc rfl cs rest
    · exact fun rest => cons_ne_of_isDigit hc rfl cs rest

theorem ofInt_injective {i j : Int} (h : Numeral.ofInt i = Numeral.ofInt j) : i = j := by
  have := congrArg Numeral.readInt? h
  simpa [readInt?_ofInt] using this

/-- The digits of an integer, after its sign. -/
theorem isDigit_ofInt (i : Int) : ∀ c ∈ Numeral.ofInt i, c.isDigit = true ∨ c = '-' := by
  intro c hc
  rw [Numeral.ofInt] at hc
  split at hc
  · exact (List.mem_cons.1 hc).symm.imp_left (isDigit_ofNat _ c)
  · exact .inl (isDigit_ofNat _ c hc)

theorem not_mem_ofNat {c : Char} (hc : c.isDigit = false) (n : Nat) : c ∉ Numeral.ofNat n :=
  fun hmem => nomatch hc.symm.trans (isDigit_ofNat n c hmem)

theorem not_mem_ofInt {c : Char} (hc : c.isDigit = false) (hsign : c ≠ '-') (i : Int) :
    c ∉ Numeral.ofInt i :=
  fun hmem => (isDigit_ofInt i c hmem).elim (fun htrue => nomatch hc.symm.trans htrue) hsign

end Digits

namespace Decimal

/-- A positional form is digits, or digits on both sides of a point. -/
theorem positional_cases (d : Decimal) :
    (0 ≤ d.exponent ∧ d.positional ≠ [] ∧ (∀ c ∈ d.positional, c.isDigit = true) ∧
      Nat.ofDigitChars 10 d.positional 0 = 10 ^ d.exponent.toNat * d.digits) ∨
    ∃ whole fraction, d.positional = whole ++ '.' :: fraction ∧ whole ≠ [] ∧
      (∀ c ∈ whole, c.isDigit = true) ∧ (∀ c ∈ fraction, c.isDigit = true) ∧
      Nat.ofDigitChars 10 (whole ++ fraction) 0 = d.digits ∧
      -(fraction.length : Int) = d.exponent := by
  have hvalue : Nat.ofDigitChars 10 (Numeral.ofNat d.digits) 0 = d.digits :=
    Nat.ofDigitChars_ten_toDigits
  have hne : Numeral.ofNat d.digits ≠ [] := Nat.toDigits_ne_nil
  have hdigits := isDigit_ofNat d.digits
  have hzeros : ∀ n, ∀ c ∈ List.replicate n '0', c.isDigit = true :=
    fun n c hc => List.eq_of_mem_replicate hc ▸ rfl
  rw [Decimal.positional]
  split
  case isTrue hwhole =>
    refine .inl ⟨hwhole, List.append_ne_nil_of_left_ne_nil hne _, fun c hc =>
      (List.mem_append.1 hc).elim (hdigits c) (hzeros _ c), ?_⟩
    rw [Nat.ofDigitChars_append, hvalue, Nat.ofDigitChars_replicate_zero]
  case isFalse hfraction =>
    set places := (-d.exponent).toNat with hplaces
    set ds := List.replicate (places + 1 - (Numeral.ofNat d.digits).length) '0' ++
      Numeral.ofNat d.digits with hds
    have hlength : places + 1 ≤ ds.length := by
      rw [hds, List.length_append, List.length_replicate]
      omega
    have hall : ∀ c ∈ ds, c.isDigit = true := fun c hc =>
      (List.mem_append.1 hc).elim (hzeros _ c) (hdigits c)
    refine .inr ⟨ds.take (ds.length - places), ds.drop (ds.length - places), rfl, fun hnil => ?_,
      fun c hc => hall c (List.mem_of_mem_take hc), fun c hc => hall c (List.mem_of_mem_drop hc),
      ?_, ?_⟩
    · have := congrArg List.length hnil
      rw [List.length_take, List.length_nil] at this
      omega
    · rw [List.take_append_drop, hds, Nat.ofDigitChars_append, Nat.ofDigitChars_replicate_zero,
        Nat.mul_zero, hvalue]
    · rw [List.length_drop]
      omega

/-- A positional form begins with a digit. -/
theorem positional_eq_cons (d : Decimal) :
    ∃ c cs, d.positional = c :: cs ∧ c.isDigit = true := by
  rcases positional_cases d with ⟨-, hne, hdigits, -⟩ | ⟨whole, fraction, hform, hne, hwhole, -⟩
  · obtain ⟨c, cs, hcs⟩ := List.exists_cons_of_ne_nil hne
    exact ⟨c, cs, hcs, hdigits c (hcs ▸ List.mem_cons_self)⟩
  · obtain ⟨c, cs, rfl⟩ := List.exists_cons_of_ne_nil hne
    exact ⟨c, cs ++ '.' :: fraction, hform, hwhole c List.mem_cons_self⟩

theorem positional_chars (d : Decimal) : ∀ c ∈ d.positional, c.isDigit = true ∨ c = '.' := by
  rcases positional_cases d with ⟨-, -, hdigits, -⟩ |
    ⟨whole, fraction, hform, -, hwhole, hfraction, -⟩
  · exact fun c hc => .inl (hdigits c hc)
  · intro c hc
    rw [hform, List.mem_append, List.mem_cons] at hc
    rcases hc with hc | rfl | hc
    · exact .inl (hwhole c hc)
    · exact .inr rfl
    · exact .inl (hfraction c hc)

end Decimal

namespace Float64
variable {x : Float64} {d : Decimal}

section Reading
variable {whole fraction : List Char}

/-- Digits are read as a whole number. -/
theorem readUnsigned?_whole (negative : Bool) (hne : whole ≠ [])
    (hwhole : ∀ c ∈ whole, c.isDigit = true) :
    readUnsigned? negative whole = some (ofDecimal negative (Nat.ofDigitChars 10 whole 0) 0) := by
  have htake : whole.takeWhile Char.isDigit = whole := List.takeWhile_eq_self_iff.2 hwhole
  have hdrop : whole.dropWhile Char.isDigit = [] := List.dropWhile_eq_nil_iff.2 hwhole
  simp [readUnsigned?, htake, hdrop, readNat?_digits hne hwhole]

/-- Digits on both sides of a point are read as a decimal. -/
theorem readUnsigned?_point (negative : Bool) (hne : whole ≠ [])
    (hwhole : ∀ c ∈ whole, c.isDigit = true) (hfraction : ∀ c ∈ fraction, c.isDigit = true) :
    readUnsigned? negative (whole ++ '.' :: fraction) =
      some (ofDecimal negative (Nat.ofDigitChars 10 (whole ++ fraction) 0)
        (-(fraction.length : Int))) := by
  have htake : (whole ++ '.' :: fraction).takeWhile Char.isDigit = whole := by
    rw [List.takeWhile_append_of_pos hwhole]
    simp [show Char.isDigit '.' = false by decide]
  have hdrop : (whole ++ '.' :: fraction).dropWhile Char.isDigit = '.' :: fraction := by
    rw [List.dropWhile_append_of_pos hwhole]
    simp [show Char.isDigit '.' = false by decide]
  have htake' : fraction.takeWhile Char.isDigit = fraction :=
    List.takeWhile_eq_self_iff.2 hfraction
  have hdrop' : fraction.dropWhile Char.isDigit = [] := List.dropWhile_eq_nil_iff.2 hfraction
  have hdigits : Numeral.readNat? (whole ++ fraction) =
      some (Nat.ofDigitChars 10 (whole ++ fraction) 0) :=
    readNat?_digits (List.append_ne_nil_of_left_ne_nil hne _) fun c hc =>
      (List.mem_append.1 hc).elim (hwhole c) (hfraction c)
  simp [readUnsigned?, htake, hdrop, htake', hdrop', hdigits]

/-- Zeros behind a number add to its digits. -/
theorem length_ofNat_mul_pow {n : Nat} (hn : 0 < n) (k : Nat) :
    (Numeral.ofNat (n * 10 ^ k)).length = (Numeral.ofNat n).length + k := by
  have hlength : 0 < (Numeral.ofNat n).length := Nat.length_toDigits_pos
  have hbelow : n < 10 ^ (Numeral.ofNat n).length :=
    (Nat.length_toDigits_le_iff (by decide) hlength).1 le_rfl
  have habove : 10 ^ ((Numeral.ofNat n).length - 1) ≤ n := by
    rcases Nat.eq_zero_or_pos ((Numeral.ofNat n).length - 1) with hone | hmore
    · rw [hone]
      exact hn
    · refine Nat.le_of_not_lt fun hlt => ?_
      have := length_ofNat_le hmore hlt
      omega
  refine Nat.le_antisymm (length_ofNat_le (by omega) ?_) ?_
  · rw [Nat.pow_add]
    exact Nat.mul_lt_mul_of_pos_right hbelow (Nat.pow_pos (by decide))
  · have hmore : 10 ^ ((Numeral.ofNat n).length - 1 + k) ≤ n * 10 ^ k := by
      rw [Nat.pow_add]
      exact Nat.mul_le_mul_right _ habove
    have := lt_length_ofNat hmore
    omega

/-- Zeros behind the digits stand for an exponent. -/
theorem ofDecimal_mul_pow (negative : Bool) {digits : Nat} (hdigits : 0 < digits) (k : Nat) :
    ofDecimal negative (10 ^ k * digits) 0 = ofDecimal negative digits k := by
  rw [Nat.mul_comm]
  simp only [ofDecimal, length_ofNat_mul_pow hdigits k]
  rw [if_neg (Nat.mul_pos hdigits (Nat.pow_pos (by decide))).ne', if_neg hdigits.ne']
  simp

/-- The positional form of a decimal is read as the decimal. -/
theorem readUnsigned?_positional (negative : Bool) (h : d.digits = 0 → d.exponent = 0) :
    readUnsigned? negative d.positional = some (ofDecimal negative d.digits d.exponent) := by
  rcases d.positional_cases with ⟨hpos, hne, hdigits, hvalue⟩ |
    ⟨whole, fraction, hform, hne, hwhole, hfraction, hvalue, hplaces⟩
  · rw [readUnsigned?_whole negative hne hdigits, hvalue]
    rcases Nat.eq_zero_or_pos d.digits with hzero | hdigits
    · rw [hzero, h hzero]
      rfl
    · rw [ofDecimal_mul_pow negative hdigits, Int.toNat_of_nonneg hpos]
  · rw [hform, readUnsigned?_point negative hne hwhole hfraction, hvalue, hplaces]

theorem toLower_digit {c : Char} (hc : c.isDigit = true) : c.toLower = c := by
  simp only [Char.isDigit, Bool.and_eq_true, decide_eq_true_eq] at hc
  refine dif_neg ?_
  rintro ⟨hlow, -⟩
  have := UInt32.le_trans hlow hc.2
  revert this
  decide

/-- What begins with a digit is none of the names of numbers. -/
theorem readMagnitude?_digit (negative : Bool) {c : Char} (cs : List Char)
    (hc : c.isDigit = true) :
    readMagnitude? negative (c :: cs) = readUnsigned? negative (c :: cs) := by
  have hlower : c.toLower.isDigit = true := by
    rw [toLower_digit hc]
    exact hc
  have hother : ∀ (e : Char) (es : List Char), e.isDigit = false →
      String.ofList ((c :: cs).map Char.toLower) ≠ String.ofList (e :: es) := by
    intro e es he heq
    have hlist := String.ofList_injective heq
    rw [List.map_cons] at hlist
    rw [(List.cons.inj hlist).1, he] at hlower
    cases hlower
  rw [readMagnitude?]
  split
  case h_1 h => exact absurd h (hother 'i' ['n', 'f'] rfl)
  case h_2 h => exact absurd h (hother 'i' ['n', 'f', 'i', 'n', 'i', 't', 'y'] rfl)
  case h_3 h => exact absurd h (hother 'n' ['a', 'n'] rfl)
  case h_4 => rfl

/-- What begins neither with a sign nor with a name is read without a sign. -/
theorem read?_digit {c : Char} (cs : List Char) (hc : c.isDigit = true) :
    read? (c :: cs) = readMagnitude? false (c :: cs) := by
  rw [read?]
  · exact fun rest => cons_ne_of_isDigit hc rfl cs rest
  · exact fun rest => cons_ne_of_isDigit hc rfl cs rest

/-- The text of a finite number is its sign and the positional form of its shortest decimal. -/
theorem read?_finite (hfinite : x.isFinite = true) :
    read? (if x.isNegative then '-' :: (x.shortest .upper).positional
      else (x.shortest .upper).positional) = some x := by
  obtain ⟨hback, hzero⟩ := readsBack_shortest .upper hfinite
  have hread := ofDecimal_of_readsBack hback
  obtain ⟨c, cs, hcons, hc⟩ := (x.shortest .upper).positional_eq_cons
  have hmagnitude : readMagnitude? x.isNegative (x.shortest .upper).positional = some x := by
    rw [hcons, readMagnitude?_digit _ cs hc, ← hcons, readUnsigned?_positional _ hzero, hread]
  cases hsign : x.isNegative with
  | true =>
    rw [hsign] at hmagnitude
    exact hmagnitude
  | false =>
    rw [if_neg Bool.false_ne_true, hcons, read?_digit cs hc, ← hcons, ← hsign, hmagnitude]

/-- The text of a number is read as the number. What is not a number is read as such. -/
theorem read?_chars (x : Float64) : read? x.chars = some (if x.isNaN then nan else x) := by
  rw [chars]
  cases hnan : x.isNaN with
  | true => rfl
  | false =>
    cases hinfinite : x.isInfinite with
    | true =>
      have hx : infinity x.isNegative = x := by
        rw [infinity, ← of_decide_eq_true hinfinite, withSign_magnitudeBits]
      rw [if_neg Bool.false_ne_true, if_neg Bool.false_ne_true]
      conv_rhs => rw [← hx]
      cases x.isNegative <;> rfl
    | false =>
      rw [if_neg Bool.false_ne_true, if_neg Bool.false_ne_true]
      refine read?_finite (decide_eq_true ?_)
      have hnan := of_decide_eq_false hnan
      have hinfinite := of_decide_eq_false hinfinite
      omega

end Reading

end Float64
end SeriesReplica.Numeric
