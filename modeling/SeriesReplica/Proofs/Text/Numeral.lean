import SeriesReplica.Text.Numeral

/-! Signed numerals: the reader accepts an optional sign with at least one digit after it, and a
reader of fixed width those of them whose value fits. -/
namespace SeriesReplica.Text.Numeral

/-- A text is a numeral with a value. -/
inductive Denotes : List Char → Int → Prop
  | plain {ds : List Char} (nonempty : ds ≠ []) (digits : ∀ c ∈ ds, c.isDigit = true) :
    Denotes ds (Nat.ofDigitChars 10 ds 0)
  | plus {ds : List Char} (nonempty : ds ≠ []) (digits : ∀ c ∈ ds, c.isDigit = true) :
    Denotes ('+' :: ds) (Nat.ofDigitChars 10 ds 0)
  | minus {ds : List Char} (nonempty : ds ≠ []) (digits : ∀ c ∈ ds, c.isDigit = true) :
    Denotes ('-' :: ds) (-(Nat.ofDigitChars 10 ds 0 : Nat))

variable {cs : List Char}

theorem Denotes.ne_nil {i : Int} (h : Denotes cs i) : cs ≠ [] := by
  cases h with
  | plain nonempty => exact nonempty
  | plus | minus => exact List.cons_ne_nil _ _

/-- Behind its first character a numeral has digits only. -/
theorem Denotes.isDigit_of_mem_tail {i : Int} (h : Denotes cs i) {c : Char} (hc : c ∈ cs.tail) :
    c.isDigit = true := by
  cases h with
  | plain _ digits => exact digits c (List.mem_of_mem_tail hc)
  | plus _ digits | minus _ digits => exact digits c hc

/-- An integer is narrowed to the width of a machine word if it is the value of one. -/
theorem narrow_eq_some_iff {i : Int} {n : Int64} :
    (if Int64.minValue.toInt ≤ i ∧ i ≤ Int64.maxValue.toInt then some (Int64.ofInt i) else none) =
      some n ↔ i = n.toInt := by
  rw [Option.ite_none_right_eq_some]
  constructor
  · rintro ⟨⟨hlo, hhi⟩, hn⟩
    rw [← Option.some.inj hn, Int64.toInt_ofInt_of_le hlo (Int.lt_add_one_of_le hhi)]
  · rintro rfl
    exact ⟨⟨n.minValue_le_toInt, n.toInt_le⟩, by rw [Int64.ofInt_toInt]⟩

theorem readNat?_eq_some_iff {n : Nat} : readNat? cs = some n ↔
    cs ≠ [] ∧ (∀ c ∈ cs, c.isDigit = true) ∧ Nat.ofDigitChars 10 cs 0 = n := by
  rw [readNat?, Option.ite_none_right_eq_some, List.all_eq_true, and_assoc, Option.some.injEq]

theorem readInt?_eq_some_iff {i : Int} : readInt? cs = some i ↔ Denotes cs i := by
  constructor
  · intro h
    rw [readInt?.eq_def] at h
    split at h
    · obtain ⟨j, hj, rfl⟩ := Option.map_eq_some_iff.1 h
      obtain ⟨n, hn, hnj⟩ := Option.bind_eq_some_iff.1 hj
      obtain rfl := Option.some.inj hnj
      obtain ⟨hne, hdigits, rfl⟩ := readNat?_eq_some_iff.1 hn
      exact .minus hne hdigits
    · obtain ⟨n, hn, rfl⟩ := Option.map_eq_some_iff.1 h
      obtain ⟨hne, hdigits, rfl⟩ := readNat?_eq_some_iff.1 hn
      exact .plus hne hdigits
    · obtain ⟨n, hn, rfl⟩ := Option.map_eq_some_iff.1 h
      obtain ⟨hne, hdigits, rfl⟩ := readNat?_eq_some_iff.1 hn
      exact .plain hne hdigits
  · intro h
    cases h with
    | plus hne hdigits => rw [readInt?, readNat?_eq_some_iff.2 ⟨hne, hdigits, rfl⟩]; rfl
    | minus hne hdigits => rw [readInt?, readNat?_eq_some_iff.2 ⟨hne, hdigits, rfl⟩]; rfl
    | plain hne hdigits =>
      obtain ⟨c, ds, rfl⟩ := List.exists_cons_of_ne_nil hne
      -- No sign is a digit.
      have hsign : c ≠ '-' ∧ c ≠ '+' := by
        have hc := hdigits c List.mem_cons_self
        constructor <;> (rintro rfl; cases hc)
      rw [readInt?, readNat?_eq_some_iff.2 ⟨hne, hdigits, rfl⟩]
      · rfl
      · rintro ds' ⟨⟩
        exact hsign.1 rfl
      · rintro ds' ⟨⟩
        exact hsign.2 rfl

theorem readInt64?_eq_some_iff {n : Int64} : readInt64? cs = some n ↔ Denotes cs n.toInt := by
  rw [readInt64?, Option.bind_eq_some_iff]
  simp only [narrow_eq_some_iff, exists_eq_right, readInt?_eq_some_iff]

end SeriesReplica.Text.Numeral
