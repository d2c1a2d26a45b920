import SeriesReplica.Time.Instant

/-! Counting instants in nanoseconds since 1970. Within 64 bits the count determines the
instant and keeps its order, so bounds given as counts and bounds given as instants agree. -/
namespace SeriesReplica.Time.Instant

theorem not_le_iff {a b : Instant} : ¬ a ≤ b ↔ b < a := by
  rw [le_def, lt_def]
  omega

theorem le_refl (t : Instant) : t ≤ t := .inr ⟨rfl, Nat.le_refl _⟩

theorem le_trans {a b c : Instant} (h : a ≤ b) (h' : b ≤ c) : a ≤ c := by
  rw [le_def] at h h' ⊢
  omega

/-- The count of an instant made from a count. -/
@[simp] theorem totalNanos_ofEpochNanos (n : Int64) : (ofEpochNanos n).totalNanos = n.toInt := by
  simp only [totalNanos, ofEpochNanos, nanosPerSec]
  omega

/-- Saturation keeps a count within 64 bits. -/
@[simp] theorem epochNanos_ofEpochNanos (n : Int64) : (ofEpochNanos n).epochNanos = n := by
  have hlo := n.minValue_le_toInt
  have hhi := n.toInt_le
  rw [epochNanos, totalNanos_ofEpochNanos, Int.min_eq_right hhi, Int.max_eq_right hlo,
    Int64.ofInt_toInt]

theorem toInt_epochNanos (t : Instant) :
    t.epochNanos.toInt = max Int64.minValue.toInt (min Int64.maxValue.toInt t.totalNanos) := by
  have hmin : Int64.minValue.toInt < 2 ^ 63 := by decide
  have hmax : Int64.maxValue.toInt < 2 ^ 63 := by decide
  exact Int64.toInt_ofInt_of_le (Int.le_max_left _ _) (by omega)

/-- The saturated count keeps the order of the count. -/
theorem toInt_epochNanos_le {a b : Instant} (h : a.totalNanos ≤ b.totalNanos) :
    a.epochNanos.toInt ≤ b.epochNanos.toInt := by
  rw [toInt_epochNanos, toInt_epochNanos]
  omega

theorem ofEpochNanos_le_iff {a b : Int64} :
    ofEpochNanos a ≤ ofEpochNanos b ↔ a.toInt ≤ b.toInt := by
  rw [le_def]
  simp only [ofEpochNanos, nanosPerSec]
  omega

theorem ofEpochNanos_lt_iff {a b : Int64} :
    ofEpochNanos a < ofEpochNanos b ↔ a.toInt < b.toInt := by
  rw [← not_le_iff, ofEpochNanos_le_iff, Int.not_le]

/-- No instant of the calendar has a lower count than its first second. -/
theorem le_totalNanos (t : Instant) : minSecs * nanosPerSec ≤ t.totalNanos := by
  have hlo : -8334601228800 ≤ t.secs := t.valid.1
  simp only [totalNanos, minSecs, nanosPerSec]
  omega

/-- A count that is not past the calendar is that of an instant, or lies before the calendar. -/
private theorem ofUnix?_total {total : Int} (h : total < (maxSecs + 1) * nanosPerSec) :
    (∃ u, ofUnix? (total / nanosPerSec) (total % nanosPerSec).toNat = some u ∧
        u.totalNanos = total) ∨
      (ofUnix? (total / nanosPerSec) (total % nanosPerSec).toNat = none ∧
        total < minSecs * nanosPerSec) := by
  simp only [maxSecs, nanosPerSec] at h
  by_cases hlo : minSecs * nanosPerSec ≤ total
  · refine .inl ⟨_, dif_pos ?_, ?_⟩
    · simp only [minSecs, maxSecs, nanosPerSec] at hlo ⊢
      omega
    · simp only [totalNanos, nanosPerSec]
      omega
  · refine .inr ⟨dif_neg ?_, Int.not_le.1 hlo⟩
    simp only [minSecs, maxSecs, nanosPerSec] at hlo ⊢
    omega

/-- Going back takes the length off the count, unless that leads out of the calendar. -/
theorem earlier?_spec (t : Instant) (d : Span) :
    (∃ u, t.earlier? d = some u ∧ u.totalNanos = t.totalNanos - d.nanos) ∨
      (t.earlier? d = none ∧ t.totalNanos - d.nanos < minSecs * nanosPerSec) := by
  have hhi : t.secs ≤ 8210266876799 := t.valid.2.1
  have hnanos : t.nanos < 2000000000 := t.valid.2.2
  have hlo : -8334601228800 ≤ t.secs := t.valid.1
  rw [earlier?]
  split
  case isTrue hleap =>
    simp only [Span.secs, nanosPerSec] at hleap
    refine .inl ⟨_, dif_pos ?_, ?_⟩
    · simp only [Span.subsec, minSecs, maxSecs, nanosPerSec]
      omega
    · simp only [totalNanos, Span.subsec, nanosPerSec]
      omega
  case isFalse hplain =>
    simp only [Span.secs, nanosPerSec] at hplain
    have htotal : (if t.nanos ≥ nanosPerSec then t.secs + 1 else t.secs) * nanosPerSec +
        (t.nanos % nanosPerSec : Nat) - d.nanos = t.totalNanos - d.nanos := by
      simp only [totalNanos, nanosPerSec]
      split <;> omega
    simp only [htotal]
    refine ofUnix?_total ?_
    simp only [totalNanos, maxSecs, nanosPerSec]
    omega

private theorem earlier?_order {t u : Instant} {d : Span} (h : t.earlier? d = some u) :
    u ≤ t ∧ (d.nanos ≠ 0 → u < t) := by
  have parts : ∀ {secs : Int} {nanos : Nat}, ofUnix? secs nanos = some u →
      u.secs = secs ∧ u.nanos = nanos := by
    intro secs nanos hu
    rw [ofUnix?] at hu
    split at hu
    · obtain rfl := Option.some.inj hu
      exact ⟨rfl, rfl⟩
    · cases hu
  rw [le_def, lt_def]
  rw [earlier?] at h
  split at h
  case isTrue hleap =>
    obtain ⟨hsecs, hnanos⟩ := parts h
    simp only [Span.secs, Span.subsec, nanosPerSec] at hleap hnanos
    omega
  case isFalse hplain =>
    obtain ⟨hsecs, hnanos⟩ := parts h
    simp only [Span.secs, nanosPerSec] at hplain hsecs hnanos
    split at hsecs <;> omega

/-- Going back does not lead forward, -/
theorem earlier?_le {t u : Instant} {d : Span} (h : t.earlier? d = some u) : u ≤ t :=
  (earlier?_order h).1

/-- and it leads to an earlier instant, also from within a leap second. -/
theorem earlier?_lt {t u : Instant} {d : Span} (hd : d.nanos ≠ 0) (h : t.earlier? d = some u) :
    u < t :=
  (earlier?_order h).2 hd

theorem totalNanos_of_earlier? {t u : Instant} {d : Span} (h : t.earlier? d = some u) :
    u.totalNanos = t.totalNanos - d.nanos := by
  rcases t.earlier?_spec d with ⟨v, hv, htotal⟩ | ⟨hnone, -⟩
  · obtain rfl := Option.some.inj (h.symm.trans hv)
    exact htotal
  · cases h.symm.trans hnone

/-- From 1970 on, the calendar goes back as far as it has gone forward. -/
theorem isSome_earlier? {t now : Instant} {d : Span} (hepoch : 0 ≤ t.totalNanos)
    (hpassed : t.totalNanos + d.nanos ≤ now.totalNanos) : (t.earlier? d).isSome := by
  have hlast : now.secs ≤ 8210266876799 ∧ now.nanos < 2000000000 := now.valid.2
  have hend : now.totalNanos = now.secs * 1000000000 + now.nanos := rfl
  rcases t.earlier?_spec d with ⟨u, hu, -⟩ | ⟨-, hlt⟩
  · rw [hu]
    rfl
  · simp only [minSecs, nanosPerSec] at hlt
    omega

/-- Going back as far as the calendar reaches takes at most the length off the saturated count. -/
theorem sub_le_toInt_earlier (t : Instant) (d : Span) :
    t.epochNanos.toInt - d.nanos ≤ ((t.earlier? d).getD earliest).epochNanos.toInt := by
  rcases t.earlier?_spec d with ⟨u, hu, htotal⟩ | ⟨hnone, hlt⟩
  · rw [hu, Option.getD_some, toInt_epochNanos, toInt_epochNanos, htotal]
    omega
  · have hmin : earliest.epochNanos.toInt = Int64.minValue.toInt := by decide
    have hcalendar : minSecs * nanosPerSec ≤ Int64.minValue.toInt := by decide
    rw [hnone, Option.getD_none, hmin, toInt_epochNanos]
    omega

/-- A later instant is in the same leap second, or that of a count, or past the calendar. -/
private theorem later_cases (t : Instant) (d : Span) :
    (nanosPerSec ≤ t.nanos ∧ t.nanos + d.nanos < 2 * nanosPerSec ∧
      (t.later d).secs = t.secs ∧ (t.later d).nanos = t.nanos + d.nanos) ∨
    (t.nanos < nanosPerSec ∨ 2 * nanosPerSec ≤ t.nanos + d.nanos) ∧
      ((t.later d).totalNanos = t.secs * nanosPerSec + (t.nanos % nanosPerSec : Nat) + d.nanos ∧
        (t.later d).nanos < nanosPerSec ∨
      (maxSecs + 1) * nanosPerSec ≤ t.secs * nanosPerSec + (t.nanos % nanosPerSec : Nat) + d.nanos ∧
        (t.later d).secs = maxSecs ∧ (t.later d).nanos = nanosPerSec - 1) := by
  have hvalid := t.valid
  rw [later, later?]
  split
  case isTrue hleap =>
    rw [ofUnix?, dif_pos ⟨hvalid.1, hvalid.2.1, hleap.2⟩]
    exact .inl ⟨hleap.1, hleap.2, rfl, rfl⟩
  case isFalse hleap =>
    refine .inr ⟨by omega, ?_⟩
    dsimp only
    simp only [minSecs, maxSecs, nanosPerSec] at hvalid ⊢
    by_cases hlate : t.secs * 1000000000 + (t.nanos % 1000000000 : Nat) + d.nanos <
      (8210266876799 + 1) * 1000000000
    · rw [ofUnix?, dif_pos (by simp only [minSecs, maxSecs, nanosPerSec]; omega)]
      refine .inl ⟨?_, ?_⟩
      · simp only [Option.getD_some, totalNanos, nanosPerSec]
        omega
      · simp only [Option.getD_some]
        omega
    · rw [ofUnix?, dif_neg (by simp only [minSecs, maxSecs, nanosPerSec]; omega)]
      exact .inr ⟨by omega, rfl, rfl⟩

/-- Time that passes does not lead back, unless it begins in a leap second at the very end of the
calendar. -/
theorem later_mono {t : Instant} (ht : t ≤ latest) {a b : Span} (h : a ≤ b) :
    t.later a ≤ t.later b := by
  have hab : a.nanos ≤ b.nanos := h
  have hfits := (t.later a).valid.2.1
  rw [le_def] at ht ⊢
  simp only [latest, maxSecs, nanosPerSec] at ht hfits
  have ha := t.later_cases a
  have hb := t.later_cases b
  simp only [totalNanos, maxSecs, nanosPerSec] at ha hb
  omega

end SeriesReplica.Time.Instant
