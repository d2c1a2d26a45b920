import SeriesReplica.Agent.TimeInput
import SeriesReplica.Proofs.Text.Numeral
import SeriesReplica.Proofs.Time.EpochNanos

/-! Which times depend on the clock. A signed numeral that fits is a moment, also behind a minus
sign; any other text behind a minus sign tells a length that is taken off the present moment, and
nothing else that is read looks at the clock. -/
namespace SeriesReplica.Agent.TimeInput
open Text Time

/-- A text that tells a length before now: it begins with a minus sign and is no numeral that
fits. -/
def IsRelative (input : String) : Prop :=
  (∃ phrase, trimChars input.toList = '-' :: phrase) ∧
    ∀ n : Int64, ¬ Numeral.Denotes (trimChars input.toList) n.toInt

theorem isRelative_iff {input : String} : IsRelative input ↔
    (trimChars input.toList).head? = some '-' ∧
      Numeral.readInt64? (trimChars input.toList) = none := by
  rw [IsRelative, List.head?_eq_some_iff, Option.eq_none_iff_forall_ne_some]
  simp only [ne_eq, Numeral.readInt64?_eq_some_iff]

instance (input : String) : Decidable (IsRelative input) := decidable_of_iff' _ isRelative_iff

variable {input : String} {phrase : List Char} {now t : Instant} {d : Span}

theorem read_of_denotes {n : Int64} (h : Numeral.Denotes (trimChars input.toList) n.toInt)
    (now : Instant) : read input now = match Instant.ofUnix? n.toInt 0 with
      | some t => .ok t
      | none => .error (.outOfRange n) := by
  rewrite [read, if_neg h.ne_nil, Numeral.readInt64?_eq_some_iff.2 h]
  rfl

/-- Every text but a relative one is read alike at all times. -/
theorem read_of_not_isRelative (h : ¬ IsRelative input) (now now' : Instant) :
    read input now = read input now' := by
  by_cases hdenotes : ∃ n : Int64, Numeral.Denotes (trimChars input.toList) n.toInt
  · obtain ⟨n, hn⟩ := hdenotes
    rw [read_of_denotes hn, read_of_denotes hn]
  · have hnumeral : ∀ n : Int64, ¬ Numeral.Denotes (trimChars input.toList) n.toInt :=
      not_exists.1 hdenotes
    have hsign : ∀ phrase, trimChars input.toList ≠ '-' :: phrase := fun phrase hphrase =>
      h ⟨⟨phrase, hphrase⟩, hnumeral⟩
    rw [read, read]
    split
    · rfl
    · split
      · rfl
      · split
        · rename_i phrase hphrase
          exact absurd hphrase (hsign phrase)
        · rfl

/-- A relative text is read as the moment that lies its length before now. -/
theorem read_of_isRelative (h : IsRelative input) (hphrase : trimChars input.toList = '-' :: phrase)
    (now : Instant) : read input now = (before now phrase).mapError (.relative (trim input)) := by
  rw [read, if_neg (by simp [hphrase]), (isRelative_iff.1 h).2, trim]
  simp only [hphrase]

/-- A length that the calendar takes leads to the moment that lies so far back, unless that is
before the calendar. -/
theorem before_of_fitsCalendar (hd : Phrase.read phrase = .ok d) (hfits : d.fitsCalendar = true)
    (now : Instant) :
    (now.totalNanos - d.nanos < minSecs * nanosPerSec ∧ before now phrase = .error .beforeRange) ∨
    (minSecs * nanosPerSec ≤ now.totalNanos - d.nanos ∧
      ∃ t, before now phrase = .ok t ∧ t ≤ now ∧ now.totalNanos - t.totalNanos = d.nanos) := by
  rw [before, hd]
  simp only [hfits, if_true]
  rcases now.earlier?_spec d with ⟨t, ht, htotal⟩ | ⟨hnone, hlt⟩
  · rw [ht]
    have hlo := t.le_totalNanos
    refine .inr ⟨by omega, t, rfl, Instant.earlier?_le ht, by omega⟩
  · rw [hnone]
    exact .inl ⟨hlt, rfl⟩

/-- Only relative times look at the clock. What is wrong with the text of one, or with a length that
no calendar arithmetic takes, is wrong at all times. Otherwise the text tells a length, and at every
moment the time that is read lies just that far back, and not after that moment; it is refused
where, and only where, that is before the calendar. A signed numeral that fits, also behind a minus
sign, is no relative time. -/
theorem only_relative_times_follow_clock (input : String) :
    (¬ IsRelative input → ∀ now now', read input now = read input now') ∧
    (∀ phrase, IsRelative input → trimChars input.toList = '-' :: phrase →
      (∃ cause, Phrase.read phrase = .error cause ∧
        ∀ now, read input now = .error (.relative (trim input) (.phrase cause))) ∨
      (∃ d, Phrase.read phrase = .ok d ∧ d.fitsCalendar = false ∧
        ∀ now, read input now = .error (.relative (trim input) .tooLong)) ∨
      ∃ d, Phrase.read phrase = .ok d ∧ d.fitsCalendar = true ∧ ∀ now : Instant,
        (now.totalNanos - d.nanos < minSecs * nanosPerSec ∧
          read input now = .error (.relative (trim input) .beforeRange)) ∨
        (minSecs * nanosPerSec ≤ now.totalNanos - d.nanos ∧
          ∃ t, read input now = .ok t ∧ t ≤ now ∧ now.totalNanos - t.totalNanos = d.nanos)) ∧
    ∀ n : Int64, Numeral.Denotes (trimChars input.toList) n.toInt → ¬ IsRelative input ∧
      ∀ now, read input now = match Instant.ofUnix? n.toInt 0 with
        | some t => .ok t
        | none => .error (.outOfRange n) := by
  refine ⟨read_of_not_isRelative, fun phrase hrelative hphrase => ?_,
    fun n hn => ⟨fun hrelative => hrelative.2 n hn, read_of_denotes hn⟩⟩
  have hread := read_of_isRelative hrelative hphrase
  match hd : Phrase.read phrase with
  | .error cause =>
    refine .inl ⟨cause, rfl, fun now => ?_⟩
    rw [hread, before, hd]
    rfl
  | .ok d =>
    match hfits : d.fitsCalendar with
    | false =>
      refine .inr (.inl ⟨d, rfl, hfits, fun now => ?_⟩)
      rw [hread, before, hd]
      simp only [hfits, Bool.false_eq_true, if_false]
      rfl
    | true =>
      refine .inr (.inr ⟨d, rfl, hfits, fun now => ?_⟩)
      rw [hread]
      rcases before_of_fitsCalendar hd hfits now with ⟨hlt, hbefore⟩ | ⟨hle, t, hbefore, ht⟩
      · exact .inl ⟨hlt, by rw [hbefore]; rfl⟩
      · exact .inr ⟨hle, t, by rw [hbefore]; rfl, ht⟩

private theorem denotes_hour : Numeral.Denotes (trimChars "-3600".toList) (-3600) :=
  .minus (by decide) (List.all_eq_true.1 (by decide))

/-- An hour and a half before two moments, of which one is the first of the calendar, and an hour
before 1970 as a numeral. -/
theorem only_relative_times_follow_clock_ninety_minutes :
    IsRelative " -1h 30m" ∧ Phrase.read "1h 30m".toList = .ok (.ofSecs 5400) ∧
    (∃ t, read " -1h 30m" .epoch = .ok t ∧ t ≤ .epoch ∧ t.totalNanos = -5400000000000) ∧
    read " -1h 30m" .earliest = .error (.relative "-1h 30m" .beforeRange) ∧
    read "1h 30m" .epoch = read "1h 30m" .earliest ∧
    ¬ IsRelative "-3600" ∧ read "-3600" .earliest = .ok ⟨-3600, 0, by decide⟩ := by
  have hrelative : IsRelative " -1h 30m" := by decide
  have hread : Phrase.read "1h 30m".toList = .ok (.ofSecs 5400) := rfl
  obtain ⟨-, hback, -⟩ := only_relative_times_follow_clock " -1h 30m"
  obtain ⟨hnumeral, hmoment⟩ := (only_relative_times_follow_clock "-3600").2.2 (-3600) denotes_hour
  have habsolute := (only_relative_times_follow_clock "1h 30m").1 (by decide) .epoch .earliest
  obtain ⟨cause, hcause, -⟩ | ⟨d, hd, hlong, -⟩ | ⟨d, hd, -, hnow⟩ :=
    hback "1h 30m".toList hrelative (by decide)
  · cases hread.symm.trans hcause
  · obtain rfl := Except.ok.inj (hread.symm.trans hd)
    cases hlong
  · obtain rfl := Except.ok.inj (hread.symm.trans hd)
    refine ⟨hrelative, hread, ?_, ?_, habsolute, hnumeral, hmoment .earliest⟩
    · obtain ⟨hlt, -⟩ | ⟨-, t, ht, hle, htotal⟩ := hnow .epoch
      · exact absurd hlt (by decide)
      · refine ⟨t, ht, hle, ?_⟩
        have hepoch : Instant.epoch.totalNanos = 0 := by decide
        have hlength : (Span.ofSecs 5400).nanos = 5400000000000 := by decide
        omega
    · obtain ⟨-, herror⟩ | ⟨hle, -⟩ := hnow .earliest
      · exact herror
      · exact absurd hle (by decide)

end SeriesReplica.Agent.TimeInput
