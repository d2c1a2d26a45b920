import SeriesReplica.Time.Calendar

/-!
Instants as text: the form with a blank and the zone's name for messages, and the RFC 3339
form for data. Both show the shortest of zero, three, six or nine fraction digits that is
exact, second sixty for a leap second, and a sign on years outside four digits. The reader
accepts RFC 3339 with any offset.
-/
namespace SeriesReplica.Time
open Text

namespace Instant

/-- Four digits for the years 0 to 9999, at least four and a sign for any other. -/
private def yearText (y : Int) : List Char :=
  if 0 ≤ y ∧ y ≤ 9999 then Numeral.padded 4 y.toNat
  else (if y < 0 then '-' else '+') :: Numeral.padded 4 y.natAbs

/-- The shortest exact group of fraction digits, after a point. -/
private def fractionText (nanos : Nat) : List Char :=
  if nanos = 0 then []
  else if nanos % 1000000 = 0 then '.' :: Numeral.padded 3 (nanos / 1000000)
  else if nanos % 1000 = 0 then '.' :: Numeral.padded 6 (nanos / 1000)
  else '.' :: Numeral.padded 9 nanos

/-- Date and time of day with the given character between them. -/
private def plainText (between : Char) (t : Instant) : List Char :=
  let d := t.date
  let s := t.secOfDay
  let leap := if t.nanos ≥ nanosPerSec then 1 else 0
  yearText d.year ++ '-' :: Numeral.padded 2 d.month ++ '-' :: Numeral.padded 2 d.day ++
    between :: Numeral.padded 2 (s / 3600) ++ ':' :: Numeral.padded 2 (s % 3600 / 60) ++
    ':' :: Numeral.padded 2 (s % 60 + leap) ++ fractionText (t.nanos - leap * nanosPerSec)

/-- The form in messages: `2023-11-14 22:13:20.500 UTC`. -/
def text (t : Instant) : String := String.ofList (plainText ' ' t ++ [' ', 'U', 'T', 'C'])

/-- The form in data: `2023-11-14T22:13:20.500Z`. -/
def rfc3339 (t : Instant) : String := String.ofList (plainText 'T' t ++ ['Z'])

end Instant

namespace Rfc3339

/-- Reads exactly the given number of digits. -/
private def digits? (width : Nat) (cs : List Char) : Option (Nat × List Char) :=
  let ds := cs.take width
  if ds.length = width then (Numeral.readNat? ds).map fun n => (n, cs.drop width) else none

private def expect? (allowed : List Char) : List Char → Option (List Char)
  | c :: cs => if c ∈ allowed then some cs else none
  | [] => none

/-- An optional point with at least one digit; digits past the ninth are cut off. -/
private def fraction? : List Char → Option (Nat × List Char)
  | '.' :: cs =>
    let ds := cs.takeWhile Char.isDigit
    (Numeral.readNat? ds).map fun _ =>
      let nine := (ds ++ List.replicate 9 '0').take 9
      (Nat.ofDigitChars 10 nine 0, cs.dropWhile Char.isDigit)
  | cs => some (0, cs)

/-- `Z`, or a signed offset of hours and minutes, in seconds; the minus sign may be U+2212. -/
private def offset? : List Char → Option (Int × List Char)
  | c :: cs =>
    if c = 'Z' ∨ c = 'z' then some (0, cs)
    else if c ∈ ['+', '-', '\u2212'] then do
      let (hours, cs) ← digits? 2 cs
      let cs ← expect? [':'] cs
      let (minutes, cs) ← digits? 2 cs
      if hours < 24 ∧ minutes < 60 then
        let secs : Int := hours * 3600 + minutes * 60
        some (if c = '+' then secs else -secs, cs)
      else none
    else none
  | [] => none

/-- Reads an RFC 3339 date and time. -/
def readChars? (cs : List Char) : Option Instant := do
  let (year, cs) ← digits? 4 cs
  let cs ← expect? ['-'] cs
  let (month, cs) ← digits? 2 cs
  let cs ← expect? ['-'] cs
  let (day, cs) ← digits? 2 cs
  let cs ← expect? ['T', 't', ' '] cs
  let (hour, cs) ← digits? 2 cs
  let cs ← expect? [':'] cs
  let (minute, cs) ← digits? 2 cs
  let cs ← expect? [':'] cs
  let (second, cs) ← digits? 2 cs
  let (nanos, cs) ← fraction? cs
  let (offset, cs) ← offset? cs
  let date : Date := ⟨year, month, day⟩
  if cs = [] ∧ date.isValid ∧ hour < 24 ∧ minute < 60 ∧ second ≤ 60 then
    let leap := if second = 60 then 1 else 0
    let local_ : Int := date.toDays * secsPerDay + hour * 3600 + minute * 60 + (second - leap : Nat)
    Instant.ofUnix? (local_ - offset) (nanos + leap * nanosPerSec)
  else none

/-- A date has a hyphen behind its four digits. -/
theorem dash_of_readChars? {cs : List Char} {t : Instant} (h : readChars? cs = some t) :
    cs[4]? = some '-' := by
  rw [readChars?] at h
  obtain ⟨⟨year, rest⟩, hyear, h⟩ := Option.bind_eq_some_iff.1 h
  obtain ⟨_, hdash, -⟩ := Option.bind_eq_some_iff.1 h
  rw [digits?, Option.ite_none_right_eq_some] at hyear
  obtain ⟨n, -, hrest⟩ := Option.map_eq_some_iff.1 hyear.2
  obtain rfl : cs.drop 4 = rest := congrArg Prod.snd hrest
  match hcs : cs.drop 4 with
  | [] => rw [hcs] at hdash; cases hdash
  | c :: rest =>
    rw [hcs, expect?, Option.ite_none_right_eq_some] at hdash
    have hc := congrArg List.head? hcs
    rw [List.head?_drop, List.head?_cons, List.mem_singleton.1 hdash.1] at hc
    exact hc

/-- Reads an RFC 3339 date and time. -/
def read? (s : String) : Option Instant := readChars? s.toList

end Rfc3339
end SeriesReplica.Time
