import SeriesReplica.Point.Line
import SeriesReplica.Proofs.Numeric.Text
import SeriesReplica.Proofs.Text.Numeral

/-! A reader of line protocol. Names end at the first of their stops that has no backslash in front
of it, texts at the quote that closes them, and a value without quotes is told by its shape. What
points are written as is read as the points. -/
namespace SeriesReplica.Point
open Text Numeric

/-- A value as it can be told from its text: which of the values that are not a number it is, is
lost. -/
def FieldValue.canonical : FieldValue → FieldValue
  | .float x => .float (if x.isNaN then .nan else x)
  | v => v

namespace Line

section Reader

/-- Reads a name up to the first stop without a backslash in front of it. A backslash in front of
anything else stands for itself. -/
def readName (stops : List Char) : List Char → List Char × List Char
  | [] => ([], [])
  | '\\' :: c :: cs =>
    if c ∈ stops then
      let (name, rest) := readName stops cs
      (c :: name, rest)
    else
      let (name, rest) := readName stops (c :: cs)
      ('\\' :: name, rest)
  | c :: cs =>
    if c ∈ stops then ([], c :: cs)
    else
      let (name, rest) := readName stops cs
      (c :: name, rest)

/-- Reads the inside of a text up to the quote that closes it. -/
def readText? : List Char → Option (List Char × List Char)
  | [] => none
  | '"' :: cs => some ([], cs)
  | '\\' :: c :: cs =>
    if c ∈ textStops then (readText? cs).map fun (text, rest) => (c :: text, rest)
    else (readText? (c :: cs)).map fun (text, rest) => ('\\' :: text, rest)
  | c :: cs => (readText? cs).map fun (text, rest) => (c :: text, rest)

/-- What ends a value without quotes. -/
def valueStops : List Char := [',', ' ']

/-- Reads a value without quotes: a truth value, an integer with its suffix, or else a float. -/
def readScalar? (cs : List Char) : Option FieldValue :=
  if cs = ['t', 'r', 'u', 'e'] then some (.boolean true)
  else if cs = ['f', 'a', 'l', 's', 'e'] then some (.boolean false)
  else if cs.getLast? = some 'i' then (Numeral.readInt64? cs.dropLast).map .integer
  else (Float64.read? cs).map .float

/-- Reads a value up to what ends it. -/
def readValue? : List Char → Option (FieldValue × List Char)
  | '"' :: cs => (readText? cs).map fun (text, rest) => (.string (String.ofList text), rest)
  | cs =>
    (readScalar? (cs.takeWhile (· ∉ valueStops))).map fun v =>
      (v, cs.dropWhile (· ∉ valueStops))

/-- What stands behind a character. -/
def behind? (c : Char) : List Char → Option (List Char)
  | [] => none
  | d :: cs => if d = c then some cs else none

/-- Reads items one after another for as long as there are more. -/
def readAll? {α : Type} (more : List Char → Bool)
    (item? : List Char → Option (α × List Char)) (cs : List Char) :
    Option (List α × List Char) :=
  if more cs then
    match item? cs with
    | none => none
    | some (a, rest) =>
      if rest.length < cs.length then
        (readAll? more item? rest).map fun (as, rest) => (a :: as, rest)
      else none
  else some ([], cs)
termination_by cs.length

/-- Reads a tag with the comma in front of it. -/
def readTag? (cs : List Char) : Option ((String × String) × List Char) := do
  let (key, rest) := readName keyStops (← behind? ',' cs)
  let (value, rest) := readName keyStops (← behind? '=' rest)
  pure ((String.ofList key, String.ofList value), rest)

def readField? (cs : List Char) : Option ((String × FieldValue) × List Char) := do
  let (key, rest) := readName keyStops cs
  let (value, rest) ← readValue? (← behind? '=' rest)
  pure ((String.ofList key, value), rest)

/-- Whether there is another tag or field. -/
def continues (cs : List Char) : Bool := cs.head? = some ','

/-- Reads fields with commas between them. -/
def readFields? (cs : List Char) : Option (List (String × FieldValue) × List Char) := do
  let (f, rest) ← readField? cs
  let (fs, rest) ← readAll? continues (fun cs => (behind? ',' cs).bind readField?) rest
  pure (f :: fs, rest)

/-- Reads a line with its end. -/
def readPoint? (cs : List Char) : Option (Point × List Char) := do
  let (measurement, rest) := readName measurementStops cs
  let (tags, rest) ← readAll? continues readTag? rest
  let (fields, rest) ← readFields? (← behind? ' ' rest)
  let rest ← behind? ' ' rest
  let timestamp ← Numeral.readInt64? (rest.takeWhile (· ≠ '\n'))
  let rest ← behind? '\n' (rest.dropWhile (· ≠ '\n'))
  pure (⟨String.ofList measurement, .ofList tags, .ofList fields, timestamp⟩, rest)

/-- Reads a body of lines. -/
def readPoints? (body : String) : Option (List Point) :=
  (readAll? (· ≠ []) readPoint? body.toList).map Prod.fst

end Reader

section Names

/-- A text that goes on with one of the given characters. -/
def StopsAt (stops rest : List Char) : Prop := ∃ c cs, rest = c :: cs ∧ c ∈ stops

/-- A name that does not end in a backslash, which would be taken to escape what stands behind. -/
def IsClosed (name : List Char) : Prop := name.getLast? ≠ some '\\'

instance (name : List Char) : Decidable (IsClosed name) := inferInstanceAs (Decidable (_ ≠ _))

variable {stops name rest : List Char}

theorem IsClosed.of_not_mem (h : '\\' ∉ name) : IsClosed name :=
  fun hlast => h (List.mem_of_getLast? hlast)

theorem IsClosed.of_cons {c : Char} (h : IsClosed (c :: name)) : IsClosed name := by
  cases name with
  | nil => exact fun hlast => nomatch hlast
  | cons d name => rwa [IsClosed, List.getLast?_cons_cons] at h

theorem escape_cons_of_mem {c : Char} (h : c ∈ stops) (cs : List Char) :
    escape stops (c :: cs) = '\\' :: c :: escape stops cs := by
  rw [escape, List.flatMap_cons, if_pos h]
  rfl

theorem escape_cons_of_not_mem {c : Char} (h : c ∉ stops) (cs : List Char) :
    escape stops (c :: cs) = c :: escape stops cs := by
  rw [escape, List.flatMap_cons, if_neg h]
  rfl

/-- A character that is not a backslash ends the name or belongs to it. -/
theorem readName_cons {c : Char} (hc : c ≠ '\\') (cs : List Char) :
    readName stops (c :: cs) =
      if c ∈ stops then ([], c :: cs)
      else (c :: (readName stops cs).1, (readName stops cs).2) := by
  rw [readName]
  exact fun _ _ heq _ => hc heq

/-- A backslash in front of what does not stop a name belongs to the name. -/
theorem readName_backslash {c : Char} (hc : c ∉ stops) (cs : List Char) :
    readName stops ('\\' :: c :: cs) =
      ('\\' :: (readName stops (c :: cs)).1, (readName stops (c :: cs)).2) := by
  rw [readName, if_neg hc]

/-- An escaped name that is not empty begins with a character that does not stop it. -/
theorem escape_cons_eq (hstops : '\\' ∉ stops) (c : Char) (name : List Char) :
    ∃ d cs, escape stops (c :: name) = d :: cs ∧ d ∉ stops := by
  by_cases hc : c ∈ stops
  · exact ⟨_, _, escape_cons_of_mem hc name, hstops⟩
  · exact ⟨_, _, escape_cons_of_not_mem hc name, hc⟩

/-- An escaped name is read up to its stop. -/
theorem readName_escape (hstops : '\\' ∉ stops) (hname : IsClosed name)
    (hrest : StopsAt stops rest) : readName stops (escape stops name ++ rest) = (name, rest) := by
  induction name with
  | nil =>
    obtain ⟨c, cs, rfl, hc⟩ := hrest
    rw [escape, List.flatMap_nil, List.nil_append, readName_cons fun heq => hstops (heq ▸ hc),
      if_pos hc]
  | cons c name ih =>
    have hread := ih hname.of_cons
    by_cases hmem : c ∈ stops
    · rw [escape_cons_of_mem hmem, List.cons_append, List.cons_append, readName, if_pos hmem,
        hread]
    · rw [escape_cons_of_not_mem hmem, List.cons_append]
      by_cases hc : c = '\\'
      -- The backslash is not the last character, and nothing that begins a name is a stop.
      · obtain ⟨d, name, rfl⟩ := List.exists_cons_of_ne_nil
          fun hnil : name = [] => hname (by rw [hnil, hc]; rfl)
        obtain ⟨e, cs, heq, he⟩ := escape_cons_eq hstops d name
        rw [heq, List.cons_append] at hread ⊢
        rw [hc, readName_backslash he, hread]
      · rw [readName_cons hc, if_neg hmem, hread]

/-- A quoted text is read up to the quote that closes it. -/
theorem readText?_escape (text rest : List Char) :
    readText? (escape textStops text ++ '"' :: rest) = some (text, rest) := by
  induction text with
  | nil => rfl
  | cons c text ih =>
    by_cases hmem : c ∈ textStops
    · rw [escape_cons_of_mem hmem, List.cons_append, List.cons_append, readText?, if_pos hmem, ih]
      rfl
    · have hquote : c ≠ '"' := fun heq => hmem (heq ▸ by decide)
      have hbackslash : c ≠ '\\' := fun heq => hmem (heq ▸ by decide)
      rw [escape_cons_of_not_mem hmem, List.cons_append, readText?, ih]
      · rfl
      · exact hquote
      · exact fun _ _ heq _ => hbackslash heq

end Names

section Values
variable {rest : List Char}

theorem readInt64?_ofInt (i : Int64) : Numeral.readInt64? (Numeral.ofInt i.toInt) = some i := by
  rw [Numeral.readInt64?, readInt?_ofInt, Option.bind_some]
  exact Numeral.narrow_eq_some_iff.2 rfl

/-- A value without quotes is not mistaken for anything else. -/
def IsScalar (cs : List Char) : Prop := ∀ c ∈ cs, c ∉ valueStops ∧ c ≠ '"'

instance (cs : List Char) : Decidable (IsScalar cs) :=
  List.decidableBAll _ cs

/-- A value without quotes is read up to what ends it. -/
theorem readValue?_scalar {cs : List Char} (hcs : IsScalar cs) (hrest : StopsAt valueStops rest) :
    readValue? (cs ++ rest) = (readScalar? cs).map fun v => (v, rest) := by
  obtain ⟨c, tail, rfl, hc⟩ := hrest
  have hall : ∀ d ∈ cs, decide (d ∉ valueStops) = true := fun d hd => decide_eq_true (hcs d hd).1
  have htake : (c :: tail).takeWhile (· ∉ valueStops) = [] :=
    List.takeWhile_cons_of_neg (by simpa using hc)
  have hdrop : (c :: tail).dropWhile (· ∉ valueStops) = c :: tail :=
    List.dropWhile_cons_of_neg (by simpa using hc)
  rw [readValue?]
  · rw [List.takeWhile_append_of_pos hall, List.dropWhile_append_of_pos hall, htake, hdrop,
      List.append_nil]
  · intro ds heq
    cases cs with
    | nil =>
      rw [List.nil_append] at heq
      exact absurd ((List.cons.inj heq).1 ▸ hc) (by decide)
    | cons d cs => exact (hcs d List.mem_cons_self).2 (List.cons.inj heq).1

/-- Digits, and characters of a few others. -/
def IsNumeric (others cs : List Char) : Prop := ∀ c ∈ cs, c.isDigit = true ∨ c ∈ others

theorem IsNumeric.not_mem {others cs : List Char} (h : IsNumeric others cs) {c : Char}
    (hdigit : c.isDigit = false) (hc : c ∉ others) : c ∉ cs :=
  fun hmem => (h c hmem).elim (fun htrue => nomatch hdigit.symm.trans htrue) hc

theorem IsNumeric.isScalar {others cs : List Char} (h : IsNumeric others cs)
    (hothers : IsScalar others) : IsScalar cs := by
  intro c hc
  rcases h c hc with hdigit | hother
  · refine ⟨fun hstop => ?_, ?_⟩
    · have hdigits : valueStops.all (fun d => !d.isDigit) = true := rfl
      simpa [hdigit] using List.all_eq_true.1 hdigits c hstop
    · rintro rfl
      cases hdigit
  · exact hothers c hother

/-- The text of a float is one of three names, or digits with a point and a sign. -/
theorem chars_cases (x : Float64) :
    x.chars = ['N', 'a', 'N'] ∨ x.chars = ['i', 'n', 'f'] ∨ x.chars = ['-', 'i', 'n', 'f'] ∨
      IsNumeric ['.', '-'] x.chars := by
  have hpositional : IsNumeric ['.', '-'] (x.shortest .upper).positional :=
    fun c hc => ((x.shortest .upper).positional_chars c hc).imp_right fun h => by simp [h]
  rw [Float64.chars]
  split
  · exact .inl rfl
  · cases x.isInfinite <;> cases x.isNegative
    · exact .inr (.inr (.inr hpositional))
    · refine .inr (.inr (.inr fun c hc => ?_))
      exact (List.mem_cons.1 hc).elim (fun h => .inr (by simp [h])) (hpositional c)
    · exact .inr (.inl rfl)
    · exact .inr (.inr (.inl rfl))

/-- The text of a float has no delimiter in it and is of no other shape. -/
theorem chars_shape (x : Float64) :
    IsScalar x.chars ∧ x.chars ≠ ['t', 'r', 'u', 'e'] ∧ x.chars ≠ ['f', 'a', 'l', 's', 'e'] ∧
      x.chars.getLast? ≠ some 'i' := by
  rcases chars_cases x with h | h | h | h
  · rw [h]
    decide
  · rw [h]
    decide
  · rw [h]
    decide
  · refine ⟨h.isScalar (by decide), fun heq => ?_, fun heq => ?_, fun heq => ?_⟩
    · exact h.not_mem (c := 't') rfl (by decide) (heq ▸ by decide)
    · exact h.not_mem (c := 'f') rfl (by decide) (heq ▸ by decide)
    · exact h.not_mem (c := 'i') rfl (by decide) (List.mem_of_getLast? heq)

/-- The digits of an integer, after its sign and before its suffix. -/
theorem isNumeric_integer (i : Int64) : IsNumeric ['-', 'i'] (value (.integer i)) := by
  intro c hc
  rcases List.mem_append.1 hc with hc | hc
  · exact (isDigit_ofInt _ c hc).imp_right fun hsign => by simp [hsign]
  · exact .inr (List.mem_cons_of_mem _ hc)

/-- Only texts are quoted. -/
theorem isScalar_value {v : FieldValue} (h : ∀ s, v ≠ .string s) : IsScalar (value v) := by
  cases v with
  | float x => exact (chars_shape x).1
  | integer i => exact (isNumeric_integer i).isScalar (by decide)
  | boolean b => cases b <;> decide
  | string s => exact absurd rfl (h s)

/-- A value is read as it was written. -/
theorem readValue?_value (v : FieldValue) (hrest : StopsAt valueStops rest) :
    readValue? (value v ++ rest) = some (v.canonical, rest) := by
  cases v with
  | float x =>
    obtain ⟨hscalar, htrue, hfalse, hinteger⟩ := chars_shape x
    rw [value, readValue?_scalar hscalar hrest, readScalar?, if_neg htrue, if_neg hfalse,
      if_neg hinteger, Float64.read?_chars]
    rfl
  | integer i =>
    have hnumeric := isNumeric_integer i
    rw [value] at hnumeric ⊢
    rw [readValue?_scalar (hnumeric.isScalar (by decide)) hrest, readScalar?, if_neg,
      if_neg, if_pos, List.dropLast_concat, readInt64?_ofInt]
    · rfl
    · exact List.getLast?_concat
    · exact fun heq => hnumeric.not_mem (c := 'f') rfl (by decide) (heq ▸ by decide)
    · exact fun heq => hnumeric.not_mem (c := 't') rfl (by decide) (heq ▸ by decide)
  | boolean b =>
    cases b <;> exact readValue?_scalar (by decide) hrest
  | string s =>
    rw [value, List.append_assoc, List.cons_append, readValue?]
    change (readText? (escape textStops s.toList ++ '"' :: rest)).map _ = _
    rw [readText?_escape, Option.map_some]
    simp only [String.ofList_toList]
    rfl

end Values

section Points
variable {rest : List Char}

/-- Items that are read as they are written are read one after another. -/
theorem readAll?_flatMap {α β : Type} {more : List Char → Bool}
    (item? : List Char → Option (β × List Char)) (written : α → List Char) (back : α → β)
    (Stops : List Char → Prop) (hmore : ∀ a rest, more (written a ++ rest) = true)
    (hstops : ∀ a rest, Stops (written a ++ rest)) (hne : ∀ a, written a ≠ []) {as : List α}
    (hitem : ∀ a ∈ as, ∀ rest, Stops rest → item? (written a ++ rest) = some (back a, rest))
    (hlast : more rest = false) (hrest : Stops rest) :
    readAll? more item? (as.flatMap written ++ rest) = some (as.map back, rest) := by
  induction as with
  | nil =>
    rw [List.flatMap_nil, List.nil_append, readAll?, if_neg (by simp [hlast])]
    rfl
  | cons a as ih =>
    have htail := ih fun b hb => hitem b (List.mem_cons_of_mem _ hb)
    have hstop : Stops (as.flatMap written ++ rest) := by
      cases as with
      | nil => exact hrest
      | cons b bs =>
        rw [List.flatMap_cons, List.append_assoc]
        exact hstops b _
    have hshorter : (as.flatMap written ++ rest).length <
        (written a ++ (as.flatMap written ++ rest)).length := by
      have := List.length_pos_iff.2 (hne a)
      simp only [List.length_append]
      omega
    rw [List.flatMap_cons, List.append_assoc, readAll?, if_pos (hmore a _),
      hitem a List.mem_cons_self _ hstop]
    dsimp only
    rw [if_pos hshorter, htail]
    rfl

/-- What stops a value stops a name. -/
theorem StopsAt.name (h : StopsAt valueStops rest) : StopsAt keyStops rest := by
  obtain ⟨c, cs, rfl, hc⟩ := h
  refine ⟨c, cs, rfl, ?_⟩
  rcases List.mem_cons.1 hc with rfl | hc
  · decide
  · obtain rfl := List.mem_singleton.1 hc
    decide

/-- A tag as it is written, with the comma in front of it. -/
def tag (t : String × String) : List Char :=
  ',' :: (escape keyStops t.1.toList ++ '=' :: escape keyStops t.2.toList)

theorem tags_eq (ts : List (String × String)) :
    tags ts = (ts.filter (·.2 ≠ "")).flatMap tag := by
  induction ts with
  | nil => rfl
  | cons t ts ih =>
    rw [tags] at ih
    rw [tags, List.flatMap_cons, ih]
    by_cases hempty : t.2 = ""
    · simp [hempty]
    · simp [hempty, tag]

theorem readTag?_tag {t : String × String} (hkey : IsClosed t.1.toList)
    (hvalue : IsClosed t.2.toList) (hrest : StopsAt valueStops rest) :
    readTag? (tag t ++ rest) = some (t, rest) := by
  have hread : readName keyStops (escape keyStops t.1.toList ++
      ('=' :: (escape keyStops t.2.toList ++ rest))) =
        (t.1.toList, '=' :: (escape keyStops t.2.toList ++ rest)) :=
    readName_escape (by decide) hkey ⟨'=', _, rfl, by decide⟩
  have hread' := readName_escape (by decide) hvalue hrest.name
  simp [readTag?, tag, behind?, hread, hread']

theorem readField?_field {f : String × FieldValue} (hname : IsClosed f.1.toList)
    (hrest : StopsAt valueStops rest) :
    readField? (field f ++ rest) = some ((f.1, f.2.canonical), rest) := by
  have hread : readName keyStops (escape keyStops f.1.toList ++ ('=' :: (value f.2 ++ rest))) =
      (f.1.toList, '=' :: (value f.2 ++ rest)) :=
    readName_escape (by decide) hname ⟨'=', _, rfl, by decide⟩
  simp [readField?, field, behind?, hread, readValue?_value f.2 hrest]

theorem fields_cons (f : String × FieldValue) (fs : List (String × FieldValue)) :
    fields (f :: fs) = field f ++ fs.flatMap fun f => ',' :: field f := by
  induction fs generalizing f with
  | nil => rw [fields, List.flatMap_nil, List.append_nil]
  | cons g gs ih =>
    rw [fields, ih, List.flatMap_cons, List.cons_append]
    exact List.cons_ne_nil g gs

theorem readFields?_fields {fs : List (String × FieldValue)} (hne : fs ≠ [])
    (hnames : ∀ f ∈ fs, IsClosed f.1.toList) :
    readFields? (fields fs ++ ' ' :: rest) =
      some (fs.map fun f => (f.1, f.2.canonical), ' ' :: rest) := by
  obtain ⟨f, fs, rfl⟩ := List.exists_cons_of_ne_nil hne
  have hstop : StopsAt valueStops (' ' :: rest) := ⟨' ', rest, rfl, by decide⟩
  have hstops : StopsAt valueStops ((fs.flatMap fun f => ',' :: field f) ++ ' ' :: rest) := by
    cases fs with
    | nil => exact hstop
    | cons g gs => exact ⟨',', _, rfl, by decide⟩
  have hmore : readAll? continues (fun cs => (behind? ',' cs).bind readField?)
      ((fs.flatMap fun f => ',' :: field f) ++ ' ' :: rest) =
        some (fs.map fun f => (f.1, f.2.canonical), ' ' :: rest) :=
    readAll?_flatMap _ (fun f => ',' :: field f) _ _ (fun _ _ => rfl)
      (fun _ _ => ⟨',', _, rfl, by decide⟩) (fun _ => List.cons_ne_nil _ _)
      (fun g hg _ => readField?_field (hnames g (List.mem_cons_of_mem _ hg))) rfl hstop
  rw [fields_cons, List.append_assoc]
  simp [readFields?, readField?_field (hnames f List.mem_cons_self) hstops, hmore]

end Points

end Line
end SeriesReplica.Point

namespace SeriesReplica.Point

/-- A point without backslashes in its names. The texts of its fields may hold anything. -/
structure IsPlain (p : Point) : Prop where
  measurement : '\\' ∉ p.measurement.toList
  tags : ∀ t ∈ p.tags.toList, '\\' ∉ t.1.toList ∧ '\\' ∉ t.2.toList
  fields : ∀ k ∈ p.fields.keys, '\\' ∉ k.toList

/-- A point as it can be told from its line: without the tags that have no value. -/
def told (p : Point) : Point where
  measurement := p.measurement
  tags := p.tags.filter fun _ v => v ≠ ""
  fields := p.fields.map fun _ v => v.canonical
  timestamp := p.timestamp

end SeriesReplica.Point

namespace SeriesReplica.Point.Line
open Text Numeric
variable {rest : List Char}

/-- A map is made of its pairs. -/
theorem ofList_toList {α : Type} (m : Std.ExtTreeMap String α) : .ofList m.toList compare = m := by
  refine Std.ExtTreeMap.ext_getElem? fun k => ?_
  cases h : m[k]? with
  | some v =>
    exact Std.ExtTreeMap.getElem?_ofList_of_mem Std.ReflCmp.compare_self m.distinct_keys_toList
      (Std.ExtTreeMap.mem_toList_iff_getElem?_eq_some.2 h)
  | none =>
    refine Std.ExtTreeMap.getElem?_ofList_of_contains_eq_false ?_
    rw [Std.ExtTreeMap.map_fst_toList_eq_keys, Std.ExtTreeMap.contains_keys,
      Std.ExtTreeMap.contains_eq_isSome_getElem?, h]
    rfl

theorem toList_ne_nil {α : Type} {m : Std.ExtTreeMap String α} (h : m.isEmpty = false) :
    m.toList ≠ [] := by
  intro hnil
  rw [← Std.ExtTreeMap.isEmpty_toList, hnil] at h
  cases h

/-- What is told of a point is made of the lists that its line is written from. -/
theorem told_eq (p : Point) :
    p.told = ⟨String.ofList p.measurement.toList, .ofList (p.tags.toList.filter (·.2 ≠ "")),
      .ofList (p.fields.toList.map fun f => (f.1, f.2.canonical)), p.timestamp⟩ := by
  rw [Point.told, String.ofList_toList, ← ofList_toList (p.tags.filter fun _ v => v ≠ ""),
    Std.ExtTreeMap.toList_filter, ← ofList_toList (p.fields.map fun _ v => v.canonical),
    Std.ExtTreeMap.toList_map]

/-- Tags are read up to the blank behind them. -/
theorem readAll?_tags {ts : List (String × String)}
    (hnames : ∀ t ∈ ts, t.2 ≠ "" → IsClosed t.1.toList ∧ IsClosed t.2.toList)
    (rest : List Char) : readAll? continues readTag? (tags ts ++ ' ' :: rest) =
      some (ts.filter (·.2 ≠ ""), ' ' :: rest) := by
  have htag : ∀ t ∈ ts.filter (·.2 ≠ ""), ∀ rest, StopsAt valueStops rest →
      readTag? (tag t ++ rest) = some (id t, rest) := by
    intro t ht rest hrest
    obtain ⟨hmem, hvalue⟩ := List.mem_filter.1 ht
    obtain ⟨hkey, hvalue⟩ := hnames t hmem (of_decide_eq_true hvalue)
    exact readTag?_tag hkey hvalue hrest
  have hread : readAll? continues readTag? ((ts.filter (·.2 ≠ "")).flatMap tag ++ ' ' :: rest) =
      some ((ts.filter (·.2 ≠ "")).map id, ' ' :: rest) :=
    readAll?_flatMap _ tag id _ (fun _ _ => rfl) (fun _ _ => ⟨',', _, rfl, by decide⟩)
      (fun _ => List.cons_ne_nil _ _) htag rfl ⟨' ', rest, rfl, by decide⟩
  rw [tags_eq, hread, List.map_id]

/-- Behind the measurement there is a tag or the blank in front of the fields. -/
theorem stopsAt_tags (ts : List (String × String)) (rest : List Char) :
    StopsAt measurementStops (tags ts ++ ' ' :: rest) := by
  rw [tags_eq]
  cases ts.filter (·.2 ≠ "") with
  | nil => exact ⟨' ', rest, rfl, by decide⟩
  | cons t ts => exact ⟨',', _, rfl, by decide⟩

theorem ofPoint_append (p : Point) (rest : List Char) :
    ofPoint p ++ rest = escape measurementStops p.measurement.toList ++ (tags p.tags.toList ++
      ' ' :: (fields p.fields.toList ++ ' ' :: (Numeral.ofInt p.timestamp.toInt ++ rest))) := by
  simp [ofPoint]

/-- The timestamp stands in front of the line end. -/
theorem readInt64?_line (t : Int64) (rest : List Char) :
    Numeral.readInt64? ((Numeral.ofInt t.toInt ++ '\n' :: rest).takeWhile (· ≠ '\n')) = some t ∧
      (Numeral.ofInt t.toInt ++ '\n' :: rest).dropWhile (· ≠ '\n') = '\n' :: rest := by
  have hline : ∀ c ∈ Numeral.ofInt t.toInt, decide (c ≠ '\n') = true := by
    refine fun c hc => decide_eq_true ?_
    rintro rfl
    exact not_mem_ofInt rfl (by decide) _ hc
  rw [List.takeWhile_append_of_pos hline, List.dropWhile_append_of_pos hline]
  simp [readInt64?_ofInt]

/-- A line is read as its point, whatever stands behind it. -/
theorem readPoint?_ofPoint {p : Point} (hp : p.IsPlain) (hfields : p.fields.isEmpty = false)
    (rest : List Char) : readPoint? (ofPoint p ++ '\n' :: rest) = some (p.told, rest) := by
  have hmeasurement := readName_escape (by decide) (.of_not_mem hp.measurement)
    (stopsAt_tags p.tags.toList (fields p.fields.toList ++
      ' ' :: (Numeral.ofInt p.timestamp.toInt ++ '\n' :: rest)))
  have htags : ∀ rest, readAll? continues readTag? (tags p.tags.toList ++ ' ' :: rest) =
      some (p.tags.toList.filter (·.2 ≠ ""), ' ' :: rest) :=
    readAll?_tags fun t ht _ => (hp.tags t ht).imp .of_not_mem .of_not_mem
  have hread : readFields? (fields p.fields.toList ++
      ' ' :: (Numeral.ofInt p.timestamp.toInt ++ '\n' :: rest)) =
        some (p.fields.toList.map fun f => (f.1, f.2.canonical),
          ' ' :: (Numeral.ofInt p.timestamp.toInt ++ '\n' :: rest)) := by
    refine readFields?_fields (toList_ne_nil hfields) fun f hf => .of_not_mem (hp.fields f.1 ?_)
    rw [← Std.ExtTreeMap.map_fst_toList_eq_keys]
    exact List.mem_map_of_mem hf
  obtain ⟨htime, hend⟩ := readInt64?_line p.timestamp rest
  rw [ofPoint_append, readPoint?, hmeasurement]
  simp only [htags, behind?, hread, htime, hend, told_eq p, bind, Option.bind, if_true]
  rfl

/-- A body of lines is read as the points that have fields, in order. Names may hold commas,
spaces, equals signs, quotes and line feeds, or be empty. -/
theorem readPoints?_encodePoints (ps : List Point) (hps : ∀ p ∈ ps, p.IsPlain) :
    readPoints? (encodePoints ps) =
      some ((ps.filter fun p => !p.fields.isEmpty).map Point.told) := by
  have hbody : ofPoints ps =
      (ps.filter fun p => !p.fields.isEmpty).flatMap fun p => ofPoint p ++ ['\n'] := by
    induction ps with
    | nil => rfl
    | cons p ps ih =>
      rw [ofPoints] at ih
      rw [ofPoints, List.flatMap_cons, ih fun q hq => hps q (List.mem_cons_of_mem _ hq)]
      cases hempty : p.fields.isEmpty <;> simp [hempty]
  have hread : readAll? (· ≠ []) readPoint?
      (((ps.filter fun p => !p.fields.isEmpty).flatMap fun p => ofPoint p ++ ['\n']) ++ []) =
        some ((ps.filter fun p => !p.fields.isEmpty).map Point.told, []) := by
    refine readAll?_flatMap readPoint? _ Point.told (fun _ => True) ?_ (fun _ _ => trivial)
      ?_ ?_ rfl trivial
    · exact fun p rest => decide_eq_true (by simp)
    · exact fun p => by simp
    · intro p hp rest _
      obtain ⟨hmem, hfields⟩ := List.mem_filter.1 hp
      rw [List.append_assoc]
      exact readPoint?_ofPoint (hps p hmem) (by simpa using hfields) rest
  rw [readPoints?, encodePoints, String.toList_ofList, hbody, ← List.append_nil (List.flatMap _ _),
    hread]
  rfl

/-- A point whose names and text hold what ends names and texts, and one without fields. -/
private def delimited : List Point :=
  [⟨"disk, usage", (∅ : Tags).insertMany [("k=v", "x,y"), ("left out", "")],
      (∅ : Fields).insertMany [("a b", .string "say \"\\\"\n"), ("\"", .integer (-5))], -1⟩,
    ⟨"cpu", ∅, ∅, 0⟩]

theorem readPoints?_delimited :
    readPoints? (encodePoints delimited) =
      some ((delimited.filter fun p => !p.fields.isEmpty).map Point.told) :=
  readPoints?_encodePoints delimited fun p hp => by
    rcases List.mem_cons.1 hp with rfl | hp
    · exact ⟨by decide, by decide, by decide⟩
    · rw [List.mem_singleton.1 hp]
      exact ⟨by decide, by decide, by decide⟩

end SeriesReplica.Point.Line
