import SeriesReplica.Proofs.Point.LineReader

/-! Which points share a line. A backslash at the end of a measurement, of a tag key or of a tag
value is taken to escape what stands behind the name, so that names run together. Where none of them
ends so, a line tells its point. Field keys may end in anything: a field that ended in the wrong
place would leave a text that no quote closes. -/
namespace SeriesReplica.Point.Line
open Text Numeric

section Escaped
variable {stops special : List Char}

/-- Characters none of which is a stop without a backslash in front of it. -/
def IsEscaped (stops cs : List Char) : Prop :=
  ∀ before c behind, cs = before ++ c :: behind → c ∈ stops → before.getLast? = some '\\'

theorem escape_append (stops a b : List Char) :
    escape stops (a ++ b) = escape stops a ++ escape stops b :=
  List.flatMap_append

theorem isEscaped_escape (hstops : '\\' ∉ stops) (hspecial : ∀ c ∈ stops, c ∈ special)
    (cs : List Char) : IsEscaped stops (escape special cs) := by
  induction cs with
  | nil => exact fun before c behind heq => absurd heq (by simp [escape])
  | cons d cs ih =>
    intro before c behind heq hc
    by_cases hd : d ∈ special
    · rw [escape_cons_of_mem hd] at heq
      rcases before with _ | ⟨e, _ | ⟨e', before⟩⟩
      · exact absurd ((List.cons.inj heq).1 ▸ hc) hstops
      · rw [← (List.cons.inj heq).1, List.getLast?_singleton]
      · have hlast := ih before c behind (List.cons.inj (List.cons.inj heq).2).2 hc
        rw [List.getLast?_cons_cons, List.getLast?_cons, hlast, Option.getD_some]
    · rw [escape_cons_of_not_mem hd] at heq
      rcases before with _ | ⟨e, before⟩
      · exact absurd (hspecial c hc) ((List.cons.inj heq).1 ▸ hd)
      · have hlast := ih before c behind (List.cons.inj heq).2 hc
        rw [List.getLast?_cons, hlast, Option.getD_some]

theorem isEscaped_key (key : List Char) : IsEscaped keyStops (escape keyStops key) :=
  isEscaped_escape (by decide) (fun _ hc => hc) key

theorem isEscaped_text (text : List Char) : IsEscaped ['"'] (escape textStops text) := by
  refine isEscaped_escape (by decide) (fun c hc => ?_) text
  rw [List.mem_singleton.1 hc]
  decide

/-- What stands behind a character that is not a backslash is escaped by itself. -/
theorem IsEscaped.behind {cs rest : List Char} {d : Char} (h : IsEscaped stops (cs ++ d :: rest))
    (hd : d ≠ '\\') : IsEscaped stops rest := by
  intro before c behind heq hc
  have hlast := h (cs ++ d :: before) c behind (by simp [heq]) hc
  rw [List.getLast?_append, List.getLast?_cons, Option.some_or] at hlast
  cases hbefore : before.getLast? with
  | none => exact absurd (by simpa [hbefore] using hlast) hd
  | some e => simpa [hbefore] using hlast

theorem IsEscaped.of_cons {c : Char} {cs : List Char} (h : IsEscaped stops (c :: cs))
    (hc : c ≠ '\\') : IsEscaped stops cs :=
  IsEscaped.behind (show IsEscaped stops ([] ++ c :: cs) from h) hc

/-- No stop stands behind a character that is not a backslash. -/
theorem IsEscaped.not_stop {cs rest : List Char} {c d : Char}
    (h : IsEscaped stops (cs ++ d :: c :: rest)) (hd : d ≠ '\\') : c ∉ stops :=
  fun hc => nomatch h.behind hd [] c rest rfl hc

end Escaped

section Fields

/-- What stands behind a field: the other fields and the timestamp. -/
def behindField (fs : List (String × FieldValue)) (t : Int) : List Char :=
  (fs.flatMap fun f => ',' :: field f) ++ ' ' :: Numeral.ofInt t

theorem behindField_cons (f : String × FieldValue) (fs : List (String × FieldValue)) (t : Int) :
    behindField (f :: fs) t = ',' :: (field f ++ behindField fs t) := by
  rw [behindField, List.flatMap_cons, List.cons_append, List.cons_append, List.append_assoc,
    ← behindField]

/-- Behind a field there is what ends values, which is escaped in names. -/
theorem exists_stop_behindField (fs : List (String × FieldValue)) (t : Int) :
    ∃ c cs, behindField fs t = c :: cs ∧ c ∈ valueStops ∧ c ∈ keyStops := by
  cases fs with
  | nil => exact ⟨' ', _, rfl, by decide, by decide⟩
  | cons f fs => exact ⟨',', _, behindField_cons f fs t, by decide, by decide⟩

theorem field_append (f : String × FieldValue) (rest : List Char) :
    field f ++ rest = escape keyStops f.1.toList ++ '=' :: (value f.2 ++ rest) := by
  rw [field, List.append_assoc, List.cons_append]

theorem text_append (s : String) (rest : List Char) :
    value (.string s) ++ rest = '"' :: (escape textStops s.toList ++ '"' :: rest) := by
  rw [value, List.append_assoc, List.cons_append, List.singleton_append]

/-- A value without quotes has nothing in it that matters to names. -/
theorem not_mem_scalar {v : FieldValue} (hv : ∀ s, v ≠ .string s) {c : Char}
    (hc : c = '=' ∨ c = '\\') : c ∉ value v := by
  have hdigit : c.isDigit = false := by rcases hc with rfl | rfl <;> rfl
  cases v with
  | float x =>
    rw [value]
    rcases chars_cases x with h | h | h | h
    · rw [h]
      rcases hc with rfl | rfl <;> decide
    · rw [h]
      rcases hc with rfl | rfl <;> decide
    · rw [h]
      rcases hc with rfl | rfl <;> decide
    · exact h.not_mem hdigit (by rcases hc with rfl | rfl <;> decide)
  | integer i =>
    exact (isNumeric_integer i).not_mem hdigit (by rcases hc with rfl | rfl <;> decide)
  | boolean b => cases b <;> rcases hc with rfl | rfl <;> decide
  | string s => exact absurd rfl (hv s)

/-- A quote behind a field belongs to another field. -/
theorem exists_field_of_quote {fs : List (String × FieldValue)} {t : Int} {cs rest : List Char}
    (h : behindField fs t = cs ++ '"' :: rest) :
    ∃ f fs' cs', cs = ',' :: cs' ∧ fs = f :: fs' ∧
      field f ++ behindField fs' t = cs' ++ '"' :: rest := by
  cases fs with
  | nil =>
    have hmem : '"' ∈ behindField [] t := h ▸ List.mem_append_right _ List.mem_cons_self
    rcases List.mem_cons.1 hmem with heq | hmem
    · exact absurd heq (by decide)
    · exact absurd hmem (not_mem_ofInt rfl (by decide) t)
  | cons f fs =>
    rw [behindField_cons] at h
    match cs with
    | [] => exact absurd (List.cons.inj h).1 (by decide)
    | c :: cs =>
      obtain ⟨rfl, htail⟩ := List.cons.inj h
      exact ⟨f, fs, cs, rfl, rfl, htail⟩

/-- A text that ends within a field key is followed by what would be escaped there. -/
theorem not_key_of_text_end {text inner rest : List Char} {fs : List (String × FieldValue)}
    {t : Int} (hkey : IsEscaped keyStops (text ++ inner)) :
    '"' :: behindField fs t ≠ inner ++ '=' :: rest := by
  intro heq
  obtain ⟨d, tail, htail, hd, hstop⟩ := exists_stop_behindField fs t
  rw [htail] at heq
  match inner with
  | [] => exact absurd (List.cons.inj heq).1 (by decide)
  | [c] => exact absurd ((List.cons.inj (List.cons.inj heq).2).1 ▸ hd) (by decide)
  | c :: c' :: inner =>
    obtain ⟨hquote, heq⟩ := List.cons.inj heq
    rw [← hquote, ← (List.cons.inj heq).1] at hkey
    exact hkey.not_stop (by decide) hstop

/-- A field key that ends within a text is followed by a value. If that is a text, the first text
ends where it begins, and then it lies across a field of the first line; otherwise the first text
lies across the next field of the second line. -/
theorem next_of_key_end {inner : List Char} {v : FieldValue} {fs gs : List (String × FieldValue)}
    {t u : Int} (hinner : IsEscaped ['"'] inner)
    (heq : value v ++ behindField gs u = inner ++ '"' :: behindField fs t) :
    (∃ f fs' text, fs = f :: fs' ∧ IsEscaped ['"'] text ∧
      text ++ '"' :: behindField gs u = field f ++ behindField fs' t) ∨
    (∃ g gs' text, gs = g :: gs' ∧ IsEscaped ['"'] text ∧
      text ++ '"' :: behindField fs t = field g ++ behindField gs' u) := by
  by_cases hv : ∃ s, v = .string s
  · obtain ⟨s, rfl⟩ := hv
    have htext := isEscaped_text s.toList
    match inner with
    | [] =>
      rw [text_append] at heq
      have hbehind := (List.cons.inj heq).2
      obtain ⟨f, fs', text, hcons, hfs, hfield⟩ := exists_field_of_quote hbehind.symm
      rw [hcons] at htext
      exact .inl ⟨f, fs', text, hfs, htext.of_cons (by decide), hfield.symm⟩
    | c :: inner =>
      obtain ⟨rfl, -⟩ := List.cons.inj heq
      exact nomatch hinner [] '"' inner rfl (by decide)
  · have hscalar := isScalar_value fun s hs => hv ⟨s, hs⟩
    rcases List.append_eq_append_iff.1 heq with ⟨text, hin, hquote⟩ | ⟨tail, hin, hquote⟩
    · obtain ⟨g, gs', text, rfl, hgs, hfield⟩ := exists_field_of_quote hquote
      rw [hin] at hinner
      exact .inr ⟨g, gs', text, hgs, hinner.behind (by decide), hfield.symm⟩
    · match tail with
      | [] =>
        obtain ⟨_, _, _, hcons, -⟩ :=
          exists_field_of_quote (hquote.symm.trans (List.nil_append _).symm)
        cases hcons
      | c :: tail =>
        obtain ⟨rfl, -⟩ := List.cons.inj hquote
        exact absurd rfl (hscalar '"' (hin ▸ List.mem_append_right _ List.mem_cons_self)).2

/-- The inside of a text and a field key do not begin at the same place of a line. Whichever ends
first, there is again a text of one reading at a field key of the other, up to the last field. -/
theorem text_ne_key {text key : List Char} {v : FieldValue} {fs gs : List (String × FieldValue)}
    {t u : Int} (htext : IsEscaped ['"'] text) (hkey : IsEscaped keyStops key) :
    text ++ '"' :: behindField fs t ≠ key ++ '=' :: (value v ++ behindField gs u) := by
  intro heq
  rcases List.append_eq_append_iff.1 heq with ⟨inner, rfl, hrest⟩ | ⟨inner, htail, hrest⟩
  · exact not_key_of_text_end hkey hrest
  · match inner with
    | [] => exact absurd (List.cons.inj hrest).1 (by decide)
    | c :: inner =>
      obtain ⟨rfl, hbehind⟩ := List.cons.inj hrest
      rw [htail] at htext
      rcases next_of_key_end (htext.behind (by decide)) hbehind with
        ⟨f, fs', text', hfs, htext', heq'⟩ | ⟨g, gs', text', hgs, htext', heq'⟩
      · rw [field_append] at heq'
        exact text_ne_key htext' (isEscaped_key f.1.toList) heq'
      · rw [field_append] at heq'
        exact text_ne_key htext' (isEscaped_key g.1.toList) heq'
termination_by fs.length + gs.length
decreasing_by
  · rw [hfs, List.length_cons]
    omega
  · rw [hgs, List.length_cons]
    omega

/-- Where a field key ends in one reading, no longer key goes on in another one. -/
theorem key_end_unique {key inner : List Char} {v w : FieldValue}
    {fs gs : List (String × FieldValue)} {t u : Int}
    (hkey : IsEscaped keyStops (key ++ '=' :: inner)) :
    value v ++ behindField fs t ≠ inner ++ '=' :: (value w ++ behindField gs u) := by
  intro heq
  have hinner : IsEscaped keyStops inner := hkey.behind (by decide)
  by_cases hv : ∃ s, v = .string s
  · obtain ⟨s, rfl⟩ := hv
    rw [text_append] at heq
    match inner with
    | [] => exact absurd (List.cons.inj heq).1 (by decide)
    | c :: inner =>
      obtain ⟨rfl, htext⟩ := List.cons.inj heq
      exact text_ne_key (isEscaped_text s.toList) (hinner.of_cons (by decide)) htext
  · have hscalar : ∀ s, v ≠ .string s := fun s hs => hv ⟨s, hs⟩
    obtain ⟨d, tail, htail, hd, hstop⟩ := exists_stop_behindField fs t
    rw [htail] at heq
    rcases List.append_eq_append_iff.1 heq with ⟨rest, hin, hrest⟩ | ⟨rest, hin, hrest⟩
    · match rest with
      | [] => exact absurd ((List.cons.inj hrest).1 ▸ hd) (by decide)
      | c :: rest =>
        obtain ⟨rfl, -⟩ := List.cons.inj hrest
        exact not_mem_scalar hscalar (.inr rfl) (List.mem_of_getLast? (hinner _ d rest hin hstop))
    · match rest with
      | [] => exact absurd ((List.cons.inj hrest).1 ▸ hd) (by decide)
      | c :: rest =>
        obtain ⟨rfl, -⟩ := List.cons.inj hrest
        exact not_mem_scalar hscalar (.inl rfl) (hin ▸ List.mem_append_right _ List.mem_cons_self)

/-- A key of one reading is not a part of the key of another. -/
theorem key_not_longer {key longer : List Char} {v w : FieldValue}
    {fs gs : List (String × FieldValue)} {t u : Int} (hlonger : IsEscaped keyStops (key ++ longer))
    (heq : '=' :: (value v ++ behindField fs t) =
      longer ++ '=' :: (value w ++ behindField gs u)) : longer = [] := by
  match longer with
  | [] => rfl
  | c :: inner =>
    obtain ⟨rfl, hbehind⟩ := List.cons.inj heq
    exact absurd hbehind (key_end_unique hlonger)

/-- Names that are escaped alike are alike, also such as end in a backslash. -/
theorem escape_keyStops_inj {a b : List Char} (heq : escape keyStops a = escape keyStops b) :
    a = b := by
  -- A character behind the names closes them, so that they are read back.
  have hread : ∀ cs,
      readName keyStops (escape keyStops cs ++ ['x', '=']) = (cs ++ ['x'], ['=']) := by
    intro cs
    have hclosed : IsClosed (cs ++ ['x']) := by simp [IsClosed]
    have hstop : StopsAt keyStops ['='] := ⟨'=', [], rfl, by decide⟩
    have hname := readName_escape (by decide) hclosed hstop
    rwa [escape_append, List.append_assoc] at hname
  have hboth := (hread a).symm.trans ((congrArg _ (by rw [heq])).trans (hread b))
  exact List.append_cancel_right (congrArg Prod.fst hboth)

/-- A field and the text behind it are told by their text. -/
theorem field_append_inj {f g : String × FieldValue} {fs gs : List (String × FieldValue)}
    {t u : Int} (heq : field f ++ behindField fs t = field g ++ behindField gs u) :
    (f.1, f.2.canonical) = (g.1, g.2.canonical) ∧ behindField fs t = behindField gs u := by
  rw [field_append, field_append] at heq
  have hkeys : escape keyStops f.1.toList = escape keyStops g.1.toList := by
    rcases List.append_eq_append_iff.1 heq with ⟨longer, hkey, hrest⟩ | ⟨longer, hkey, hrest⟩
    · rw [hkey, key_not_longer (hkey ▸ isEscaped_key g.1.toList) hrest, List.append_nil]
    · rw [hkey, key_not_longer (hkey ▸ isEscaped_key f.1.toList) hrest, List.append_nil]
  rw [hkeys] at heq
  have hvalues := (List.cons.inj (List.append_cancel_left heq)).2
  have hread : ∀ (v : FieldValue) (fs : List (String × FieldValue)) (t : Int),
      readValue? (value v ++ behindField fs t) = some (v.canonical, behindField fs t) := by
    intro v fs t
    obtain ⟨c, cs, hcons, hc, -⟩ := exists_stop_behindField fs t
    exact readValue?_value v ⟨c, cs, hcons, hc⟩
  have hboth := (hread f.2 fs t).symm.trans ((congrArg readValue? hvalues).trans (hread g.2 gs u))
  obtain ⟨hvalue, hbehind⟩ := Prod.ext_iff.1 (Option.some.inj hboth)
  exact ⟨Prod.ext (String.toList_inj.1 (escape_keyStops_inj hkeys)) hvalue, hbehind⟩

/-- The fields and the timestamp of a line are told by their text, whatever the keys hold. -/
theorem fields_inj {fs gs : List (String × FieldValue)} (hfs : fs ≠ []) (hgs : gs ≠ []) {t u : Int}
    (heq : fields fs ++ ' ' :: Numeral.ofInt t = fields gs ++ ' ' :: Numeral.ofInt u) :
    (fs.map fun f => (f.1, f.2.canonical)) = (gs.map fun f => (f.1, f.2.canonical)) ∧ t = u := by
  obtain ⟨f, fs, rfl⟩ := List.exists_cons_of_ne_nil hfs
  obtain ⟨g, gs, rfl⟩ := List.exists_cons_of_ne_nil hgs
  rw [fields_cons, fields_cons, List.append_assoc, List.append_assoc] at heq
  change field f ++ behindField fs t = field g ++ behindField gs u at heq
  induction fs generalizing f g gs with
  | nil =>
    obtain ⟨hhead, hbehind⟩ := field_append_inj heq
    cases gs with
    | nil =>
      exact ⟨congrArg (· :: []) hhead, ofInt_injective (List.cons.inj hbehind).2⟩
    | cons g' gs =>
      rw [behindField_cons] at hbehind
      exact absurd (List.cons.inj hbehind).1 (by decide)
  | cons f' fs ih =>
    obtain ⟨hhead, hbehind⟩ := field_append_inj heq
    cases gs with
    | nil =>
      rw [behindField_cons] at hbehind
      exact absurd (List.cons.inj hbehind).1 (by decide)
    | cons g' gs =>
      rw [behindField_cons, behindField_cons] at hbehind
      obtain ⟨htail, htime⟩ := ih f' (List.cons_ne_nil _ _) g' gs (List.cons_ne_nil _ _)
        (List.cons.inj hbehind).2
      exact ⟨congrArg₂ List.cons hhead htail, htime⟩

end Fields

end SeriesReplica.Point.Line

namespace SeriesReplica.Point

/-- Whether a value is a float that is not a number. -/
def FieldValue.isNaN : FieldValue → Bool
  | .float x => x.isNaN
  | _ => false

theorem FieldValue.canonical_of_not_isNaN {v : FieldValue} (h : v.isNaN = false) :
    v.canonical = v := by
  cases v with
  | float x => rw [canonical, if_neg (by simpa [isNaN] using h)]
  | integer | boolean | string => rfl

/-- A point whose measurement and whose tags that are written do not end in a backslash. They may
hold backslashes anywhere else, and the field keys may end in one. -/
structure IsClosed (p : Point) : Prop where
  measurement : Line.IsClosed p.measurement.toList
  tags : ∀ t ∈ p.tags.toList, t.2 ≠ "" → Line.IsClosed t.1.toList ∧ Line.IsClosed t.2.toList

/-- A point that has fields, none of which is not a number. -/
structure IsNumbered (p : Point) : Prop where
  fields : p.fields.isEmpty = false
  numbers : ∀ f ∈ p.fields.toList, f.2.isNaN = false

/-- A point without the tags that have no value. -/
def valued (p : Point) : Point := { p with tags := p.tags.filter fun _ v => v ≠ "" }

theorem told_eq_valued {p : Point} (hp : p.IsNumbered) : p.told = p.valued := by
  have hfields : (p.fields.map fun _ v => v.canonical) = p.fields := by
    refine Std.ExtTreeMap.toList_inj.1 ?_
    rw [Std.ExtTreeMap.toList_map]
    refine (List.map_congr_left fun f hf => ?_).trans (List.map_id _)
    exact Prod.ext rfl (FieldValue.canonical_of_not_isNaN (hp.numbers f hf))
  rw [told, hfields]
  rfl

end SeriesReplica.Point

namespace SeriesReplica.Point.Line
open Text Numeric

/-- Tags without a value are not written. -/
theorem ofPoint_valued (p : Point) : ofPoint p.valued = ofPoint p := by
  have htags : tags p.valued.tags.toList = tags p.tags.toList := by
    rw [tags_eq, tags_eq, Point.valued, Std.ExtTreeMap.toList_filter, List.filter_filter]
    simp only [Bool.and_self]
  rw [ofPoint, ofPoint, htags]
  rfl

/-- Points whose names do not end in a backslash are told by their lines. -/
theorem told_eq_of_ofPoint_eq {p q : Point} (hp : p.IsClosed) (hq : q.IsClosed)
    (hpf : p.fields.isEmpty = false) (hqf : q.fields.isEmpty = false)
    (heq : ofPoint p = ofPoint q) : p.told = q.told := by
  have hname : ∀ r : Point, r.IsClosed → readName measurementStops (ofPoint r) =
      (r.measurement.toList, tags r.tags.toList ++ ' ' :: (fields r.fields.toList ++
        ' ' :: Numeral.ofInt r.timestamp.toInt)) := by
    intro r hr
    have hline := ofPoint_append r []
    rw [List.append_nil, List.append_nil] at hline
    rw [hline]
    exact readName_escape (by decide) hr.measurement (stopsAt_tags _ _)
  have hbehind := (hname p hp).symm.trans ((congrArg _ heq).trans (hname q hq))
  obtain ⟨hmeasurement, htail⟩ := Prod.ext_iff.1 hbehind
  have htags := (readAll?_tags hp.tags _).symm.trans
    ((congrArg _ htail).trans (readAll?_tags hq.tags _))
  obtain ⟨htags, htail⟩ := Prod.ext_iff.1 (Option.some.inj htags)
  obtain ⟨hfields, htime⟩ := fields_inj (toList_ne_nil hpf) (toList_ne_nil hqf)
    (List.cons.inj htail).2
  rw [told_eq p, told_eq q, show p.measurement.toList = q.measurement.toList from hmeasurement,
    show p.tags.toList.filter (·.2 ≠ "") = q.tags.toList.filter (·.2 ≠ "") from htags, hfields,
    Int64.toInt_inj.1 htime]

/-- What two sets of stops escape one after the other, both escape at once. -/
theorem escape_escape (cs : List Char) :
    escape measurementStops (escape ['='] cs) = escape keyStops cs := by
  rw [escape, escape, escape, List.flatMap_assoc]
  congr 1
  funext c
  by_cases hc : c = '='
  · subst hc
    rfl
  · simp [measurementStops, keyStops, hc]

/-- The point that a backslash at the end of the measurement makes of a point: the comma in front
of its first tag is taken to belong to the measurement. -/
def absorbed (p : Point) (k v : String) : Point where
  measurement := String.ofList (p.measurement.toList.dropLast ++
    ',' :: (escape ['='] k.toList ++ '=' :: escape ['='] v.toList))
  tags := p.tags.filter fun l _ => l ≠ k
  fields := p.fields
  timestamp := p.timestamp

/-- Behind the first tag that is written the others follow. -/
theorem tags_absorbed {p : Point} {k v : String} {ts : List (String × String)}
    (hfirst : p.tags.toList.filter (·.2 ≠ "") = (k, v) :: ts) :
    tags p.tags.toList = tag (k, v) ++ tags (absorbed p k v).tags.toList := by
  have hdistinct : ∀ t ∈ ts, t.1 ≠ k := by
    have hpair := p.tags.distinct_keys_toList.filter (·.2 ≠ "")
    rw [hfirst] at hpair
    intro t ht heq
    exact List.rel_of_pairwise_cons hpair ht (Std.LawfulEqCmp.compare_eq_iff_eq.2 heq.symm)
  have hothers : (absorbed p k v).tags.toList.filter (·.2 ≠ "") = ts := by
    have hcomm : (absorbed p k v).tags.toList.filter (·.2 ≠ "") =
        (p.tags.toList.filter (·.2 ≠ "")).filter (·.1 ≠ k) := by
      rw [absorbed, Std.ExtTreeMap.toList_filter, List.filter_filter, List.filter_filter]
      exact List.filter_congr fun _ _ => Bool.and_comm _ _
    rw [hcomm, hfirst, List.filter_cons_of_neg (by simp)]
    exact List.filter_eq_self.2 fun t ht => decide_eq_true (hdistinct t ht)
  rw [tags_eq, tags_eq, hfirst, hothers, List.flatMap_cons]

/-- Such points share a line. -/
theorem ofPoint_absorbed {p : Point} {k v : String} {ts : List (String × String)}
    (hlast : p.measurement.toList.getLast? = some '\\')
    (hfirst : p.tags.toList.filter (·.2 ≠ "") = (k, v) :: ts) :
    ofPoint (absorbed p k v) = ofPoint p := by
  obtain ⟨m, hm⟩ := List.getLast?_eq_some_iff.1 hlast
  have hmeasurement : escape measurementStops (absorbed p k v).measurement.toList =
      escape measurementStops p.measurement.toList ++ tag (k, v) := by
    rw [absorbed, String.toList_ofList, hm, List.dropLast_concat, escape_append, escape_append,
      escape_cons_of_mem (by decide), escape_append, escape_cons_of_not_mem (by decide),
      escape_cons_of_not_mem (by decide), escape_escape, escape_escape, tag]
    simp [escape]
  rw [ofPoint, ofPoint, hmeasurement, tags_absorbed hfirst]
  simp [absorbed]

/-- Whether a point shares its line with a point of another measurement, which may be what is
stored in its place. -/
def IsMistaken (p : Point) : Prop :=
  ∃ q : Point, q.measurement ≠ p.measurement ∧ q.fields = p.fields ∧ q.timestamp = p.timestamp ∧
    encodePoint q = encodePoint p

theorem isMistaken_of_backslash {p : Point} (hlast : p.measurement.toList.getLast? = some '\\')
    (htags : p.valued.tags ≠ ∅) : IsMistaken p := by
  have hne : p.tags.toList.filter (·.2 ≠ "") ≠ [] := by
    rw [← Std.ExtTreeMap.toList_filter (f := fun _ v => decide (v ≠ ""))]
    exact fun hnil => htags (Std.ExtTreeMap.toList_eq_nil_iff.1 hnil)
  obtain ⟨⟨k, v⟩, ts, hfirst⟩ := List.exists_cons_of_ne_nil hne
  refine ⟨absorbed p k v, fun heq => ?_, rfl, rfl,
    congrArg String.ofList (ofPoint_absorbed hlast hfirst)⟩
  -- The other measurement is longer.
  have hlength := congrArg List.length (String.toList_inj.2 heq)
  simp only [absorbed, String.toList_ofList, List.length_append, List.length_cons,
    List.length_dropLast] at hlength
  omega

/-- Lines tell points apart, up to tags without a value, where no measurement and no tag that is
written ends in a backslash; with tags, a measurement that ends in one is always mistaken. -/
theorem encodePoint_eq_iff {p q : Point} (hp : p.IsNumbered) (hq : q.IsNumbered) :
    (p.IsClosed → q.IsClosed → (encodePoint p = encodePoint q ↔ p.valued = q.valued)) ∧
      (p.measurement.toList.getLast? = some '\\' → p.valued.tags ≠ ∅ → IsMistaken p) := by
  refine ⟨fun hpc hqc => ⟨fun heq => ?_, fun heq => ?_⟩, isMistaken_of_backslash⟩
  · rw [← told_eq_valued hp, ← told_eq_valued hq]
    exact told_eq_of_ofPoint_eq hpc hqc hp.fields hq.fields (String.ofList_inj.1 heq)
  · rw [encodePoint, encodePoint, ← ofPoint_valued p, heq, ofPoint_valued q]

/-- A point with the given tags and one integer field, at no other time than the others. -/
private def marked (measurement : String) (ts : List (String × String)) (key : String) : Point :=
  ⟨measurement, (∅ : Tags).insertMany ts, (∅ : Fields).insertMany [(key, .integer 1)], 5⟩

private theorem isNumbered_marked (measurement : String) (ts : List (String × String))
    (key : String) : (marked measurement ts key).IsNumbered := by
  have hfields : (marked measurement ts key).fields = (∅ : Fields).insert key (.integer 1) :=
    Std.ExtTreeMap.insertMany_list_singleton
  refine ⟨by simp [hfields], fun f hf => ?_⟩
  rw [hfields, Std.ExtTreeMap.mem_toList_iff_getElem?_eq_some, Std.ExtTreeMap.getElem?_insert] at hf
  split at hf
  · rw [← Option.some.inj hf]
    rfl
  · rw [Std.ExtTreeMap.getElem?_empty] at hf
    cases hf

theorem encodePoint_eq_iff_path :
    encodePoint (marked "disk\\c, d" [("path", "C:\\a b"), ("left out", "")] "free\\") =
        encodePoint (marked "disk\\c, d" [("path", "C:\\a b")] "free\\") ∧
      IsMistaken (marked "cpu\\" [("host", "a")] "v") := by
  have hpath : (marked "disk\\c, d" [("path", "C:\\a b"), ("left out", "")] "free\\").IsClosed :=
    ⟨by decide, by decide⟩
  have hpath' : (marked "disk\\c, d" [("path", "C:\\a b")] "free\\").IsClosed :=
    ⟨by decide, by decide⟩
  have hcpu : (marked "cpu\\" [("host", "a")] "v").IsNumbered := isNumbered_marked ..
  refine ⟨((encodePoint_eq_iff (isNumbered_marked ..) (isNumbered_marked ..)).1 hpath hpath').2 ?_,
    (encodePoint_eq_iff hcpu hcpu).2 ?_ ?_⟩
  · decide +kernel
  · decide +kernel
  · decide +kernel

/-- Points that share a line although they differ in more than tags without a value. -/
def Collide (p q : Point) : Prop :=
  p.IsNumbered ∧ q.IsNumbered ∧ encodePoint p = encodePoint q ∧ p.valued ≠ q.valued

/-- A backslash at the end of a measurement, of a tag key and of a tag value. -/
theorem trailing_backslashes_collide :
    Collide (marked "cpu\\" [("host", "a")] "v") (marked "cpu,host=a" [] "v") ∧
    Collide (marked "cpu" [("a\\", "b=c")] "v") (marked "cpu" [("a=b\\", "c")] "v") ∧
    Collide (marked "cpu" [("path", "C:\\")] "f v") (marked "cpu" [("path", "C: f\\")] "v") :=
  ⟨⟨isNumbered_marked .., isNumbered_marked .., by decide +kernel, by decide +kernel⟩,
    ⟨isNumbered_marked .., isNumbered_marked .., by decide +kernel, by decide +kernel⟩,
    isNumbered_marked .., isNumbered_marked .., by decide +kernel, by decide +kernel⟩

end SeriesReplica.Point.Line
