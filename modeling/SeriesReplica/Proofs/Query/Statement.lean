import SeriesReplica.Query.Statement
import SeriesReplica.Proofs.Numeric.Text

/-! What the text of a statement tells. Cut at the quotes that are not escaped, a text falls into
the identifiers of its statement and what stands around them, which has no quotes and no
backslashes of its own. So nothing that an identifier holds is taken for a part of the statement,
and a text tells its statement but for what lengths have below a second. -/
namespace SeriesReplica.Query
open Text Numeric Time

section Cut

/-- An identifier as it stands between its quotes. -/
def inside (cs : List Char) : List Char :=
  cs.flatMap fun c => if c = '"' ∨ c = '\\' then ['\\', c] else [c]

/-- Drops the backslashes that escape what stands behind them. -/
def unescape : List Char → List Char
  | [] => []
  | '\\' :: c :: cs => c :: unescape cs
  | c :: cs => c :: unescape cs

/-- Cuts a text at the quotes that are not escaped. A backslash escapes the character behind it. -/
def cutAtQuotes : List Char → List (List Char)
  | [] => [[]]
  | '\\' :: c :: cs => (cutAtQuotes cs).modifyHead ('\\' :: c :: ·)
  | '"' :: cs => [] :: cutAtQuotes cs
  | c :: cs => (cutAtQuotes cs).modifyHead (c :: ·)

/-- A text without quotes and backslashes. -/
def IsUnquoted (cs : List Char) : Prop := ∀ c ∈ cs, c ≠ '"' ∧ c ≠ '\\'

instance (cs : List Char) : Decidable (IsUnquoted cs) := List.decidableBAll _ cs

theorem IsUnquoted.append {cs ds : List Char} (hcs : IsUnquoted cs) (hds : IsUnquoted ds) :
    IsUnquoted (cs ++ ds) :=
  List.forall_mem_append.2 ⟨hcs, hds⟩

theorem inside_cons (c : Char) (cs : List Char) :
    inside (c :: cs) = if c = '"' ∨ c = '\\' then '\\' :: c :: inside cs else c :: inside cs := by
  rw [inside, List.flatMap_cons]
  split
  · rfl
  · rfl

theorem unescape_inside (cs : List Char) : unescape (inside cs) = cs := by
  induction cs with
  | nil => rfl
  | cons c cs ih =>
    rw [inside_cons]
    split
    case isTrue => rw [unescape, ih]
    case isFalse h =>
      rw [unescape, ih]
      exact fun _ _ heq _ => h (.inr heq)

theorem cutAtQuotes_cons {c : Char} (hquote : c ≠ '"') (hbackslash : c ≠ '\\') (cs : List Char) :
    cutAtQuotes (c :: cs) = (cutAtQuotes cs).modifyHead (c :: ·) := by
  rw [cutAtQuotes]
  · exact fun _ _ heq _ => hbackslash heq
  · exact hquote

/-- What has no quotes belongs to the first piece. -/
theorem cutAtQuotes_append {cs : List Char} (hcs : IsUnquoted cs) (rest : List Char) :
    cutAtQuotes (cs ++ rest) = (cutAtQuotes rest).modifyHead (cs ++ ·) := by
  induction cs with
  | nil => exact (congrFun List.modifyHead_id _).symm
  | cons c cs ih =>
    obtain ⟨⟨hquote, hbackslash⟩, hcs⟩ := List.forall_mem_cons.1 hcs
    rw [List.cons_append, cutAtQuotes_cons hquote hbackslash, ih hcs, List.modifyHead_modifyHead]
    rfl

/-- An identifier ends at the quote that closes it. -/
theorem cutAtQuotes_inside (cs rest : List Char) :
    cutAtQuotes (inside cs ++ '"' :: rest) = inside cs :: cutAtQuotes rest := by
  induction cs with
  | nil => rfl
  | cons c cs ih =>
    rw [inside_cons]
    split
    case isTrue =>
      rw [List.cons_append, List.cons_append, cutAtQuotes, ih]
      rfl
    case isFalse h =>
      obtain ⟨hquote, hbackslash⟩ := not_or.1 h
      rw [List.cons_append, cutAtQuotes_cons hquote hbackslash, ih]
      rfl

theorem cutAtQuotes_quote (cs rest : List Char) :
    cutAtQuotes (quote cs ++ rest) = [] :: inside cs :: cutAtQuotes rest := by
  rw [quote, List.append_assoc, List.cons_append, cutAtQuotes]
  exact congrArg ([] :: ·) (cutAtQuotes_inside cs rest)

/-- Identifiers between quotes, each with what stands behind it. -/
def quoted (pieces : List (String × List Char)) : List Char :=
  pieces.flatMap fun p => quote p.1.toList ++ p.2

theorem cutAtQuotes_quoted {lead : List Char} (hlead : IsUnquoted lead)
    {pieces : List (String × List Char)} (hpieces : ∀ p ∈ pieces, IsUnquoted p.2) :
    cutAtQuotes (lead ++ quoted pieces) =
      lead :: pieces.flatMap fun p => [inside p.1.toList, p.2] := by
  induction pieces generalizing lead with
  | nil =>
    rw [cutAtQuotes_append hlead]
    exact congrArg (· :: []) (List.append_nil lead)
  | cons p pieces ih =>
    obtain ⟨hp, hpieces⟩ := List.forall_mem_cons.1 hpieces
    rw [quoted, List.flatMap_cons, List.append_assoc, ← quoted, cutAtQuotes_append hlead,
      cutAtQuotes_quote, ih hp hpieces, List.modifyHead_cons, List.append_nil]
    rfl

/-- The pieces of a text tell the identifiers and what stands around them. -/
theorem pieces_inj {ps qs : List (String × List Char)}
    (h : (ps.flatMap fun p => [inside p.1.toList, p.2]) =
      qs.flatMap fun q => [inside q.1.toList, q.2]) : ps = qs := by
  induction ps generalizing qs with
  | nil =>
    cases qs with
    | nil => rfl
    | cons q qs => cases h
  | cons p ps ih =>
    cases qs with
    | nil => cases h
    | cons q qs =>
      obtain ⟨hname, hrest⟩ := List.cons.inj h
      obtain ⟨hbehind, hrest⟩ := List.cons.inj hrest
      have hnames := congrArg unescape hname
      rw [unescape_inside, unescape_inside] at hnames
      rw [ih hrest, Prod.ext (String.toList_inj.1 hnames) hbehind]

end Cut

section Clauses

/-- Lengths that a statement says alike: both without end, or of as many whole seconds, at least
one. -/
def SameLength (d e : Span) : Prop :=
  (d.nanos = 0 ↔ e.nanos = 0) ∧ (d.nanos ≠ 0 → max d.secs 1 = max e.secs 1)

/-- Parameters that a statement says alike. -/
structure PolicySpec.SameClauses (p q : PolicySpec) : Prop where
  duration : SameLength p.duration q.duration
  replication : max p.replication.toNat 1 = max q.replication.toNat 1
  shardDuration : SameLength p.shardDuration q.shardDuration

/-- What stands in front of a character that it does not hold is told from what stands behind. -/
theorem append_cons_inj {c : Char} {u v x y : List Char} (hu : c ∉ u) (hv : c ∉ v) :
    u ++ c :: x = v ++ c :: y ↔ u = v ∧ x = y := by
  refine ⟨fun heq => ?_, fun ⟨huv, hxy⟩ => by rw [huv, hxy]⟩
  have htake : ∀ w z : List Char, c ∉ w → (w ++ c :: z).takeWhile (· ≠ c) = w := by
    intro w z hw
    have hall : ∀ d ∈ w, decide (d ≠ c) = true := fun d hd =>
      decide_eq_true fun hdc : d = c => hw (hdc ▸ hd)
    rw [List.takeWhile_append_of_pos hall, List.takeWhile_cons_of_neg (by simp), List.append_nil]
  have huv := (htake u x hu).symm.trans ((congrArg _ heq).trans (htake v y hv))
  rw [huv] at heq
  exact ⟨huv, (List.cons.inj (List.append_cancel_left heq)).2⟩

theorem isUnquoted_of_not_mem {cs : List Char} (hquote : '"' ∉ cs) (hbackslash : '\\' ∉ cs) :
    IsUnquoted cs :=
  fun _ hc => ⟨fun heq => hquote (heq ▸ hc), fun heq => hbackslash (heq ▸ hc)⟩

theorem isUnquoted_ofNat (n : Nat) : IsUnquoted (Numeral.ofNat n) :=
  isUnquoted_of_not_mem (not_mem_ofNat rfl n) (not_mem_ofNat rfl n)

theorem isUnquoted_ofInt (i : Int) : IsUnquoted (Numeral.ofInt i) :=
  isUnquoted_of_not_mem (not_mem_ofInt rfl (by decide) i) (not_mem_ofInt rfl (by decide) i)

theorem durationClause_inj {d e : Span} :
    durationClause d = durationClause e ↔ SameLength d e := by
  have hfinite : ∀ n, "INF".toList ≠ Numeral.ofNat n ++ ['s'] := fun n heq =>
    absurd ((congrArg List.getLast? heq).trans List.getLast?_concat) (by decide)
  by_cases hd : d.nanos = 0
  · by_cases he : e.nanos = 0
    · simp [durationClause, SameLength, hd, he]
    · rw [durationClause, durationClause, if_pos hd, if_neg he]
      exact iff_of_false (hfinite _) fun h => he (h.1.1 hd)
  · by_cases he : e.nanos = 0
    · rw [durationClause, durationClause, if_neg hd, if_pos he]
      exact iff_of_false (hfinite _).symm fun h => hd (h.1.2 he)
    · rw [durationClause, durationClause, if_neg hd, if_neg he, List.append_cancel_right_eq]
      exact ⟨fun h => ⟨iff_of_false hd he, fun _ => Numeral.ofNat_injective h⟩,
        fun h => congrArg _ (h.2 hd)⟩

theorem durationClause_chars (d : Span) :
    IsUnquoted (durationClause d) ∧ ' ' ∉ durationClause d := by
  rw [durationClause]
  split
  case isTrue => decide
  case isFalse =>
    refine ⟨(isUnquoted_ofNat _).append (by decide), fun hmem => ?_⟩
    rcases List.mem_append.1 hmem with hmem | hmem
    · exact not_mem_ofNat rfl _ hmem
    · exact absurd hmem (by decide)

/-- What stands behind the number of replicas: the shard duration, if there is one, and then the
rest of the statement. -/
def shardClause (d : Span) (rest : List Char) : List Char :=
  if d.nanos = 0 then rest else "SHARD DURATION ".toList ++ (durationClause d ++ ' ' :: rest)

theorem clauses_append (p : PolicySpec) (rest : List Char) :
    p.clauses ++ ' ' :: rest = "DURATION ".toList ++ (durationClause p.duration ++
      ' ' :: ("REPLICATION ".toList ++ (Numeral.ofNat (max p.replication.toNat 1) ++
        ' ' :: shardClause p.shardDuration rest))) := by
  have hreplication : " REPLICATION ".toList = ' ' :: "REPLICATION ".toList := by simp
  have hshard : " SHARD DURATION ".toList = ' ' :: "SHARD DURATION ".toList := by simp
  unfold PolicySpec.clauses
  rw [shardClause]
  split
  · simp only [hreplication, List.append_assoc, List.cons_append, List.append_nil]
  · simp only [hreplication, hshard, List.append_assoc, List.cons_append]

theorem isUnquoted_clauses (p : PolicySpec) : IsUnquoted p.clauses := by
  have hduration := fun d => (durationClause_chars d).1
  have hfront : IsUnquoted ("DURATION ".toList ++ durationClause p.duration ++
      " REPLICATION ".toList ++ Numeral.ofNat (max p.replication.toNat 1)) :=
    ((IsUnquoted.append (by decide) (hduration _)).append (by decide)).append (isUnquoted_ofNat _)
  refine hfront.append ?_
  split
  · decide
  · exact .append (by decide) (hduration _)

/-- What stands behind the clauses does not look like a shard duration. -/
def IsPlainEnd (rest : List Char) : Prop := rest.head? ≠ some 'S'

instance (rest : List Char) : Decidable (IsPlainEnd rest) := inferInstanceAs (Decidable (_ ≠ _))

variable {x y : List Char}

theorem shardClause_inj {d e : Span} (hx : IsPlainEnd x) (hy : IsPlainEnd y) :
    shardClause d x = shardClause e y ↔ SameLength d e ∧ x = y := by
  by_cases hd : d.nanos = 0
  · by_cases he : e.nanos = 0
    · simp [shardClause, SameLength, hd, he]
    · rw [shardClause, shardClause, if_pos hd, if_neg he]
      exact iff_of_false (fun heq => hx (congrArg List.head? heq)) fun h => he (h.1.1.1 hd)
  · by_cases he : e.nanos = 0
    · rw [shardClause, shardClause, if_neg hd, if_pos he]
      exact iff_of_false (fun heq => hy (congrArg List.head? heq.symm)) fun h => hd (h.1.1.2 he)
    · rw [shardClause, shardClause, if_neg hd, if_neg he, List.append_cancel_left_eq,
        append_cons_inj (durationClause_chars d).2 (durationClause_chars e).2, durationClause_inj]

theorem clauses_inj {p q : PolicySpec} (hx : IsPlainEnd x) (hy : IsPlainEnd y) :
    p.clauses ++ ' ' :: x = q.clauses ++ ' ' :: y ↔ p.SameClauses q ∧ x = y := by
  have hreplicas : ∀ n m, Numeral.ofNat n = Numeral.ofNat m ↔ n = m :=
    fun n m => ⟨Numeral.ofNat_injective, congrArg _⟩
  rw [clauses_append, clauses_append, List.append_cancel_left_eq,
    append_cons_inj (durationClause_chars _).2 (durationClause_chars _).2,
    List.append_cancel_left_eq, append_cons_inj (not_mem_ofNat rfl _) (not_mem_ofNat rfl _),
    durationClause_inj, hreplicas, shardClause_inj hx hy]
  exact ⟨fun ⟨hduration, hreplication, hshard, heq⟩ => ⟨⟨hduration, hreplication, hshard⟩, heq⟩,
    fun ⟨h, heq⟩ => ⟨h.duration, h.replication, h.shardDuration, heq⟩⟩

theorem clauses_name_inj {p q : PolicySpec} :
    " WITH ".toList ++ p.clauses ++ " NAME ".toList =
      " WITH ".toList ++ q.clauses ++ " NAME ".toList ↔ p.SameClauses q := by
  have hname : " NAME ".toList = ' ' :: "NAME ".toList := by simp
  rw [hname, List.append_assoc, List.append_assoc, List.append_cancel_left_eq,
    clauses_inj (by decide) (by decide), and_iff_left rfl]

theorem clauses_default_inj {p q : PolicySpec} {b b' : Bool} :
    (' ' :: p.clauses ++ if b then " DEFAULT".toList else []) =
      (' ' :: q.clauses ++ if b' then " DEFAULT".toList else []) ↔ p.SameClauses q ∧ b = b' := by
  -- A blank at the end of both makes one stand behind the clauses in any case.
  have hblank : ∀ b : Bool, (if b then " DEFAULT".toList else []) ++ [' '] =
      ' ' :: if b then "DEFAULT ".toList else [] := by decide
  have hplain : ∀ b : Bool, IsPlainEnd (if b then "DEFAULT ".toList else []) := by decide
  have hinj : ∀ b b' : Bool, (if b then "DEFAULT ".toList else []) =
      (if b' then "DEFAULT ".toList else []) ↔ b = b' := by decide
  rw [← List.append_cancel_right_eq _ [' '] _, List.append_assoc, List.append_assoc, hblank, hblank,
    List.cons_append, List.cons_append, List.cons_inj_right, clauses_inj (hplain b) (hplain b'),
    hinj]

/-- The bounds of a window are told by the blanks behind them. -/
theorem bounds_inj {a b a' b' : Int64} :
    " WHERE time >= ".toList ++ Numeral.ofInt a.toInt ++ " AND time < ".toList ++
        Numeral.ofInt b.toInt ++ " GROUP BY *".toList =
      " WHERE time >= ".toList ++ Numeral.ofInt a'.toInt ++ " AND time < ".toList ++
        Numeral.ofInt b'.toInt ++ " GROUP BY *".toList ↔ a = a' ∧ b = b' := by
  have hand : " AND time < ".toList = ' ' :: "AND time < ".toList := by simp
  have hgroup : " GROUP BY *".toList = ' ' :: "GROUP BY *".toList := by simp
  have hblank : ∀ i : Int, ' ' ∉ Numeral.ofInt i := not_mem_ofInt rfl (by decide)
  have hinj : ∀ a b : Int64, Numeral.ofInt a.toInt = Numeral.ofInt b.toInt ↔ a = b :=
    fun a b => ⟨fun h => Int64.toInt_inj.1 (ofInt_injective h), fun h => by rw [h]⟩
  simp only [List.append_assoc, hand, hgroup, List.append_cancel_left_eq]
  rw [List.cons_append, List.cons_append, append_cons_inj (hblank _) (hblank _),
    List.append_cancel_left_eq, append_cons_inj (hblank _) (hblank _), hinj, hinj,
    and_iff_left rfl]

end Clauses

namespace Statement

/-- What a text begins with. -/
def lead : Statement → String
  | .showDatabases => "SHOW DATABASES"
  | .showPolicies _ => "SHOW RETENTION POLICIES ON "
  | .showMeasurements => "SHOW MEASUREMENTS"
  | .showFieldKeys .. => "SHOW FIELD KEYS FROM "
  | .selectWindow .. => "SELECT * FROM "
  | .createDatabase .. => "CREATE DATABASE "
  | .createPolicy .. => "CREATE RETENTION POLICY "
  | .setDefaultPolicy .. => "ALTER RETENTION POLICY "

/-- The identifiers of a statement in the order of its text, each with what stands behind it. -/
def pieces : Statement → List (String × List Char)
  | .showDatabases => []
  | .showPolicies db => [(db, [])]
  | .showMeasurements => []
  | .showFieldKeys rp m => [(rp, ['.']), (m, [])]
  | .selectWindow rp m start stop =>
    [(rp, ['.']), (m, " WHERE time >= ".toList ++ Numeral.ofInt start.epochNanos.toInt ++
      " AND time < ".toList ++ Numeral.ofInt stop.epochNanos.toInt ++ " GROUP BY *".toList)]
  | .createDatabase db default =>
    [(db, " WITH ".toList ++ default.clauses ++ " NAME ".toList), (default.name, [])]
  | .createPolicy db policy makeDefault =>
    [(policy.name, " ON ".toList),
      (db, ' ' :: policy.clauses ++ if makeDefault then " DEFAULT".toList else [])]
  | .setDefaultPolicy db name => [(name, " ON ".toList), (db, " DEFAULT".toList)]

/-- Statements that differ at most in what a text does not say. -/
def Agrees : Statement → Statement → Prop
  | .showDatabases, .showDatabases => True
  | .showPolicies db, .showPolicies db' => db = db'
  | .showMeasurements, .showMeasurements => True
  | .showFieldKeys rp m, .showFieldKeys rp' m' => rp = rp' ∧ m = m'
  | .selectWindow rp m start stop, .selectWindow rp' m' start' stop' =>
    rp = rp' ∧ m = m' ∧ start.epochNanos = start'.epochNanos ∧ stop.epochNanos = stop'.epochNanos
  | .createDatabase db default, .createDatabase db' default' =>
    db = db' ∧ default.name = default'.name ∧ default.SameClauses default'
  | .createPolicy db policy makeDefault, .createPolicy db' policy' makeDefault' =>
    db = db' ∧ policy.name = policy'.name ∧ policy.SameClauses policy' ∧ makeDefault = makeDefault'
  | .setDefaultPolicy db name, .setDefaultPolicy db' name' => db = db' ∧ name = name'
  | _, _ => False

theorem chars_eq (s : Statement) : s.chars = s.lead.toList ++ quoted s.pieces := by
  cases s <;> unfold chars lead pieces quoted <;>
    simp only [List.flatMap_cons, List.flatMap_nil, List.append_assoc, List.cons_append,
      List.append_nil, List.nil_append]

theorem isUnquoted_lead (s : Statement) : IsUnquoted s.lead.toList := by
  cases s <;> (unfold lead; dsimp only; decide)

theorem isUnquoted_pieces (s : Statement) : ∀ p ∈ s.pieces, IsUnquoted p.2 := by
  have hnil : IsUnquoted [] := by decide
  have hdot : IsUnquoted ['.'] := by decide
  have hon : IsUnquoted " ON ".toList := by decide
  have hdefault : IsUnquoted " DEFAULT".toList := by decide
  cases s with
  | showDatabases | showMeasurements => exact List.forall_mem_nil _
  | showPolicies db => exact List.forall_mem_singleton.2 hnil
  | showFieldKeys rp m => exact List.forall_mem_cons.2 ⟨hdot, List.forall_mem_singleton.2 hnil⟩
  | selectWindow rp m start stop =>
    refine List.forall_mem_cons.2 ⟨hdot, List.forall_mem_singleton.2 ?_⟩
    have hstart : IsUnquoted (" WHERE time >= ".toList ++ Numeral.ofInt start.epochNanos.toInt) :=
      .append (by decide) (isUnquoted_ofInt _)
    exact ((hstart.append (by decide)).append (isUnquoted_ofInt _)).append (by decide)
  | createDatabase db default =>
    refine List.forall_mem_cons.2 ⟨?_, List.forall_mem_singleton.2 hnil⟩
    have hclauses : IsUnquoted (" WITH ".toList ++ default.clauses) :=
      .append (by decide) (isUnquoted_clauses default)
    exact hclauses.append (by decide)
  | createPolicy db policy makeDefault =>
    refine List.forall_mem_cons.2 ⟨hon, List.forall_mem_singleton.2 ?_⟩
    have hclauses : IsUnquoted (' ' :: policy.clauses) :=
      List.forall_mem_cons.2 ⟨by decide, isUnquoted_clauses policy⟩
    cases makeDefault with
    | false => exact hclauses.append hnil
    | true => exact hclauses.append hdefault
  | setDefaultPolicy db name =>
    exact List.forall_mem_cons.2 ⟨hon, List.forall_mem_singleton.2 hdefault⟩

/-- Cut at its unescaped quotes, a text falls into its identifiers and what stands around them. -/
theorem cutAtQuotes_text (s : Statement) :
    cutAtQuotes s.text.toList =
      s.lead.toList :: s.pieces.flatMap fun p => [inside p.1.toList, p.2] := by
  rw [text, String.toList_ofList, chars_eq]
  exact cutAtQuotes_quoted s.isUnquoted_lead s.isUnquoted_pieces

theorem text_eq_iff_pieces {a b : Statement} :
    a.text = b.text ↔ a.lead = b.lead ∧ a.pieces = b.pieces := by
  refine ⟨fun h => ?_, fun ⟨hlead, hpieces⟩ => ?_⟩
  · have hcut := congrArg (fun s => cutAtQuotes s.toList) h
    simp only [cutAtQuotes_text] at hcut
    obtain ⟨hlead, hpieces⟩ := List.cons.inj hcut
    exact ⟨String.toList_inj.1 hlead, pieces_inj hpieces⟩
  · rw [text, text, chars_eq, chars_eq, hlead, hpieces]

theorem text_eq_iff_agrees (a b : Statement) : a.text = b.text ↔ a.Agrees b := by
  rw [text_eq_iff_pieces]
  cases a <;> cases b
  case showDatabases.showDatabases => exact iff_of_true ⟨rfl, rfl⟩ trivial
  case showPolicies.showPolicies db db' => simp [lead, pieces, Agrees]
  case showMeasurements.showMeasurements => exact iff_of_true ⟨rfl, rfl⟩ trivial
  case showFieldKeys.showFieldKeys rp m rp' m' => simp [lead, pieces, Agrees]
  case selectWindow.selectWindow rp m start stop rp' m' start' stop' =>
    simp only [lead, pieces, Agrees, List.cons.injEq, Prod.mk.injEq, bounds_inj, true_and, and_true]
  case createDatabase.createDatabase db default db' default' =>
    simp only [lead, pieces, Agrees, List.cons.injEq, Prod.mk.injEq, clauses_name_inj, true_and,
      and_comm, and_left_comm]
  case createPolicy.createPolicy db policy makeDefault db' policy' makeDefault' =>
    simp only [lead, pieces, Agrees, List.cons.injEq, Prod.mk.injEq, clauses_default_inj, true_and,
      and_true, and_left_comm]
  case setDefaultPolicy.setDefaultPolicy db name db' name' => simp [lead, pieces, Agrees, and_comm]
  -- Statements of different kinds begin in different ways.
  all_goals exact iff_of_false (fun h => absurd h.1 (by simp [lead])) id

/-- A text tells what its statement says, and the only quotes in it that are not escaped open and
close its identifiers. -/
theorem text_tells_statement (a b : Statement) :
    (a.text = b.text ↔ a.Agrees b) ∧
      a.text.toList = a.lead.toList ++ quoted a.pieces ∧
      cutAtQuotes a.text.toList =
        a.lead.toList :: a.pieces.flatMap fun p => [inside p.1.toList, p.2] := by
  refine ⟨text_eq_iff_agrees a b, ?_, cutAtQuotes_text a⟩
  rw [text, String.toList_ofList, chars_eq]

example : cutAtQuotes (setDefaultPolicy "d\"\\" "DEFAULT").text.toList =
    ["ALTER RETENTION POLICY ".toList, "DEFAULT".toList, " ON ".toList, "d\\\"\\\\".toList,
      " DEFAULT".toList] := by
  decide

end Statement
end SeriesReplica.Query
