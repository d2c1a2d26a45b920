import SeriesReplica.Pattern.Bracket
import SeriesReplica.Pattern.Size

/-!
Reading patterns: alternatives of sequences of characters, classes, conditions and groups, each
with repetitions behind it. There are no references back and no conditions on what is around a
match, so every pattern is a regular expression.
-/
namespace SeriesReplica.Pattern
open Unicode

/-- A part of a pattern, and how deep it is nested. -/
private structure Piece where
  expr : Expr
  depth : Nat

/-- An open group, or the whole pattern: finished alternatives and the parts of the current one,
the last ones first. -/
private structure Level where
  /-- The flags outside. -/
  outside : Flags
  branches : List Piece
  items : List Piece
  /-- Whether a repetition may follow. -/
  repeatable : Bool

/-- What the reader is in. -/
private structure Progress where
  flags : Flags
  level : Level
  outer : List Level
  /-- Names of groups; each may be given once. -/
  names : List (List Char)

namespace Piece

/-- The sequence of parts given in reverse. -/
private def sequence : List Piece → Piece
  | [] => ⟨.empty, 0⟩
  | [p] => p
  | ps => ⟨ps.foldl (fun e p => match e with
      | .empty => p.expr
      | e => .cat p.expr e) .empty, (ps.foldl (fun d p => max d p.depth) 0) + 1⟩

/-- The choice between alternatives given in reverse. -/
private def choice : List Piece → Piece
  | [] => ⟨.empty, 0⟩
  | [p] => p
  | p :: ps => ⟨ps.foldl (fun e p => .alt p.expr e) p.expr,
      ((p :: ps).foldl (fun d p => max d p.depth) 0) + 1⟩

end Piece

namespace Level

private def opening (outside : Flags) : Level := ⟨outside, [], [], false⟩

private def push (l : Level) (p : Piece) : Level :=
  { l with items := p :: l.items, repeatable := true }

private def pushExpr (l : Level) (e : Expr) : Level := l.push ⟨e, 0⟩

/-- Ends an alternative. -/
private def branch (l : Level) : Level :=
  { l with branches := .sequence l.items :: l.branches, items := [], repeatable := false }

/-- The whole group. -/
private def piece (l : Level) : Piece := .choice l.branch.branches

/-- Repeats the last part. -/
private def repeatLast (l : Level) (least : Nat) (most : Option Nat) : Option Level :=
  match l.items, l.repeatable with
  | p :: ps, true => some { l with items := ⟨.times p.expr least most, p.depth + 1⟩ :: ps }
  | _, _ => none

end Level

/-- Passes over the mark of a repetition that prefers few. -/
private def dropLazy : List Char → List Char
  | '?' :: cs => cs
  | cs => cs

/-- Reads a number; blanks may stand around it. -/
private def count? (f : Flags) (cs : List Char) : Option (Nat × List Char) :=
  let blank (c : Char) : Bool := Property.whiteSpace.mem c.toNat
  let cs := cs.dropWhile blank
  let ds := (if f.skipBlanks then cs.filter (!blank ·) else cs).takeWhile Char.isDigit
  let rest := (if f.skipBlanks then cs.dropWhile (fun c => c.isDigit || blank c)
    else cs.dropWhile Char.isDigit).dropWhile blank
  (Text.Numeral.readNat? ds).bind fun n =>
    if n < Nat.pow 2 32 then some (n, f.skip rest) else none

/-- Reads the bounds of a repetition past the opening brace. -/
private def bounds? (f : Flags) (cs : List Char) : Option (Nat × Option Nat × List Char) := do
  let (least, cs) ← count? f cs
  match cs with
  | '\x7d' :: cs => some (least, some least, cs)
  | ',' :: cs =>
    match f.skip cs with
    | '\x7d' :: cs => some (least, none, cs)
    | cs =>
      let (most, cs) ← count? f cs
      match cs with
      | '\x7d' :: cs => if least ≤ most then some (least, some most, cs) else none
      | _ => none
  | _ => none

/-- Reads a group's name up to the closing bracket. -/
private def name? (cs : List Char) : Option (List Char × List Char) :=
  let name := cs.takeWhile (· ≠ '>')
  let isLetter (c : Char) : Bool := c = '_' || Property.alphabetic.mem c.toNat
  let isNamed (c : Char) : Bool :=
    isLetter c || c ∈ ['.', '[', ']'] || (Category.set Category.numbers).mem c.toNat
  match name, cs.dropWhile (· ≠ '>') with
  | c :: more, _ :: rest => if isLetter c && more.all isNamed then some (name, rest) else none
  | _, _ => none

namespace Progress

private def start : Progress := ⟨.standard, .opening .standard, [], []⟩

private def push (st : Progress) (e : Expr) : Progress :=
  { st with level := st.level.pushExpr e }

private def openWith (st : Progress) (inside : Flags) (names : List (List Char)) : Progress :=
  ⟨inside, .opening st.flags, st.level :: st.outer, names⟩

/-- Opens a named group. -/
private def openNamed (st : Progress) (cs : List Char) : Option (Progress × List Char) := do
  let (name, cs) ← name? cs
  if name ∈ st.names then none else pure (st.openWith st.flags (name :: st.names), cs)

/-- Reads what follows an opening parenthesis: a condition, which is refused, a name, flags for
the group or for what follows, or the first part of the group. -/
private def openGroup (st : Progress) (cs : List Char) : Option (Progress × List Char) :=
  match st.flags.skip cs with
  | '?' :: '=' :: _ | '?' :: '!' :: _ | '?' :: '<' :: '=' :: _ | '?' :: '<' :: '!' :: _ => none
  | '?' :: 'P' :: '<' :: cs => st.openNamed cs
  | '?' :: '<' :: cs => st.openNamed cs
  | '?' :: cs => do
    let (flags, any, closing, cs) ← st.flags.read? [] true cs
    if closing = ':' then pure (st.openWith flags st.names, cs)
    else if any then
      let level := { st.level.pushExpr .empty with repeatable := false }
      pure ({ st with flags := flags, level := level }, cs)
    else none
  | cs => some (st.openWith st.flags st.names, cs)

private def closeGroup (st : Progress) : Option Progress :=
  match st.outer with
  | [] => none
  | parent :: outer =>
    let p := st.level.piece
    some { st with
      flags := st.level.outside
      level := parent.push ⟨p.expr, p.depth + 1⟩
      outer := outer }

private def repeatLast (st : Progress) (least : Nat) (most : Option Nat) (rest : List Char) :
    Option (Progress × List Char) :=
  (st.level.repeatLast least most).map fun l => ({ st with level := l }, dropLazy rest)

private def pushAtom (st : Progress) : Atom → Option Progress
  | .char c => (st.flags.literal? c).map st.push
  | .set s => some (st.push (.chars s))
  | .look l => some (st.push (.look l))

/-- Reads one part. -/
private def step (st : Progress) : List Char → Option (Progress × List Char)
  | [] => none
  | '(' :: cs => st.openGroup cs
  | ')' :: cs => st.closeGroup.map (·, cs)
  | '|' :: cs => some ({ st with level := st.level.branch }, cs)
  | '[' :: cs => do
    let (s, depth, cs) ← Bracket.read? st.flags cs
    pure ({ st with level := st.level.push ⟨.chars s, depth⟩ }, cs)
  | '?' :: cs => st.repeatLast 0 (some 1) cs
  | '*' :: cs => st.repeatLast 0 none cs
  | '+' :: cs => st.repeatLast 1 none cs
  | '\x7b' :: cs => do
    let (least, most, cs) ← bounds? st.flags cs
    st.repeatLast least most (st.flags.skip cs)
  | '\\' :: cs => do
    let (atom, cs) ← Escape.read? st.flags cs
    pure (← st.pushAtom atom, cs)
  | '.' :: cs => st.flags.dot?.map fun s => (st.push (.chars s), cs)
  | '^' :: cs => some (st.push (.look st.flags.startLook), cs)
  | '$' :: cs => some (st.push (.look st.flags.endLook), cs)
  | c :: cs => (st.flags.literal? c).map fun e => (st.push e, cs)

private def finish (st : Progress) : Option Piece :=
  if st.outer.isEmpty then some st.level.piece else none

private def read (st : Progress) (cs : List Char) : Option Piece :=
  match st.flags.skip cs with
  | [] => st.finish
  | c :: rest =>
    match st.step (c :: rest) with
    | none => none
    | some (st, rest') => if rest'.length < cs.length then read st rest' else none
termination_by cs.length

end Progress

/-- Parts may be nested to this depth. -/
abbrev depthLimit : Nat := 250

/-- Reads a pattern. -/
def Expr.read? (s : String) : Option Expr := do
  let p ← Progress.start.read s.toList
  if p.depth ≤ depthLimit ∧ p.expr.size ≤ sizeLimit then some p.expr else none

end SeriesReplica.Pattern
