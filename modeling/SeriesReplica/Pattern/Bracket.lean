import SeriesReplica.Pattern.Escape

/-!
Classes of characters in brackets: single characters, ranges, escapes, named classes and
nested brackets, joined by the operators `&&`, `--` and `~~`, which all bind alike.
-/
namespace SeriesReplica.Pattern
open Unicode

namespace Bracket

/-- What an operator makes of the sets on its sides. -/
abbrev Operator := CharSet → CharSet → CharSet

/-- An open bracket: the left side of an operator, if one came, and the items since. -/
structure Frame where
  negated : Bool
  left : Option (Operator × CharSet)
  items : CharSet

/-- What the bracket holds so far. -/
private def Frame.value (f : Flags) (frame : Frame) : CharSet :=
  match frame.left with
  | none => frame.items
  | some (op, left) => op (f.fold left) (f.fold frame.items)

private def Frame.close (f : Flags) (frame : Frame) : CharSet :=
  let s := f.fold (frame.value f)
  if frame.negated then s.complement else s.normalize

private def Frame.apply (f : Flags) (op : Operator) (frame : Frame) : Frame :=
  { frame with left := some (op, frame.value f), items := .empty }

private def Frame.add (s : CharSet) (frame : Frame) : Frame :=
  { frame with items := frame.items.union s }

/-- Dashes at the start of a bracket stand for themselves. -/
private def leadingDashes (f : Flags) (items : CharSet) : List Char → CharSet × List Char
  | '-' :: cs => leadingDashes f (items.union (.ofChar '-')) cs
  | cs => (items, if f.skipBlanks then f.skip cs else cs)

/-- Reads the start of a bracket, past the bracket itself. A closing bracket at the start stands
for itself. -/
private def start (f : Flags) (cs : List Char) : Frame × List Char :=
  let (negated, cs) := match f.skip cs with
    | '^' :: cs => (true, f.skip cs)
    | cs => (false, cs)
  let (items, cs) := leadingDashes f .empty cs
  match cs with
  | ']' :: cs =>
    if items.ranges.isEmpty then (⟨negated, none, .ofChar ']'⟩, cs)
    else (⟨negated, none, items⟩, ']' :: cs)
  | cs => (⟨negated, none, items⟩, cs)

/-- The set of a class named between colons. -/
private def named? : String → Option CharSet
  | "alnum" => some ⟨[(0x30, 0x39), (0x41, 0x5A), (0x61, 0x7A)]⟩
  | "alpha" => some ⟨[(0x41, 0x5A), (0x61, 0x7A)]⟩
  | "ascii" => some ⟨[(0, 0x7F)]⟩
  | "blank" => some ⟨[(0x09, 0x09), (0x20, 0x20)]⟩
  | "cntrl" => some ⟨[(0, 0x1F), (0x7F, 0x7F)]⟩
  | "digit" => some ⟨[(0x30, 0x39)]⟩
  | "graph" => some ⟨[(0x21, 0x7E)]⟩
  | "lower" => some ⟨[(0x61, 0x7A)]⟩
  | "print" => some ⟨[(0x20, 0x7E)]⟩
  | "punct" => some ⟨[(0x21, 0x2F), (0x3A, 0x40), (0x5B, 0x60), (0x7B, 0x7E)]⟩
  | "space" => some ⟨[(0x09, 0x0D), (0x20, 0x20)]⟩
  | "upper" => some ⟨[(0x41, 0x5A)]⟩
  | "word" => some Flags.asciiWord
  | "xdigit" => some ⟨[(0x30, 0x39), (0x41, 0x46), (0x61, 0x66)]⟩
  | _ => none

/-- Reads a class named between colons, past its opening bracket. -/
private def colonClass? (f : Flags) : List Char → Option (CharSet × List Char)
  | ':' :: cs =>
    let (negated, cs) := match cs with
      | '^' :: cs => (true, cs)
      | cs => (false, cs)
    match cs.dropWhile (· ≠ ':') with
    | ':' :: ']' :: rest =>
      (named? (String.ofList (cs.takeWhile (· ≠ ':')))).map fun s =>
        let s := f.fold s
        (if negated then s.complement else s, rest)
    | _ => none
  | _ => none

/-- Reads one item: a character, or a set from an escape. -/
private def item? (f : Flags) : List Char → Option (Atom × List Char)
  | [] => none
  | '\\' :: cs => Escape.read? f cs
  | c :: cs => some (.char c, cs)

private def atomSet? : Atom → Option CharSet
  | .char c => some (.ofChar c)
  | .set s => some s
  | .look _ => none

private def atomChar? : Atom → Option Char
  | .char c => some c
  | _ => none

/-- Reads an item or a range of two characters. A dash before a closing bracket or another dash
does not make a range. -/
private def range? (f : Flags) (cs : List Char) : Option (CharSet × List Char) := do
  let (first, cs) ← item? f cs
  match f.skip cs with
  | '-' :: rest =>
    match f.skip rest with
    | ']' :: _ | '-' :: _ => pure (← atomSet? first, f.skip cs)
    | rest =>
      let (last, rest) ← item? f rest
      let low ← atomChar? first
      let high ← atomChar? last
      if low ≤ high then pure (.ofRange low high, rest) else none
  | cs => pure (← atomSet? first, cs)

/-- The result of a step: still inside brackets, or the whole class. -/
private inductive Progress where
  | inside (frames : List Frame) (rest : List Char)
  | closed (s : CharSet) (rest : List Char)

private def step (f : Flags) (frame : Frame) (outer : List Frame) :
    List Char → Option Progress
  | [] => none
  | '[' :: cs =>
    match colonClass? f cs with
    | some (s, rest) => some (.inside (frame.add s :: outer) rest)
    | none =>
      let (inner, rest) := start f cs
      some (.inside (inner :: frame :: outer) rest)
  | ']' :: cs =>
    let s := frame.close f
    match outer with
    | [] => some (.closed s cs)
    | parent :: outer => some (.inside (parent.add s :: outer) cs)
  | '&' :: '&' :: cs => some (.inside (frame.apply f CharSet.inter :: outer) cs)
  | '-' :: '-' :: cs => some (.inside (frame.apply f CharSet.diff :: outer) cs)
  | '~' :: '~' :: cs => some (.inside (frame.apply f CharSet.symmetricDiff :: outer) cs)
  | cs => (range? f cs).map fun (s, rest) => .inside (frame.add s :: outer) rest

/-- Reads on inside open brackets; gives the class, the deepest nesting and what follows. -/
private def readFrom (f : Flags) (frames : List Frame) (deepest : Nat) (cs : List Char) :
    Option (CharSet × Nat × List Char) :=
  match frames with
  | [] => none
  | frame :: outer =>
    match step f frame outer (f.skip cs) with
    | none => none
    | some (.closed s rest) => some (s, max deepest frames.length, rest)
    | some (.inside frames' rest) =>
      if rest.length < cs.length then readFrom f frames' (max deepest frames.length) rest
      else none
termination_by cs.length

/-- Reads a class past its opening bracket; gives it with the depth of its nesting. Where Unicode
is off a class may hold ASCII only. -/
def read? (f : Flags) (cs : List Char) : Option (CharSet × Nat × List Char) := do
  let (frame, cs) := start f cs
  let (s, depth, rest) ← readFrom f [frame] 0 cs
  if f.unicode || s.ranges.all (fun (_, b) => b ≤ 0x7F) then pure (s, depth, rest) else none

end Bracket
end SeriesReplica.Pattern
