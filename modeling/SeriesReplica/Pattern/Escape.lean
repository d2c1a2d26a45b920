import SeriesReplica.Unicode.Age
import SeriesReplica.Unicode.Segment
import SeriesReplica.Pattern.Flags

/-!
Escapes in patterns: characters by their code, classes of characters, and conditions.
-/
namespace SeriesReplica.Pattern
open Unicode

/-- What an escape stands for. -/
inductive Atom where
  | char (c : Char)
  | set (s : CharSet)
  | look (l : Look)

namespace Escape

private def hexDigit? (c : Char) : Option Nat :=
  if c.isDigit then some (c.toNat - '0'.toNat)
  else if 'a' ≤ c ∧ c ≤ 'f' then some (c.toNat - 'a'.toNat + 10)
  else if 'A' ≤ c ∧ c ≤ 'F' then some (c.toNat - 'A'.toNat + 10)
  else none

/-- The character with the given code. -/
private def scalar? (n : Nat) : Option Char :=
  if n < 0xD800 ∨ (0xDFFF < n ∧ n ≤ lastPoint) then some (Char.ofNat n) else none

/-- Exactly the given number of hexadecimal digits. -/
private def digits? (f : Flags) (value : Nat) : Nat → List Char → Option (Nat × List Char)
  | 0, cs => some (value, cs)
  | n + 1, c :: cs => do digits? f (value * 16 + (← hexDigit? c)) n (f.skip cs)
  | _ + 1, [] => none

/-- Hexadecimal digits up to a closing brace. -/
private def braced? (f : Flags) (value : Option Nat) : List Char → Option (Nat × List Char)
  | [] => none
  | c :: cs =>
    if f.skipBlanks && Property.whiteSpace.mem c.toNat then braced? f value cs
    else if c = '\x7d' then value.map fun n => (n, f.skip cs)
    else do braced? f (some (value.getD 0 * 16 + (← hexDigit? c))) cs

/-- A character by its code. A code in two digits is a byte where Unicode is off. -/
private def hex? (f : Flags) (width : Nat) (cs : List Char) : Option (Atom × List Char) :=
  match f.skip cs with
  | '\x7b' :: cs => do
    let (n, cs) ← braced? f none cs
    pure (.char (← scalar? n), cs)
  | cs => do
    let (n, cs) ← digits? f 0 width cs
    if width = 2 ∧ 0x7F < n ∧ !f.unicode then none
    else pure (.char (← scalar? n), cs)

/-- A name in small letters without blanks and joints, and without `is` in front of it. -/
def plainName (cs : List Char) : String :=
  let (hasIs, rest) := match cs with
    | a :: b :: rest =>
      if a.toLower = 'i' ∧ b.toLower = 's' then (true, rest) else (false, cs)
    | _ => (false, cs)
  let kept := rest.filter fun c => c ≠ ' ' ∧ c ≠ '_' ∧ c ≠ '-' ∧ c.toNat ≤ 0x7F
  let name := String.ofList (kept.map Char.toLower)
  if hasIs ∧ name = "c" then "isc" else name

/-- The set of general categories with the given name. Texts hold no surrogates, so these have no
name. -/
private def category? : String → Option CharSet
  | "any" => some .full
  | "assigned" => some (Category.set ["Cn"]).complement
  | "ascii" => some ⟨[(0, 0x7F)]⟩
  | "cs" | "surrogate" => none
  | name => (Category.ofName? name).map Category.set

private def script? (name : String) : Option CharSet := (Script.ofName? name).map Script.set

/-- The set with the given name: a property, a category or a script. -/
private def named? (name : String) : Option CharSet :=
  Property.ofName? name <|> category? name <|> script? name

/-- The set of a property with a value. -/
private def valued? (property value : String) : Option CharSet :=
  match property with
  | "gc" | "generalcategory" => category? value
  | "sc" | "script" => script? value
  | "scx" | "scriptextensions" => (Script.ofName? value).map Script.extendedSet
  | "age" => Age.ofName? value
  | "gcb" | "graphemeclusterbreak" => Segment.cluster? value
  | "wb" | "wordbreak" => Segment.word? value
  | "sb" | "sentencebreak" => Segment.sentence? value
  | _ => none

/-- The position of the first of two characters that stand side by side. -/
private def splitAt? (mark : List Char) (before : List Char) : List Char →
    Option (List Char × List Char)
  | [] => none
  | c :: cs =>
    if mark.isPrefixOf (c :: cs) then some (before.reverse, (c :: cs).drop mark.length)
    else splitAt? mark (c :: before) cs

/-- The set that a name in braces stands for. -/
private def query? (cs : List Char) : Option CharSet :=
  match splitAt? ['!', '='] [] cs, splitAt? [':'] [] cs, splitAt? ['='] [] cs with
  | some (p, v), _, _ => (valued? (plainName p) (plainName v)).map CharSet.complement
  | none, some (p, v), _ => valued? (plainName p) (plainName v)
  | none, none, some (p, v) => valued? (plainName p) (plainName v)
  | none, none, none => named? (plainName cs)

/-- The name of a class in braces, or of a single letter. -/
private def className? (f : Flags) (cs : List Char) : Option (List Char × List Char) :=
  match f.skip cs with
  | [] => none
  | '\x7b' :: cs =>
    let name := cs.takeWhile (· ≠ '\x7d')
    let name := if f.skipBlanks then name.filter (!Property.whiteSpace.mem ·.toNat) else name
    match cs.dropWhile (· ≠ '\x7d') with
    | _ :: cs => some (name, cs)
    | [] => none
  | c :: cs => if c = '\\' then none else some ([c], f.skip cs)

/-- A class by its name, or its complement. -/
private def class? (f : Flags) (negated : Bool) (cs : List Char) : Option (Atom × List Char) := do
  let (name, cs) ← className? f cs
  let s ← if f.unicode then query? name else none
  let s := f.fold s
  pure (.set (if negated then s.complement else s), cs)

private def isMeta (c : Char) : Bool := c ∈ "\\.+*?()|[]\x7b\x7d^$#&-~".toList

/-- A character that may stand behind a backslash for itself. -/
private def isEscapable (c : Char) : Bool :=
  isMeta c || (c.toNat ≤ 0x7F && !c.isAlphanum && c ≠ '<' && c ≠ '>')

private def wordLook (f : Flags) (l : WordLook) : Atom := .look (.word l f.wordSet)

private def wordLook? : String → Option WordLook
  | "start" => some .start
  | "end" => some .stop
  | "start-half" => some .startHalf
  | "end-half" => some .stopHalf
  | _ => none

/-- A boundary of words, of one side if a name in braces follows; braces without a name count
repetitions. -/
private def boundary? (f : Flags) (cs : List Char) : Option (Atom × List Char) :=
  let plain := (wordLook f .boundary, cs)
  let isNamed (c : Char) : Bool := c.isAlpha || c = '-'
  match cs with
  | '\x7b' :: inner =>
    match f.skip inner with
    | [] => none
    | c :: rest =>
      if isNamed c then
        let name := (c :: rest).takeWhile isNamed
        match f.skip ((c :: rest).dropWhile isNamed) with
        | '\x7d' :: rest => (wordLook? (String.ofList name)).map fun l => (wordLook f l, rest)
        | _ => none
      else some plain
  | _ => some plain

/-- Reads what follows a backslash. -/
def read? (f : Flags) : List Char → Option (Atom × List Char)
  | [] => none
  | c :: cs =>
    if isEscapable c then some (.char c, cs)
    else
      match c with
      | 'x' => hex? f 2 cs
      | 'u' => hex? f 4 cs
      | 'U' => hex? f 8 cs
      | 'p' => class? f false cs
      | 'P' => class? f true cs
      | 'a' => some (.char '\x07', cs)
      | 'f' => some (.char '\x0c', cs)
      | 't' => some (.char '\t', cs)
      | 'n' => some (.char '\n', cs)
      | 'r' => some (.char '\r', cs)
      | 'v' => some (.char '\x0b', cs)
      | 'A' => some (.look .textStart, cs)
      | 'z' => some (.look .textEnd, cs)
      | 'b' => boundary? f cs
      | 'B' => some (wordLook f .inside, cs)
      | '<' => some (wordLook f .start, cs)
      | '>' => some (wordLook f .stop, cs)
      | c => (f.letterSet? c).map fun s => (.set s, cs)

end Escape
end SeriesReplica.Pattern
