import SeriesReplica.Unicode.Fold
import SeriesReplica.Pattern.Expr

/-!
The flags of a pattern, which change what its parts mean up to the end of the group they are
set in.
-/
namespace SeriesReplica.Pattern
open Unicode

/-- The flags in force at a place of a pattern. -/
structure Flags where
  ignoreCase : Bool
  multiLine : Bool
  dotAll : Bool
  anyLineEnd : Bool
  unicode : Bool
  skipBlanks : Bool

namespace Flags

/-- The flags at the start of a pattern. -/
def standard : Flags := ⟨false, false, false, false, true, false⟩

/-- Sets the flag of a letter. -/
def set? (f : Flags) (letter : Char) (on : Bool) : Option Flags :=
  match letter with
  | 'i' => some { f with ignoreCase := on }
  | 'm' => some { f with multiLine := on }
  | 's' => some { f with dotAll := on }
  | 'R' => some { f with anyLineEnd := on }
  | 'u' => some { f with unicode := on }
  | 'x' => some { f with skipBlanks := on }
  | 'U' => some f
  | _ => none

/-- Reads letters up to a colon or a closing parenthesis, which is given back with whether
there was any letter. A dash turns off the flags after it; nothing stands twice. -/
def read? (f : Flags) (seen : List Char) (on : Bool) :
    List Char → Option (Flags × Bool × Char × List Char)
  | [] => none
  | c :: cs =>
    if c = ':' ∨ c = ')' then
      if seen.head? = some '-' then none else some (f, !seen.isEmpty, c, cs)
    else if c ∈ seen then none
    else if c = '-' then read? f (c :: seen) false cs
    else (f.set? c on).bind fun f => read? f (c :: seen) on cs

/-- Blanks, and comments to the end of the line. -/
private def dropBlanks (inComment : Bool) : List Char → List Char
  | [] => []
  | c :: cs =>
    if inComment then dropBlanks (c ≠ '\n') cs
    else if c = '#' then dropBlanks true cs
    else if Property.whiteSpace.mem c.toNat then dropBlanks false cs
    else c :: cs

/-- What follows, past blanks and comments if these do not count. -/
def skip (f : Flags) (cs : List Char) : List Char :=
  if f.skipBlanks then dropBlanks false cs else cs

/-- Letters without case have one ASCII twin. -/
private def asciiClose (s : CharSet) : CharSet :=
  let twins := (List.range 26).filterMap fun i =>
    if s.mem (0x41 + i) || s.mem (0x61 + i) then
      some [(0x41 + i, 0x41 + i), (0x61 + i, 0x61 + i)]
    else none
  (s.union ⟨twins.flatten⟩).normalize

/-- Adds the characters that differ in case only, if case does not count. -/
def fold (f : Flags) (s : CharSet) : CharSet :=
  if f.ignoreCase then (if f.unicode then Fold.close s else asciiClose s) else s

/-- Blanks in ASCII. -/
private def asciiSpace : CharSet := ⟨[(0x09, 0x0D), (0x20, 0x20)]⟩

def asciiDigit : CharSet := ⟨[(0x30, 0x39)]⟩

def asciiWord : CharSet := ⟨[(0x30, 0x39), (0x41, 0x5A), (0x5F, 0x5F), (0x61, 0x7A)]⟩

/-- What words consist of. -/
def wordSet (f : Flags) : CharSet := if f.unicode then Property.word else asciiWord

/-- The set of an escape letter, and its complement for the capital one. Only Unicode
complements are allowed, as others would cut characters into bytes. -/
def letterSet? (f : Flags) (letter : Char) : Option CharSet :=
  match letter with
  | 'd' => some (if f.unicode then Property.decimalDigit else asciiDigit)
  | 's' => some (if f.unicode then Property.whiteSpace else asciiSpace)
  | 'w' => some f.wordSet
  | 'D' => if f.unicode then some Property.decimalDigit.complement else none
  | 'S' => if f.unicode then some Property.whiteSpace.complement else none
  | 'W' => if f.unicode then some Property.word.complement else none
  | _ => none

/-- The characters a dot stands for. -/
def dot? (f : Flags) : Option CharSet :=
  if !f.unicode then none
  else if f.dotAll then some .full
  else if f.anyLineEnd then some (CharSet.complement ⟨[(0x0A, 0x0A), (0x0D, 0x0D)]⟩)
  else some (CharSet.complement ⟨[(0x0A, 0x0A)]⟩)

def startLook (f : Flags) : Look :=
  if f.multiLine then (if f.anyLineEnd then .anyLineStart else .lineStart) else .textStart

def endLook (f : Flags) : Look :=
  if f.multiLine then (if f.anyLineEnd then .anyLineEnd else .lineEnd) else .textEnd

/-- A single character, with those that differ in case only if case does not count. -/
def literal? (f : Flags) (c : Char) : Option Expr :=
  if f.ignoreCase && !f.unicode && c.toNat > 0x7F then none
  else some (.chars (f.fold (.ofChar c)))

end Flags
end SeriesReplica.Pattern
