import SeriesReplica.Unicode.Property

/-!
Search patterns as expressions, and where they match. A set of positions in a text is a number
whose bit `i` stands for the position before the character `i`; an expression maps the
positions where a match may begin to those where it may end.
-/
namespace SeriesReplica.Pattern
open Unicode

/-- A condition on the words around a position. -/
inductive WordLook where
  | boundary
  | inside
  | start
  | stop
  | startHalf
  | stopHalf
  deriving DecidableEq, Repr

/-- A condition on the surroundings of a position. -/
inductive Look where
  | textStart
  | textEnd
  | lineStart
  | lineEnd
  /-- Lines may also end with a carriage return, or with both characters. -/
  | anyLineStart
  | anyLineEnd
  | word (look : WordLook) (letters : CharSet)
  deriving Repr

/-- A pattern. -/
inductive Expr where
  | empty
  | chars (set : CharSet)
  | look (look : Look)
  | cat (first second : Expr)
  | alt (left right : Expr)
  /-- At least `least` times, and at most `most` times if there is a bound. -/
  | times (e : Expr) (least : Nat) (most : Option Nat)
  deriving Repr, Inhabited

namespace WordLook

def holds (before after : Bool) : WordLook → Bool
  | .boundary => before != after
  | .inside => before == after
  | .start => !before && after
  | .stop => before && !after
  | .startHalf => !before
  | .stopHalf => !after

end WordLook

namespace Look

/-- Whether the condition holds between two characters, of which either may be missing. -/
def holds (before after : Option Char) : Look → Bool
  | .textStart => before.isNone
  | .textEnd => after.isNone
  | .lineStart => before.isNone || before = some '\n'
  | .lineEnd => after.isNone || after = some '\n'
  | .anyLineStart =>
    before.isNone || before = some '\n' || (before = some '\r' && after ≠ some '\n')
  | .anyLineEnd =>
    after.isNone || after = some '\r' || (after = some '\n' && before ≠ some '\r')
  | .word look letters =>
    let isWord (c : Option Char) : Bool := c.any fun c => letters.mem c.toNat
    look.holds (isWord before) (isWord after)

end Look

/-- The positions below `n` with the given property. -/
def positions (n : Nat) (p : Nat → Bool) : Nat :=
  (List.range n).foldl (fun s i => if p i then s ||| 1 <<< i else s) 0

/-- Applies a function a number of times, or until nothing changes. -/
def iterate (f : Nat → Nat) : Nat → Nat → Nat
  | 0, s => s
  | n + 1, s => if f s = s then s else iterate f n (f s)

/-- Adds what a function gives a number of times, or until nothing is new. -/
def grow (f : Nat → Nat) : Nat → Nat → Nat
  | 0, s => s
  | n + 1, s => if s ||| f s = s then s else grow f n (s ||| f s)

namespace Expr

/-- The positions where matches end that begin at the given positions. -/
def ends (text : Array Char) : Expr → Nat → Nat
  | .empty, s => s
  | .chars set, s =>
    (s &&& positions text.size fun i => text[i]?.any fun c => set.mem c.toNat) <<< 1
  | .look l, s =>
    s &&& positions (text.size + 1) fun i =>
      l.holds (if i = 0 then none else text[i - 1]?) text[i]?
  | .cat e f, s => f.ends text (e.ends text s)
  | .alt e f, s => e.ends text s ||| f.ends text s
  | .times e least most, s =>
    let spare := match most with
      | some n => n - least
      | none => text.size + 1
    grow (e.ends text) spare (iterate (e.ends text) least s)

/-- Whether the pattern matches somewhere in a text. -/
def occursIn (e : Expr) (text : String) : Bool :=
  let cs := text.toList.toArray
  e.ends cs (positions (cs.size + 1) fun _ => true) ≠ 0

end Expr
end SeriesReplica.Pattern
