import SeriesReplica.Numeric.Shortest

/-!
Values of TOML documents, and how texts are written in them: between single quotes if that
saves escapes, and over several lines if they hold line ends.
-/
namespace SeriesReplica.Toml
open Text Numeric

/-- A TOML value. Dates and times are kept as they are written. -/
inductive Value where
  | string (s : String)
  | integer (i : Int)
  | float (x : Float64)
  | boolean (b : Bool)
  | moment (text : String)
  | array (items : List Value)
  | table (members : List (String × Value))
  deriving Repr, Inhabited

namespace Value

/-- What a text holds that decides how it is written. -/
structure Traits where
  /-- Quotes or backslashes, which single quotes keep as they are. -/
  special : Bool
  lineEnds : Bool
  /-- Control characters apart from tabs and line ends. -/
  controls : Bool
  /-- The longest run of single quotes. -/
  singles : Nat

private def isControl (c : Char) : Bool := c.toNat < 0x20 || c.toNat = 0x7F

private def longestRun (current longest : Nat) : List Char → Nat
  | [] => max current longest
  | c :: cs =>
    if c = '\'' then longestRun (current + 1) longest cs else longestRun 0 (max current longest) cs

def traits (cs : List Char) : Traits where
  special := cs.any fun c => c = '"' || c = '\\'
  lineEnds := cs.any (· = '\n')
  controls := cs.any fun c => isControl c && c ≠ '\t' && c ≠ '\n'
  singles := longestRun 0 0 cs

private def escape (lineEnds : Bool) (c : Char) : List Char :=
  match c with
  | '\x08' => ['\\', 'b']
  | '\t' => ['\\', 't']
  | '\n' => if lineEnds then ['\n'] else ['\\', 'n']
  | '\x0c' => ['\\', 'f']
  | '\r' => ['\\', 'r']
  | '"' => ['\\', '"']
  | '\\' => ['\\', '\\']
  | c =>
    if isControl c then
      ['\\', 'u', '0', '0', (Nat.digitChar (c.toNat / 16)).toUpper,
        (Nat.digitChar (c.toNat % 16)).toUpper]
    else [c]

private def single : List Char := ['\'']
private def triple (quote : Char) : List Char := List.replicate 3 quote

/-- A text between quotes. -/
def quoted (cs : List Char) : List Char :=
  let t := traits cs
  if t.special && !t.controls && t.singles < 3 then
    if t.lineEnds then triple '\'' ++ '\n' :: cs ++ triple '\''
    else if t.singles = 0 then single ++ cs ++ single
    else triple '\'' ++ cs ++ triple '\''
  else if t.lineEnds then triple '"' ++ '\n' :: cs.flatMap (escape true) ++ triple '"'
  else '"' :: cs.flatMap (escape false) ++ ['"']

end Value
end SeriesReplica.Toml
