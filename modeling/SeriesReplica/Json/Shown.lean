import SeriesReplica.Json.Value
import SeriesReplica.Unicode.Category

/-!
How messages show what they could not make sense of: texts between quotes with everything that
does not print escaped, lists in brackets, and JSON values by their kind.
-/
namespace SeriesReplica.Json.Shown
open Unicode

/-- Code points that do not print, or that would change how the one before looks. -/
private def hidden : CharSet :=
  (Category.set
    (["Cc", "Cf", "Cs", "Co", "Cn", "Mn", "Me"] ++ Category.separators)).diff (.ofChar ' ')

private def escapeChar (c : Char) : List Char :=
  match c with
  | '\x00' => ['\\', '0']
  | '\t' => ['\\', 't']
  | '\r' => ['\\', 'r']
  | '\n' => ['\\', 'n']
  | '"' => ['\\', '"']
  | '\\' => ['\\', '\\']
  | c =>
    if hidden.mem c.toNat then "\\u\x7b".toList ++ Nat.toDigits 16 c.toNat ++ ['\x7d'] else [c]

/-- A text between quotes. -/
def text (s : String) : List Char := '"' :: s.toList.flatMap escapeChar ++ ['"']

/-- Items with commas between them. -/
private def listed : List (List Char) → List Char
  | [] => []
  | [x] => x
  | x :: xs => x ++ ',' :: ' ' :: listed xs

/-- A list of shown items in brackets. -/
def list (items : List (List Char)) : List Char := '[' :: listed items ++ [']']

mutual

/-- A JSON value by its kind. -/
def value : Value → List Char
  | .null => "Null".toList
  | .bool b => "Bool(".toList ++ (if b then "true" else "false").toList ++ [')']
  | .number n => "Number(".toList ++ n.chars ++ [')']
  | .string s => "String(".toList ++ text s ++ [')']
  | .array items => "Array [".toList ++ listed (values items) ++ [']']
  | .object ms => "Object \x7b".toList ++ listed (members ms) ++ ['\x7d']

/-- JSON values by their kinds. -/
def values : List Value → List (List Char)
  | [] => []
  | v :: vs => value v :: values vs

private def members : List (String × Value) → List (List Char)
  | [] => []
  | (k, v) :: ms => (text k ++ ':' :: ' ' :: value v) :: members ms

end

end SeriesReplica.Json.Shown
