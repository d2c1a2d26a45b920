import SeriesReplica.Numeric.Shortest

/-!
JSON values and the texts they are written as. Integers are kept apart from numbers with a
fraction or an exponent; the members of an object are written in the order of the list.
-/
namespace SeriesReplica.Json
open Text Numeric

/-- A number: an integer, or a finite binary fraction. -/
inductive Number where
  | int (i : Int)
  | float (x : Float64)
  deriving DecidableEq, Repr

/-- A JSON value. -/
inductive Value where
  | null
  | bool (b : Bool)
  | number (n : Number)
  | string (s : String)
  | array (items : List Value)
  | object (members : List (String × Value))
  deriving Repr, Inhabited, BEq

namespace Number

/-- Floats are positional with at least one fraction digit while the decimal exponent is from
-5 to 15, and scientific otherwise; of two shortest decimals the even one is taken. -/
def chars : Number → List Char
  | .int i => Numeral.ofInt i
  | .float x =>
    let d := x.shortest .even
    let magnitude :=
      if -5 ≤ d.order ∧ d.order < 16 then
        if 0 ≤ d.exponent then d.positional ++ ['.', '0'] else d.positional
      else d.scientific
    if x.isNegative then '-' :: magnitude else magnitude

def toInt64? : Number → Option Int64
  | .int i =>
    if Int64.minValue.toInt ≤ i ∧ i ≤ Int64.maxValue.toInt then some (Int64.ofInt i) else none
  | .float _ => none

def toNat64? : Number → Option Nat
  | .int i => if 0 ≤ i ∧ i < Nat.pow 2 64 then some i.toNat else none
  | .float _ => none

/-- The nearest binary fraction. -/
def toFloat : Number → Float64
  | .int i => .ofInt i
  | .float x => x

end Number

/-- Quotes, backslashes and control characters are escaped, and nothing else is. -/
def escapeChar (c : Char) : List Char :=
  match c with
  | '"' => ['\\', '"']
  | '\\' => ['\\', '\\']
  | '\n' => ['\\', 'n']
  | '\r' => ['\\', 'r']
  | '\t' => ['\\', 't']
  | '\x08' => ['\\', 'b']
  | '\x0c' => ['\\', 'f']
  | c =>
    if c.toNat < 32 then
      ['\\', 'u', '0', '0', Nat.digitChar (c.toNat / 16), Nat.digitChar (c.toNat % 16)]
    else [c]

/-- A text between quotes. -/
def quoted (s : String) : List Char := '"' :: s.toList.flatMap escapeChar ++ ['"']

namespace Value

mutual

/-- The text without blanks, put in front of the given one. -/
def compactChars (v : Value) (rest : List Char) : List Char :=
  match v with
  | .null => "null".toList ++ rest
  | .bool b => (if b then "true".toList else "false".toList) ++ rest
  | .number n => n.chars ++ rest
  | .string s => quoted s ++ rest
  | .array items => '[' :: compactItems true items (']' :: rest)
  | .object members => '\x7b' :: compactMembers true members ('\x7d' :: rest)

def compactItems (first : Bool) (items : List Value) (rest : List Char) : List Char :=
  match items with
  | [] => rest
  | v :: vs => (if first then id else (',' :: ·)) (v.compactChars (compactItems false vs rest))

def compactMembers (first : Bool) (members : List (String × Value)) (rest : List Char) :
    List Char :=
  match members with
  | [] => rest
  | (k, v) :: ms =>
    (if first then id else (',' :: ·))
      (quoted k ++ ':' :: v.compactChars (compactMembers false ms rest))

end

/-- The text without blanks. -/
def compact (v : Value) : String := String.ofList (v.compactChars [])

private def newline (indent : Nat) : List Char := '\n' :: List.replicate (2 * indent) ' '

mutual

/-- The text with one item or member a line, two blanks a level, put in front of the given
one. -/
def prettyChars (indent : Nat) (v : Value) (rest : List Char) : List Char :=
  match v with
  | .array (v :: vs) =>
    '[' :: prettyItems (indent + 1) true (v :: vs) (newline indent ++ ']' :: rest)
  | .object (m :: ms) =>
    '\x7b' :: prettyMembers (indent + 1) true (m :: ms) (newline indent ++ '\x7d' :: rest)
  | v => v.compactChars rest

def prettyItems (indent : Nat) (first : Bool) (items : List Value) (rest : List Char) :
    List Char :=
  match items with
  | [] => rest
  | v :: vs =>
    (if first then id else (',' :: ·))
      (newline indent ++ prettyChars indent v (prettyItems indent false vs rest))

def prettyMembers (indent : Nat) (first : Bool) (members : List (String × Value))
    (rest : List Char) : List Char :=
  match members with
  | [] => rest
  | (k, v) :: ms =>
    (if first then id else (',' :: ·))
      (newline indent ++ quoted k ++ ':' :: ' ' ::
        prettyChars indent v (prettyMembers indent false ms rest))

end

/-- The text with one item or member a line. -/
def pretty (v : Value) : String := String.ofList (prettyChars 0 v [])

def int (i : Int) : Value := .number (.int i)

def nat (n : Nat) : Value := .number (.int n)

/-- A float, or null for one that is not finite. -/
def float (x : Float64) : Value := if x.isFinite then .number (.float x) else .null

def isNull : Value → Bool
  | .null => true
  | _ => false

def string? : Value → Option String
  | .string s => some s
  | _ => none

def bool? : Value → Option Bool
  | .bool b => some b
  | _ => none

def number? : Value → Option Number
  | .number n => some n
  | _ => none

end Value
end SeriesReplica.Json
