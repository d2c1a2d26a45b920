import SeriesReplica.Time.Calendar
import SeriesReplica.Toml.Value

/-!
Reading the simple parts of TOML: blanks and comments, keys, texts, numbers, and dates.
-/
namespace SeriesReplica.Toml
open Text Numeric Time

namespace Scalar

def isSpace (c : Char) : Bool := c = ' ' || c = '\t'

/-- Drops blanks on the line. -/
def skipSpaces (cs : List Char) : List Char := cs.dropWhile isSpace

/-- Whether a character may stand in a text or a comment. -/
def isPlain (c : Char) : Bool := c = '\t' || (0x20 ≤ c.toNat && c.toNat ≠ 0x7F)

/-- Drops blanks, a comment and the end of the line; nothing else may stand there. -/
def endLine? (cs : List Char) : Option (List Char) :=
  let cs := match skipSpaces cs with
    | '#' :: cs => cs.dropWhile isPlain
    | cs => cs
  match cs with
  | [] => some []
  | '\n' :: cs => some cs
  | '\r' :: '\n' :: cs => some cs
  | _ => none

/-- Drops blanks, comments and line ends. -/
def skipLines (inComment : Bool) : List Char → List Char
  | [] => []
  | '\r' :: '\n' :: cs => skipLines false cs
  | c :: cs =>
    if c = '\n' then skipLines false cs
    else if inComment && isPlain c then skipLines true cs
    else if !inComment && c = '#' then skipLines true cs
    else if !inComment && isSpace c then skipLines false cs
    else c :: cs

/-- The value of a digit of any base up to sixteen. -/
private def digitValue? (c : Char) : Option Nat :=
  if c.isDigit then some (c.toNat - '0'.toNat)
  else if 'a' ≤ c ∧ c ≤ 'f' then some (c.toNat - 'a'.toNat + 10)
  else if 'A' ≤ c ∧ c ≤ 'F' then some (c.toNat - 'A'.toNat + 10)
  else none

/-- Reads digits of a base. -/
private def radixNat? (base : Nat) (digits : List Char) : Option Nat :=
  digits.foldlM (fun n c => do
    let d ← digitValue? c
    if d < base then some (n * base + d) else none) 0

/-- The character with the given code in hexadecimal digits. -/
private def coded? (digits : List Char) : Option Char := do
  let n ← radixNat? 16 digits
  if n < 0xD800 ∨ (0xDFFF < n ∧ n ≤ 0x10FFFF) then some (Char.ofNat n) else none

private def unescape : Char → Option Char
  | 'b' => some '\x08'
  | 't' => some '\t'
  | 'n' => some '\n'
  | 'f' => some '\x0c'
  | 'r' => some '\r'
  | '"' => some '"'
  | '\\' => some '\\'
  | _ => none

/-- Reads up to the closing double quote; characters read before are given in reverse. -/
private def basic? (seen : List Char) : List Char → Option (List Char × List Char)
  | [] => none
  | '"' :: cs => some (seen.reverse, cs)
  | '\\' :: 'u' :: a :: b :: c :: d :: cs => do basic? ((← coded? [a, b, c, d]) :: seen) cs
  | '\\' :: 'U' :: a :: b :: c :: d :: e :: f :: g :: h :: cs => do
    basic? ((← coded? [a, b, c, d, e, f, g, h]) :: seen) cs
  | '\\' :: c :: cs => do basic? ((← unescape c) :: seen) cs
  | c :: cs => if isPlain c then basic? (c :: seen) cs else none

/-- Whether only blanks stand before the end of the line. -/
private def isBlankLine (cs : List Char) : Bool :=
  match skipSpaces cs with
  | '\n' :: _ | '\r' :: '\n' :: _ => true
  | _ => false

/-- Reads up to three closing double quotes, before which one or two may stand for themselves.
After a backslash at the end of a line, blanks and line ends are dropped. -/
private def basicLines? (trimming : Bool) (seen : List Char) :
    List Char → Option (List Char × List Char)
  | [] => none
  | '"' :: '"' :: '"' :: '"' :: '"' :: cs => some (('"' :: '"' :: seen).reverse, cs)
  | '"' :: '"' :: '"' :: '"' :: cs => some (('"' :: seen).reverse, cs)
  | '"' :: '"' :: '"' :: cs => some (seen.reverse, cs)
  | '\r' :: '\n' :: cs => basicLines? trimming (if trimming then seen else '\n' :: seen) cs
  | '\\' :: 'u' :: a :: b :: c :: d :: cs => do
    basicLines? false ((← coded? [a, b, c, d]) :: seen) cs
  | '\\' :: 'U' :: a :: b :: c :: d :: e :: f :: g :: h :: cs => do
    basicLines? false ((← coded? [a, b, c, d, e, f, g, h]) :: seen) cs
  | '\\' :: c :: cs =>
    if isBlankLine (c :: cs) then basicLines? true seen (c :: cs)
    else (unescape c).bind fun d => basicLines? false (d :: seen) cs
  | c :: cs =>
    if trimming && (isSpace c || c = '\n') then basicLines? true seen cs
    else if isPlain c || c = '\n' then basicLines? false (c :: seen) cs
    else none

/-- Reads up to the closing single quote. -/
private def literal? (cs : List Char) : Option (List Char × List Char) :=
  match cs.dropWhile fun c => isPlain c && c ≠ '\'' with
  | '\'' :: rest => some (cs.takeWhile fun c => isPlain c && c ≠ '\'', rest)
  | _ => none

/-- Reads up to three closing single quotes, before which one or two may stand for
themselves. -/
private def literalLines? (seen : List Char) : List Char → Option (List Char × List Char)
  | [] => none
  | '\'' :: '\'' :: '\'' :: '\'' :: '\'' :: cs => some (('\'' :: '\'' :: seen).reverse, cs)
  | '\'' :: '\'' :: '\'' :: '\'' :: cs => some (('\'' :: seen).reverse, cs)
  | '\'' :: '\'' :: '\'' :: cs => some (seen.reverse, cs)
  | '\r' :: '\n' :: cs => literalLines? ('\n' :: seen) cs
  | c :: cs => if isPlain c || c = '\n' then literalLines? (c :: seen) cs else none

/-- Drops a line end at the start. -/
private def dropLineEnd : List Char → List Char
  | '\n' :: cs => cs
  | '\r' :: '\n' :: cs => cs
  | cs => cs

/-- Reads a text of one line. -/
private def line? : List Char → Option (List Char × List Char)
  | '"' :: cs => basic? [] cs
  | '\'' :: cs => literal? cs
  | _ => none

/-- Reads a text. -/
def string? : List Char → Option (List Char × List Char)
  | '"' :: '"' :: '"' :: cs => basicLines? false [] (dropLineEnd cs)
  | '\'' :: '\'' :: '\'' :: cs => literalLines? [] (dropLineEnd cs)
  | cs => line? cs

private def isBare (c : Char) : Bool := c.isAlphanum || c = '-' || c = '_'

/-- Reads a part of a key. -/
private def keyPart? (cs : List Char) : Option (String × List Char) :=
  if (cs.takeWhile isBare).isEmpty then
    (line? cs).map fun (s, rest) => (String.ofList s, rest)
  else some (String.ofList (cs.takeWhile isBare), cs.dropWhile isBare)

private def keyFrom? (parts : List String) (cs : List Char) :
    Option (List String × List Char) := do
  let (part, rest) ← keyPart? (skipSpaces cs)
  match skipSpaces rest with
  | '.' :: rest' =>
    if rest'.length < cs.length then keyFrom? (part :: parts) rest' else none
  | rest => pure ((part :: parts).reverse, rest)
termination_by cs.length

/-- Reads a key of parts with points between them. -/
def key? (cs : List Char) : Option (List String × List Char) := keyFrom? [] cs

/-- Digits with single underscores between them. -/
private def digits? (isDigit : Char → Bool) (cs : List Char) : Option (List Char) :=
  let parts := cs.splitOn '_'
  if parts.all fun p => !p.isEmpty && p.all isDigit then some parts.flatten else none

private def splitSign (cs : List Char) : Bool × Bool × List Char :=
  match cs with
  | '-' :: cs => (true, true, cs)
  | '+' :: cs => (true, false, cs)
  | cs => (false, false, cs)

/-- Digits without a zero in front of others. -/
private def decimal? (cs : List Char) : Option (List Char) := do
  let ds ← digits? Char.isDigit cs
  if ds.head? = some '0' ∧ ds.length ≠ 1 then none else some ds

private def fits (i : Int) : Option Value :=
  if Int64.minValue.toInt ≤ i ∧ i ≤ Int64.maxValue.toInt then some (.integer i) else none

/-- An integer in digits of a base. -/
private def radix? (base : Nat) (cs : List Char) : Option Value := do
  fits (← radixNat? base (← digits? Char.isAlphanum cs))

private def integer? (cs : List Char) : Option Value :=
  match cs with
  | '0' :: 'x' :: cs => radix? 16 cs
  | '0' :: 'o' :: cs => radix? 8 cs
  | '0' :: 'b' :: cs => radix? 2 cs
  | cs => do
    let (_, negative, cs) := splitSign cs
    let n := Nat.ofDigitChars 10 (← decimal? cs) 0
    fits (if negative then -n else n)

private def exponent? (cs : List Char) : Option (List Char) :=
  let (signed, negative, cs) := splitSign cs
  (digits? Char.isDigit cs).map fun ds =>
    if signed then (if negative then '-' else '+') :: ds else ds

/-- A numeral with a fraction or an exponent, underscores dropped. -/
private def plainFloat? (cs : List Char) : Option (List Char) := do
  let isMark (c : Char) : Bool := c = '.' || c = 'e' || c = 'E'
  let whole ← decimal? (cs.takeWhile (!isMark ·))
  match cs.dropWhile (!isMark ·) with
  | '.' :: rest =>
    let isExp (c : Char) : Bool := c = 'e' || c = 'E'
    let fraction ← digits? Char.isDigit (rest.takeWhile (!isExp ·))
    match rest.dropWhile (!isExp ·) with
    | [] => pure (whole ++ '.' :: fraction)
    | _ :: e => pure (whole ++ '.' :: fraction ++ 'e' :: (← exponent? e))
  | _ :: e => pure (whole ++ 'e' :: (← exponent? e))
  | [] => none

private def float? (cs : List Char) : Option Value :=
  let (_, negative, cs) := splitSign cs
  match String.ofList cs with
  | "inf" => some (.float (.infinity negative))
  | "nan" => some (.float .nan)
  | _ => do
    let numeral ← plainFloat? cs
    let x ← Float64.read? (if negative then '-' :: numeral else numeral)
    if x.isInfinite && !negative then none else some (.float x)

private def pair? (most : Nat) : List Char → Option (List Char)
  | a :: b :: cs =>
    if a.isDigit && b.isDigit && Nat.ofDigitChars 10 [a, b] 0 ≤ most then some cs else none
  | _ => none

private def expect? (c : Char) : List Char → Option (List Char)
  | d :: cs => if c = d then some cs else none
  | [] => none

private def date? (cs : List Char) : Option (List Char) := do
  let year ← Numeral.readNat? (cs.take 4)
  let rest ← expect? '-' (cs.drop 4)
  let month ← Numeral.readNat? (rest.take 2)
  let rest ← expect? '-' (rest.drop 2)
  let day ← Numeral.readNat? (rest.take 2)
  if rest.length ≥ 2 ∧ Date.isValid ⟨year, month, day⟩ then some (rest.drop 2) else none

private def time? (cs : List Char) : Option (List Char) := do
  let cs ← expect? ':' (← pair? 23 cs)
  let cs ← expect? ':' (← pair? 59 cs)
  let cs ← pair? 60 cs
  match cs with
  | '.' :: rest =>
    if (rest.takeWhile Char.isDigit).isEmpty then none else some (rest.dropWhile Char.isDigit)
  | cs => some cs

private def offset? : List Char → Option (List Char)
  | [] => some []
  | c :: cs =>
    if c = 'Z' ∨ c = 'z' then some cs
    else if c = '+' ∨ c = '-' then do pair? 59 (← expect? ':' (← pair? 23 cs))
    else none

/-- A date, a time of day, or both with an optional offset. -/
private def isMoment (cs : List Char) : Bool :=
  match date? cs with
  | some [] => true
  | some (c :: rest) =>
    (c = 'T' || c = 't' || c = ' ') && ((time? rest).bind offset?) = some []
  | none => time? cs = some []

private def isWordChar (c : Char) : Bool :=
  c.isAlphanum || c = '_' || c = '+' || c = '-' || c = '.' || c = ':'

/-- The characters up to the next mark or blank; a date goes on with the time behind a
blank. -/
private def word (cs : List Char) : List Char × List Char :=
  let first := cs.takeWhile isWordChar
  match date? first, cs.dropWhile isWordChar with
  | some [], ' ' :: rest =>
    let second := rest.takeWhile isWordChar
    if ((pair? 99 second).bind (expect? ':')).isSome then
      (first ++ ' ' :: second, rest.dropWhile isWordChar)
    else (first, ' ' :: rest)
  | _, rest => (first, rest)

/-- Reads a value that holds no others. -/
def value? (cs : List Char) : Option (Value × List Char) :=
  match cs with
  | '"' :: _ | '\'' :: _ => (string? cs).map fun (s, rest) => (.string (String.ofList s), rest)
  | _ =>
    let (w, rest) := word cs
    let v : Option Value := match w with
      | ['t', 'r', 'u', 'e'] => some (.boolean true)
      | ['f', 'a', 'l', 's', 'e'] => some (.boolean false)
      | w => if isMoment w then some (.moment (String.ofList w)) else integer? w <|> float? w
    v.map (·, rest)

end Scalar
end SeriesReplica.Toml
