import SeriesReplica.Json.Value

/-!
Reading JSON. A text is split into tokens, and the tokens are assembled into a tree that still
holds every member of an object in order and every numeral by its digits. A tree is lenient: a
numeral too large for a binary fraction, or a text with half a surrogate pair, becomes an error
only where its value is asked for.
-/
namespace SeriesReplica.Json
open Text Numeric

/-- A numeral by its parts; the fraction and the exponent are there if they were written. -/
structure NumeralText where
  negative : Bool
  whole : List Char
  fraction : Option (List Char)
  exponent : Option (Bool × List Char)
  deriving DecidableEq, Repr

/-- A read text that still has to be checked for numerals and texts without a value. -/
inductive Tree where
  | null
  | bool (b : Bool)
  | number (n : NumeralText)
  | string (s : Option String)
  | array (items : List Tree)
  | object (members : List (Option String × Tree))
  deriving Inhabited

inductive Token where
  | punct (c : Char)
  | word (cs : List Char)
  | number (cs : List Char)
  | string (s : Option String)
  deriving Inhabited

namespace Token

/-- What the lexer is in the middle of; characters are collected in reverse. -/
inductive Mode where
  | between
  | word (cs : List Char)
  | number (cs : List Char)
  | string (cs : List Char) (pending : Option Nat) (broken : Bool)
  | escape (cs : List Char) (pending : Option Nat) (broken : Bool)
  | hex (cs : List Char) (pending : Option Nat) (broken : Bool) (count value : Nat)

private def isPunct (c : Char) : Bool :=
  c = '[' || c = ']' || c = '\x7b' || c = '\x7d' || c = ',' || c = ':'

private def isSpace (c : Char) : Bool := c = ' ' || c = '\t' || c = '\n' || c = '\r'

private def isNumeric (c : Char) : Bool :=
  c.isDigit || c = '-' || c = '+' || c = '.' || c = 'e' || c = 'E'

private def start (c : Char) : Option (Mode × List Token) :=
  if isSpace c then some (.between, [])
  else if isPunct c then some (.between, [.punct c])
  else if c = '"' then some (.string [] none false, [])
  else if c.isDigit || c = '-' then some (.number [c], [])
  else if c.isAlpha then some (.word [c], [])
  else none

/-- Closes a token at a character that cannot belong to it. -/
private def closeAt (token : Token) (c : Char) : Option (Mode × List Token) :=
  (start c).map fun (mode, tokens) => (mode, token :: tokens)

private def unescape : Char → Option Char
  | '"' => some '"'
  | '\\' => some '\\'
  | '/' => some '/'
  | 'b' => some '\x08'
  | 'f' => some '\x0c'
  | 'n' => some '\n'
  | 'r' => some '\r'
  | 't' => some '\t'
  | _ => none

def hexDigit? (c : Char) : Option Nat :=
  if c.isDigit then some (c.toNat - '0'.toNat)
  else if 'a' ≤ c ∧ c ≤ 'f' then some (c.toNat - 'a'.toNat + 10)
  else if 'A' ≤ c ∧ c ≤ 'F' then some (c.toNat - 'A'.toNat + 10)
  else none

/-- Adds a code unit: a high surrogate waits for its partner, and a surrogate without one has
no text. -/
private def addUnit (cs : List Char) (pending : Option Nat) (broken : Bool) (unit : Nat) : Mode :=
  let isHigh := decide (0xD800 ≤ unit ∧ unit < 0xDC00)
  let isLow := decide (0xDC00 ≤ unit ∧ unit < 0xE000)
  match pending with
  | some high =>
    if isLow then
      .string (Char.ofNat (0x10000 + (high - 0xD800) * 0x400 + (unit - 0xDC00)) :: cs) none broken
    else .string cs none true
  | none =>
    if isHigh then .string cs (some unit) broken
    else if isLow then .string cs none true
    else .string (Char.ofNat unit :: cs) none broken

private def advance (mode : Mode) (c : Char) : Option (Mode × List Token) :=
  match mode with
  | .between => start c
  | .word cs => if c.isAlphanum then some (.word (c :: cs), []) else closeAt (.word cs.reverse) c
  | .number cs => if isNumeric c then some (.number (c :: cs), []) else closeAt (.number cs.reverse) c
  | .string cs pending broken =>
    if c = '"' then
      let whole := pending.isNone && !broken
      some (.between, [.string (if whole then some (String.ofList cs.reverse) else none)])
    else if c = '\\' then some (.escape cs pending broken, [])
    else if c.toNat < 32 then none
    else some (.string (c :: cs) none (broken || pending.isSome), [])
  | .escape cs pending broken =>
    if c = 'u' then some (.hex cs pending broken 0 0, [])
    else (unescape c).map fun d => (.string (d :: cs) none (broken || pending.isSome), [])
  | .hex cs pending broken count value =>
    (hexDigit? c).map fun d =>
      let value := value * 16 + d
      if count = 3 then (addUnit cs pending broken value, [])
      else (.hex cs pending broken (count + 1) value, [])

private def finish : Mode → Option (List Token)
  | .between => some []
  | .word cs => some [.word cs.reverse]
  | .number cs => some [.number cs.reverse]
  | _ => none

/-- The tokens of a text read from the given mode, after those already found, in reverse. -/
def scanFrom (mode : Mode) (found : List Token) : List Char → Option (List Token)
  | [] => (finish mode).map fun tokens => (tokens.reverse ++ found).reverse
  | c :: cs =>
    match advance mode c with
    | some (mode, tokens) => scanFrom mode (tokens.reverse ++ found) cs
    | none => none

/-- The tokens of a text. -/
def scan (cs : List Char) : Option (List Token) := scanFrom .between [] cs

end Token

namespace NumeralText

/-- Reads a numeral: no zero in front of other digits, and digits on both sides of a point. -/
def ofChars? (cs : List Char) : Option NumeralText := do
  let (negative, cs) := match cs with
    | '-' :: r => (true, r)
    | r => (false, r)
  let whole := cs.takeWhile Char.isDigit
  let cs := cs.dropWhile Char.isDigit
  if whole = [] ∨ (whole.head? = some '0' ∧ whole.length ≠ 1) then none else pure ()
  let (fraction, cs) ← match cs with
    | '.' :: r =>
      let ds := r.takeWhile Char.isDigit
      if ds = [] then none else some (some ds, r.dropWhile Char.isDigit)
    | r => some (none, r)
  let exponent ← match cs with
    | [] => some none
    | c :: r =>
      if c = 'e' ∨ c = 'E' then
        let (down, r) := match r with
          | '-' :: t => (true, t)
          | '+' :: t => (false, t)
          | t => (false, t)
        if r ≠ [] ∧ r.all Char.isDigit then some (some (down, r)) else none
      else none
  pure ⟨negative, whole, fraction, exponent⟩

private abbrev wordLimit : Nat := 18446744073709551616

/-- Takes digits into a 64-bit significand while they fit; gives the count taken and the
digits left. -/
private def takeDigits (significand taken : Nat) : List Char → Nat × Nat × List Char
  | [] => (significand, taken, [])
  | c :: cs =>
    let next := significand * 10 + (c.toNat - '0'.toNat)
    if next < wordLimit then takeDigits next (taken + 1) cs else (significand, taken, c :: cs)

/-- A significand times a power of ten, every step rounded; none beyond the finite range. -/
private def scaled (x : Float64) (exponent : Int) : Nat → Option Float64
  | 0 => some (.zero false)
  | steps + 1 =>
    if exponent.natAbs ≤ 308 then
      let power := Float64.ofDecimal false 1 exponent.natAbs
      if 0 ≤ exponent then
        let y := x.mul power
        if y.isFinite then some y else none
      else some (x.div power)
    else if x.isZero then some x
    else if 0 ≤ exponent then none
    else scaled (x.div (.ofDecimal false 1 308)) (exponent + 308) steps

/-- The value of a numeral. One without fraction and exponent is an integer if it fits 64 bits,
minus zero apart. Any other is the significand of its leading digits times a power of ten. -/
def value? (n : NumeralText) : Option Number := do
  let plain := n.fraction.isNone && n.exponent.isNone
  let magnitude := Nat.ofDigitChars 10 n.whole 0
  if plain && !n.negative && decide (magnitude < wordLimit) then return .int magnitude
  if plain && n.negative && decide (0 < magnitude ∧ magnitude ≤ Nat.pow 2 63) then
    return .int (-magnitude)
  let (significand, _, skipped) := takeDigits 0 0 n.whole
  let (significand, places, _) := takeDigits significand 0 (n.fraction.getD [])
  let shift : Int := (skipped.length : Int) - places
  let signed (x : Float64) : Number := .float (if n.negative then x.neg else x)
  match n.exponent with
  | none => return signed (← scaled (.ofNat significand) shift 4)
  | some (down, ds) =>
    let e := Nat.ofDigitChars 10 ds 0
    if Nat.pow 2 31 ≤ e then
      if significand = 0 ∨ down then return signed (.zero false) else none
    else return signed (← scaled (.ofNat significand) (shift + if down then -(e : Int) else e) 4)

end NumeralText

namespace Tree

/-- Containers may be nested to this depth. -/
abbrev depthLimit : Nat := 127

/-- An open container with what it holds so far, in reverse. -/
inductive Frame where
  | array (items : List Tree)
  | object (members : List (Option String × Tree)) (key : Option String)

/-- What may come next. -/
inductive Expect where
  | value
  | itemOrClose
  | keyOrClose
  | key
  | colon
  | commaOrClose

/-- Where the assembly of a tree stands: inside open containers, or done. -/
inductive Progress where
  | within (expect : Expect) (frames : List Frame)
  | done (tree : Tree)

/-- Puts a finished value where it belongs. -/
private def place (t : Tree) : List Frame → Progress
  | [] => .done t
  | .array items :: frames => .within .commaOrClose (.array (t :: items) :: frames)
  | .object members key :: frames =>
    .within .commaOrClose (.object ((key, t) :: members) none :: frames)

private def literal (token : Token) : Option Tree :=
  match token with
  | .word cs =>
    match String.ofList cs with
    | "null" => some .null
    | "true" => some (.bool true)
    | "false" => some (.bool false)
    | _ => none
  | .number cs => (NumeralText.ofChars? cs).map .number
  | .string s => some (.string s)
  | .punct _ => none

private def openFrame (c : Char) (frames : List Frame) : Option Progress :=
  if frames.length < depthLimit then
    if c = '[' then some (.within .itemOrClose (.array [] :: frames))
    else if c = '\x7b' then some (.within .keyOrClose (.object [] none :: frames))
    else none
  else none

private def startValue (token : Token) (frames : List Frame) : Option Progress :=
  match token with
  | .punct c => openFrame c frames
  | token => (literal token).map (place · frames)

private def advance (progress : Progress) (token : Token) : Option Progress :=
  match progress with
  | .done _ => none
  | .within expect frames =>
    match expect, token, frames with
    | .itemOrClose, .punct ']', .array _ :: frames => some (place (.array []) frames)
    | .keyOrClose, .punct '\x7d', .object _ _ :: frames => some (place (.object []) frames)
    | .value, token, frames => startValue token frames
    | .itemOrClose, token, frames => startValue token frames
    | .keyOrClose, .string s, .object members _ :: frames =>
      some (.within .colon (.object members s :: frames))
    | .key, .string s, .object members _ :: frames =>
      some (.within .colon (.object members s :: frames))
    | .colon, .punct ':', frames => some (.within .value frames)
    | .commaOrClose, .punct ',', .array items :: frames =>
      some (.within .value (.array items :: frames))
    | .commaOrClose, .punct ',', .object members key :: frames =>
      some (.within .key (.object members key :: frames))
    | .commaOrClose, .punct ']', .array items :: frames =>
      some (place (.array items.reverse) frames)
    | .commaOrClose, .punct '\x7d', .object members _ :: frames =>
      some (place (.object members.reverse) frames)
    | _, _, _ => none

private def assemble (progress : Progress) : List Token → Option Tree
  | [] => match progress with
    | .done t => some t
    | .within _ _ => none
  | token :: tokens => do assemble (← advance progress token) tokens

/-- Reads a text as one JSON value. -/
def ofChars? (cs : List Char) : Option Tree := do
  assemble (.within .value []) (← Token.scan cs)

def read? (s : String) : Option Tree := ofChars? s.toList

/-- Puts a member at its place in byte order of the keys, instead of one with its key. -/
private def insertMember {α : Type} (k : String) (v : α) :
    List (String × α) → List (String × α)
  | [] => [(k, v)]
  | (k', v') :: ms =>
    if k < k' then (k, v) :: (k', v') :: ms
    else if k = k' then (k, v) :: ms
    else (k', v') :: insertMember k v ms

mutual

/-- The value of a tree; of members with one key the last counts, and keys are in byte order. -/
def value? : Tree → Option Value
  | .null => some .null
  | .bool b => some (.bool b)
  | .number n => n.value?.map .number
  | .string s => s.map .string
  | .array items => (values? items).map .array
  | .object members => (memberValues? [] members).map .object

private def values? : List Tree → Option (List Value)
  | [] => some []
  | t :: ts => do pure ((← t.value?) :: (← values? ts))

private def memberValues? (seen : List (String × Value)) :
    List (Option String × Tree) → Option (List (String × Value))
  | [] => some seen
  | (k, t) :: ms => do memberValues? (insertMember (← k) (← t.value?) seen) ms

end

end Tree

/-- Reads a text as one JSON value. -/
def Value.read? (s : String) : Option Value := (Tree.read? s).bind Tree.value?

end SeriesReplica.Json
