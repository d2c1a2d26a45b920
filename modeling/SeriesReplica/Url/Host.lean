import SeriesReplica.Unicode.Category
import SeriesReplica.Url.Percent

/-!
Hosts of addresses: names, and addresses of versions four and six in their many spellings.
Names beyond ASCII are checked character by character; labels that are encoded already are
taken as they are.
-/
namespace SeriesReplica.Url.Host
open Unicode

/-- Characters that no host name may hold. -/
private def isForbidden (c : Char) : Bool :=
  c.toNat ≤ 0x20 || c.toNat = 0x7F || c ∈ "#/:<>?@[\\]^|%".toList

/-- Characters without any effect in a name. -/
private def isIgnored (c : Char) : Bool :=
  let n := c.toNat
  n = 0xAD || n = 0x34F || n = 0x200B || n = 0x2060 || n = 0xFEFF || (0xFE00 ≤ n && n ≤ 0xFE0F)

/-- Categories that no name may hold. -/
private def barred : CharSet :=
  Category.set (["Cc", "Cf", "Cs", "Co", "Cn"] ++ Category.separators)

private def marks : CharSet := Category.set Category.marks

/-- What a character of a name stands for. -/
private def mapChar? (c : Char) : Option (List Char) :=
  let n := c.toNat
  if n ≤ 0x7F then (if isForbidden c then none else some [c.toLower])
  else if isIgnored c then some []
  else if n = 0x3002 ∨ n = 0xFF0E ∨ n = 0xFF61 then some ['.']
  else if 0xFF01 ≤ n ∧ n ≤ 0xFF5E then
    let d := Char.ofNat (n - 0xFEE0)
    if isForbidden d then none else some [d.toLower]
  else if barred.mem n then none
  else some [c]

/-- The form of a name in which it is looked up. No label begins with a mark. -/
def domain? (cs : List Char) : Option (List Char) := do
  let cs ← (← Percent.decode? cs).mapM mapChar?
  let name := cs.flatten
  let starts := (name.splitOn '.').filterMap List.head?
  if name.isEmpty ∨ starts.any (fun c => marks.mem c.toNat) then none else some name

/-- A number of an address of version four: decimal, octal after a zero, or hexadecimal after
`0x`. The inner value is missing beyond 32 bits. -/
private def number? (cs : List Char) : Option (Option Nat) :=
  let (base, ds) := match cs with
    | '0' :: 'x' :: ds | '0' :: 'X' :: ds => (16, ds)
    | '0' :: d :: ds => (8, d :: ds)
    | ds => (10, ds)
  if cs.isEmpty then none
  else
    (ds.foldlM (fun n c => do
      let d ← digit? c
      if d < base then some (n * base + d) else none) 0).map fun n =>
      if n < Nat.pow 2 32 then some n else none
where
  digit? (c : Char) : Option Nat :=
    if c.isDigit then some (c.toNat - '0'.toNat)
    else if 'a' ≤ c ∧ c ≤ 'f' then some (c.toNat - 'a'.toNat + 10)
    else if 'A' ≤ c ∧ c ≤ 'F' then some (c.toNat - 'A'.toNat + 10)
    else none

/-- The labels of a name without an empty last one. -/
private def labels (name : List Char) : List (List Char) :=
  let parts := name.splitOn '.'
  if parts.getLast? = some [] then parts.dropLast else parts

/-- Whether a name has to be an address because its last label is a number. -/
private def endsInNumber (name : List Char) : Bool :=
  match (labels name).getLast? with
  | none => false
  | some last => (!last.isEmpty && last.all Char.isDigit) || (number? last).isSome

/-- Whether a name is an address of version four: up to four numbers, of which the last fills
the bytes that are left. -/
private def isAddress (name : List Char) : Bool :=
  match (labels name).mapM number? with
  | none => false
  | some numbers =>
    match numbers.mapM id with
    | none => false
    | some ns =>
      let first := ns.dropLast
      ns.length ≤ 4 && first.all (· ≤ 255) &&
        ns.getLast?.any fun last => last < Nat.pow 256 (4 - first.length)

private def isHex (c : Char) : Bool :=
  c.isDigit || ('a' ≤ c && c ≤ 'f') || ('A' ≤ c && c ≤ 'F')

/-- Four decimal bytes without zeros in front. -/
private def isQuad (cs : List Char) : Bool :=
  let parts := cs.splitOn '.'
  parts.length = 4 && parts.all fun p =>
    !p.isEmpty && p.all Char.isDigit && p.length ≤ 3 && Nat.ofDigitChars 10 p 0 ≤ 255 &&
      (p.length = 1 || p.head? ≠ some '0')

/-- How many pieces of an address of version six the groups make up. -/
private def pieces? : List (List Char) → Option Nat
  | [] => some 0
  | [g] =>
    if !g.isEmpty && g.length ≤ 4 && g.all isHex then some 1
    else if isQuad g then some 2
    else none
  | g :: gs =>
    if !g.isEmpty && g.length ≤ 4 && g.all isHex then (pieces? gs).map (· + 1) else none

private def groups (cs : List Char) : List (List Char) := if cs.isEmpty then [] else cs.splitOn ':'

/-- What stands before and after the first pair of colons. -/
private def splitGap (before : List Char) : List Char → Option (List Char × List Char)
  | [] => none
  | ':' :: ':' :: cs => some (before.reverse, cs)
  | c :: cs => splitGap (c :: before) cs

/-- Whether a text is an address of version six: eight pieces, or fewer around a gap. -/
def isAddress6 (cs : List Char) : Bool :=
  match splitGap [] cs with
  | none => pieces? (groups cs) = some 8
  | some (before, after) =>
    before.all (· ≠ '.') &&
      match pieces? (groups before), pieces? (groups after) with
      | some m, some n => m + n ≤ 7
      | _, _ => false

/-- Whether a text is an address of version six in brackets. -/
private def inBrackets? : List Char → Option (List Char)
  | '[' :: cs => if cs.getLast? = some ']' then some cs.dropLast else some []
  | _ => none

/-- Whether a text is a host of a network protocol. -/
def isValid (cs : List Char) : Bool :=
  match inBrackets? cs with
  | some inner => isAddress6 inner
  | none =>
    match domain? cs with
    | none => false
    | some name => !endsInNumber name || isAddress name

/-- Whether a text may stand in the place of a host where nothing is known of the protocol. -/
def isUnknownValid (cs : List Char) : Bool :=
  match inBrackets? cs with
  | some inner => isAddress6 inner
  | none => cs.all fun c => c = '%' || !isForbidden c || (c.toNat < 0x20 && c.toNat ≠ 0) ||
      c.toNat = 0x7F

end SeriesReplica.Url.Host
