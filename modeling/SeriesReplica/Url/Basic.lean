import SeriesReplica.Url.Host

/-!
Addresses of web resources, as far as a client needs them: the scheme, the path and the query.
Reading follows the rules of browsers: blanks around the text and line ends in it are dropped,
and schemes of network protocols have to name a host that could exist.
-/
namespace SeriesReplica

/-- A web address. -/
structure Url where
  scheme : String
  path : List Char
  query : Option (List Char)
  deriving DecidableEq, Repr

namespace Url

/-- What kind of address a scheme has. -/
inductive Kind where
  | network
  | file
  | unknown
  deriving DecidableEq

def kind : String → Kind
  | "http" | "https" | "ws" | "wss" | "ftp" => .network
  | "file" => .file
  | _ => .unknown

private def isTrimmed (c : Char) : Bool := c.toNat ≤ 0x20

/-- Drops blanks and controls at the ends, and tabs and line ends everywhere. -/
private def clean (cs : List Char) : List Char :=
  let cs := ((cs.dropWhile isTrimmed).reverse.dropWhile isTrimmed).reverse
  cs.filter fun c => c ≠ '\t' ∧ c ≠ '\n' ∧ c ≠ '\r'

/-- Reads a scheme up to its colon. -/
private def scheme? (cs : List Char) : Option (String × List Char) :=
  let isPart (c : Char) : Bool := c.isAlphanum || c = '+' || c = '-' || c = '.'
  let s := cs.takeWhile isPart
  match s.head?, cs.dropWhile isPart with
  | some c, ':' :: rest =>
    if c.isAlpha then some (String.ofList (s.map Char.toLower), rest) else none
  | _, _ => none

private def isSlash (k : Kind) (c : Char) : Bool := c = '/' || (k ≠ .unknown && c = '\\')

private def endsAuthority (k : Kind) (c : Char) : Bool := isSlash k c || c = '?' || c = '#'

/-- The host and what follows it: a port, or the end. Colons in brackets belong to the host. -/
private def splitHost (inBrackets : Bool) (seen : List Char) : List Char → List Char × List Char
  | [] => (seen.reverse, [])
  | c :: cs =>
    if c = ':' ∧ !inBrackets then (seen.reverse, c :: cs)
    else splitHost (if c = '[' then true else if c = ']' then false else inBrackets) (c :: seen) cs

/-- Whether a port is missing or a number of 16 bits. -/
private def isPort : List Char → Bool
  | [] => true
  | ':' :: ds => ds.all Char.isDigit && Nat.ofDigitChars 10 ds 0 < 65536
  | _ => false

/-- What stands behind the last at sign, and whether there is one. -/
private def dropUser (cs : List Char) : Bool × List Char :=
  let host := (cs.reverse.takeWhile (· ≠ '@')).reverse
  (host.length < cs.length, host)

/-- Whether the part between the slashes and the path is valid. -/
private def isAuthority (k : Kind) (cs : List Char) : Bool :=
  let (hasUser, rest) := dropUser cs
  let (host, port) := splitHost false [] rest
  match k with
  | .network => !host.isEmpty && Host.isValid host && isPort port
  | .unknown =>
    if host.isEmpty then !hasUser && port.isEmpty else Host.isUnknownValid host && isPort port
  | .file => true

/-- Whether a host of a file address is valid; a drive letter is none. -/
private def isFileHost (cs : List Char) : Bool :=
  match cs with
  | [] => true
  | [a, b] => (a.isAlpha && (b = ':' || b = '|')) || Host.isValid cs
  | _ => Host.isValid cs

private def isPathSafe (c : Char) : Bool :=
  0x20 < c.toNat && c.toNat < 0x7F && c ∉ "\"#<>?\x60\x7b\x7d".toList

private def isQuerySafe (c : Char) : Bool :=
  0x20 < c.toNat && c.toNat < 0x7F && c ∉ "\"#<>'".toList

/-- Splits a path at its slashes. -/
private def segments (k : Kind) (cs : List Char) : List (List Char) :=
  (cs.map fun c => if isSlash k c then '/' else c).splitOn '/'

/-- How many points a segment stands for, if it stands for one or two. -/
private def dots (segment : List Char) : Nat :=
  match String.ofList (segment.map Char.toLower) with
  | "." | "%2e" => 1
  | ".." | ".%2e" | "%2e." | "%2e%2e" => 2
  | _ => 0

/-- Takes segments with points away; done ones are given in reverse. A point at the end leaves
an empty segment. -/
private def resolve (done : List (List Char)) : List (List Char) → List (List Char)
  | [] => done.reverse
  | s :: rest =>
    match dots s, rest with
    | 1, [] => (([] : List Char) :: done).reverse
    | 1, _ => resolve done rest
    | 2, [] => (([] : List Char) :: done.tail).reverse
    | 2, _ => resolve done.tail rest
    | _, _ => resolve (Percent.encode isPathSafe s :: done) rest

/-- The path of a network address: it starts with a slash. -/
private def networkPath (cs : List Char) : List Char :=
  let body := match cs with
    | c :: rest => if isSlash .network c then rest else cs
    | [] => []
  (resolve [] (segments .network body)).flatMap fun s => '/' :: s

/-- Path and query of the text behind the host; a fragment is dropped. -/
private def withPath (scheme : String) (cs : List Char) : Url :=
  let cs := cs.takeWhile (· ≠ '#')
  let path := cs.takeWhile (· ≠ '?')
  let query := match cs.dropWhile (· ≠ '?') with
    | _ :: q => some (Percent.encode isQuerySafe q)
    | [] => none
  ⟨scheme, if kind scheme = .network then networkPath path else path, query⟩

/-- Reads an address. -/
def read? (s : String) : Option Url := do
  let (scheme, rest) ← scheme? (clean s.toList)
  let k := kind scheme
  let body := rest.dropWhile (isSlash .network)
  let slashes := rest.takeWhile (isSlash k)
  match k with
  | .network =>
    let authority := body.takeWhile (!endsAuthority k ·)
    if isAuthority k authority then
      some (withPath scheme (body.dropWhile (!endsAuthority k ·)))
    else none
  | .file =>
    let local_ := rest.drop 2
    if slashes.length < 2 ∨ isFileHost (local_.takeWhile (!endsAuthority k ·)) then
      some (withPath scheme rest)
    else none
  | .unknown =>
    let after := rest.drop 2
    if slashes.length < 2 ∨ isAuthority k (after.takeWhile (!endsAuthority k ·)) then
      some (withPath scheme rest)
    else none

/-- Adds values to the query. -/
def withForm (u : Url) (values : List (String × String)) : Url :=
  let added := Percent.form values
  match u.query with
  | none => { u with query := some added }
  | some q => { u with query := some (if q.isEmpty then added else q ++ '&' :: added) }

/-- Path and query, as a request names them. -/
def target (u : Url) : String :=
  String.ofList (match u.query with
    | some q => u.path ++ '?' :: q
    | none => u.path)

end Url
end SeriesReplica
