import SeriesReplica.Toml.Scalar

/-!
Reading TOML documents: headers open tables, and lines put values under keys into the open
table. Where a key may stand depends on how the tables on its way came to be, and no key is
given twice.
-/
namespace SeriesReplica.Toml

/-- How a table came to be: by its own header, on the way to another header's table, or by a
key with points. -/
inductive Origin where
  | header
  | passed
  | dotted
  deriving DecidableEq

/-- What stands under a key while a document is read. -/
inductive Item where
  | value (v : Value)
  | table (origin : Origin) (members : List (String × Item))
  /-- Tables of one array, the last one first. -/
  | tables (items : List (List (String × Item)))
  deriving Inhabited

/-- The members of a table, in the order in which they came. -/
abbrev Members := List (String × Item)

namespace Members

/-- Replaces the item of a key, or adds it at the end. -/
private def put (key : String) (item : Item) : Members → Members
  | [] => [(key, item)]
  | (k, old) :: ms => if k = key then (k, item) :: ms else (k, old) :: put key item ms

/-- Changes the table at the end of a path; tables that are missing on the way are made. Tables
with a header of their own are closed to keys with points. -/
private def descend (dotted : Bool) (change : Origin → Members → Option Members) :
    List String → Origin → Members → Option Members
  | [], origin, ms => change origin ms
  | key :: path, _, ms =>
    match ms.lookup key with
    | none => do
      let origin := if dotted then Origin.dotted else .passed
      pure (ms ++ [(key, .table origin (← descend dotted change path origin []))])
    | some (.table origin inner) =>
      if dotted ∧ origin = .header then none
      else do pure (put key (.table origin (← descend dotted change path origin inner)) ms)
    | some (.tables (last :: others)) => do
      pure (put key (.tables ((← descend dotted change path .header last) :: others)) ms)
    | some _ => none

/-- Puts a value under a new key of a table. The table at the end of a path with points is one
that such paths made. -/
private def insert (path : List String) (v : Value) (ms : Members) : Option Members :=
  match path.getLast? with
  | none => none
  | some key =>
    let way := path.dropLast
    descend true (fun origin ms =>
      if (way.isEmpty ∨ origin = .dotted) ∧ (ms.lookup key).isNone then
        some (ms ++ [(key, .value v)])
      else none) way .header ms

/-- Opens a table by its header. -/
private def openTable (path : List String) (ms : Members) : Option Members :=
  path.getLast?.bind fun key =>
    descend false (fun _ ms =>
      match ms.lookup key with
      | none => some (ms ++ [(key, .table .header [])])
      | some (.table .passed inner) =>
        some (ms.filter (·.1 ≠ key) ++ [(key, .table .header inner)])
      | some _ => none) path.dropLast .header ms

/-- Opens the next table of an array by its header. -/
private def openItem (path : List String) (ms : Members) : Option Members :=
  path.getLast?.bind fun key =>
    descend false (fun _ ms =>
      match ms.lookup key with
      | none => some (ms ++ [(key, .tables [[]])])
      | some (.tables items) => some (put key (.tables ([] :: items)) ms)
      | some _ => none) path.dropLast .header ms

/-- Changes the table that a header opened last. -/
private def modifyOpen (change : Members → Option Members) : List String → Members →
    Option Members
  | [], ms => change ms
  | key :: path, ms =>
    match ms.lookup key with
    | some (.table origin inner) => do
      pure (put key (.table origin (← modifyOpen change path inner)) ms)
    | some (.tables (last :: others)) => do
      pure (put key (.tables ((← modifyOpen change path last) :: others)) ms)
    | _ => none

end Members

mutual

/-- The value of an item. -/
def Item.toValue : Item → Value
  | .value v => v
  | .table _ ms => .table (membersValue ms)
  | .tables items => .array (itemsValue items).reverse

def membersValue : List (String × Item) → List (String × Value)
  | [] => []
  | (k, item) :: ms => (k, item.toValue) :: membersValue ms

def itemsValue : List (List (String × Item)) → List Value
  | [] => []
  | ms :: rest => .table (membersValue ms) :: itemsValue rest

end

namespace Nested

/-- An open array or inline table, with the key whose value comes next. -/
private inductive Frame where
  | array (items : List Value)
  | table (members : Members) (key : List String)

/-- Containers may be nested to one less than this depth. -/
private abbrev depthLimit : Nat := 80

/-- Either a whole value, or open containers that wait for the next one. -/
private inductive Progress where
  | done (v : Value) (rest : List Char)
  | inside (frames : List Frame) (rest : List Char)

/-- Reads a key and the equals sign behind it. -/
private def key? (cs : List Char) : Option (List String × List Char) := do
  let (key, rest) ← Scalar.key? cs
  match rest with
  | '=' :: rest => pure (key, Scalar.skipSpaces rest)
  | _ => none

/-- Puts a value into the innermost container, which may end behind it. -/
private def place (v : Value) (rest : List Char) : List Frame → Option Progress
  | [] => some (.done v rest)
  | .array items :: frames =>
    match Scalar.skipLines false rest with
    | ']' :: rest => place (.array (v :: items).reverse) rest frames
    | ',' :: rest =>
      match Scalar.skipLines false rest with
      | ']' :: rest => place (.array (v :: items).reverse) rest frames
      | rest => some (.inside (.array (v :: items) :: frames) rest)
    | _ => none
  | .table ms key :: frames => do
    let ms ← ms.insert key v
    match Scalar.skipSpaces rest with
    | '\x7d' :: rest => place (.table (membersValue ms)) rest frames
    | ',' :: rest =>
      let (key, rest) ← key? rest
      pure (.inside (.table ms key :: frames) rest)
    | _ => none

private def step (frames : List Frame) (cs : List Char) : Option Progress :=
  match cs with
  | '[' :: cs =>
    if frames.length + 1 < depthLimit then
      match Scalar.skipLines false cs with
      | ']' :: rest => place (.array []) rest frames
      | rest => some (.inside (.array [] :: frames) rest)
    else none
  | '\x7b' :: cs =>
    if frames.length + 1 < depthLimit then
      match Scalar.skipSpaces cs with
      | '\x7d' :: rest => place (.table []) rest frames
      | rest => (key? rest).map fun (key, rest) => .inside (.table [] key :: frames) rest
    else none
  | cs => do
    let (v, rest) ← Scalar.value? cs
    place v rest frames

private def readFrom (frames : List Frame) (cs : List Char) : Option (Value × List Char) :=
  match step frames cs with
  | none => none
  | some (.done v rest) => some (v, rest)
  | some (.inside frames rest) => if rest.length < cs.length then readFrom frames rest else none
termination_by cs.length

/-- Reads a value. -/
def read? (cs : List Char) : Option (Value × List Char) := readFrom [] cs

end Nested

namespace Document

/-- The document so far, and the path of the table that is open. -/
private structure Progress where
  root : Members
  current : List String

/-- Reads the key of a header up to its closing brackets. -/
private def header? (closing : List Char) (cs : List Char) :
    Option (List String × List Char) := do
  let (path, rest) ← Scalar.key? cs
  if closing.isPrefixOf rest then
    pure (path, ← Scalar.endLine? (rest.drop closing.length))
  else none

/-- Reads a header or a key with its value. -/
private def step (st : Progress) : List Char → Option (Progress × List Char)
  | '[' :: '[' :: cs => do
    let (path, rest) ← header? [']', ']'] cs
    pure (⟨← st.root.openItem path, path⟩, rest)
  | '[' :: cs => do
    let (path, rest) ← header? [']'] cs
    pure (⟨← st.root.openTable path, path⟩, rest)
  | cs => do
    let (path, rest) ← Nested.key? cs
    let (v, rest) ← Nested.read? rest
    let root ← st.root.modifyOpen (fun ms => ms.insert path v) st.current
    pure ({ st with root := root }, ← Scalar.endLine? rest)

private def read (st : Progress) (cs : List Char) : Option Members :=
  match Scalar.skipLines false cs with
  | [] => some st.root
  | rest =>
    match step st rest with
    | none => none
    | some (st, rest) => if rest.length < cs.length then read st rest else none
termination_by cs.length

end Document

/-- Drops the mark that may stand at the start of a text. -/
private def dropByteOrderMark : List Char → List Char
  | '\ufeff' :: cs => cs
  | cs => cs

/-- Reads a document as a table. -/
def Value.read? (s : String) : Option Value :=
  (Document.read ⟨[], []⟩ (dropByteOrderMark s.toList)).map fun ms => .table (membersValue ms)

end SeriesReplica.Toml
