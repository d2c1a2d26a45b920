import SeriesReplica.Point.Basic

/-!
Line protocol: the text form of points for writing. A line holds the measurement, the tags
that are not empty, the fields and the timestamp; names escape the characters that end them,
and text values escape quotes and backslashes between quotes.
-/
namespace SeriesReplica.Point.Line
open Text Numeric

/-- Puts a backslash in front of the given characters. -/
def escape (special : List Char) (cs : List Char) : List Char :=
  cs.flatMap fun c => if c ∈ special then ['\\', c] else [c]

/-- What ends a measurement name. -/
def measurementStops : List Char := [',', ' ']

/-- What ends a tag key, a tag value or a field key. -/
def keyStops : List Char := [',', '=', ' ']

/-- What is escaped inside a quoted text. -/
def textStops : List Char := ['"', '\\']

/-- A field value: the suffix `i` marks integers, quotes mark texts. -/
def value : FieldValue → List Char
  | .float x => x.chars
  | .integer i => Numeral.ofInt i.toInt ++ ['i']
  | .boolean b => if b then ['t', 'r', 'u', 'e'] else ['f', 'a', 'l', 's', 'e']
  | .string s => '"' :: escape textStops s.toList ++ ['"']

/-- The tags that are not empty, each after a comma. -/
def tags (ts : List (String × String)) : List Char :=
  ts.flatMap fun (k, v) =>
    if v = "" then []
    else ',' :: escape keyStops k.toList ++ '=' :: escape keyStops v.toList

def field (f : String × FieldValue) : List Char :=
  escape keyStops f.1.toList ++ '=' :: value f.2

/-- The fields with commas between them. -/
def fields : List (String × FieldValue) → List Char
  | [] => []
  | [f] => field f
  | f :: fs => field f ++ ',' :: fields fs

/-- One point without the line end. -/
def ofPoint (p : Point) : List Char :=
  escape measurementStops p.measurement.toList ++ tags p.tags.toList ++
    ' ' :: fields p.fields.toList ++ ' ' :: Numeral.ofInt p.timestamp.toInt

/-- One line for every point that has fields. -/
def ofPoints (ps : List Point) : List Char :=
  ps.flatMap fun p => if p.fields.isEmpty then [] else ofPoint p ++ ['\n']

/-- One point without the line end. -/
def encodePoint (p : Point) : String := String.ofList (ofPoint p)

/-- A body of lines. -/
def encodePoints (ps : List Point) : String := String.ofList (ofPoints ps)

end SeriesReplica.Point.Line
