import SeriesReplica.Time.Phrase
import SeriesReplica.Time.Text

/-!
Times as an operator gives them: unix seconds, a length of time before now after a minus sign,
or an RFC 3339 text, tried in this order.
-/
namespace SeriesReplica.Agent.TimeInput
open Text Time

/-- What is wrong with a time relative to now. -/
inductive RelativeError where
  | phrase (cause : Phrase.Error)
  | tooLong
  | beforeRange
  deriving DecidableEq, Repr

def RelativeError.message : RelativeError → String
  | .phrase cause => cause.message
  | .tooLong => "Source duration value is out of range for the target type"
  | .beforeRange => "before the earliest representable time"

/-- Why a time is refused. -/
inductive Error where
  | empty
  | outOfRange (secs : Int64)
  | relative (input : String) (cause : RelativeError)
  | unrecognized (input : String)
  deriving DecidableEq, Repr

def Error.message : Error → String
  | .empty => "empty time"
  | .outOfRange secs => "unix time " ++ toString secs.toInt ++ " out of range"
  | .relative input cause => "invalid relative time '" ++ input ++ "': " ++ cause.message
  | .unrecognized input =>
    "unrecognized time '" ++ input ++ "', expected unix seconds, -<duration> or RFC 3339"

/-- The instant the given length before now. -/
def before (now : Instant) (phrase : List Char) : Except RelativeError Instant :=
  match Phrase.read phrase with
  | .error cause => .error (.phrase cause)
  | .ok d =>
    if d.fitsCalendar then
      match now.earlier? d with
      | some t => .ok t
      | none => .error .beforeRange
    else .error .tooLong

/-- Reads a time; only the relative form looks at the clock. -/
def read (input : String) (now : Instant) : Except Error Instant :=
  let cs := trimChars input.toList
  if cs = [] then .error .empty
  else
    match Numeral.readInt64? cs with
    | some secs =>
      match Instant.ofUnix? secs.toInt 0 with
      | some t => .ok t
      | none => .error (.outOfRange secs)
    | none =>
      match cs with
      | '-' :: phrase =>
        (before now phrase).mapError (.relative (String.ofList cs))
      | _ =>
        match Rfc3339.readChars? cs with
        | some t => .ok t
        | none => .error (.unrecognized (String.ofList cs))

end SeriesReplica.Agent.TimeInput
