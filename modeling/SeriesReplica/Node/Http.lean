import SeriesReplica.Agent.Config
import SeriesReplica.Concurrent.Effect
import SeriesReplica.Point.Line
import SeriesReplica.Query.TableJson
import SeriesReplica.Text.Base64

/-!
Nodes behind a web service: which request a call becomes, and what an answer to it says. Queries
are sent as forms, points as lines, and times go by nanoseconds.
-/
namespace SeriesReplica.Node.Http
open Agent Concurrent Json Query Text Time

/-- A request to a web service. -/
structure Request where
  method : String
  /-- Path and query. -/
  target : String
  headers : List (String × String)
  body : String
  deriving DecidableEq, Repr

/-- An answer of a web service. -/
structure Reply where
  status : Nat
  headers : List (String × String)
  body : String
  deriving DecidableEq, Repr

/-- How the client introduces itself. -/
def userAgent : String := "fluxsync/0.3.0"

/-- Name and password of a user; without a name nothing is sent. -/
def authorization (n : NodeConfig) : List (String × String) :=
  if n.user = "" then []
  else
    let secret := (n.user ++ ":" ++ n.password).toUTF8.toList
    [("authorization", "Basic " ++ String.ofList (Base64.encode secret))]

/-- The address of an endpoint of the node; slashes at the end of the location do not count. -/
def url? (n : NodeConfig) (endpoint : String) : Option Url :=
  let base := (n.location.toList.reverse.dropWhile (· = '/')).reverse
  Url.read? (String.ofList base ++ endpoint)

/-- What a query says in its form. -/
def queryForm (r : Query.Request) : List (String × String) :=
  [("q", r.command), ("epoch", "ns")] ++ (r.database.map ("db", ·)).toList ++
    (r.policy.map ("rp", ·)).toList

private def formType : String × String := ("content-type", "application/x-www-form-urlencoded")

/-- The request for a call, if the node's address is one. -/
def request? (n : NodeConfig) (c : NodeCall) : Option Request :=
  let headers := authorization n ++ [("user-agent", userAgent)]
  match c with
  | .ping => (url? n "/ping").map fun u => ⟨"GET", u.target, headers, ""⟩
  | .query r =>
    (url? n "/query").map fun u =>
      ⟨"POST", u.target, formType :: headers, String.ofList (Url.Percent.form (queryForm r))⟩
  | .write b =>
    (url? n "/write").map fun u =>
      let u := u.withForm [("db", b.database), ("rp", b.policy), ("precision", "ns")]
      ⟨"POST", u.target, headers, Point.Line.encodePoints b.points⟩

namespace Reply

def isSuccess (r : Reply) : Bool := 200 ≤ r.status && r.status < 300

/-- The body; answers of two kinds have none. -/
def content (r : Reply) : String := if r.status = 204 ∨ r.status = 304 then "" else r.body

/-- The version in the headers of an answer, if it is printable. -/
def version (r : Reply) : String :=
  let value := (r.headers.find? fun (k, _) => k.toLower = "x-influxdb-version").map fun (_, v) =>
    ((v.toList.dropWhile isFill).reverse.dropWhile isFill).reverse
  match value with
  | some cs => if cs.all isPrintable then String.ofList cs else ""
  | none => ""
where
  isFill (c : Char) : Bool := c = ' ' || c = '\t'
  isPrintable (c : Char) : Bool := c = '\t' || (' ' ≤ c && c.toNat < 127)

/-- What went wrong, by the body: an error in a record, or all of it. -/
def complaint (r : Reply) : String :=
  let stated := (Tree.read? r.content).bind (Record.ofTree? ["error"] false) |>.bind
    (·.required "error" Tree.string?)
  stated.getD r.content

/-- What a successful answer that took a while says about a call. -/
private def accept (r : Reply) (node : String) (latency : Span) :
    (c : NodeCall) → Except Error c.Reply
  | .ping => .ok (⟨latency, r.version⟩ : Pong)
  | .query _ =>
    match Response.read? r.content with
    | some response => response.check
    | none => .error (.protocol ("invalid query response from " ++ node))
  | .write _ => .ok ()

/-- What an answer that took a while says about a call. -/
def read (r : Reply) (node : String) (latency : Span) (c : NodeCall) : Except Error c.Reply :=
  if r.isSuccess then r.accept node latency c else .error (.server r.status r.complaint)

end Reply

/-- What is logged before a call. -/
def callNotice (node : String) : NodeCall → List Log.Line
  | .query r => [Log.debug ("[" ++ node ++ "] query: " ++ r.command)]
  | _ => []

/-- What is logged after a call that succeeded. -/
def doneNotice (node : String) : NodeCall → List Log.Line
  | .write b =>
    [Log.debug ("[" ++ node ++ "] wrote " ++ toString b.points.length ++ " points to " ++
      b.database ++ "." ++ b.policy)]
  | _ => []

/-- What came of a call: the request that was sent, what the call gives, and what is logged. -/
structure Exchange (c : NodeCall) where
  request : Option Request
  result : Except Error c.Reply
  log : List Log.Line

/-- A call that is sent and answered after a while. -/
private def send (n : NodeConfig) (r : Reply) (latency : Span) (c : NodeCall) : Exchange c :=
  match request? n c with
  | none => ⟨none, .error (.http "invalid address"), callNotice n.name c⟩
  | some request =>
    let result := r.read n.name latency c
    ⟨some request, result,
      callNotice n.name c ++ if result.isOk then doneNotice n.name c else []⟩

/-- One call to a node, given the answer and the time it takes. Writes without points are not
sent. -/
def exchange (n : NodeConfig) (r : Reply) (latency : Span) : (c : NodeCall) → Exchange c
  | .write b =>
    if b.points.isEmpty then ⟨none, .ok (), []⟩ else send n r latency (.write b)
  | c => send n r latency c

end SeriesReplica.Node.Http
