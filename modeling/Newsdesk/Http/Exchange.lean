import Newsdesk.Json.Reader
import Newsdesk.Json.Printer

/-!
# HTTP exchanges

A body is a text; one that was written from a JSON value keeps the value. A request is answered
with a status and a body, or the connection is lost, or nothing ever comes back.
-/

namespace Newsdesk

/-- The body of a request or a response. -/
inductive Body where
  | value (json : Json)
  | text (raw : String)
deriving Repr

namespace Body

/-- The empty body. -/
def empty : Body := .text ""

/-- The text of a body. -/
def raw : Body → String
  | .value json => json.render
  | .text raw => raw

/-- The JSON value in a body, with the fields of its objects as they are written. -/
def json? : Body → Option Json
  | .value json => some json
  | .text raw => Json.read? raw

/-- The JSON value at the front of a body, and whether nothing follows it. -/
def front? : Body → Option (Json × Bool)
  | .value json => some (json, true)
  | .text raw => (Json.readFront? raw).map fun (json, rest) => (json, rest.isEmpty)

/-- Whether a body begins as a JSON array. -/
def opensArray : Body → Bool
  | .value (.arr _) => true
  | .value _ => false
  | .text raw => (Json.skipSpace raw.toList).head? = some '['

/-- The text of a body without a byte order mark. -/
def plainText (b : Body) : String :=
  match b.raw.toList with
  | c :: rest => if c = '\uFEFF' then String.ofList rest else b.raw
  | [] => ""

end Body

/-- What comes back for a request. -/
inductive Reply where
  | answered (status : Nat) (body : Body)
  | dropped
  | unanswered
deriving Repr

/-- Whether nothing ever came back. -/
def Reply.isUnanswered : Reply → Bool
  | .unanswered => true
  | _ => false

/-- Whether a status stands for success. -/
def isSuccessStatus (status : Nat) : Bool := 200 ≤ status && status < 300

/-- Whether a status stands for a fault of the client or of the server. -/
def isFailureStatus (status : Nat) : Bool := 400 ≤ status && status < 600

end Newsdesk
