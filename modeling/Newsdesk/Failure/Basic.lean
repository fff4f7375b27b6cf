import Newsdesk.Failure.Reason
import Newsdesk.Json.Decode
import Newsdesk.Text.Quoted
import Newsdesk.Url.Basic

/-!
# Failures

What can go wrong while an object is reconciled: a call to the aggregator, the choice of feeds
for a query, or a call to the API server. A failure carries its cause and what was being done,
from the inside out. Its full text is the chain of all these texts; the reason depends on the
cause alone.
-/

namespace Newsdesk

open Json

/-! ## The aggregator -/

/-- Why a request to the aggregator brought no response. -/
inductive TransportFault where
  | noResponse
  | unsupportedScheme
deriving DecidableEq, Repr

/-- What can go wrong in a call to the aggregator. -/
inductive AggregatorError where
  | transport (url : Url) (fault : TransportFault)
  | rejected (url : String) (status : Nat) (body : String)
  | undecodable (url : String)
  | invalidUrl (url : String) (cause : UrlError)
deriving DecidableEq, Repr

namespace AggregatorError

/-- The wording of a fault. Credentials are left out of it. -/
def faultText (url : Url) (fault : TransportFault) : String :=
  let shown := { url with username := "", password := none }.text
  match fault with
  | .noResponse => "error sending request for url (" ++ shown ++ ")"
  | .unsupportedScheme => "builder error for url (" ++ shown ++ ")"

/-- The wording of an undecodable response. -/
def undecodableText : String := "error decoding response body"

/-- The wording of an error. -/
def message : AggregatorError → String
  | .transport url fault => "request to " ++ url.text ++ " failed: " ++ faultText url fault
  | .rejected url status body =>
    "aggregator returned HTTP " ++ toString status ++ " for " ++ url ++ ": " ++ body
  | .undecodable url => "failed to decode response from " ++ url ++ ": " ++ undecodableText
  | .invalidUrl url cause => "invalid aggregator URL '" ++ url ++ "': " ++ cause.message

/-- The texts of an error and of what lies behind it. -/
def chain (e : AggregatorError) : List String :=
  e.message ::
    match e with
    | .transport url .noResponse => [faultText url .noResponse]
    | .transport url .unsupportedScheme =>
      [faultText url .unsupportedScheme, "URL scheme is not allowed"]
    | .rejected .. => []
    | .undecodable _ => [undecodableText]
    | .invalidUrl _ cause => [cause.message]

/-- The reason for an error. -/
def reason : AggregatorError → Reason
  | .transport .. => .aggregatorUnreachable
  | .rejected _ status _ => .ofStatus status
  | .undecodable _ => .invalidResponse
  | .invalidUrl .. => .invalidUrl

end AggregatorError

/-! ## Choosing feeds -/

/-- Why no feeds could be chosen for a query. -/
inductive QueryError where
  | noFeedsResolved
  | unknownFeed (group feed : String)
deriving DecidableEq, Repr

namespace QueryError

/-- The wording of an error. -/
def message : QueryError → String
  | .noFeedsResolved => "no feeds resolved: feedsName is empty and no feedGroups matched"
  | .unknownFeed group feed =>
    "feed group '" ++ group ++ "' references unknown feed '" ++ feed ++ "'"

/-- The reason for an error. -/
def reason : QueryError → Reason
  | .noFeedsResolved => .noFeedsResolved
  | .unknownFeed .. => .unknownFeed

end QueryError

/-! ## The API server -/

/-- The outcome that a status object states. -/
inductive StatusOutcome where
  | success
  | failure
deriving DecidableEq, Repr

namespace StatusOutcome

/-- The word for an outcome. -/
def name : StatusOutcome → String
  | .success => "Success"
  | .failure => "Failure"

/-- The outcome with a given word. -/
def ofName? : String → Option StatusOutcome
  | "Success" => some .success
  | "Failure" => some .failure
  | _ => none

end StatusOutcome

/-- The status object with which the API server refuses a request. -/
structure ApiStatus where
  outcome : Option StatusOutcome
  code : Nat
  message : String
  reason : String
deriving DecidableEq, Repr

namespace ApiStatus

/-- Reads a status object; every field may be missing. -/
def decode : Decoder ApiStatus := decodeRecord do
  let outcome ← optionalField "status" (decodeName StatusOutcome.ofName?)
  let code ← defaultField "code" (decodeNat 16) 0
  let message ← defaultField "message" decodeString ""
  let _ ← nullableField "metadata" some
  let reason ← defaultField "reason" decodeString ""
  let _ ← nullableField "details" some
  return ⟨outcome, code, message, reason⟩

/-- The short form of a status object. -/
def summary (s : ApiStatus) : String := s.message ++ ": " ++ s.reason

/-- All fields of a status object. -/
def details (s : ApiStatus) : String :=
  let outcome := match s.outcome with
    | some o => "Some(" ++ o.name ++ ")"
    | none => "None"
  "Status \x7b status: " ++ outcome ++ ", code: " ++ toString s.code ++ ", message: " ++
    Text.quoted s.message ++ ", metadata: None, reason: " ++ Text.quoted s.reason ++
    ", details: None \x7d"

end ApiStatus

/-- What can go wrong in a call to the API server. -/
inductive ApiError where
  | refused (status : ApiStatus)
  | undecodable
  | dropped
  | unanswered
  | emptyName
  | invalidPath
deriving DecidableEq, Repr

namespace ApiError

/-- The wording of a reply that does not decode. -/
def undecodableText : String := "value of another shape"

/-- The texts of an error and of what lies behind it. -/
def chain : ApiError → List String
  | .refused status =>
    ["ApiError: " ++ status.summary ++ " (" ++ status.details ++ ")", status.summary]
  | .undecodable => ["Error deserializing response: " ++ undecodableText, undecodableText]
  | .dropped => ["ServiceError: connection dropped", "connection dropped"]
  | .unanswered => ["ServiceError: request timed out", "request timed out"]
  | .emptyName =>
    ["Failed to build request: failed to validate request: A non-empty name is required",
      "failed to validate request: A non-empty name is required"]
  | .invalidPath =>
    ["Failed to build request: failed to build request: invalid uri character",
      "failed to build request: invalid uri character", "invalid uri character"]

/-- The wording of an error. -/
def message (e : ApiError) : String := e.chain.headD ""

/-- Whether the API server says that the object does not exist. -/
def isAbsent : ApiError → Bool
  | .refused status => status.reason = "NotFound"
  | _ => false

end ApiError

/-! ## All together -/

/-- The cause of a failure. -/
inductive Cause where
  | aggregator (error : AggregatorError)
  | query (error : QueryError)
  | api (error : ApiError)
  | other (message : String)
deriving DecidableEq, Repr

namespace Cause

/-- The texts of a cause and of what lies behind it. -/
def chain : Cause → List String
  | .aggregator e => e.chain
  | .query e => [e.message]
  | .api e => e.chain
  | .other message => [message]

/-- The reason that a cause stands for. -/
def reason : Cause → Reason
  | .aggregator e => e.reason
  | .query e => e.reason
  | .api _ => .kubernetesApiError
  | .other _ => .reconcileFailed

end Cause

/-- A failure: its cause, and what was being done, the outermost first. -/
structure Failure where
  cause : Cause
  context : List String
deriving DecidableEq, Repr

namespace Failure

/-- A failure without context. -/
def ofCause (cause : Cause) : Failure := ⟨cause, []⟩

/-- The failure seen from what was being done. -/
def within (doing : String) (f : Failure) : Failure := { f with context := doing :: f.context }

/-- All texts of a failure, the outermost first. -/
def chain (f : Failure) : List String := f.context ++ f.cause.chain

/-- The outermost text. -/
def message (f : Failure) : String := f.chain.headD ""

/-- All texts joined by colons. -/
def full (f : Failure) : String := ": ".intercalate f.chain

/-- The reason for a failure. -/
def reason (f : Failure) : Reason := f.cause.reason

end Failure

end Newsdesk
