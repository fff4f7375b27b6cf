import Newsdesk.Admission.FieldError
import Newsdesk.Json.Patch
import Newsdesk.Program.Calls

/-!
# Admission reviews

Before it stores an object the API server asks for a review. The request names the operation and
carries the new and the old object; the response admits the object, perhaps with warnings or a
patch, or denies it with a message. Every review is counted by its outcome.
-/

namespace Newsdesk

open Json

/-! ## Requests -/

/-- What is done to the object under review. -/
inductive Operation where
  | create
  | update
  | delete
  | connect
deriving DecidableEq, Repr

namespace Operation

/-- The operation with a given name. -/
def ofName? : String → Option Operation
  | "CREATE" => some .create
  | "UPDATE" => some .update
  | "DELETE" => some .delete
  | "CONNECT" => some .connect
  | _ => none

/-- Whether an operation stores an object. -/
def stores : Operation → Bool
  | .create => true
  | .update => true
  | _ => false

end Operation

/-- A request for a review. -/
structure AdmissionRequest (α : Type) where
  uid : String
  ns : Option String
  operation : Operation
  object : Option α
  oldObject : Option α

/-- The version and kind that a review states, and its request if it has one. -/
structure AdmissionReview (α : Type) where
  apiVersion : String
  kind : String
  request : Option (AdmissionRequest α)

/-- Reads a group, a version and a third name. -/
def decodeGroupVersion (third : String) : Decoder Unit := decodeRecord do
  let _ ← requiredField "group" decodeString
  let _ ← requiredField "version" decodeString
  let _ ← requiredField third decodeString

/-- Reads the user behind a request. -/
def decodeUser : Decoder Unit
  | .obj fields => do
    let _ ← apiField "username" decodeString fields
    let _ ← apiField "uid" decodeString fields
    let _ ← apiField "groups" decodeStrings fields
    let _ ← apiField "extra" (decodeMap decodeStrings) fields
  | _ => none

/-- Reads the options of an operation: an object of any type. -/
def decodeOptions : Decoder Unit
  | .obj fields =>
    match fields.lookup "metadata" with
    | some v => (Metadata.decode v).map fun _ => ()
    | none => some ()
  | _ => none

/-- Reads a response that comes with a review. It has no effect. -/
def decodeEarlierResponse : Decoder Unit := decodeRecord do
  let _ ← requiredField "uid" decodeString
  let _ ← requiredField "allowed" decodeBool
  let _ ← requiredField "status" ApiStatus.decode
  let _ ← nullableField "patch" (decodeList (decodeNat 8))
  let _ ← nullableField "patchType" decodeString
  let _ ← defaultField "auditAnnotations" (decodeMap decodeString) []
  let _ ← nullableField "warnings" decodeStrings

/-- Reads a request with a decoder for its objects. -/
def AdmissionRequest.decode {α : Type} (object : Decoder α) : Decoder (AdmissionRequest α) :=
  decodeRecord do
    let uid ← requiredField "uid" decodeString
    let _ ← requiredField "kind" (decodeGroupVersion "kind")
    let _ ← requiredField "resource" (decodeGroupVersion "resource")
    let _ ← nullableField "subResource" decodeString
    let _ ← nullableField "requestKind" (decodeGroupVersion "kind")
    let _ ← nullableField "requestResource" (decodeGroupVersion "resource")
    let _ ← nullableField "requestSubResource" decodeString
    let _ ← defaultField "name" decodeString ""
    let ns ← nullableField "namespace" decodeString
    let operation ← requiredField "operation" (decodeName Operation.ofName?)
    let _ ← requiredField "userInfo" decodeUser
    let new ← nullableField "object" object
    let old ← nullableField "oldObject" object
    let _ ← defaultField "dryRun" decodeBool false
    let _ ← nullableField "options" decodeOptions
    return ⟨uid, ns, operation, new, old⟩

/-- Reads a review with a decoder for its objects. -/
def AdmissionReview.decode {α : Type} (object : Decoder α) : Decoder (AdmissionReview α)
  | .obj fields => decodeRecord (do
      let apiVersion ← requiredField "apiVersion" decodeString
      let kind ← requiredField "kind" decodeString
      let request ← nullableField "request" (AdmissionRequest.decode object)
      let _ ← nullableField "response" decodeEarlierResponse
      return ⟨apiVersion, kind, request⟩) (.obj fields)
  | _ => none

/-! ## Responses -/

/-- A response to a review. The outcome and the reason are stated only when the review itself
is invalid. -/
structure AdmissionResponse where
  apiVersion : String
  kind : String
  uid : String
  allowed : Bool
  outcome : Option StatusOutcome
  message : String
  reason : String
  warnings : List String
  patch : Patch
deriving DecidableEq, Repr

namespace AdmissionResponse

/-- The response that admits the object of a request. -/
def allow {α : Type} (review : AdmissionReview α) (request : AdmissionRequest α) :
    AdmissionResponse :=
  ⟨review.apiVersion, review.kind, request.uid, true, none, "", "", [], []⟩

/-- The response to a review without a request. -/
def invalid : AdmissionResponse :=
  ⟨"admission.k8s.io/v1", "AdmissionReview", "", false, some .failure,
    "failed to convert AdmissionReview into AdmissionRequest", "InvalidRequest", [], []⟩

/-- The response turned into a denial. -/
def deny (r : AdmissionResponse) (message : String) : AdmissionResponse :=
  { r with allowed := false, message }

/-- The response with warnings, if there are any. -/
def withWarnings (r : AdmissionResponse) (warnings : List String) : AdmissionResponse :=
  if warnings = [] then r else { r with warnings }

/-- The response when violations are known: it warns if there are none and denies otherwise. -/
def verdict (r : AdmissionResponse) (errors : List FieldError) (warnings : List String) :
    AdmissionResponse :=
  if errors = [] then r.withWarnings warnings else r.deny (FieldError.aggregate errors)

/-- The word under which a response is counted. -/
def outcomeName (r : AdmissionResponse) : String := if r.allowed then "allowed" else "denied"

/-- A text that is written only if it is not empty. -/
def nonemptyText (s : String) : Option Json := if s = "" then none else some (.str s)

/-- The written form of a response. -/
def responseJson (r : AdmissionResponse) : Json :=
  ofOptionalFields [
    ("allowed", some (.bool r.allowed)),
    ("patch", if r.patch = [] then none else some r.patch.toJson),
    ("patchType", if r.patch = [] then none else some (.str "JSONPatch")),
    ("status", some (ofOptionalFields [
      ("message", nonemptyText r.message),
      ("reason", nonemptyText r.reason),
      ("status", r.outcome.map fun o => .str o.name)])),
    ("uid", some (.str r.uid)),
    ("warnings", if r.warnings = [] then none else some (ofStrings r.warnings))]

/-- The review that carries a response. -/
def toJson (r : AdmissionResponse) : Json :=
  ofFields [
    ("apiVersion", .str r.apiVersion),
    ("kind", .str r.kind),
    ("response", r.responseJson)]

end AdmissionResponse

/-! ## Counting -/

/-- The word under which a review without a request is counted. -/
def invalidOutcome : String := "invalid"

/-- The request of a review. A review without one is counted and answered as invalid. -/
def requestOf {α : Type} (webhook : String) (review : AdmissionReview α) :
    Program (Except AdmissionResponse (AdmissionRequest α)) :=
  match review.request with
  | some request => return .ok request
  | none => do
    Program.record (.reviewed webhook invalidOutcome)
    return .error .invalid

/-- Counts a response. -/
def countResponse (webhook : String) (r : AdmissionResponse) : Program AdmissionResponse := do
  Program.record (.reviewed webhook r.outcomeName)
  return r

/-- Answers a review: one with a request by `respond`, and then it is counted. -/
def answerReview {α : Type} (webhook : String) (review : AdmissionReview α)
    (respond : AdmissionRequest α → AdmissionResponse → Program AdmissionResponse) :
    Program AdmissionResponse := do
  match ← requestOf webhook review with
  | .error r => return r
  | .ok request => countResponse webhook (← respond request (.allow review request))

end Newsdesk
