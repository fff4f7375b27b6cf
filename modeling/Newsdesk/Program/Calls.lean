import Newsdesk.Program.Basic

/-!
# Calls

The steps that programs are made of: a request to the API server and the meaning of its reply,
a request to the aggregator, the time, and an event to be counted. Requests that cannot be sent
fail without being sent.
-/

namespace Newsdesk.Program

/-- Ends with a value or the cause of a failure. -/
def ofExcept {α ε : Type} (cause : ε → Cause) : Except ε α → Program α
  | .ok value => .done value
  | .error e => .fail (.ofCause (cause e))

/-- Asks the API server, unless the request cannot be sent. -/
def askApi (request : ApiRequest) : Program (Except ApiError Reply) :=
  match request.invalid? with
  | some e => .done (.error e)
  | none => .api request fun reply => .done (.ok reply)

/-- Asks the API server and decodes the reply. -/
def callApi {α : Type} (decoder : Decoder α) (request : ApiRequest) :
    Program (Except ApiError α) := do
  match ← askApi request with
  | .ok reply => return reply.decode decoder
  | .error e => return .error e

/-- Asks the aggregator, unless the request cannot be sent. -/
def callAggregator {α : Type} (outcome : Reply → Except AggregatorError α)
    (request : AggregatorRequest) : Program α :=
  match request.invalid? with
  | some e => .fail (.ofCause (.aggregator e))
  | none => .aggregator request fun reply => ofExcept .aggregator (outcome reply)

/-- The current time in its written form. -/
def currentTime : Program String := .now .done

/-- Counts an event. -/
def record (event : Event) : Program Unit := .note event (.done ())

/-! ## The aggregator -/

/-- Registers the source with a URL. -/
def addSource (a : Aggregator) (source : String) : Program Unit := do
  let endpoint ← ofExcept .aggregator a.sourcesEndpoint
  callAggregator (Aggregator.callOutcome endpoint) (Aggregator.registration endpoint source)

/-- Removes the source of a name. -/
def deleteSource (a : Aggregator) (name : String) : Program Unit := do
  let endpoint ← ofExcept .aggregator a.sourcesEndpoint
  callAggregator (Aggregator.removalOutcome endpoint) (Aggregator.removal endpoint name)

/-- Runs the query at an address. -/
def fetchArticles (url : Url) : Program (List Article) :=
  callAggregator (Aggregator.queryOutcome url) (Aggregator.query url)

/-! ## Objects -/

/-- All objects of a type in a namespace, or why they cannot be listed. -/
def tryListObjects (α : Type) [Resource α] (ns : String) : Program (Except ApiError (List α)) :=
  callApi (decodeObjects (Resource.decode : Decoder α)) (.list (Resource.collection α) (some ns) none)

/-- All objects of a type in a namespace. -/
def listObjects (α : Type) [Resource α] (ns : String) : Program (List α) := do
  ofExcept .api (← tryListObjects α ns)

/-- The object of a name, if there is one. -/
def getObject? (α : Type) [Resource α] (ns name : String) : Program (Option α) := do
  match ← callApi (Resource.decode : Decoder α) (.get (Resource.collection α) ns name) with
  | .ok object => return some object
  | .error e => if e.isAbsent then return none else .fail (.ofCause (.api e))

/-- Patches an object and returns what is stored then. -/
def patchObject {α : Type} [Resource α] (ns name : String) (body : Json) : Program α := do
  let outcome ← callApi (Resource.decode : Decoder α) (.patch (Resource.collection α) ns name body)
  ofExcept .api outcome

/-- Patches the status of an object. -/
def patchObjectStatus (α : Type) [Resource α] (ns name : String) (body : Json) :
    Program Unit := do
  let outcome ←
    callApi (Resource.decode : Decoder α) (.patchStatus (Resource.collection α) ns name body)
  let _ ← ofExcept .api outcome

end Newsdesk.Program
