import Newsdesk.Failure.Basic
import Newsdesk.Http.Exchange
import Newsdesk.Url.Query

/-!
# The news aggregator

The aggregator keeps a list of sources and answers news queries. Its base URL is read once; the
addresses of its services are resolved against it. A call succeeds with any status between 200
and 299, a query with 200 only. Removing a source that is not there counts as success.
-/

namespace Newsdesk

open Json

/-- A news article; a missing field is empty. -/
structure Article where
  title : String
  description : String
  url : String
  publishedAt : String
  sourceName : String
deriving DecidableEq, Repr

namespace Article

/-- Reads an article. -/
def decode : Decoder Article := decodeRecord do
  return {
    title := ← defaultField "title" decodeString ""
    description := ← defaultField "description" decodeString ""
    url := ← defaultField "url" decodeString ""
    publishedAt := ← defaultField "publishedAt" decodeString ""
    sourceName := ← defaultField "sourceName" decodeString ""
  }

/-- The written form of an article. -/
def toJson (a : Article) : Json :=
  ofFields [
    ("title", .str a.title),
    ("description", .str a.description),
    ("url", .str a.url),
    ("publishedAt", .str a.publishedAt),
    ("sourceName", .str a.sourceName)]

end Article

/-- The verbs of calls to the aggregator. -/
inductive AggregatorVerb where
  | register
  | remove
  | query
deriving DecidableEq, Repr

/-- The HTTP method of a verb. -/
def AggregatorVerb.method : AggregatorVerb → String
  | .register => "POST"
  | .remove => "DELETE"
  | .query => "GET"

/-- A request to the aggregator. -/
structure AggregatorRequest where
  verb : AggregatorVerb
  url : Url
  body : Option Json
deriving Repr

namespace AggregatorRequest

/-- Why a request cannot be sent: only `http` and `https` URLs with a host can be reached. -/
def invalid? (r : AggregatorRequest) : Option AggregatorError :=
  if r.url.hasHost ∧ (r.url.scheme = "http" ∨ r.url.scheme = "https") then none
  else some (.transport r.url .unsupportedScheme)

end AggregatorRequest

/-- The aggregator, known by the folder in which its services lie. -/
structure Aggregator where
  base : Url
deriving DecidableEq, Repr

namespace Aggregator

/-- The aggregator at a base URL, whose path is taken as a folder. -/
def ofBase (text : String) : Except AggregatorError Aggregator :=
  match Url.parse text with
  | .ok url => .ok ⟨url.asFolder⟩
  | .error cause => .error (.invalidUrl text cause)

/-- The address of a service. -/
def endpoint (a : Aggregator) (path : String) : Except AggregatorError Url :=
  match a.base.join path with
  | .ok url => .ok url
  | .error cause => .error (.invalidUrl (a.base.text ++ path) cause)

/-- The path of the list of sources. -/
def sourcesPath : String := "sources"

/-- The path of the news query. -/
def newsPath : String := "news"

/-- The address of the list of sources. -/
def sourcesEndpoint (a : Aggregator) : Except AggregatorError Url := a.endpoint sourcesPath

/-- The address of the news query. -/
def newsEndpoint (a : Aggregator) : Except AggregatorError Url := a.endpoint newsPath

/-! ## Requests -/

/-- The request that registers a source. -/
def registration (endpoint : Url) (source : String) : AggregatorRequest :=
  ⟨.register, endpoint, some (ofFields [("url", .str source)])⟩

/-- The request that removes a source. -/
def removal (endpoint : Url) (name : String) : AggregatorRequest :=
  ⟨.remove, endpoint, some (ofFields [("name", .str name)])⟩

/-- The request that runs a query. -/
def query (url : Url) : AggregatorRequest := ⟨.query, url, none⟩

/-! ## Replies -/

/-- Whether a call has succeeded. -/
def callOutcome (url : Url) : Reply → Except AggregatorError Unit
  | .answered status body =>
    if isSuccessStatus status then .ok () else .error (.rejected url.text status body.plainText)
  | _ => .error (.transport url .noResponse)

/-- Whether the removal of a source has succeeded; one that is not there is removed. -/
def removalOutcome (url : Url) (reply : Reply) : Except AggregatorError Unit :=
  match callOutcome url reply with
  | .error (.rejected _ 404 _) => .ok ()
  | outcome => outcome

/-- The articles that a query has found. -/
def queryOutcome (url : Url) : Reply → Except AggregatorError (List Article)
  | .answered status body =>
    if status = 200 then
      match body.json?.bind (decodeList Article.decode) with
      | some articles => .ok articles
      | none => .error (.undecodable url.text)
    else .error (.rejected url.text status body.plainText)
  | _ => .error (.transport url .noResponse)

end Aggregator

end Newsdesk
