import Newsdesk.Cluster.Script
import Newsdesk.Cluster.Store
import Newsdesk.Program.Run

/-!
# Clusters

A cluster is a whole environment as a value: a store behind the API server, an aggregator, a
clock and counted events. Scripts may take the place of both servers. Every request is kept in a
log, together with what came back.
-/

namespace Newsdesk

open Json

/-- A request to one of the servers. -/
inductive SentRequest where
  | api (request : ApiRequest)
  | aggregator (request : AggregatorRequest)
deriving Repr

/-- A request in the log, and the reply to it. -/
structure LogEntry where
  request : SentRequest
  reply : Reply
deriving Repr

namespace LogEntry

/-- How a reply is shown: by its status, if it has one. -/
def statusJson : Reply → Json
  | .answered status _ => ofNat status
  | .dropped => .str "dropped"
  | .unanswered => .str "hang"

/-- The fields that show a request. -/
def requestFields : SentRequest → List (String × Option Json)
  | .api r =>
    [("to", some (.str "api")),
      ("method", some (.str r.verb)),
      ("path", some (.str r.path)),
      ("body", r.body?),
      ("name", r.selected?.map .str)]
  | .aggregator r =>
    [("to", some (.str "aggregator")),
      ("method", some (.str r.verb.method)),
      ("path", some (.str r.url.target)),
      ("body", r.body)]

/-- The written form of an entry with further fields. -/
def toJsonWith (e : LogEntry) (more : List (String × Option Json)) : Json :=
  ofOptionalFields (requestFields e.request ++ ("status", some (statusJson e.reply)) :: more)

/-- The written form of an entry. -/
def toJson (e : LogEntry) : Json := e.toJsonWith []

/-- Whether an entry lists a collection. -/
def lists (collection : Collection) (e : LogEntry) : Bool :=
  match e.request with
  | .api (.list c _ _) => c = collection
  | _ => false

end LogEntry

/-- A cluster: what is stored, what is scripted for either server, the requests so far, how
often the clock has been read, and what has been counted. -/
structure Cluster where
  store : Store
  faults : Script
  replies : Script
  log : List LogEntry
  readings : Nat
  events : List Event
deriving Repr

namespace Cluster

/-- A cluster in which nothing has happened yet. -/
def start (store : Store) (faults replies : Script) : Cluster := ⟨store, faults, replies, [], 0, []⟩

/-- Adds a request to the log. -/
def logged (request : SentRequest) (reply : Reply) (c : Cluster) : Cluster :=
  { c with log := c.log ++ [⟨request, reply⟩] }

/-- The API server: the script where it has a rule, else the store. -/
def askApi (request : ApiRequest) (c : Cluster) : Reply × Cluster :=
  let (reply, c) :=
    match c.faults.take request.verb request.path with
    | some (reply, faults) => (reply, { c with faults })
    | none =>
      let (reply, store) := c.store.answer request
      (reply, { c with store })
  (reply, c.logged (.api request) reply)

/-- The reply of an aggregator that has nothing to say: no articles for a query. -/
def emptyReply : AggregatorVerb → Reply
  | .query => .answered 200 (.text "[]")
  | _ => .answered 200 .empty

/-- The path that an aggregator sees. -/
def pathOf (url : Url) : String := String.ofList url.path.toList

/-- The aggregator: the script where it has a rule, else one that has nothing to say. -/
def askAggregator (request : AggregatorRequest) (c : Cluster) : Reply × Cluster :=
  let (reply, replies) :=
    (c.replies.take request.verb.method (pathOf request.url)).getD
      (emptyReply request.verb, c.replies)
  (reply, { c with replies }.logged (.aggregator request) reply)

/-- The cluster as an environment, with a text for every reading of the clock. -/
def environment (timeText : Nat → String) : Environment Cluster where
  api := askApi
  aggregator := askAggregator
  now c := (timeText c.readings, { c with readings := c.readings + 1 })
  note event c := { c with events := c.events ++ [event] }

end Cluster

end Newsdesk
