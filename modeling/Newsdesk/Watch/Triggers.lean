import Newsdesk.Watch.Affected

/-!
# Triggers

Queries are also reconciled when something else changes: a feed that they own, or the config map
of the feed groups. A trigger watches one collection and knows whom each object of it concerns.
A watch sends its events as JSON; what does not decode is passed over.
-/

namespace Newsdesk

open Json

/-! ## Watch events -/

/-- What comes over a watch: a changed object, a failure, after which the watch goes on or has to
start over, or something that changes nothing. -/
inductive WatchLine (α : Type) where
  | touched (object : α)
  | failed (startOver : Bool)
  | idle

namespace WatchLine

/-- The code by which a watch says that it is too old to go on. -/
def expiredCode : Nat := 410

/-- A changed object. Without a version a watch cannot go on from it. -/
def ofChange {α : Type} [Resource α] (object : α) : WatchLine α :=
  if ((Resource.metadata object).resourceVersion.getD "") = "" then .failed true
  else .touched object

/-- Reads an event of a watch. -/
def ofJson {α : Type} [Resource α] (line : Json) : WatchLine α :=
  let object := line.field "object"
  match (line.field "type").text? with
  | some "ADDED" | some "MODIFIED" | some "DELETED" =>
    match (Resource.decode : Decoder α) object with
    | some a => ofChange a
    | none => .failed false
  | some "ERROR" => .failed ((ApiStatus.decode object).any fun status => status.code = expiredCode)
  | some "BOOKMARK" => .idle
  | _ => .failed false

end WatchLine

/-! ## Sources of triggers -/

/-- A trigger: the namespace and the name to which its watch is limited, and the queries that an
object concerns. -/
structure Trigger (α : Type) where
  scope : Option String
  name : Option String
  affected : α → Program (List ObjectRef)

/-- The trigger by feeds. -/
def feedTrigger (s : Settings) : Trigger Feed := ⟨s.watchNamespace, none, affectedByFeed⟩

/-- The trigger by the config map of the feed groups. -/
def configMapTrigger (s : Settings) : Trigger ConfigMap :=
  ⟨s.configMapScope, some s.configMapName, affectedByConfigMap s⟩

namespace Trigger

variable {α : Type} [Resource α]

/-- The objects in the scope of a trigger. -/
def list (t : Trigger α) : Program (Except ApiError (Listing α)) :=
  Program.callApi (decodeListing (Resource.decode : Decoder α))
    (.list (Resource.collection α) t.scope t.name)

/-- The queries that some objects concern, one object after the other. -/
def affectedByAll (t : Trigger α) : List α → Program (List ObjectRef)
  | [] => return []
  | object :: rest => do
    let refs ← t.affected object
    return refs ++ (← t.affectedByAll rest)

end Trigger

end Newsdesk
