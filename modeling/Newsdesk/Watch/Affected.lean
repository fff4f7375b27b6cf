import Newsdesk.Program.Calls
import Newsdesk.Settings.Basic
import Newsdesk.Text.Blank

/-!
# Affected queries

A change of a feed concerns the queries that own it, and a change of the config map those whose
groups it defines. A query is named by its namespace and name. A list that cannot be read
concerns nobody.
-/

namespace Newsdesk

open Text

/-- The name of an object and its namespace, if it has one. -/
structure ObjectRef where
  name : String
  ns : Option String
deriving DecidableEq, Repr

/-- The reference to a query. -/
def HotNews.ref (h : HotNews) : ObjectRef := ⟨h.metadata.displayName, h.metadata.ns⟩

/-- The queries that own a feed. -/
def ownersOf (feed : Feed) (queries : List HotNews) : List ObjectRef :=
  (queries.filter fun h =>
    match h.metadata.uid with
    | some uid => feed.metadata.owners.any fun r => r.uid = uid
    | none => false).map HotNews.ref

/-- The queries with a group that a config map defines. -/
def usersOf (map : ConfigMap) (queries : List HotNews) : List ObjectRef :=
  match map.data with
  | none => []
  | some data =>
    (queries.filter fun h =>
      h.spec.feedGroups.any fun group => (data.lookup (trim group)).isSome).map HotNews.ref

/-- The queries of a namespace; none when they cannot be listed. -/
def listQueries (ns : String) : Program (List HotNews) := do
  match ← (Program.listObjects HotNews ns).attempt with
  | .ok queries => return queries
  | .error _ => return []

/-- The queries that a change of a feed concerns. -/
def affectedByFeed (feed : Feed) : Program (List ObjectRef) := do
  if feed.metadata.owners = [] then return []
  else return ownersOf feed (← listQueries feed.metadata.nsName)

/-- Whether a config map is the one that lists the feed groups. -/
def Settings.selects (s : Settings) (map : ConfigMap) : Bool :=
  s.isFeedGroupsMap map.metadata.ns map.metadata.displayName

/-- The queries that a change of a config map concerns. -/
def affectedByConfigMap (settings : Settings) (map : ConfigMap) : Program (List ObjectRef) := do
  if settings.selects map then return usersOf map (← listQueries map.metadata.nsName)
  else return []

end Newsdesk
