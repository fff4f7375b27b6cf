import Newsdesk.Reconcile.Feed
import Newsdesk.Resource.Ownership

/-!
# Reconciling hot news

A query resolves its feed groups and keeps the result as its feed names, asks the aggregator,
takes ownership of exactly the feeds it has asked and leaves the outcome in its status. It is
run again after the refresh time. When it is deleted it only gives up its feeds.
-/

namespace Newsdesk

open Json Text

/-! ## Ownership -/

/-- The patch that replaces the owners of a feed. -/
def ownersPatch (change : OwnerChange) : Json :=
  metadataPatch change.resourceVersion "ownerReferences"
    (.arr (change.owners.map OwnerReference.toJson))

/-- Writes planned changes one after the other, up to the first that fails. -/
def writeOwnerChanges (ns : String) : List OwnerChange → Program Unit
  | [] => return ()
  | change :: rest => do
    let _ : Feed ← (Program.patchObject ns change.feed (ownersPatch change)).within
      ("failed to update owner references of " ++ objectLabel "Feed" ns change.feed)
    writeOwnerChanges ns rest

/-- The feeds of a namespace. -/
def listFeeds (ns : String) : Program (List Feed) :=
  (Program.listObjects Feed ns).within ("failed to list Feeds in " ++ ns)

/-- Makes a query own exactly the desired feeds. -/
def syncOwners (h : HotNews) (desired : List String) : Program Unit :=
  match ownerReference? h with
  | none => return ()
  | some owner => do
    let ns := h.metadata.nsName
    let feeds ← listFeeds ns
    writeOwnerChanges ns (planOwnerChanges feeds owner desired)

/-- Gives up all feeds of a query. -/
def releaseFeeds (h : HotNews) : Program Unit :=
  (syncOwners h []).within "failed to release Feed owner references"

/-! ## Groups -/

/-- The trimmed names of feeds. -/
def feedNames (feeds : List Feed) : List String := feeds.map fun f => trim f.spec.name

/-- The feed names that the groups of a query stand for; none when groups do not count in its
namespace or are not defined. -/
def resolvedNames (op : Operator) (h : HotNews) (feeds : List Feed) : Program (List String) := do
  let ns := h.metadata.nsName
  if h.spec.feedGroups = [] ∨ ¬ op.settings.feedGroupsEnabledIn ns then return []
  else
    let name := op.settings.configMapName
    let found ← (Program.getObject? ConfigMap ns name).within
      ("failed to read " ++ objectLabel "ConfigMap" ns name)
    match found.bind ConfigMap.data with
    | none => return []
    | some data => Program.ofExcept .query (resolveGroups h.spec.feedGroups data (feedNames feeds))

/-- The patch that replaces the feed names of a query. -/
def feedsNamePatch (h : HotNews) (names : List String) : Json :=
  ofFields [
    ("metadata", ofFields [("resourceVersion", nullableText h.metadata.resourceVersion)]),
    ("spec", ofFields [("feedsName", ofStrings names)])]

/-- Writes the resolved feed names to a query. -/
def persistFeedsName (h : HotNews) (names : List String) : Program Unit := do
  let ns := h.metadata.nsName
  let name := h.metadata.displayName
  let _ : HotNews ← (Program.patchObject ns name (feedsNamePatch h names)).within
    ("failed to update feedsName of " ++ objectLabel "HotNews" ns name)

/-- The query as it is run: with the resolved feed names, which are written first if they are
new. -/
def effectiveSpec (op : Operator) (h : HotNews) (feeds : List Feed) : Program HotNewsSpec := do
  let resolved ← resolvedNames op h feeds
  if resolved ≠ [] ∧ resolved ≠ h.spec.feedsName then
    persistFeedsName h resolved
    return { h.spec with feedsName := resolved }
  else return h.spec

/-! ## Queries -/

/-- Runs a query. -/
def fetchNews (op : Operator) (spec : HotNewsSpec) : Program NewsSummary := do
  let endpoint ← Program.ofExcept .aggregator op.aggregator.newsEndpoint
  let url ← Program.ofExcept .query (queryUrl endpoint spec)
  let articles ← (Program.fetchArticles url).within "failed to query news aggregator"
  return summarize spec url.text articles

/-- Resolves groups, runs the query and takes ownership of the feeds. -/
def refresh (op : Operator) (h : HotNews) : Program NewsSummary := do
  let ns := h.metadata.nsName
  let feeds ← listFeeds ns
  let spec ← effectiveSpec op h feeds
  let summary ← fetchNews op spec
  match ownerReference? h with
  | none => return summary
  | some owner =>
    writeOwnerChanges ns (planOwnerChanges feeds owner spec.feedsName)
    return summary

/-- Brings the query of a name up to date. -/
def reconcileHotNews (op : Operator) (ns name : String) : Program Action := do
  let found ← (Program.getObject? HotNews ns name).within
    ("failed to get " ++ objectLabel "HotNews" ns name)
  match found with
  | none => return .awaitChange
  | some h =>
    match Lifecycle.of h.metadata hotNewsFinalizer with
    | .gone => return .awaitChange
    | .finalizing =>
      handleDeletion h hotNewsFinalizer (releaseFeeds h)
      return .awaitChange
    | .active =>
      let h ← ensureFinalizer h hotNewsFinalizer
      match ← (refresh op h).attempt with
      | .ok summary =>
        recordHotNewsOutcome h (.ok summary)
        return .requeue op.settings.hotNewsRefresh
      | .error f =>
        let _ ← (recordHotNewsOutcome h (.error f)).attempt
        .fail f

end Newsdesk
