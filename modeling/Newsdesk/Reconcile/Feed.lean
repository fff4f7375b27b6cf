import Newsdesk.Operator
import Newsdesk.Reconcile.Lifecycle
import Newsdesk.Reconcile.Status

/-!
# Reconciling feeds

A feed is kept registered with the aggregator by its URL. When it is deleted its source is
removed by name, and only then may the feed go. Every attempt calls the aggregator at most once
and leaves its outcome in the status.
-/

namespace Newsdesk

open Text

/-- How an object is shown in messages. -/
def objectLabel (kind ns name : String) : String := kind ++ " " ++ ns ++ "/" ++ name

/-- Registers the source of a feed with the aggregator. -/
def registerSource (op : Operator) (feed : Feed) : Program Unit :=
  (Program.addSource op.aggregator (trim feed.spec.url)).within
    ("failed to register source '" ++ feed.spec.url ++ "'")

/-- Removes the source of a feed from the aggregator. -/
def removeSource (op : Operator) (feed : Feed) : Program Unit :=
  (Program.deleteSource op.aggregator (trim feed.spec.name)).within
    ("failed to delete source '" ++ feed.spec.name ++ "' from aggregator")

/-- Finishes an attempt on a feed: the outcome is recorded, then a failure is passed on. -/
def finishFeed (feed : Feed) (kind : ConditionKind) (outcome : Except Failure Unit) :
    Program Action := do
  recordFeedOutcome feed kind outcome
  match outcome with
  | .ok () => return .awaitChange
  | .error f => .fail f

/-- Brings the feed of a name to the state that it asks for. -/
def reconcileFeed (op : Operator) (ns name : String) : Program Action := do
  let found ← (Program.getObject? Feed ns name).within ("failed to get " ++ objectLabel "Feed" ns name)
  match found with
  | none => return .awaitChange
  | some feed =>
    match Lifecycle.of feed.metadata feedFinalizer with
    | .gone => return .awaitChange
    | .finalizing =>
      match ← (handleDeletion feed feedFinalizer (removeSource op feed)).attempt with
      | .ok () => return .awaitChange
      | .error f => finishFeed feed .deleted (.error f)
    | .active =>
      let feed ← ensureFinalizer feed feedFinalizer
      finishFeed feed .added (← (registerSource op feed).attempt)

end Newsdesk
