import Newsdesk.Program.Calls
import Newsdesk.Query.Summary

/-!
# Recording outcomes

An attempt leaves a condition in the status of its object. The new status is made from the old
one; if nothing has changed it is not written.
-/

namespace Newsdesk

/-- The condition for a failure. -/
def failureCondition (kind : ConditionKind) (f : Failure) (name now : String) : Condition :=
  ⟨kind, false, f.reason.name, f.full, name, now⟩

/-! ## Feeds -/

/-- The condition that an attempt on a feed leaves. -/
def feedCondition (feed : Feed) (kind : ConditionKind) (outcome : Except Failure Unit)
    (now : String) : Condition :=
  match outcome with
  | .ok () =>
    ⟨kind, true, Reason.sourceRegistered.name, "source registered with the news aggregator",
      feed.spec.name, now⟩
  | .error f => failureCondition kind f feed.spec.name now

/-- The status of a feed after an attempt. -/
def feedStatusAfter (feed : Feed) (kind : ConditionKind) (outcome : Except Failure Unit)
    (now : String) : FeedStatus :=
  let status := feed.status.getD ⟨[]⟩
  ⟨(Condition.upsert (feedCondition feed kind outcome now) status.conditions).1⟩

/-! ## Hot news -/

/-- The condition that a query leaves. -/
def hotNewsCondition (name : String) (outcome : Except Failure NewsSummary) (now : String) :
    Condition :=
  match outcome with
  | .ok summary =>
    ⟨.added, true, Reason.newsFetched.name,
      "fetched " ++ toString summary.articlesCount ++ " articles", name, now⟩
  | .error f => failureCondition .added f name now

/-- The status of a news query after it has been run. A failure keeps the last result. -/
def hotNewsStatusAfter (h : HotNews) (outcome : Except Failure NewsSummary) (now : String) :
    HotNewsStatus :=
  let status := h.status.getD .empty
  let status := match outcome with
    | .ok summary =>
      { status with
        articlesCount := summary.articlesCount
        newsLink := summary.newsLink
        articlesTitles := summary.articlesTitles }
    | .error _ => status
  let condition := hotNewsCondition h.metadata.displayName outcome now
  { status with conditions := (Condition.upsert condition status.conditions).1 }

/-! ## Writing -/

/-- Writes the status of an object unless it is the one on record. -/
def updateStatus {α S : Type} [Resource α] [DecidableEq S] (object : α) (current : Option S)
    (status : S) (encode : S → Json) : Program Unit :=
  if current = some status then return ()
  else
    let m := Resource.metadata object
    let kind := (Resource.collection α).kind
    (Program.patchObjectStatus α m.nsName m.displayName
      (Json.ofFields [("status", encode status)])).within
      ("failed to update status of " ++ kind ++ " " ++ m.nsName ++ "/" ++ m.displayName)

/-- Records an attempt on a feed. A status that cannot be written is let go. -/
def recordFeedOutcome (feed : Feed) (kind : ConditionKind) (outcome : Except Failure Unit) :
    Program Unit := do
  let now ← Program.currentTime
  let status := feedStatusAfter feed kind outcome now
  let _ ← (updateStatus feed feed.status status FeedStatus.toJson).attempt

/-- Records the outcome of a query. -/
def recordHotNewsOutcome (h : HotNews) (outcome : Except Failure NewsSummary) :
    Program Unit := do
  let now ← Program.currentTime
  updateStatus h h.status (hotNewsStatusAfter h outcome now) HotNewsStatus.toJson

end Newsdesk
