import Newsdesk.Backoff
import Newsdesk.Program.Run
import Newsdesk.Reconcile.HotNews

/-!
# Controllers

A controller reconciles the objects of one collection. What follows from an attempt depends on
its outcome alone: a success forgets the failures of the object, a failure plans the next attempt
after the delay that the retry table gives. Both are counted.
-/

namespace Newsdesk

/-- A controller: the collection that it looks after, and how an object of it is reconciled by
namespace and name. -/
structure Controller where
  collection : Collection
  reconcile : Operator → String → String → Program Action

namespace Controller

/-- The controller of feeds. -/
def feeds : Controller := ⟨.feeds, reconcileFeed⟩

/-- The controller of news queries. -/
def hotNews : Controller := ⟨.hotNews, reconcileHotNews⟩

end Controller

/-- The key of an object in the retry table. -/
def retryKey (kind ns name : String) : String := kind ++ "/" ++ ns ++ "/" ++ name

/-! ## What follows from an attempt -/

/-- What follows from an attempt: when the object is reconciled again, the retry table after it,
and the events that it counts for. -/
structure FollowUp where
  action : Action
  retries : RetryTable
  events : List Event
deriving Repr

namespace FollowUp

/-- The reason by which a planned refresh is counted. -/
def refreshReason : String := "refresh"

/-- The reason by which a repeated attempt is counted. -/
def errorReason : String := "error"

/-- The events that a success counts for. -/
def successEvents (kind : String) (elapsed : Duration) (action : Action) : List Event :=
  .reconciled kind true elapsed ::
    if action = .awaitChange then [] else [.requeued kind refreshReason]

/-- The events that a failure counts for. -/
def failureEvents (kind : String) (elapsed : Duration) (f : Failure) : List Event :=
  [.reconciled kind false elapsed, .failed kind f.reason.name, .requeued kind errorReason]

/-- What follows from an attempt, with `grow` for the growth of delays; `none` when the delay
after the next one is no duration any more. -/
def ofOutcomeWith? (grow : Duration → Option Duration) (kind key : String) (elapsed : Duration)
    (outcome : Except Failure Action) (t : RetryTable) : Option FollowUp :=
  match outcome with
  | .ok action => some ⟨action, t.reset key, successEvents kind elapsed action⟩
  | .error f =>
    (t.nextDelayWith? grow key).map fun (delay, t) =>
      ⟨.requeue delay, t, failureEvents kind elapsed f⟩

/-- What follows from an attempt when delays double. -/
def ofOutcome? (kind key : String) (elapsed : Duration) (outcome : Except Failure Action)
    (t : RetryTable) : Option FollowUp :=
  ofOutcomeWith? (Duration.scale? RetryTable.factor) kind key elapsed outcome t

end FollowUp

/-! ## Turns -/

/-- An attempt with what followed from it, and the state in which it left its environment. -/
structure Turn (σ : Type) where
  outcome : Except Failure Action
  next : Action
  retries : RetryTable
  state : σ

/-- Reconciles an object once and draws the consequences. -/
def Controller.turn? {σ : Type} (k : Controller) (env : Environment σ) (op : Operator)
    (ns name : String) (t : RetryTable) (s : σ) : Option (Turn σ) :=
  let kind := k.collection.kind
  let (outcome, s) := (k.reconcile op ns name).run env s
  (FollowUp.ofOutcome? kind (retryKey kind ns name) .zero outcome t).map fun f =>
    ⟨outcome, f.action, f.retries, f.events.foldl (fun s e => env.note e s) s⟩

end Newsdesk
