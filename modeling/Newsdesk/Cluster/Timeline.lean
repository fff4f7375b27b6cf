import Newsdesk.Cluster.Watching
import Newsdesk.Controller.Basic

/-!
# Timelines

A controller works on a cluster over a span of time: every object that it lists is reconciled at
once, and again whenever an attempt asks for it. Nothing else takes time, so each request is made
at the moment for which its attempt was planned.
-/

namespace Newsdesk

/-- A reconcile that is planned for a time. -/
structure Appointment where
  due : Duration
  ns : String
  name : String
deriving DecidableEq, Repr

/-- A controller at work: planned reconciles in the order of their times, the retry table, the
cluster, and when each request of a reconcile was made. -/
structure Timeline where
  agenda : List Appointment
  retries : RetryTable
  cluster : Cluster
  requests : List (Duration × LogEntry)

namespace Timeline

/-- Plans a reconcile, after those of the same time. -/
def plan (a : Appointment) : List Appointment → List Appointment
  | [] => [a]
  | b :: rest => if b.due ≤ a.due then b :: plan a rest else a :: b :: rest

/-- Whether an entry of the log belongs to the work on objects: a list does only if it is about
the feeds of a namespace. -/
def isOfInterest (entry : LogEntry) : Bool :=
  match entry.request with
  | .api (.list collection ns _) => collection = .feeds && ns.isSome
  | _ => true

/-- The requests that were made since an earlier state of a cluster. -/
def requestsSince (due : Duration) (before after : Cluster) : List (Duration × LogEntry) :=
  ((after.log.drop before.log.length).filter isOfInterest).map fun e => (due, e)

/-- Keeps one planned reconcile; `none` when its retry delay is no duration any more. Nothing
follows from a reconcile that waits without end. -/
def keep (env : Environment Cluster) (op : Operator) (k : Controller) (a : Appointment)
    (t : Timeline) : Option Timeline := do
  let turn ← k.turn? env.patient op a.ns a.name t.retries (false, t.cluster)
  let (waits, cluster) := turn.state
  let requests := t.requests ++ requestsSince a.due t.cluster cluster
  if waits then return { t with cluster, requests }
  else
    let agenda := match turn.next with
      | .awaitChange => t.agenda
      | .requeue after => plan { a with due := a.due + after } t.agenda
    return ⟨agenda, turn.retries, cluster, requests⟩

/-- Keeps planned reconciles that are due before the end, at most a given number. -/
def run (env : Environment Cluster) (op : Operator) (k : Controller) (stop : Duration) :
    Nat → Timeline → Option Timeline
  | 0, t => some t
  | n + 1, t =>
    match t.agenda with
    | [] => some t
    | a :: rest =>
      if stop ≤ a.due then some t
      else do run env op k stop n (← keep env op k a { t with agenda := rest })

/-- The objects with which a controller starts: those in its scope. -/
def initial {α : Type} [Resource α] (scope : Option String) : Program (List Appointment) := do
  let objects ← Program.callApi (decodeObjects (Resource.decode : Decoder α))
    (.list (Resource.collection α) scope none)
  match objects with
  | .ok objects =>
    return objects.map fun o =>
      ⟨.zero, (Resource.metadata o).nsName, (Resource.metadata o).displayName⟩
  | .error _ => return []

/-- Lists what a trigger watches. Whom it concerns at the start is reconciled anyway. -/
def prime {α : Type} [Resource α] (trigger : Trigger α) : Program Unit := do
  match ← trigger.list with
  | .ok listing => let _ ← trigger.affectedByAll listing.objects
  | .error _ => return ()

/-- The first steps of the controller of feeds. -/
def startFeeds (s : Settings) : Program (List Appointment) := initial (α := Feed) s.watchNamespace

/-- The first steps of the controller of queries. -/
def startHotNews (s : Settings) : Program (List Appointment) := do
  let agenda ← initial (α := HotNews) s.watchNamespace
  prime (feedTrigger s)
  prime (configMapTrigger s)
  return agenda

/-- A timeline of a controller from its start to the end of a number of seconds. In each
millisecond an object is reconciled at most once. -/
def ofController (env : Environment Cluster) (op : Operator) (k : Controller)
    (start : Program (List Appointment)) (seconds : Nat) (retries : RetryTable)
    (cluster : Cluster) : Option Timeline :=
  let (agenda, after) := start.run env cluster
  let agenda := agenda.toOption.getD []
  let t : Timeline := ⟨agenda, retries, after, requestsSince .zero cluster after⟩
  t.run env op k (.ofSeconds seconds) ((1000 * seconds + 1) * agenda.length)

end Timeline

end Newsdesk
