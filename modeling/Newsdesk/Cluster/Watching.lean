import Newsdesk.Cluster.Basic
import Newsdesk.Watch.Triggers

/-!
# Watching a cluster

A watcher lists a collection and then reads one stream of events after the other. After a failure
it waits, each time twice as long up to half a minute, until something succeeds again. Then it
goes on where it was, or lists again when it has to start over. How long it runs is given in
advance.
-/

namespace Newsdesk

open Json

/-- The first wait after a failure of a watcher, in milliseconds. -/
def watchDelayMin : Nat := 800

/-- The longest wait after a failure of a watcher, in milliseconds. -/
def watchDelayMax : Nat := 30000

/-- What a watcher works on: the time that is left and the next wait, in milliseconds; the streams
to come; what has been triggered; and the cluster. -/
structure Watcher where
  left : Nat
  delay : Nat
  streams : List (List Json)
  triggered : List ObjectRef
  cluster : Cluster

namespace Watcher

/-- A watcher at the start of its time. -/
def start (millis : Nat) (streams : List (List Json)) (cluster : Cluster) : Watcher :=
  ⟨millis, watchDelayMin, streams, [], cluster⟩

/-- The watcher after the wait for a failure. -/
def wait (w : Watcher) : Watcher :=
  { w with left := w.left - w.delay, delay := min (2 * w.delay) watchDelayMax }

/-- The watcher after a success. -/
def succeed (w : Watcher) : Watcher := { w with delay := watchDelayMin }

/-- Runs a program on the cluster of a watcher. One that waits without end takes all the time
that is left. -/
def perform {α : Type} (env : Environment Cluster) (p : Program α) (w : Watcher) :
    Except Failure α × Watcher :=
  let (outcome, waits, cluster) := p.run env.patient (false, w.cluster)
  (outcome, { w with cluster, left := if waits then 0 else w.left })

/-- The events in a body: one a line. A line that cannot be read is null. -/
def eventsOf : Body → List Json
  | .value json => [json]
  | .text raw =>
    let lines := (Text.splitAt '\n' raw.toList).filter fun line => ¬ line.all Text.isBlank
    lines.map fun line => (Json.read? (String.ofList line)).getD .null

/-- Opens the next stream: `none` when the attempt fails. A stream that nobody has scripted
stays silent. -/
def openStream (path : String) (w : Watcher) : Option (Option (List Json)) × Watcher :=
  match w.cluster.faults.take "WATCH" path with
  | some (reply, faults) =>
    let w := { w with cluster := { w.cluster with faults } }
    match reply with
    | .answered _ body => (some (some (eventsOf body)), w)
    | .dropped => (none, w)
    | .unanswered => (some none, w)
  | none =>
    match w.streams with
    | [] => (some none, w)
    | events :: rest => (some (some events), { w with streams := rest })

section

variable {α : Type} [Resource α] (env : Environment Cluster) (t : Trigger α)

/-- Triggers the queries that an object concerns. -/
def trigger (object : α) (w : Watcher) : Watcher :=
  if w.left = 0 then w
  else
    match w.perform env (t.affected object) with
    | (.ok refs, w) => { w with triggered := w.triggered ++ refs }
    | (.error _, w) => w

/-- Reads a stream to its end. The result tells whether the watcher has to start over. -/
def readStream : List Json → Watcher → Bool × Watcher
  | [], w => (false, w)
  | line :: rest, w =>
    if w.left = 0 then (false, w)
    else
      match (WatchLine.ofJson line : WatchLine α) with
      | .touched object => readStream rest (w.succeed.trigger env t object)
      | .idle => readStream rest w
      | .failed true => (true, w.wait)
      | .failed false => readStream rest w.wait

/-- Lists, or reads the next stream, for a number of steps. The start of a listing is a success,
whatever comes of it. -/
def steps : Nat → Bool → Watcher → Watcher
  | 0, _, w => w
  | n + 1, listed, w =>
    if w.left = 0 then w
    else if listed then
      match w.openStream (ApiRequest.collectionPath (Resource.collection α) t.scope) with
      | (none, w) => steps n true w.wait
      | (some none, w) => w
      | (some (some events), w) =>
        let (startOver, w) := readStream env t events w
        steps n (!startOver) w
    else
      match w.succeed.perform env t.list with
      | (.ok (.ok ⟨objects, some _⟩), w) =>
        steps n true (objects.foldl (fun w object => w.trigger env t object) w)
      | (_, w) => steps n false w.wait

/-- Runs a watcher until its time is over or nothing is left to happen. A failure takes at least
the first wait, so there are not more steps than waits, listings and streams. -/
def run (w : Watcher) : Watcher :=
  steps env t (2 * (w.left / watchDelayMin + w.streams.length + 2)) false w

end

end Watcher

end Newsdesk
