import Newsdesk.Duration

/-!
# Retry delays

A failed reconcile is tried again after a delay that grows with every failure in a row, up to
a limit, and starts afresh after a success. Every object has a schedule of its own, so one that
keeps failing does not slow down the others.
-/

namespace Newsdesk

/-- A growing delay: what the next failure waits, where it starts and where it stops. -/
structure Backoff where
  current : Duration
  initial : Duration
  limit : Duration
deriving DecidableEq, Repr

namespace Backoff

/-- A fresh schedule. An initial delay above the limit is cut to the limit. -/
def start (initial limit : Duration) : Backoff :=
  let first := initial.atMost limit
  ⟨first, first, limit⟩

/-- The delay for a failure and the schedule after it. The delay grows by `grow`, which may
have no answer; then there is no next schedule either. -/
def next? (grow : Duration → Option Duration) (b : Backoff) : Option (Duration × Backoff) :=
  (grow b.current).map fun grown => (b.current, { b with current := grown.atMost b.limit })

/-- The schedule after a success. -/
def reset (b : Backoff) : Backoff := { b with current := b.initial }

end Backoff

/-- The retry schedules of all failing objects, by key. An object without an entry has not
failed since its last success. -/
structure RetryTable where
  initial : Duration
  limit : Duration
  entries : List (String × Backoff)
deriving Repr

namespace RetryTable

/-- A table without failures. -/
def empty (initial limit : Duration) : RetryTable := ⟨initial, limit, []⟩

/-- The schedule of an object that has failed. -/
def find? (t : RetryTable) (key : String) : Option Backoff := t.entries.lookup key

/-- The factor by which a delay grows. -/
def factor : Number.Binary64 := Number.Binary64.ofNat 2

/-- Sets the schedule of a key, at its place or at the end. -/
def put (key : String) (b : Backoff) : List (String × Backoff) → List (String × Backoff)
  | [] => [(key, b)]
  | (k, old) :: rest => if k = key then (k, b) :: rest else (k, old) :: put key b rest

/-- The delay before the next attempt for `key` and the table after it; `none` when the grown
delay is no duration any more. -/
def nextDelayWith? (grow : Duration → Option Duration) (key : String) (t : RetryTable) :
    Option (Duration × RetryTable) :=
  let b := (t.find? key).getD (Backoff.start t.initial t.limit)
  (b.next? grow).map fun (delay, b') => (delay, { t with entries := put key b' t.entries })

/-- The delay before the next attempt for `key`; the one after it is twice as long. -/
def nextDelay? (key : String) (t : RetryTable) : Option (Duration × RetryTable) :=
  t.nextDelayWith? (Duration.scale? factor) key

/-- Forgets the failures of an object that has succeeded. -/
def reset (key : String) (t : RetryTable) : RetryTable :=
  { t with entries := t.entries.filter (fun e => e.1 ≠ key) }

/-- How many objects are backing off. -/
def tracked (t : RetryTable) : Nat := t.entries.length

end RetryTable

end Newsdesk
