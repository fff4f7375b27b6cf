import Newsdesk.Duration

/-!
# Counted events

The operator counts what it does. An event belongs to one series of one counter; how often a
series has been counted is the number of its events.
-/

namespace Newsdesk

/-- Something that is counted. -/
inductive Event where
  | reconciled (kind : String) (success : Bool) (elapsed : Duration)
  | requeued (kind reason : String)
  | failed (kind reason : String)
  | reviewed (webhook outcome : String)
  | deleted (kind : String)
deriving DecidableEq, Repr

/-- The counters. -/
inductive Counter where
  | reviews
  | failures
  | reconciliations
  | requeues
  | deletions
deriving DecidableEq, Repr

/-- One series of a counter: the values of its labels, in the order of their names. -/
structure Series where
  counter : Counter
  values : List String
deriving DecidableEq, Repr

namespace Event

/-- The series that an event belongs to. -/
def series : Event → Series
  | .reconciled kind success _ => ⟨.reconciliations, [kind, if success then "success" else "error"]⟩
  | .requeued kind reason => ⟨.requeues, [reason, kind]⟩
  | .failed kind reason => ⟨.failures, [reason, kind]⟩
  | .reviewed webhook outcome => ⟨.reviews, [outcome, webhook]⟩
  | .deleted kind => ⟨.deletions, [kind]⟩

end Event

/-- How often a series has been counted. -/
def Series.count (s : Series) (events : List Event) : Nat :=
  events.countP fun e => e.series = s

theorem Series.count_append (s : Series) (xs ys : List Event) :
    s.count (xs ++ ys) = s.count xs + s.count ys :=
  List.countP_append

end Newsdesk
