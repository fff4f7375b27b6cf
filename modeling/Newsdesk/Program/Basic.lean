import Newsdesk.Aggregator
import Newsdesk.Api.Request
import Newsdesk.Metrics.Event

/-!
# Programs

What the operator does is written as a program: a tree whose nodes ask the API server, the
aggregator or the clock and whose branches depend on the answer. A program says nothing about
what answers it; `Program.run` lets any environment do so. So a statement about a program holds
whatever the cluster does and however other programs write in between.
-/

namespace Newsdesk

/-- A program that ends with a value or a failure. -/
inductive Program (α : Type) where
  | done (value : α)
  | fail (failure : Failure)
  | api (request : ApiRequest) (next : Reply → Program α)
  | aggregator (request : AggregatorRequest) (next : Reply → Program α)
  | now (next : String → Program α)
  | note (event : Event) (next : Program α)

namespace Program

/-! ## Sequencing -/

/-- Goes on with the value of a program. -/
def bind {α β : Type} (p : Program α) (f : α → Program β) : Program β :=
  match p with
  | .done value => f value
  | .fail failure => .fail failure
  | .api request next => .api request fun reply => (next reply).bind f
  | .aggregator request next => .aggregator request fun reply => (next reply).bind f
  | .now next => .now fun time => (next time).bind f
  | .note event next => .note event (next.bind f)

instance : Monad Program where
  pure := .done
  bind := Program.bind

/-- The program that always ends with a value: the outcome of another one. -/
def attempt {α : Type} : Program α → Program (Except Failure α)
  | .done value => .done (.ok value)
  | .fail failure => .done (.error failure)
  | .api request next => .api request fun reply => (next reply).attempt
  | .aggregator request next => .aggregator request fun reply => (next reply).attempt
  | .now next => .now fun time => (next time).attempt
  | .note event next => .note event next.attempt

/-- The program with a context for its failures. -/
def within {α : Type} (doing : String) : Program α → Program α
  | .done value => .done value
  | .fail failure => .fail (failure.within doing)
  | .api request next => .api request fun reply => (next reply).within doing
  | .aggregator request next => .aggregator request fun reply => (next reply).within doing
  | .now next => .now fun time => (next time).within doing
  | .note event next => .note event (next.within doing)

end Program

end Newsdesk
