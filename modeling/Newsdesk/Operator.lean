import Newsdesk.Aggregator
import Newsdesk.Settings.Basic

/-!
# The operator

What every reconcile needs to know: the settings and the aggregator they name. After a reconcile
an object waits for its next change or for a time.
-/

namespace Newsdesk

/-- The settings and the aggregator that they name. -/
structure Operator where
  settings : Settings
  aggregator : Aggregator
deriving Repr

/-- The operator with given settings; the URL of the aggregator must be readable. -/
def Operator.ofSettings (settings : Settings) : Except AggregatorError Operator := do
  return ⟨settings, ← Aggregator.ofBase settings.aggregatorUrl⟩

/-- When an object is reconciled again. -/
inductive Action where
  | awaitChange
  | requeue (after : Duration)
deriving DecidableEq, Repr

end Newsdesk
