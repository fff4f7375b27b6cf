import Newsdesk.Json.Printer
import Newsdesk.Metrics.Event

/-!
# Metrics as text

Counted events are shown in the Prometheus text format: one family after the other in the order
of their names, and in a family one line for each series, in the order of its label values. The
durations of reconciliations are shown as a histogram.
-/

namespace Newsdesk.Metrics

open Number

/-! ## Names -/

/-- The front of every name. -/
def area : String := "newsaggregator_io_"

/-- The name of a counter. -/
def counterName : Counter → String
  | .reviews => area ++ "admission_reviews_total"
  | .failures => area ++ "errors_total"
  | .reconciliations => area ++ "reconciliations_total"
  | .requeues => area ++ "requeues_total"
  | .deletions => area ++ "resources_deleted_total"

/-- What a counter counts. -/
def counterHelp : Counter → String
  | .reviews => "Total number of admission reviews by webhook and outcome"
  | .failures => "Total number of errors by resource type and error category"
  | .reconciliations => "Total number of reconciliations by resource type and status"
  | .requeues => "Total number of requeue operations by resource type and reason"
  | .deletions => "Total number of resources finalized by type"

/-- The names of the labels of a counter, in order. -/
def counterLabels : Counter → List String
  | .reviews => ["outcome", "webhook"]
  | .failures => ["error_type", "resource_type"]
  | .reconciliations => ["resource_type", "status"]
  | .requeues => ["reason", "resource_type"]
  | .deletions => ["resource_type"]

/-- The name of the histogram of durations. -/
def durationName : String := area ++ "reconciliation_duration_seconds"

/-- What the histogram shows. -/
def durationHelp : String := "Duration of reconciliations in seconds by resource type"

/-! ## Lines -/

/-- A character of a label value. -/
def labelChar (c : Char) : List Char :=
  if c = '\\' then ['\\', '\\']
  else if c = '"' then ['\\', '"']
  else if c = '\n' then ['\\', 'n']
  else [c]

/-- Names and values of labels in braces. -/
def labelsText (labels : List (String × String)) : String :=
  let one (l : String × String) : String :=
    l.1 ++ "=\"" ++ String.ofList (l.2.toList.flatMap labelChar) ++ "\""
  "\x7b" ++ ",".intercalate (labels.map one) ++ "\x7d"

/-- A line with a name, labels and a value. -/
def line (name : String) (labels : List (String × String)) (value : String) : String :=
  name ++ labelsText labels ++ " " ++ value

/-- The two comment lines above a family. -/
def header (name help type : String) : List String :=
  ["# HELP " ++ name ++ " " ++ help, "# TYPE " ++ name ++ " " ++ type]

/-- Inserts label values at their place; values that are there already are kept once. -/
def insertValues (values : List String) : List (List String) → List (List String)
  | [] => [values]
  | other :: rest =>
    if values = other then other :: rest
    else if values < other then values :: other :: rest
    else other :: insertValues values rest

/-- The series of a counter that have been counted, in order. -/
def seriesOf (counter : Counter) (events : List Event) : List Series :=
  let values := (events.map Event.series).filter fun s => s.counter = counter
  (values.foldl (fun acc s => insertValues s.values acc) []).map fun v => ⟨counter, v⟩

/-- The lines of a counter. -/
def counterLines (counter : Counter) (events : List Event) : List String :=
  match seriesOf counter events with
  | [] => []
  | series =>
    header (counterName counter) (counterHelp counter) "counter" ++
      series.map fun s =>
        line (counterName counter) ((counterLabels counter).zip s.values)
          (toString (s.count events))

/-! ## The histogram -/

/-- The upper bounds of the buckets in thousandths of a second, and how they are written. -/
def buckets : List (Nat × String) :=
  [(1, "0.001"), (10, "0.01"), (100, "0.1"), (500, "0.5"), (1000, "1"), (2000, "2"), (5000, "5"),
    (10000, "10"), (30000, "30"), (60000, "60")]

/-- Whether one finite magnitude does not exceed another. -/
def notAbove : Binary64 → Binary64 → Bool
  | .finite _ m e, .finite _ n f =>
    let (a, b) := Binary64.ratio m e
    let (c, d) := Binary64.ratio n f
    a * d ≤ c * b
  | _, _ => false

/-- The durations of reconciliations of a kind, in seconds. -/
def durationsOf (kind : String) (events : List Event) : List Binary64 :=
  events.filterMap fun
    | .reconciled k _ elapsed => if k = kind then some elapsed.toSeconds else none
    | _ => none

/-- The digits of a magnitude without exponent. -/
def plainText (x : Binary64) : String :=
  match x with
  | .finite _ mantissa exponent =>
    let d := Decimal.shortest mantissa exponent
    let ds := Json.decimalDigits d.digits
    let point : Int := ds.length + d.exponent
    String.ofList <|
      if 0 ≤ d.exponent then ds ++ List.replicate d.exponent.toNat '0'
      else if 0 < point then ds.take point.toNat ++ '.' :: ds.drop point.toNat
      else '0' :: '.' :: List.replicate (-point).toNat '0' ++ ds
  | .infinite _ => "+Inf"
  | .nan => "NaN"

/-- The lines of the histogram for a kind. -/
def durationLinesOf (kind : String) (events : List Event) : List String :=
  let durations := durationsOf kind events
  let label := ("resource_type", kind)
  let bucket (b : Nat × String) : String :=
    let bound := Binary64.ofRatio false b.1 1000
    line (durationName ++ "_bucket") [label, ("le", b.2)]
      (toString (durations.countP fun x => notAbove x bound))
  let sum := durations.foldl Binary64.addMagnitudes (Binary64.zero false)
  buckets.map bucket ++
    [line (durationName ++ "_bucket") [label, ("le", "+Inf")] (toString durations.length),
      line (durationName ++ "_sum") [label] (plainText sum),
      line (durationName ++ "_count") [label] (toString durations.length)]

/-- The kinds that have been reconciled, in order. -/
def reconciledKinds (events : List Event) : List String :=
  let kinds := events.filterMap fun
    | .reconciled kind _ _ => some [kind]
    | _ => none
  (kinds.foldl (fun acc k => insertValues k acc) []).flatten

/-- The lines of the histogram. -/
def durationLines (events : List Event) : List String :=
  match reconciledKinds events with
  | [] => []
  | kinds =>
    header durationName durationHelp "histogram" ++ kinds.flatMap fun k => durationLinesOf k events

/-! ## Everything -/

/-- All lines. -/
def lines (events : List Event) : List String :=
  counterLines .reviews events ++ counterLines .failures events ++ durationLines events ++
    counterLines .reconciliations events ++ counterLines .requeues events ++
    counterLines .deletions events

/-- The lines that count: without comments, and of the histogram only the numbers of
durations. -/
def counts (events : List Event) : List String :=
  let durationCounts := (reconciledKinds events).map fun k =>
    line (durationName ++ "_count") [("resource_type", k)] (toString (durationsOf k events).length)
  let valueLines (c : Counter) := (counterLines c events).drop 2
  valueLines .reviews ++ valueLines .failures ++ durationCounts ++ valueLines .reconciliations ++
    valueLines .requeues ++ valueLines .deletions

/-- The text that is served. -/
def text (events : List Event) : String :=
  String.join ((lines events).map (· ++ "\n"))

end Newsdesk.Metrics
