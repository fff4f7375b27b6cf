import Newsdesk.Admission.FieldError
import Newsdesk.Calendar.Date
import Newsdesk.Json.Patch
import Newsdesk.Query.Summary

/-!
# Rules for hot news

A query that says nothing about its feeds asks all feeds of its namespace, and one that does not
limit its titles keeps ten. A valid query has a keyword, names only feeds that exist, and has
either no dates or two, the first before the second.
-/

namespace Newsdesk

open Json Text

/-! ## Defaults -/

/-- A query with its defaults and what its author should know. -/
structure Defaulted where
  spec : HotNewsSpec
  warnings : List String
deriving DecidableEq, Repr

/-- Whether a query says nothing about its feeds. -/
def HotNewsSpec.needsFeeds (spec : HotNewsSpec) : Bool :=
  spec.feedsName = [] && spec.feedGroups = []

/-- The warning for a query that has no feeds to ask. -/
def noFeedsWarning : String :=
  "neither feedsName nor feedGroups is set and the namespace has no Feeds; " ++
    "the HotNews will fail until a Feed exists"

/-- A query with its defaults, given the names of the feeds of its namespace. -/
def defaultSpec (spec : HotNewsSpec) (feeds : List String) : Defaulted :=
  let summaryConfig : SummaryConfig :=
    if spec.summaryConfig.titlesCount = 0 then ⟨defaultTitlesCount⟩ else spec.summaryConfig
  let feedsName := if spec.needsFeeds then feeds else spec.feedsName
  { spec := { spec with summaryConfig, feedsName }
    warnings := if spec.needsFeeds ∧ feeds = [] then [noFeedsWarning] else [] }

/-- The object with the fields of a query in place of its specification. Fields of the object
that a query does not have are kept. -/
def overlaySpec (object : Json) (spec : HotNewsSpec) : Json :=
  match object, spec.toJson with
  | .obj fields, .obj new =>
    match fields.lookup "spec" with
    | some (.obj old) =>
      .obj (setField "spec" (.obj (new.foldl (fun acc f => setField f.1 f.2 acc) old)) fields)
    | _ => .obj (setField "spec" (.obj new) fields)
  | object, _ => object

/-- The patch that puts a query in place of the specification of an object. -/
def specPatch (object : Json) (spec : HotNewsSpec) : Patch :=
  Patch.diff object (overlaySpec object spec)

/-! ## Violations -/

/-- A date, or what is wrong with it. -/
def readDate (field value : String) : Except FieldError Date :=
  match Date.parse? value with
  | some date => .ok date
  | none => .error ⟨field, "'" ++ value ++ "' is not a date in YYYY-MM-DD format"⟩

/-- The violation when the dates are in the wrong order. -/
def orderError (start stop : Date) : FieldError :=
  ⟨"spec.dateStart", "dateStart " ++ start.text ++ " must be before dateEnd " ++ stop.text⟩

/-- What is wrong with the dates of a query. -/
def validateDates (spec : HotNewsSpec) : List FieldError :=
  match spec.dateStart, spec.dateEnd with
  | none, none => []
  | some start, some stop =>
    match readDate "spec.dateStart" start, readDate "spec.dateEnd" stop with
    | .ok start, .ok stop => if Date.Before start stop then [] else [orderError start stop]
    | .error e, .ok _ => [e]
    | .ok _, .error e => [e]
    | .error e, .error e' => [e, e']
  | _, _ => [⟨"spec.dateStart", "dateStart and dateEnd must be set together"⟩]

/-- What is wrong with the keywords of a query. -/
def keywordErrors (keywords : List String) : List FieldError :=
  if keywords.all fun k => (trimList k.toList).isEmpty then
    [⟨"spec.keywords", "at least one keyword is required"⟩]
  else []

/-- What is wrong with the feed names of a query. -/
def feedsNameErrors (names feeds : List String) : List FieldError :=
  names.filterMap fun name =>
    if feeds.contains (trim name) then none
    else some ⟨"spec.feedsName", missingFeedMessage (trim name)⟩

/-- What is wrong with a query, given the names of the feeds of its namespace. -/
def validateSpec (spec : HotNewsSpec) (feeds : List String) : List FieldError :=
  validateDates spec ++ keywordErrors spec.keywords ++ feedsNameErrors spec.feedsName feeds

/-- What is wrong with a query whose namespace cannot be searched. -/
def validateWithoutFeeds (spec : HotNewsSpec) (message : String) : List FieldError :=
  validateDates spec ++ keywordErrors spec.keywords ++ [⟨"spec.feedsName", message⟩]

end Newsdesk
