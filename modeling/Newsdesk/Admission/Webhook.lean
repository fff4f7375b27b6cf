import Newsdesk.Admission.FeedRules
import Newsdesk.Admission.GroupRules
import Newsdesk.Admission.HotNewsRules
import Newsdesk.Admission.Review
import Newsdesk.Watch.Affected

/-!
# Webhooks

Four webhooks review feeds, queries and the config map of feed groups. Each looks at objects
that are to be created or updated, lists the feeds of the namespace if a rule needs them, and
denies an object with all violations in one message.
-/

namespace Newsdesk

open Json Text

/-- The webhooks. -/
inductive Webhook where
  | validateFeed
  | mutateHotNews
  | validateHotNews
  | validateConfigMap
deriving DecidableEq, Repr

namespace Webhook

/-- The name of a webhook, which is its path. -/
def name : Webhook → String
  | .validateFeed => "validate-feed"
  | .mutateHotNews => "mutate-hotnews"
  | .validateHotNews => "validate-hotnews"
  | .validateConfigMap => "validate-configmap"

/-- All webhooks. -/
def all : List Webhook := [.validateFeed, .mutateHotNews, .validateHotNews, .validateConfigMap]

end Webhook

/-! ## Searching a namespace -/

/-- The feeds of a namespace, or why they cannot be listed. A list may take ten seconds. -/
def searchFeeds (ns : String) : Program (Except String (List Feed)) := do
  match ← Program.tryListObjects Feed ns with
  | .ok feeds => return .ok feeds
  | .error .unanswered => return .error ("timed out after 10s listing Feed in " ++ ns)
  | .error e => return .error ("failed to list Feed in " ++ ns ++ ": " ++ e.message)

/-- The trimmed names of feeds. -/
def trimmedNames (feeds : List Feed) : List String := feeds.map fun f => trim f.spec.name

/-- The metadata with the namespace of the request, unless they have one. -/
def Metadata.orNamespace (m : Metadata) (ns : Option String) : Metadata :=
  { m with ns := m.ns.orElse fun _ => ns }

/-! ## Feeds -/

/-- What is wrong with a feed, its name among those of its namespace included. -/
def feedErrors (feed : Feed) : Program (List FieldError) := do
  let errors := validateFeedSpec feed.spec
  if trim feed.spec.name = "" then return errors
  else
    match ← searchFeeds feed.metadata.nsName with
    | .ok existing => return errors ++ (duplicateName? feed existing).toList
    | .error message => return errors ++ [⟨"spec.name", message⟩]

/-- Reviews a feed. -/
def reviewFeed (request : AdmissionRequest Feed) (r : AdmissionResponse) :
    Program AdmissionResponse := do
  match request.object with
  | some feed =>
    if request.operation.stores then
      let feed := { feed with metadata := feed.metadata.orNamespace request.ns }
      return r.verdict (← feedErrors feed) []
    else return r
  | none => return r

/-! ## Defaults of queries -/

/-- An object as it was sent, with its metadata. -/
structure RawObject where
  metadata : Metadata
  json : Json

/-- Reads an object of any kind. -/
def RawObject.decode : Decoder RawObject
  | .obj fields => do
    let metadata ← match fields.lookup "metadata" with
      | some m => Metadata.decode m
      | none => some .empty
    return ⟨metadata, canonical (.obj fields)⟩
  | _ => none

/-- The names of the feeds that the defaults of a query need. -/
def defaultFeeds (ns : String) (spec : HotNewsSpec) : Program (Except String (List String)) := do
  if spec.needsFeeds then
    match ← searchFeeds ns with
    | .ok feeds => return .ok (trimmedNames feeds)
    | .error message => return .error message
  else return .ok []

/-- The patch that gives a query its defaults; none if it has them. -/
def defaultsPatch (object : Json) (spec : HotNewsSpec) (feeds : List String) : Patch :=
  let new := (defaultSpec spec feeds).spec
  if new = spec then [] else specPatch object new

/-- The wording for a specification that is none of a query. -/
def invalidSpecMessage : String := "invalid HotNews spec: value of another shape"

/-- Gives a query its defaults. -/
def applyDefaults (ns : String) (object : Json) (r : AdmissionResponse) :
    Program AdmissionResponse := do
  match HotNewsSpec.decode (object.field "spec") with
  | none => return r.deny invalidSpecMessage
  | some spec =>
    match ← defaultFeeds ns spec with
    | .error message => return r.deny message
    | .ok feeds =>
      let r := { r with patch := defaultsPatch object spec feeds }
      return r.withWarnings (defaultSpec spec feeds).warnings

/-- Whether a review is about the update of an object that is being deleted. -/
def isFinalUpdate (operation : Operation) (m : Metadata) : Bool :=
  operation = .update && m.isDeleting

/-- Reviews a query for its defaults. -/
def reviewDefaults (request : AdmissionRequest RawObject) (r : AdmissionResponse) :
    Program AdmissionResponse := do
  match request.object with
  | some object =>
    if isFinalUpdate request.operation object.metadata then return r
    else if request.operation.stores then
      applyDefaults (object.metadata.orNamespace request.ns).nsName object.json r
    else return r
  | none => return r

/-! ## Rules of queries -/

/-- What is wrong with a query. One that is not changed is not held against the feeds that exist
now. -/
def hotNewsErrors (ns : String) (old : Option HotNews) (h : HotNews) :
    Program (List FieldError) := do
  if old.any fun o => o.spec = h.spec then
    return validateSpec h.spec (h.spec.feedsName.map trim)
  else
    match ← searchFeeds ns with
    | .ok feeds => return validateSpec h.spec (trimmedNames feeds)
    | .error message => return validateWithoutFeeds h.spec message

/-- Reviews a query. -/
def reviewHotNews (request : AdmissionRequest HotNews) (r : AdmissionResponse) :
    Program AdmissionResponse := do
  match request.object with
  | some h =>
    if isFinalUpdate request.operation h.metadata then return r
    else if request.operation.stores then
      let ns := (h.metadata.orNamespace request.ns).nsName
      return r.verdict (← hotNewsErrors ns request.oldObject h) []
    else return r
  | none => return r

/-! ## Feed groups -/

/-- What is wrong with the groups of a config map. -/
def configMapErrors (map : ConfigMap) : Program (List FieldError) := do
  match ← searchFeeds map.metadata.nsName with
  | .ok feeds => return validateGroups (map.data.getD []) (trimmedNames feeds)
  | .error message => return [⟨"data", message⟩]

/-- Reviews a config map; only the one that lists the feed groups has rules. -/
def reviewConfigMap (settings : Settings) (request : AdmissionRequest ConfigMap)
    (r : AdmissionResponse) : Program AdmissionResponse := do
  match request.object with
  | some map =>
    let map := { map with metadata := map.metadata.orNamespace request.ns }
    if request.operation.stores ∧ settings.selects map then
      return r.verdict (← configMapErrors map) []
    else return r
  | none => return r

/-! ## All webhooks -/

/-- Answers the review in a JSON value; `none` when it is no review for the webhook. -/
def Webhook.answer? (settings : Settings) (webhook : Webhook) (body : Json) :
    Option (Program AdmissionResponse) :=
  match webhook with
  | .validateFeed =>
    (AdmissionReview.decode decodeFeed body).map fun review =>
      answerReview webhook.name review reviewFeed
  | .mutateHotNews =>
    (AdmissionReview.decode RawObject.decode body).map fun review =>
      answerReview webhook.name review reviewDefaults
  | .validateHotNews =>
    (AdmissionReview.decode decodeHotNews body).map fun review =>
      answerReview webhook.name review reviewHotNews
  | .validateConfigMap =>
    (AdmissionReview.decode ConfigMap.decode body).map fun review =>
      answerReview webhook.name review (reviewConfigMap settings)

end Newsdesk
