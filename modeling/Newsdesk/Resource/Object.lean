import Newsdesk.Resource.Condition
import Newsdesk.Resource.Metadata

/-!
# Feeds, hot news and config maps

A `Feed` names a news source that is kept registered with the aggregator. A `HotNews` is a saved
query over feeds, which it names or selects by groups; its status shows the result. A config map
lists the feeds of each group.
-/

namespace Newsdesk

open Json

/-- A custom object: metadata, what is asked for and what has been reached. -/
structure CustomObject (Spec Status : Type) where
  metadata : Metadata
  spec : Spec
  status : Option Status
deriving DecidableEq, Repr

/-! ## Feeds -/

/-- A news source. -/
structure FeedSpec where
  name : String
  url : String
deriving DecidableEq, Repr

/-- The outcomes of the latest attempts on a feed. -/
structure FeedStatus where
  conditions : List Condition
deriving DecidableEq, Repr

/-- A news source kept registered with the aggregator. -/
abbrev Feed := CustomObject FeedSpec FeedStatus

namespace FeedSpec

/-- Reads the specification of a feed. -/
def decode : Decoder FeedSpec := decodeRecord do
  return {
    name := ← requiredField "name" decodeString
    url := ← requiredField "url" decodeString
  }

/-- The written form of the specification of a feed. -/
def toJson (s : FeedSpec) : Json := ofFields [("name", .str s.name), ("url", .str s.url)]

end FeedSpec

namespace FeedStatus

/-- Reads the status of a feed. -/
def decode : Decoder FeedStatus := decodeRecord do
  return { conditions := ← defaultField "conditions" (decodeList Condition.decode) [] }

/-- The written form of the status of a feed. -/
def toJson (s : FeedStatus) : Json :=
  ofFields [("conditions", .arr (s.conditions.map Condition.toJson))]

end FeedStatus

/-! ## Hot news -/

/-- How a query is summarised. -/
structure SummaryConfig where
  titlesCount : Int
deriving DecidableEq, Repr

/-- A news query. -/
structure HotNewsSpec where
  keywords : List String
  dateStart : Option String
  dateEnd : Option String
  feedsName : List String
  feedGroups : List String
  summaryConfig : SummaryConfig
deriving DecidableEq, Repr

/-- The result of a news query and the outcomes of the latest attempts. -/
structure HotNewsStatus where
  articlesCount : Int
  newsLink : String
  articlesTitles : List String
  conditions : List Condition
deriving DecidableEq, Repr

/-- A saved news query. -/
abbrev HotNews := CustomObject HotNewsSpec HotNewsStatus

namespace SummaryConfig

/-- Reads the summary settings. -/
def decode : Decoder SummaryConfig := decodeRecord do
  return { titlesCount := ← defaultField "titlesCount" decodeInt32 0 }

/-- The written form of the summary settings. -/
def toJson (s : SummaryConfig) : Json := ofFields [("titlesCount", ofInt s.titlesCount)]

end SummaryConfig

namespace HotNewsSpec

/-- Reads a news query. -/
def decode : Decoder HotNewsSpec := decodeRecord do
  return {
    keywords := ← requiredField "keywords" decodeStrings
    dateStart := ← nullableField "dateStart" decodeString
    dateEnd := ← nullableField "dateEnd" decodeString
    feedsName := ← defaultField "feedsName" decodeStrings []
    feedGroups := ← defaultField "feedGroups" decodeStrings []
    summaryConfig := ← defaultField "summaryConfig" SummaryConfig.decode ⟨0⟩
  }

/-- A list that is written only if it is not empty. -/
def nonemptyStrings (xs : List String) : Option Json :=
  if xs = [] then none else some (ofStrings xs)

/-- The written form of a news query. -/
def toJson (s : HotNewsSpec) : Json :=
  ofOptionalFields [
    ("dateEnd", s.dateEnd.map .str),
    ("dateStart", s.dateStart.map .str),
    ("feedGroups", nonemptyStrings s.feedGroups),
    ("feedsName", nonemptyStrings s.feedsName),
    ("keywords", some (ofStrings s.keywords)),
    ("summaryConfig", some s.summaryConfig.toJson)]

end HotNewsSpec

namespace HotNewsStatus

/-- A status without any result. -/
def empty : HotNewsStatus := ⟨0, "", [], []⟩

/-- Reads the status of a news query. -/
def decode : Decoder HotNewsStatus := decodeRecord do
  return {
    articlesCount := ← defaultField "articlesCount" decodeInt32 0
    newsLink := ← defaultField "newsLink" decodeString ""
    articlesTitles := ← defaultField "articlesTitles" decodeStrings []
    conditions := ← defaultField "conditions" (decodeList Condition.decode) []
  }

/-- The written form of the status of a news query. -/
def toJson (s : HotNewsStatus) : Json :=
  ofFields [
    ("articlesCount", ofInt s.articlesCount),
    ("articlesTitles", ofStrings s.articlesTitles),
    ("conditions", .arr (s.conditions.map Condition.toJson)),
    ("newsLink", .str s.newsLink)]

end HotNewsStatus

/-! ## Config maps -/

/-- A map of texts kept by the API server. -/
structure ConfigMap where
  metadata : Metadata
  data : Option (List (String × String))
deriving DecidableEq, Repr

namespace ConfigMap

/-- Whether the type fields that are given are those of a config map. -/
def typeFits (fields : JsonFields) : Bool :=
  fields.all fun (name, v) =>
    (name ≠ "apiVersion" ∨ v = .str "v1") ∧ (name ≠ "kind" ∨ v = .str "ConfigMap")

/-- Reads a config map; missing metadata is empty, and other type fields are refused. -/
def decode : Decoder ConfigMap
  | .obj fields => do
    guard (typeFits fields)
    return {
      metadata := ((← apiField "metadata" Metadata.decode fields).getD Metadata.empty)
      data := ← apiField "data" (decodeMap decodeString) fields
    }
  | _ => none

end ConfigMap

/-! ## What all kinds have in common -/

/-- The group and version of the custom objects. -/
def apiGroupVersion : String := "newsaggregator.io/v1"

/-- The collections of objects that the API server keeps. -/
inductive Collection where
  | feeds
  | hotNews
  | configMaps
deriving DecidableEq, Repr

namespace Collection

/-- The name of a collection in paths. -/
def name : Collection → String
  | .feeds => "feeds"
  | .hotNews => "hotnews"
  | .configMaps => "configmaps"

/-- The path below which a collection lies. -/
def root : Collection → String
  | .configMaps => "/api/v1/"
  | _ => "/apis/newsaggregator.io/v1/"

/-- The kind of the objects of a collection. -/
def kind : Collection → String
  | .feeds => "Feed"
  | .hotNews => "HotNews"
  | .configMaps => "ConfigMap"

/-- All collections. -/
def all : List Collection := [.feeds, .hotNews, .configMaps]

/-- The collection with a given name. -/
def ofName? (name : String) : Option Collection := all.find? fun c => c.name = name

end Collection

/-- A type of objects kept in one collection of the API server. -/
class Resource (α : Type) where
  collection : Collection
  metadata : α → Metadata
  decode : Decoder α

namespace CustomObject

/-- Reads a custom object from its parts' decoders. -/
def decode {Spec Status : Type} (spec : Decoder Spec) (status : Decoder Status) :
    Decoder (CustomObject Spec Status) := decodeRecord do
  return {
    metadata := ← requiredField "metadata" Metadata.decode
    spec := ← requiredField "spec" spec
    status := ← optionalField "status" status
  }

/-- The written form of a custom object of a kind. -/
def toJson {Spec Status : Type} (kind : String) (spec : Spec → Json) (status : Status → Json)
    (o : CustomObject Spec Status) : Json :=
  ofOptionalFields [
    ("apiVersion", some (.str apiGroupVersion)),
    ("kind", some (.str kind)),
    ("metadata", some o.metadata.toJson),
    ("spec", some (spec o.spec)),
    ("status", o.status.map status)]

end CustomObject

instance : Resource Feed where
  collection := .feeds
  metadata := CustomObject.metadata
  decode := CustomObject.decode FeedSpec.decode FeedStatus.decode

instance : Resource HotNews where
  collection := .hotNews
  metadata := CustomObject.metadata
  decode := CustomObject.decode HotNewsSpec.decode HotNewsStatus.decode

instance : Resource ConfigMap where
  collection := .configMaps
  metadata := ConfigMap.metadata
  decode := ConfigMap.decode

/-- Reads a feed. -/
def decodeFeed : Decoder Feed := Resource.decode

/-- Reads a news query object. -/
def decodeHotNews : Decoder HotNews := Resource.decode

/-- The written form of a feed. -/
def feedToJson (f : Feed) : Json := f.toJson "Feed" FeedSpec.toJson FeedStatus.toJson

/-- The written form of a news query object. -/
def hotNewsToJson (h : HotNews) : Json := h.toJson "HotNews" HotNewsSpec.toJson HotNewsStatus.toJson

end Newsdesk
