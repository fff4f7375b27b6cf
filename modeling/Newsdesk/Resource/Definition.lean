import Newsdesk.Resource.Object
import Newsdesk.Resource.Schema

/-!
# Definitions of the custom resources

The API server has to be told what feeds and news queries are: their names, the columns in which
they are listed and the schemas of their parts.
-/

namespace Newsdesk

open Json

/-- Lines of a description. -/
def paragraphs (lines : List String) : String := "\n".intercalate lines

/-! ## Conditions -/

/-- The schema of a condition. -/
def conditionSchema : Schema :=
  .described (paragraphs [
    "Condition represents the outcome of the latest reconcile attempt of one type.",
    "",
    "A status holds at most one condition per [`ConditionType`]; newer outcomes",
    "overwrite older ones."])
  (.record ["success", "type"] [
    ("type", .described "Type of condition: `Added` or `Deleted`."
      (.oneOf [ConditionKind.added.name, ConditionKind.deleted.name])),
    ("success", .described "Whether the attempt succeeded." .bool),
    ("reason", .described "Brief CamelCase reason for the outcome."
      (.defaulting (.str "") .text)),
    ("message", .described "Human-readable details, usually the error text on failure."
      (.defaulting (.str "") .text)),
    ("lastUpdatedName", .described "Name of the object the condition was recorded for."
      (.defaulting (.str "") .text)),
    ("lastUpdateTime", .described "Time the condition was recorded (RFC3339 format)."
      (.defaulting (.str "") .text))])

/-- The schema of the conditions of a status. -/
def conditionsSchema : Schema := .defaulting (.arr []) (.listOf conditionSchema)

/-! ## Feeds -/

/-- The schema of the specification of a feed. -/
def feedSpecSchema : Schema :=
  .described (paragraphs [
    "`Feed` registers an external news source with the aggregator.",
    "",
    "# Example",
    "",
    "```yaml",
    "apiVersion: newsaggregator.io/v1",
    "kind: Feed",
    "metadata:",
    "  name: bbc",
    "  namespace: news",
    "spec:",
    "  name: bbc",
    "  url: https://feeds.bbci.co.uk/news/rss.xml",
    "```"])
  (.record ["name", "url"] [
    ("name", .described
      "Source name used by the aggregator. Unique within a namespace, at most 20 characters."
      .text),
    ("url", .described "Absolute URL of the source (RSS, Atom, JSON or HTML page)." .text)])

/-- The schema of the status of a feed. -/
def feedStatusSchema : Schema :=
  .described "`Feed` status" (.nullable (.record [] [("conditions", conditionsSchema)]))

/-! ## Hot news -/

/-- The schema of the summary settings of a query. -/
def summaryConfigSchema : Schema :=
  .described "Summary settings." (.defaulting (SummaryConfig.toJson ⟨0⟩) (.record [] [
    ("titlesCount", .described
      "Number of article titles kept in `status.articlesTitles`. Defaults to 10."
      (.defaulting (ofNat 0) .int32))]))

/-- The schema of the specification of a query. -/
def hotNewsSpecSchema : Schema :=
  .described (paragraphs [
    "`HotNews` is a saved news query evaluated against the aggregator.",
    "",
    "Feeds are selected either directly through `feedsName` or indirectly",
    "through `feedGroups`, keys of the feed-group ConfigMap. When groups",
    "resolve, the controller rewrites `feedsName` with the resolved names.",
    "",
    "# Example",
    "",
    "```yaml",
    "apiVersion: newsaggregator.io/v1",
    "kind: HotNews",
    "metadata:",
    "  name: rust-news",
    "  namespace: news",
    "spec:",
    "  keywords: [\"rust\"]",
    "  dateStart: \"2024-01-01\"",
    "  dateEnd: \"2024-01-31\"",
    "  feedGroups: [\"tech\"]",
    "  summaryConfig:",
    "    titlesCount: 5",
    "```"])
  (.record ["keywords"] [
    ("keywords", .described "Keywords an article must match. At least one is required."
      (.listOf .text)),
    ("dateStart", .described
      "Start of the publication window (`YYYY-MM-DD`). Requires `dateEnd`."
      (.nullable .text)),
    ("dateEnd", .described
      "End of the publication window (`YYYY-MM-DD`). Requires `dateStart`."
      (.nullable .text)),
    ("feedsName", .described "`Feed.spec.name` values to query." (.listOf .text)),
    ("feedGroups", .described
      "Keys of the feed-group ConfigMap whose feeds should be queried."
      (.listOf .text)),
    ("summaryConfig", summaryConfigSchema)])

/-- The schema of the status of a query. -/
def hotNewsStatusSchema : Schema :=
  .described "`HotNews` status" (.nullable (.record [] [
    ("articlesCount", .defaulting (ofNat 0) .int32),
    ("newsLink", .defaulting (.str "") .text),
    ("articlesTitles", .defaulting (.arr []) (.listOf .text)),
    ("conditions", conditionsSchema)]))

/-! ## Definitions -/

/-- A column in the listing of a resource. -/
structure Column where
  name : String
  type : String
  path : String

/-- The definition of a custom resource. -/
structure ResourceDefinition where
  collection : Collection
  shortName : String
  summary : String
  columns : List Column
  spec : Schema
  status : Schema

namespace ResourceDefinition

/-- The group of the custom resources. -/
def group : String := "newsaggregator.io"

/-- The definition of feeds. -/
def feeds : ResourceDefinition where
  collection := .feeds
  shortName := "fd"
  summary := "Feed is a named external news source kept registered with the news aggregator."
  columns := [⟨"Source", "string", ".spec.name"⟩, ⟨"URL", "string", ".spec.url"⟩]
  spec := feedSpecSchema
  status := feedStatusSchema

/-- The definition of news queries. -/
def hotNews : ResourceDefinition where
  collection := .hotNews
  shortName := "hn"
  summary := "HotNews is a saved, parameterized news query over a set of Feeds."
  columns :=
    [⟨"Articles", "integer", ".status.articlesCount"⟩, ⟨"Link", "string", ".status.newsLink"⟩]
  spec := hotNewsSpecSchema
  status := hotNewsStatusSchema

/-- The definition of the resource of a kind. -/
def ofKind? (kind : String) : Option ResourceDefinition :=
  [feeds, hotNews].find? fun d => d.collection.kind = kind

/-- The schema of whole objects. -/
def objectSchema (d : ResourceDefinition) : Schema :=
  ("title", .str d.collection.kind) ::
    Schema.described d.summary (.record ["spec"] [("spec", d.spec), ("status", d.status)])

/-- The names of a resource. -/
def namesJson (d : ResourceDefinition) : Json :=
  ofFields [
    ("categories", .arr []),
    ("kind", .str d.collection.kind),
    ("plural", .str d.collection.name),
    ("shortNames", ofStrings [d.shortName]),
    ("singular", .str (String.ofList (d.collection.kind.toList.map Char.toLower)))]

/-- The written form of a column. -/
def columnJson (c : Column) : Json :=
  ofFields [("jsonPath", .str c.path), ("name", .str c.name), ("type", .str c.type)]

/-- The only version of a resource. -/
def versionJson (d : ResourceDefinition) : Json :=
  ofFields [
    ("additionalPrinterColumns", .arr (d.columns.map columnJson)),
    ("name", .str "v1"),
    ("schema", ofFields [("openAPIV3Schema", ofFields d.objectSchema)]),
    ("served", .bool true),
    ("storage", .bool true),
    ("subresources", ofFields [("status", .obj [])])]

/-- The written form of a definition. -/
def toJson (d : ResourceDefinition) : Json :=
  ofFields [
    ("apiVersion", .str "apiextensions.k8s.io/v1"),
    ("kind", .str "CustomResourceDefinition"),
    ("metadata", ofFields [("name", .str (d.collection.name ++ "." ++ group))]),
    ("spec", ofFields [
      ("group", .str group),
      ("names", d.namesJson),
      ("scope", .str "Namespaced"),
      ("versions", .arr [d.versionJson])])]

end ResourceDefinition

end Newsdesk
