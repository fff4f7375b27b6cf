import Newsdesk.Aggregator
import Newsdesk.Query.Groups
import Newsdesk.Resource.Object

/-!
# News queries

A query asks the aggregator for articles of some sources, about some keywords, between two days.
Its result is summarised by the number of articles and the first titles.
-/

namespace Newsdesk

open Text

/-! ## The address of a query -/

/-- The entries of a list that are not blank, trimmed. -/
def nonblank (entries : List String) : List String :=
  ((entries.map fun e => trimList e.toList).filter (· ≠ [])).map String.ofList

/-- Names joined to a list. -/
def joinNames (names : List String) : String := ",".intercalate names

/-- The parameters of a query. -/
def queryParameters (spec : HotNewsSpec) : List (String × String) :=
  let keywords := nonblank spec.keywords
  [("sources", joinNames (nonblank spec.feedsName))] ++
    (if keywords = [] then [] else [("keywords", joinNames keywords)]) ++
    match spec.dateStart, spec.dateEnd with
    | some start, some stop => [("startDate", trim start), ("endDate", trim stop)]
    | _, _ => []

/-- The address of a query; there must be at least one source. -/
def queryUrl (endpoint : Url) (spec : HotNewsSpec) : Except QueryError Url :=
  if nonblank spec.feedsName = [] then .error .noFeedsResolved
  else .ok (endpoint.appendPairs (queryParameters spec))

/-! ## The result of a query -/

/-- The result of a query. -/
structure NewsSummary where
  feedsName : List String
  newsLink : String
  articlesCount : Int
  articlesTitles : List String
deriving DecidableEq, Repr

/-- The number of titles that are kept when a query does not say. -/
def defaultTitlesCount : Nat := 10

/-- The number of titles that a query keeps. -/
def titlesCount (spec : HotNewsSpec) : Nat :=
  if 0 < spec.summaryConfig.titlesCount then spec.summaryConfig.titlesCount.toNat
  else defaultTitlesCount

/-- The first titles. -/
def topTitles (articles : List Article) (count : Nat) : List String :=
  (articles.take count).map Article.title

/-- The largest number of articles that a status can show. -/
def maxArticlesCount : Int := 0x7FFFFFFF

/-- The summary of the articles that a query has found. -/
def summarize (spec : HotNewsSpec) (link : String) (articles : List Article) : NewsSummary where
  feedsName := spec.feedsName
  newsLink := link
  articlesCount := min articles.length maxArticlesCount
  articlesTitles := topTitles articles (titlesCount spec)

end Newsdesk
