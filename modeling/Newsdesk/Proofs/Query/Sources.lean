import Newsdesk.Admission.FeedRules
import Newsdesk.Proofs.Admission.Resolved
import Newsdesk.Proofs.Url.Form

/-!
# The sources that a query asks for

The feed names of a query are joined to one parameter of its address, and whoever reads the address
cuts it again. What is read are the names themselves exactly if none of them contains the separator
(`sourcesRecovered_iff`). The rules for feeds let such a name pass (`separatorInName_lost`), though
no feed group can list it (`sourcesRecovered_of_resolved`).
-/

namespace Newsdesk

open Text

/-- The names of a query are what the sources in its address are cut into. They stand behind
whatever the endpoint asks for already. -/
def SourcesRecovered (endpoint : Url) (spec : HotNewsSpec) : Prop :=
  ∃ url value rest, queryUrl endpoint spec = .ok url ∧
    url.pairs = endpoint.pairs ++ (some "sources", some value) :: rest ∧
    (splitAt listSeparator value.toList).map String.ofList = nonblank spec.feedsName

/-- The pieces of a list of names are the pieces of its names. -/
theorem splitAt_joinNames {names : List String} (hne : names ≠ []) :
    (splitAt listSeparator (joinNames names).toList).map String.ofList =
      names.flatMap fun name => (splitAt listSeparator name.toList).map String.ofList := by
  have hjoined : (joinNames names).toList = [listSeparator].intercalate (names.map String.toList) :=
    String.toList_intercalate
  have hmapped : names.map String.toList ≠ [] := fun h => hne (List.map_eq_nil_iff.1 h)
  rw [hjoined, splitAt_intercalate_flatMap hmapped, List.flatMap_map, List.map_flatMap]

/-- A list of names falls into its names if none of them contains the separator, and only then. -/
theorem splitAt_joinNames_eq_iff {names : List String} (hne : names ≠ []) :
    (splitAt listSeparator (joinNames names).toList).map String.ofList = names ↔
      ∀ name ∈ names, listSeparator ∉ name.toList := by
  constructor
  · intro hsame name hname
    rw [← hsame] at hname
    obtain ⟨piece, hpiece, rfl⟩ := List.mem_map.1 hname
    rw [String.toList_ofList]
    exact not_mem_of_mem_splitAt hpiece
  · intro hnames
    have hsingle : ∀ name ∈ names,
        (splitAt listSeparator name.toList).map String.ofList = [name] := fun name hname => by
      rw [splitAt_eq_splitOn, List.splitOn_eq_singleton (hnames name hname), List.map_singleton,
        String.ofList_toList]
    rw [splitAt_joinNames hne, List.flatMap_congr hsingle, List.flatMap_singleton']

/-- The address of a query with sources: the sources come first behind the endpoint's own
parameters. -/
theorem pairs_of_queryUrl (endpoint : Url) {spec : HotNewsSpec}
    (hsome : nonblank spec.feedsName ≠ []) :
    ∃ url rest, queryUrl endpoint spec = .ok url ∧ url.pairs =
      endpoint.pairs ++ (some "sources", some (joinNames (nonblank spec.feedsName))) :: rest := by
  obtain ⟨others, hothers⟩ : ∃ others, queryParameters spec =
      ("sources", joinNames (nonblank spec.feedsName)) :: others := ⟨_, rfl⟩
  refine ⟨endpoint.appendPairs (queryParameters spec),
    others.map fun p => (some p.1, some p.2), if_neg hsome, ?_⟩
  rw [Url.pairs_appendPairs, hothers, List.map_cons]

theorem sourcesRecovered_iff_cut (endpoint : Url) {spec : HotNewsSpec}
    (hsome : nonblank spec.feedsName ≠ []) :
    SourcesRecovered endpoint spec ↔
      ∀ name ∈ nonblank spec.feedsName, listSeparator ∉ name.toList := by
  obtain ⟨url, rest, hurl, hpairs⟩ := pairs_of_queryUrl endpoint hsome
  rw [← splitAt_joinNames_eq_iff hsome]
  constructor
  · rintro ⟨url', value, rest', hurl', hpairs', hcut⟩
    cases hurl.symm.trans hurl'
    have hvalue := List.append_cancel_left (hpairs.symm.trans hpairs')
    cases hvalue
    exact hcut
  · exact fun hcut => ⟨url, _, rest, hurl, hpairs, hcut⟩

/-- Names that groups are resolved to are read from the address as they are. -/
theorem sourcesRecovered_of_resolved (endpoint : Url) {spec : HotNewsSpec}
    {groups known : List String} {data : List (String × String)}
    (h : resolveGroups groups data known = .ok spec.feedsName)
    (hsome : nonblank spec.feedsName ≠ []) : SourcesRecovered endpoint spec := by
  refine (sourcesRecovered_iff_cut endpoint hsome).2 fun name hname => ?_
  obtain ⟨e, he, rfl, -⟩ := mem_nonblank.1 hname
  have hgrouped := (mem_resolveGroups h).1 he
  rw [trim_of_grouped hgrouped]
  obtain ⟨-, -, value, -, hvalue⟩ := hgrouped
  exact not_mem_of_mem_splitNames hvalue

/-- A valid query with a source has an address, whose sources are the names of feeds. They are read
from the address as they are if no name contains the separator, and only then. -/
theorem sourcesRecovered_iff (endpoint : Url) {spec : HotNewsSpec} {feeds : List Feed}
    (hvalid : validateSpec spec (feedNames feeds) = []) (hsome : nonblank spec.feedsName ≠ []) :
    (∃ url, queryUrl endpoint spec = .ok url) ∧
      (SourcesRecovered endpoint spec ↔
        ∀ name ∈ nonblank spec.feedsName, listSeparator ∉ name.toList) ∧
      ∀ name ∈ nonblank spec.feedsName, ∃ f ∈ feeds, trim f.spec.name = name := by
  obtain ⟨url, -, hurl, -⟩ := pairs_of_queryUrl endpoint hsome
  refine ⟨⟨url, hurl⟩, sourcesRecovered_iff_cut endpoint hsome, fun name hname => ?_⟩
  obtain ⟨-, -, hknown⟩ := validateSpec_eq_nil_iff.1 hvalid
  obtain ⟨e, he, rfl, -⟩ := mem_nonblank.1 hname
  exact List.mem_map.1 (hknown e he)

namespace JoinedSources

def endpoint : Url :=
  ⟨"http", "", none, some (.domain "aggregator.example"), none, .segments ["news"], none, none⟩

def feed (name : String) : Feed := ⟨.empty, ⟨name, "http://feeds.example/rss"⟩, none⟩

def query (names : List String) : HotNewsSpec := ⟨["election"], none, none, names, [], ⟨5⟩⟩

end JoinedSources

open JoinedSources

/-- Two feeds that are named with blanks around them. -/
theorem twoSources_recovered :
    validateSpec (query [" bbc", "cnn\u3000"]) (feedNames [feed "cnn", feed "bbc "]) = [] ∧
      SourcesRecovered endpoint (query [" bbc", "cnn\u3000"]) := by
  have hvalid : validateSpec (query [" bbc", "cnn\u3000"]) (feedNames [feed "cnn", feed "bbc "]) =
      [] := by decide +kernel
  have hnames : nonblank (query [" bbc", "cnn\u3000"]).feedsName = ["bbc", "cnn"] := by
    decide +kernel
  have hsome : nonblank (query [" bbc", "cnn\u3000"]).feedsName ≠ [] := by rw [hnames]; simp
  obtain ⟨-, hiff, -⟩ := sourcesRecovered_iff endpoint hvalid hsome
  refine ⟨hvalid, hiff.2 fun name hname => ?_⟩
  rw [hnames] at hname
  revert name
  decide +kernel

/-- A feed whose name contains the separator is valid, and so is a query for it, but its name is not
read from the address of the query. -/
theorem separatorInName_lost : ¬ ∀ (endpoint : Url) (spec : HotNewsSpec) (feeds : List Feed),
    (∀ f ∈ feeds, validateFeedSpec f.spec = []) → validateSpec spec (feedNames feeds) = [] →
    nonblank spec.feedsName ≠ [] → SourcesRecovered endpoint spec := by
  intro hall
  have hfeed : ∀ f ∈ [feed "a,b"], validateFeedSpec f.spec = [] := by
    simp only [List.mem_singleton, forall_eq]
    decide +kernel
  have hvalid : validateSpec (query ["a,b"]) (feedNames [feed "a,b"]) = [] := by decide +kernel
  have hnames : nonblank (query ["a,b"]).feedsName = ["a,b"] := by decide +kernel
  have hsome : nonblank (query ["a,b"]).feedsName ≠ [] := by rw [hnames]; simp
  have hcut := (sourcesRecovered_iff_cut endpoint hsome).1 (hall endpoint _ _ hfeed hvalid hsome)
  rw [hnames] at hcut
  exact absurd (hcut "a,b" List.mem_cons_self) (by decide)

end Newsdesk
