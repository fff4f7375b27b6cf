import Mathlib.Data.List.Basic
import Newsdesk.Proofs.Url.Rooted
import Newsdesk.Reconcile.HotNews

/-!
# The addresses of the services

The base URL of the aggregator is read when the operator starts. Its services can be addressed
exactly if the text of the base has a root (`endpoints_resolve_iff`). A host and a port without a
scheme read as a URL without one: such a base is accepted, and then no call gets as far as a request
(`hostAndPort_unusable`).
-/

namespace Newsdesk

open Url

namespace Aggregator

variable {text path : String} {a : Aggregator}

theorem isName_sourcesPath : IsName sourcesPath :=
  ⟨by decide +kernel, by decide +kernel, by decide +kernel, 's', "ources".toList, by decide +kernel⟩

theorem isName_newsPath : IsName newsPath :=
  ⟨by decide +kernel, by decide +kernel, by decide +kernel, 'n', "ews".toList, by decide +kernel⟩

/-- The folder of the services has no root if the text of the base says so. -/
theorem isRootless_base (h : ofBase text = .ok a) :
    a.base.path.isRootless = true ↔ RootlessText text := by
  unfold ofBase at h
  cases hparse : Url.parse text with
  | error e =>
    rw [hparse] at h
    cases h
  | ok url =>
    rw [hparse] at h
    cases h
    rw [← isRootless_of_parse hparse, Url.asFolder, UrlPath.isRootless_asFolder]

theorem exists_endpoint_iff (h : ofBase text = .ok a) (hname : IsName path) :
    (∃ url, a.endpoint path = .ok url) ↔ ¬ RootlessText text := by
  have hjoin : (∃ url, a.endpoint path = .ok url) ↔ ∃ url, a.base.join path = .ok url := by
    unfold endpoint
    cases a.base.join path <;> simp
  rw [hjoin, exists_join_iff hname, ← isRootless_base h, Bool.not_eq_true]

theorem endpoint_of_rootless (h : ofBase text = .ok a) (hname : IsName path)
    (hrootless : RootlessText text) :
    a.endpoint path = .error (.invalidUrl (a.base.text ++ path) .relativeToRootless) := by
  unfold endpoint
  rw [join_of_isRootless hname ((isRootless_base h).2 hrootless)]

end Aggregator

/-- The program fails before it asks anything, for the reason that a URL is invalid. -/
def FailsOnUrl {α : Type} (p : Program α) : Prop :=
  ∃ f : Failure, p = .fail f ∧ f.reason = .invalidUrl

/-- No call of the operator gets as far as a request to the aggregator. -/
structure NeverReaches (op : Operator) : Prop where
  registers : ∀ feed, FailsOnUrl (registerSource op feed)
  removes : ∀ feed, FailsOnUrl (removeSource op feed)
  queries : ∀ spec, FailsOnUrl (fetchNews op spec)

theorem neverReaches_of_rootless {text : String} {op : Operator}
    (h : Aggregator.ofBase text = .ok op.aggregator) (hrootless : RootlessText text) :
    NeverReaches op := by
  have hsources : op.aggregator.sourcesEndpoint = _ :=
    Aggregator.endpoint_of_rootless h Aggregator.isName_sourcesPath hrootless
  have hnews : op.aggregator.newsEndpoint = _ :=
    Aggregator.endpoint_of_rootless h Aggregator.isName_newsPath hrootless
  refine ⟨fun feed => ?_, fun feed => ?_, fun spec => ?_⟩
  · unfold registerSource Program.addSource
    rw [hsources]
    exact ⟨_, rfl, rfl⟩
  · unfold removeSource Program.deleteSource
    rw [hsources]
    exact ⟨_, rfl, rfl⟩
  · unfold fetchNews
    rw [hnews]
    exact ⟨_, rfl, rfl⟩

/-- An operator starts with any base URL that can be read. It can address the services exactly if
the text of the base has a root; if not, both addresses are refused and no call reaches the
aggregator. -/
theorem endpoints_resolve_iff {text : String} {a : Aggregator}
    (h : Aggregator.ofBase text = .ok a) :
    (∀ settings : Settings, settings.aggregatorUrl = text →
      Operator.ofSettings settings = .ok ⟨settings, a⟩) ∧
    ((∃ url, a.sourcesEndpoint = .ok url) ↔ ¬ RootlessText text) ∧
    ((∃ url, a.newsEndpoint = .ok url) ↔ ¬ RootlessText text) ∧
    (RootlessText text →
      (∀ path ∈ [Aggregator.sourcesPath, Aggregator.newsPath], a.endpoint path =
        .error (.invalidUrl (a.base.text ++ path) .relativeToRootless)) ∧
      ∀ settings : Settings, NeverReaches ⟨settings, a⟩) := by
  refine ⟨fun settings hurl => ?_, Aggregator.exists_endpoint_iff h Aggregator.isName_sourcesPath,
    Aggregator.exists_endpoint_iff h Aggregator.isName_newsPath, fun hrootless => ⟨?_, ?_⟩⟩
  · unfold Operator.ofSettings
    rw [hurl, h]
    rfl
  · intro path hpath
    rcases List.mem_pair.1 hpath with rfl | rfl
    · exact Aggregator.endpoint_of_rootless h Aggregator.isName_sourcesPath hrootless
    · exact Aggregator.endpoint_of_rootless h Aggregator.isName_newsPath hrootless
  · exact fun settings => @neverReaches_of_rootless text ⟨settings, a⟩ h hrootless

namespace BaseUrls

def hosted : Aggregator :=
  ⟨"http", "", none, some (.domain "aggregator"), some 8080, .segments ["api", ""], none, none⟩

/-- What a host and a port are read as: a scheme and a path. -/
def hostAndPort : Aggregator :=
  ⟨"localhost", "", none, none, none, .rootless "8080/", none, none⟩

theorem ofBase_hosted : Aggregator.ofBase "http://aggregator:8080/api" = .ok hosted := by
  decide +kernel

theorem ofBase_hostAndPort : Aggregator.ofBase "localhost:8080" = .ok hostAndPort := by
  decide +kernel

theorem rootlessText_hostAndPort : RootlessText "localhost:8080" :=
  ⟨"localhost".toList, "8080".toList, by decide +kernel, by decide +kernel, by decide +kernel⟩

theorem not_rootlessText_hosted : ¬ RootlessText "http://aggregator:8080/api" := by
  rw [← Aggregator.isRootless_base ofBase_hosted]
  decide

end BaseUrls

open BaseUrls

/-- A base with a host and a folder, and a host and a port without a scheme. -/
theorem hostAndFolder_resolve :
    Aggregator.ofBase "http://aggregator:8080/api" = .ok hosted ∧
    (∃ url, hosted.sourcesEndpoint = .ok url) ∧ (∃ url, hosted.newsEndpoint = .ok url) ∧
    Aggregator.ofBase "localhost:8080" = .ok hostAndPort ∧ RootlessText "localhost:8080" ∧
    NeverReaches ⟨{ aggregatorUrl := "localhost:8080" }, hostAndPort⟩ := by
  obtain ⟨-, hsources, hnews, -⟩ := endpoints_resolve_iff ofBase_hosted
  obtain ⟨-, -, -, hnever⟩ := endpoints_resolve_iff ofBase_hostAndPort
  exact ⟨ofBase_hosted, hsources.2 not_rootlessText_hosted, hnews.2 not_rootlessText_hosted,
    ofBase_hostAndPort, rootlessText_hostAndPort, (hnever rootlessText_hostAndPort).2 _⟩

/-- The operator starts with a host and a port for a base URL, and cannot use it. -/
theorem hostAndPort_unusable : ¬ ∀ (text : String) (a : Aggregator),
    Aggregator.ofBase text = .ok a →
      (∃ url, a.sourcesEndpoint = .ok url) ∧ ∃ url, a.newsEndpoint = .ok url := by
  intro hall
  obtain ⟨⟨url, hurl⟩, -⟩ := hall "localhost:8080" hostAndPort ofBase_hostAndPort
  have hrefused : hostAndPort.sourcesEndpoint = _ :=
    Aggregator.endpoint_of_rootless ofBase_hostAndPort Aggregator.isName_sourcesPath
      rootlessText_hostAndPort
  rw [hrefused] at hurl
  cases hurl

end Newsdesk
