import Newsdesk.Proofs.Admission.Answered
import Newsdesk.Proofs.HotNews.Written
import Newsdesk.Proofs.Query.Groups

/-!
# Queries with resolved feed names

The operator writes the names that the groups of a query stand for into the query, and the API
server has this write reviewed like any other. What is resolved is known and trimmed, so the
reviews have nothing against it, nothing to add and nothing to warn about, and resolving the
groups once more gives the names that are there already (`SettledRewrite`).
-/

namespace Newsdesk

open Json Text

/-- The rewrite of the feed names of a query, among the feeds of its namespace. -/
structure SettledRewrite (spec : HotNewsSpec) (data : List (String × String)) (feeds : List Feed)
    (names : List String) : Prop where
  /-- The operator's patch makes an object with the query one with the rewritten query. -/
  written : ∀ (base : HotNews) {o : Json}, InOrder o → (∃ fields, o.field "spec" = .obj fields) →
    HotNewsSpec.decode (o.field "spec") = some spec →
    HotNewsSpec.decode ((o.mergePatch (feedsNamePatch base names)).field "spec") =
      some { spec with feedsName := names }
  valid : validateSpec { spec with feedsName := names } (feedNames feeds) = []
  complete : defaultSpec { spec with feedsName := names } (feedNames feeds) =
    ⟨{ spec with feedsName := names }, []⟩
  /-- The review for defaults asks for nothing and gives no patch. -/
  unpatched : ∀ (review : AdmissionReview RawObject) {request : AdmissionRequest RawObject}
    {object : RawObject}, request.object = some object →
    HotNewsSpec.decode (object.json.field "spec") = some { spec with feedsName := names } →
    reviewDefaults request (.allow review request) = pure (.allow review request)
  /-- The review of the rules admits the query, wherever it finds the feeds. -/
  admitted : ∀ {σ : Type} {env : Environment σ} {s s' : σ} (review : AdmissionReview HotNews)
    {request : AdmissionRequest HotNews} {h : HotNews}, request.object = some h →
    h.spec = { spec with feedsName := names } →
    (searchFeeds (h.metadata.orNamespace request.ns).nsName).run env s = (.ok (.ok feeds), s') →
    ((reviewHotNews request (.allow review request)).run env s).1 = .ok (.allow review request)
  resolvedAgain : resolveGroups spec.feedGroups data (feedNames feeds) = .ok names
  /-- The next run reads the groups, if they count, and goes on without a write. -/
  notRewritten : ∀ {σ : Type} {env : Environment σ} {s s' : σ} {op : Operator} {h : HotNews}
    {map : ConfigMap}, h.spec = { spec with feedsName := names } →
    (Program.getObject? ConfigMap h.metadata.nsName op.settings.configMapName).run env s =
      (.ok (some map), s') → map.data = some data →
    (effectiveSpec op h feeds).run env s =
      (.ok h.spec, if op.settings.feedGroupsEnabledIn h.metadata.nsName then s' else s)

/-! ## Rules -/

theorem validateSpec_eq_nil_iff {spec : HotNewsSpec} {known : List String} :
    validateSpec spec known = [] ↔
      validateDates spec = [] ∧ keywordErrors spec.keywords = [] ∧
        ∀ name ∈ spec.feedsName, trim name ∈ known := by
  rw [validateSpec, List.append_eq_nil_iff, List.append_eq_nil_iff, feedsNameErrors_eq_nil_iff,
    and_assoc]

theorem reviewHotNews_of_valid {σ : Type} {env : Environment σ} {s s' : σ}
    {request : AdmissionRequest HotNews} {h : HotNews} {feeds : List Feed}
    (hobject : request.object = some h) (hvalid : validateSpec h.spec (feedNames feeds) = [])
    (hsearch : (searchFeeds (h.metadata.orNamespace request.ns).nsName).run env s =
      (.ok (.ok feeds), s')) (r : AdmissionResponse) :
    ((reviewHotNews request r).run env s).1 = .ok r := by
  have herrors : ((hotNewsErrors (h.metadata.orNamespace request.ns).nsName request.oldObject
      h).run env s).1 = .ok [] := by
    unfold hotNewsErrors
    split
    · -- names that are not changed are held against themselves
      obtain ⟨hdates, hkeywords, -⟩ := validateSpec_eq_nil_iff.1 hvalid
      have hself : validateSpec h.spec (h.spec.feedsName.map trim) = [] :=
        validateSpec_eq_nil_iff.2 ⟨hdates, hkeywords, fun name => List.mem_map_of_mem⟩
      rw [hself]
      rfl
    · have hfound : (pure (validateSpec h.spec (feedNames feeds)) :
          Program (List FieldError)).run env s' = (.ok [], s') :=
        Program.run_pure_eq_ok.2 ⟨hvalid, rfl⟩
      exact congrArg Prod.fst (Program.run_bind_eq_ok.2 ⟨_, _, hsearch, hfound⟩)
  unfold reviewHotNews
  simp only [hobject]
  split
  · rfl
  · split
    · have hverdict (t : σ) : (pure (r.verdict [] []) : Program AdmissionResponse).run env t =
          (.ok r, t) := Program.run_pure_eq_ok.2 ⟨rfl, rfl⟩
      exact congrArg Prod.fst
        (Program.run_bind_eq_ok.2 ⟨_, _, Prod.ext herrors rfl, hverdict _⟩)
    · rfl

/-! ## Defaults -/

/-- A query that names feeds and says how many titles it keeps needs no defaults. -/
theorem defaultSpec_of_complete {spec : HotNewsSpec} (htitles : spec.summaryConfig.titlesCount ≠ 0)
    (hnames : spec.feedsName ≠ []) (known : List String) : defaultSpec spec known = ⟨spec, []⟩ := by
  have hneeds : spec.needsFeeds = false := by simp [HotNewsSpec.needsFeeds, hnames]
  simp [defaultSpec, hneeds, htitles]

theorem reviewDefaults_of_complete {request : AdmissionRequest RawObject} {object : RawObject}
    {spec : HotNewsSpec} (hobject : request.object = some object)
    (hdecode : HotNewsSpec.decode (object.json.field "spec") = some spec)
    (htitles : spec.summaryConfig.titlesCount ≠ 0) (hnames : spec.feedsName ≠ [])
    {r : AdmissionResponse} (hpatch : r.patch = []) : reviewDefaults request r = pure r := by
  have hfeeds (ns : String) : defaultFeeds ns spec = pure (.ok []) := by
    simp [defaultFeeds, HotNewsSpec.needsFeeds, hnames]
  have hdefaults (ns : String) : applyDefaults ns object.json r = pure r := by
    unfold applyDefaults
    simp only [hdecode, hfeeds]
    have hsame : defaultsPatch object.json spec [] = r.patch := by
      rw [hpatch, defaultsPatch, defaultSpec_of_complete htitles hnames, if_pos rfl]
    change (pure _ : Program AdmissionResponse) = _
    rw [hsame, defaultSpec_of_complete htitles hnames]
    rfl
  unfold reviewDefaults
  simp only [hobject, hdefaults, ite_self]

/-! ## Rewriting -/

/-- The patch of the feed names reaches the specification as a patch of its own. -/
theorem field_spec_mergePatch_feedsNamePatch (base : HotNews) (names : List String) (o : Json) :
    (o.mergePatch (feedsNamePatch base names)).field "spec" =
      (o.field "spec").mergePatch (.obj [("feedsName", ofStrings names)]) := by
  unfold Json.field feedsNamePatch
  rw [ofFields, field?_mergePatch (ascending_sortFields _), lookup_feedsNamePatch, if_pos rfl,
    mergedField_some (by simp)]
  rfl

theorem run_effectiveSpec_of_resolved {σ : Type} {env : Environment σ} {s s' : σ} {op : Operator}
    {h : HotNews} {feeds : List Feed} {names : List String}
    (hnames : (resolvedNames op h feeds).run env s = (.ok names, s'))
    (hsame : names = [] ∨ names = h.spec.feedsName) :
    (effectiveSpec op h feeds).run env s = (.ok h.spec, s') := by
  refine Program.run_bind_eq_ok.2 ⟨_, _, hnames, ?_⟩
  rw [if_neg (by tauto)]
  exact Program.run_pure_eq_ok.2 ⟨rfl, rfl⟩

/-- The names that the operator resolves are a rewrite that its own reviews accept as it is, and
that it does not make a second time. -/
theorem resolvedNames_settled {spec : HotNewsSpec} {earlier : List String}
    {data : List (String × String)} {feeds : List Feed} {names : List String}
    (hvalid : validateSpec spec earlier = []) (htitles : spec.summaryConfig.titlesCount ≠ 0)
    (hresolved : resolveGroups spec.feedGroups data (feedNames feeds) = .ok names)
    (hne : names ≠ []) : SettledRewrite spec data feeds names := by
  have hnew : validateSpec { spec with feedsName := names } (feedNames feeds) = [] := by
    obtain ⟨hdates, hkeywords, -⟩ := validateSpec_eq_nil_iff.1 hvalid
    refine validateSpec_eq_nil_iff.2 ⟨hdates, hkeywords, fun name hname => ?_⟩
    obtain ⟨hknown, htrim⟩ := known_of_resolveGroups hresolved hname
    rwa [htrim]
  refine {
    written := fun base o ho hobj hdecode => ?_
    valid := hnew
    complete := @defaultSpec_of_complete { spec with feedsName := names } htitles hne _
    unpatched := fun _ _ _ hobject hdecode =>
      reviewDefaults_of_complete hobject hdecode htitles hne rfl
    admitted := fun _ _ _ hobject hspec hsearch =>
      reviewHotNews_of_valid hobject (hspec ▸ hnew) hsearch _
    resolvedAgain := hresolved
    notRewritten := fun {σ env s s' op h map} hspec hfound hdata => ?_ }
  · obtain ⟨fields, hfields⟩ := hobj
    have hordered := ho.field "spec"
    rw [field_spec_mergePatch_feedsNamePatch, hfields]
    rw [hfields] at hordered hdecode
    exact HotNewsSpec.decode_mergePatch_obj hordered hdecode
  · have hgroups : h.spec.feedGroups ≠ [] := by
      -- without groups nothing is resolved
      rw [hspec]
      intro hnone
      rw [hnone] at hresolved
      cases hresolved
      exact hne rfl
    by_cases henabled : op.settings.feedGroupsEnabledIn h.metadata.nsName
    · rw [if_pos henabled]
      have hrun : (resolvedNames op h feeds).run env s = (.ok names, s') := by
        unfold resolvedNames
        rw [if_neg (by simp [hgroups, henabled])]
        refine Program.run_bind_eq_ok.2 ⟨_, _, Program.run_within_eq_ok.2 hfound, ?_⟩
        simp only [Option.bind_some, hdata]
        exact Program.run_ofExcept_eq_ok.2 ⟨by rw [hspec, hresolved], rfl⟩
      exact run_effectiveSpec_of_resolved hrun (.inr (by rw [hspec]))
    · rw [if_neg henabled]
      have hrun : (resolvedNames op h feeds).run env s = (.ok [], s) := by
        unfold resolvedNames
        rw [if_pos (.inr henabled)]
        exact Program.run_pure_eq_ok.2 ⟨rfl, rfl⟩
      exact run_effectiveSpec_of_resolved hrun (.inl rfl)

namespace PaddedGroup

def feed (name : String) : Feed := ⟨.empty, ⟨name, "http://feeds.example/" ++ name⟩, none⟩

def feeds : List Feed := [feed "bbc", feed "\u2003cnn "]

def query : HotNewsSpec := ⟨["election"], none, none, ["gone"], [" world\u3000"], ⟨5⟩⟩

def data : List (String × String) := [("world", "\u00A0cnn,,bbc , cnn")]

end PaddedGroup

open PaddedGroup

/-- A group with blanks around its feeds, one of which is listed twice. -/
theorem paddedGroup_settled : validateSpec query ["gone"] = [] ∧
    query.summaryConfig.titlesCount ≠ 0 ∧
    resolveGroups query.feedGroups data (feedNames feeds) = .ok ["cnn", "bbc"] ∧
    SettledRewrite query data feeds ["cnn", "bbc"] := by
  have hvalid : validateSpec query ["gone"] = [] := by decide +kernel
  have htitles : query.summaryConfig.titlesCount ≠ 0 := by decide
  have hresolved : resolveGroups query.feedGroups data (feedNames feeds) = .ok ["cnn", "bbc"] := by
    decide +kernel
  exact ⟨hvalid, htitles, hresolved,
    resolvedNames_settled hvalid htitles hresolved (List.cons_ne_nil _ _)⟩

end Newsdesk
