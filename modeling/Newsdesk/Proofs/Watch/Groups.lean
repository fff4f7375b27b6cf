import Newsdesk.Proofs.Admission.Answered
import Newsdesk.Proofs.Reconcile.Sent
import Newsdesk.Proofs.Watch.Concerned

/-!
# The config map of the feed groups

Which config map lists the feed groups is decided three times: by the webhook that reviews it, by
the handler that names the queries which its change concerns, and by the reconcile that reads it.
The three agree (`groupsMap_agreed`) about the name and the namespace, and no change goes unnoticed
by a query that would come to another result.
-/

namespace Newsdesk

open Json

/-! ## The review -/

/-- The review of a config map by the rules of the feed groups. -/
def reviewGroups (review : AdmissionReview ConfigMap) (request : AdmissionRequest ConfigMap)
    (map : ConfigMap) : Program AdmissionResponse :=
  (do return (AdmissionResponse.allow review request).verdict (← configMapErrors map) []) >>=
    countResponse Webhook.validateConfigMap.name

section

variable {settings : Settings} {review : AdmissionReview ConfigMap}
  {request : AdmissionRequest ConfigMap} {object : ConfigMap}

theorem answerReview_configMap (hreview : Stores review request object) :
    answerReview Webhook.validateConfigMap.name review (reviewConfigMap settings) =
      if settings.isFeedGroupsMap (object.metadata.orNamespace request.ns).ns
          object.metadata.displayName then
        reviewGroups review request
          { object with metadata := object.metadata.orNamespace request.ns }
      else countResponse Webhook.validateConfigMap.name (.allow review request) := by
  have hselects :
      settings.selects { object with metadata := object.metadata.orNamespace request.ns } =
        settings.isFeedGroupsMap (object.metadata.orNamespace request.ns).ns
          object.metadata.displayName := rfl
  rw [answerReview_eq hreview.request_eq]
  unfold reviewConfigMap
  simp only [hreview.object_eq, hreview.stores, true_and, hselects]
  split <;> rfl

/-- The rules of the feed groups start with a list of the feeds, or find that there is none. -/
theorem configMapErrors_cases (map : ConfigMap) :
    (∃ next, configMapErrors map = .api (.list .feeds (some map.metadata.nsName) none) next) ∨
      ∃ errors, configMapErrors map = pure errors ∧ errors ≠ [] := by
  unfold configMapErrors searchFeeds Program.tryListObjects Program.callApi Program.askApi
  cases (ApiRequest.list (Resource.collection Feed) (some map.metadata.nsName) none).invalid? with
  | none => exact .inl ⟨_, rfl⟩
  | some e => cases e <;> exact .inr ⟨_, rfl, List.cons_ne_nil _ _⟩

theorem reviewGroups_ne (map : ConfigMap) : reviewGroups review request map ≠
    countResponse Webhook.validateConfigMap.name (.allow review request) := by
  unfold reviewGroups
  rcases configMapErrors_cases map with ⟨next, h⟩ | ⟨errors, h, hne⟩
  · rw [h]
    nofun
  · rw [h]
    change countResponse _ (AdmissionResponse.verdict _ errors []) ≠ _
    rw [AdmissionResponse.verdict_of_ne_nil hne]
    intro hsame
    injection hsame with hevent
    injection hevent with _ hcounted
    exact absurd hcounted (by decide : "denied" ≠ "allowed")

/-- A config map is reviewed by the rules of the feed groups if it lists them. -/
theorem answerReview_configMap_iff (hreview : Stores review request object) :
    answerReview Webhook.validateConfigMap.name review (reviewConfigMap settings) =
        reviewGroups review request
          { object with metadata := object.metadata.orNamespace request.ns } ↔
      settings.isFeedGroupsMap (object.metadata.orNamespace request.ns).ns
        object.metadata.displayName := by
  rw [answerReview_configMap hreview]
  split <;> rename_i h
  · exact iff_of_true rfl h
  · exact iff_of_false (reviewGroups_ne _).symm h

/-- Any other config map is admitted without a look at the feeds. -/
theorem answersAlone_configMap (hreview : Stores review request object)
    (h : ¬ settings.isFeedGroupsMap (object.metadata.orNamespace request.ns).ns
      object.metadata.displayName) :
    (answerReview Webhook.validateConfigMap.name review (reviewConfigMap settings)).AnswersAlone
      .validateConfigMap (.allow review request) := by
  rw [answerReview_configMap hreview, if_neg h]
  exact fun _ _ => rfl

end

/-! ## The handler -/

theorem affectedByConfigMap_lists_iff {settings : Settings} {map : ConfigMap} {ns : String}
    (hns : map.metadata.ns = some ns)
    (hvalid : (ApiRequest.list .hotNews (some ns) none).invalid? = none) :
    (∃ next, affectedByConfigMap settings map = .api (.list .hotNews (some ns) none) next) ↔
      settings.isFeedGroupsMap (some ns) map.metadata.displayName := by
  rw [affectedByConfigMap_eq, Settings.selects, hns]
  split <;> rename_i h
  · refine iff_of_true ?_ h
    rw [show map.metadata.nsName = ns from congrArg (·.getD "") hns]
    unfold listQueries Program.listObjects Program.tryListObjects Program.callApi Program.askApi
    rw [show Resource.collection HotNews = .hotNews from rfl, hvalid]
    exact ⟨_, rfl⟩
  · exact iff_of_false nofun h

/-! ## The reconcile -/

section

variable {α : Type} {ns name name' : String} {f g : Option ConfigMap → Program α}

/-- Reading a config map starts with its look-up, or fails under its name. -/
theorem readGroups_cases (ns name : String) :
    (∃ next, readGroups ns name = .api (.get .configMaps ns name) next) ∨
      ∃ failure, readGroups ns name =
        .fail (Failure.within ("failed to read " ++ objectLabel "ConfigMap" ns name) failure) := by
  unfold readGroups Program.getObject? Program.callApi Program.askApi
  cases hv : (ApiRequest.get (Resource.collection ConfigMap) ns name).invalid? with
  | none => exact .inl ⟨_, rfl⟩
  | some e =>
    refine .inr ⟨.ofCause (.api e), ?_⟩
    change Program.within _ (if e.isAbsent then pure none else .fail (.ofCause (.api e))) = _
    rw [ApiRequest.isAbsent_invalid? hv]
    rfl

theorem readGroups_bind_ne_pure (a : α) : readGroups ns name >>= f ≠ pure a := by
  rcases readGroups_cases ns name with ⟨next, h⟩ | ⟨failure, h⟩ <;> rw [h] <;> nofun

/-- Programs that start with reading config maps of different names are different. -/
theorem name_eq_of_readGroups_bind (h : readGroups ns name >>= f = readGroups ns name' >>= g) :
    name = name' := by
  rcases readGroups_cases ns name with ⟨next, h₁⟩ | ⟨failure, h₁⟩ <;>
    rcases readGroups_cases ns name' with ⟨next', h₂⟩ | ⟨failure', h₂⟩ <;> rw [h₁, h₂] at h
  · injection h with hrequest
    injection hrequest
  · cases h
  · cases h
  · injection h with hfailure
    injection hfailure with _ hcontext
    injection hcontext with hdoing
    simpa [objectLabel, String.append_assoc, String.append_right_inj] using hdoing

variable {op : Operator} {h : HotNews} {feeds : List Feed}

theorem resolvedNames_reads_iff (hns : h.metadata.ns = some ns) (hgroups : h.spec.feedGroups ≠ []) :
    (∃ next, resolvedNames op h feeds = readGroups ns name >>= next) ↔
      op.settings.isFeedGroupsMap (some ns) name := by
  have hnsName : h.metadata.nsName = ns := congrArg (·.getD "") hns
  by_cases henabled : op.settings.feedGroupsEnabledIn ns
  · rw [resolvedNames_of_enabled hgroups (hnsName ▸ henabled), hnsName]
    simp only [Settings.isFeedGroupsMap, henabled, Bool.and_true, decide_eq_true_eq]
    constructor
    · rintro ⟨next, hsame⟩
      exact (name_eq_of_readGroups_bind hsame).symm
    · rintro rfl
      exact ⟨_, rfl⟩
  · rw [resolvedNames_of_ignored (.inr (hnsName ▸ henabled))]
    refine iff_of_false ?_ (by simp [Settings.isFeedGroupsMap, henabled])
    rintro ⟨next, hsame⟩
    exact readGroups_bind_ne_pure _ hsame.symm

end

/-! ## A change of a config map -/

/-- The metadata of a config map are read like those of any other object. -/
theorem metadataOf_of_decodeConfigMap {key : ObjectKey} {x : Json} {map : ConfigMap}
    (ho : InOrder x) (hn : NamedBy key x) (hd : ConfigMap.decode x = some map) :
    metadataOf x = some map.metadata := by
  have hname := hn.name
  obtain ⟨fields, rfl⟩ := hn.obj
  unfold ConfigMap.decode at hd
  obtain ⟨-, -, hd⟩ := Option.bind_eq_some_iff.1 hd
  obtain ⟨metadata, hm, hd⟩ := Option.bind_eq_some_iff.1 hd
  obtain ⟨data, -, hd⟩ := Option.bind_eq_some_iff.1 hd
  cases hd
  rw [apiField_eq ho.ascending] at hm
  unfold metadataOf field at *
  rw [field?_obj] at *
  cases hl : fields.lookup "metadata" with
  | none =>
    rw [hl] at hname
    cases hname
  | some v =>
    -- an object with a name has metadata, so what would stand for missing ones does not count
    have hv : v ≠ .null := fun he => by
      rw [hl, he] at hname
      cases hname
    rw [hl, nullable_some, decodeNullable_of_ne_null _ hv, Option.map_eq_some_iff] at hm
    obtain ⟨m, hm, rfl⟩ := hm
    simpa using hm

/-- A config map carries the name and the namespace under which it is stored. -/
theorem Store.WellFormed.configMap_eq {s : Store} (hw : s.WellFormed) {key : ObjectKey} {x : Json}
    {map : ConfigMap} (hx : s.find? key = some x) (hd : ConfigMap.decode x = some map) :
    map.metadata.name = some key.name ∧ map.metadata.ns = some key.ns :=
  (hw.named hx).of_metadataOf (hw.inOrder hx)
    (metadataOf_of_decodeConfigMap (hw.inOrder hx) (hw.named hx) hd)

/-- A config map is stored in one cluster and missing in another one. Its change is noticed in a
third one, in which the store lists the queries of its namespace. -/
structure MapChange (noticed present absent : Cluster) (ns name : String) (map : ConfigMap) :
    Prop where
  wellFormed : present.store.WellFormed
  stored : ∃ x, present.store.find? ⟨.configMaps, ns, name⟩ = some x ∧
    ConfigMap.decode x = some map
  missing : present.Lacks ⟨.configMaps, ns, name⟩ absent
  listed : noticed.store.WellFormed
  serves : noticed.Serves (.list .hotNews (some ns) none)

section

variable {noticed present absent : Cluster} {ns name : String} {map : ConfigMap}
  (hchange : MapChange noticed present absent ns name map)
include hchange

theorem MapChange.metadata_eq : map.metadata.name = some name ∧ map.metadata.ns = some ns := by
  obtain ⟨x, hx, hd⟩ := hchange.stored
  exact hchange.wellFormed.configMap_eq hx hd

/-- Whether the change concerns a query of the namespace that uses the config map. -/
theorem MapChange.selects_eq (settings : Settings) :
    settings.selects map = settings.isFeedGroupsMap (some ns) name := by
  obtain ⟨hname, hns⟩ := hchange.metadata_eq
  rw [Settings.selects, hns, Metadata.displayName, hname]
  rfl

/-- A query that the change does not concern does not depend on it. -/
theorem MapChange.resolves_alike {op : Operator} {queries : List HotNews} {own : String}
    {space : String} {y : Json} {h : HotNews}
    {ask : AggregatorRequest → Cluster → Reply × Cluster} {timeText : Nat → String}
    (hread : (noticed.store.select .hotNews (some ns) none).mapM decodeHotNews = some queries)
    (hy : noticed.store.find? ⟨.hotNews, space, own⟩ = some y) (hd : decodeHotNews y = some h)
    (hspared : h.ref ∉
      (queries.filter fun q => op.settings.selects map && q.uses map).map HotNews.ref)
    (feeds : List Feed) :
    ((resolvedNames op h feeds).run (Cluster.environmentWith ask timeText) absent).1 =
      ((resolvedNames op h feeds).run (Cluster.environmentWith ask timeText) present).1 := by
  obtain ⟨x, hx, hmap⟩ := hchange.stored
  refine fst_run_resolvedNames_eq ask timeText hchange.missing hx hmap fun hkey henabled => ?_
  have hnsName : h.metadata.nsName = space := (hchange.listed.name_eq hy hd).2
  rw [hnsName] at hkey henabled
  injection hkey with _ hspace hname
  subst hspace hname
  have hselects : op.settings.selects map := by
    rw [hchange.selects_eq]
    simp [Settings.isFeedGroupsMap, henabled]
  refine Bool.eq_false_iff.2 fun huses => hspared (List.mem_map_of_mem ?_)
  exact List.mem_filter.2 ⟨mem_queries hchange.listed hread hy hd, by simp [hselects, huses]⟩

end

/-! ## Agreement -/

/-- Which config map lists the feed groups, and whom it concerns. When the queries of its namespace
are listed, a change of a config map concerns those of them that use it, each once and in the order
of the list, and the groups of any other query resolve to the same whether the config map is there
or not. A config map of a namespace and a name is reviewed by the rules of the feed groups if and
only if its change makes the handler list the queries of the namespace, and if and only if a query
of the namespace with groups reads it, which then reads no other. -/
theorem groupsMap_agreed (op : Operator) :
    (∀ {ask : AggregatorRequest → Cluster → Reply × Cluster} {timeText : Nat → String}
      {noticed present absent : Cluster} {ns name : String} {map : ConfigMap}
      {queries : List HotNews}, MapChange noticed present absent ns name map →
      ((Program.listObjects HotNews ns).run (Cluster.environmentWith ask timeText) noticed).1 =
        .ok queries →
      ∃ refs, ((affectedByConfigMap op.settings map).run
          (Cluster.environmentWith ask timeText) noticed).1 = .ok refs ∧
        refs = (queries.filter fun h => op.settings.selects map && h.uses map).map HotNews.ref ∧
        (∀ ref ∈ refs, ref.ns = map.metadata.ns) ∧ refs.Nodup ∧
        ∀ {space own : String} {y : Json} {h : HotNews},
          noticed.store.find? ⟨.hotNews, space, own⟩ = some y → decodeHotNews y = some h →
          h.ref ∉ refs → ∀ feeds,
            ((resolvedNames op h feeds).run (Cluster.environmentWith ask timeText) absent).1 =
              ((resolvedNames op h feeds).run (Cluster.environmentWith ask timeText) present).1) ∧
    ∀ {ns name : String} {review : AdmissionReview ConfigMap}
      {request : AdmissionRequest ConfigMap} {object map : ConfigMap} {h : HotNews}
      (feeds : List Feed), Stores review request object →
      (object.metadata.orNamespace request.ns).ns = some ns → object.metadata.displayName = name →
      map.metadata.ns = some ns → map.metadata.displayName = name →
      h.metadata.ns = some ns → h.spec.feedGroups ≠ [] →
      (answerReview Webhook.validateConfigMap.name review (reviewConfigMap op.settings) =
          reviewGroups review request
            { object with metadata := object.metadata.orNamespace request.ns } ↔
        op.settings.isFeedGroupsMap (some ns) name) ∧
      ((ApiRequest.list .hotNews (some ns) none).invalid? = none →
        ((∃ next, affectedByConfigMap op.settings map =
          .api (.list .hotNews (some ns) none) next) ↔
        op.settings.isFeedGroupsMap (some ns) name)) ∧
      ((∃ next, resolvedNames op h feeds = readGroups ns name >>= next) ↔
        op.settings.isFeedGroupsMap (some ns) name) ∧
      (resolvedNames op h feeds).Sends
        (· = .api (.get .configMaps ns op.settings.configMapName)) ∧
      (¬ op.settings.isFeedGroupsMap (some ns) name →
        (answerReview Webhook.validateConfigMap.name review
          (reviewConfigMap op.settings)).AnswersAlone .validateConfigMap (.allow review request) ∧
        affectedByConfigMap op.settings map = pure []) := by
  refine ⟨fun {ask timeText noticed present absent ns name map queries} hchange hlist => ?_,
    fun {ns name review request object map h} feeds hreview hns hname hmap hmapName hspace hgroups
      => ?_⟩
  · obtain ⟨-, hns⟩ := hchange.metadata_eq
    have hread := Cluster.read_of_run_listObjects hchange.serves hlist
    have hsublist : ((queries.filter fun h => op.settings.selects map && h.uses map).map
        HotNews.ref).Sublist (queries.map HotNews.ref) := List.filter_sublist.map _
    have hnsName : map.metadata.nsName = ns := congrArg (·.getD "") hns
    refine ⟨_, fst_run_affectedByConfigMap op.settings (hnsName.symm ▸ hlist), rfl,
      fun ref hmem => ?_, hsublist.nodup (nodup_refs hchange.listed hread),
      fun hy hd hspared feeds => hchange.resolves_alike hread hy hd hspared feeds⟩
    obtain ⟨h, hh, rfl⟩ := List.mem_map.1 (hsublist.subset hmem)
    rw [hns]
    exact ns_of_mem_queries hchange.listed hread hh
  · have hselects : op.settings.selects map = op.settings.isFeedGroupsMap (some ns) name := by
      rw [Settings.selects, hmap, hmapName]
    refine ⟨hns ▸ hname ▸ answerReview_configMap_iff hreview,
      fun hvalid => hmapName ▸ affectedByConfigMap_lists_iff hmap hvalid,
      resolvedNames_reads_iff hspace hgroups, ?_, fun hother => ⟨?_, ?_⟩⟩
    · have hnsName : h.metadata.nsName = ns := congrArg (·.getD "") hspace
      exact hnsName ▸ Program.sends_resolvedNames rfl
    · exact answersAlone_configMap hreview (by rw [hns, hname]; exact hother)
    · rw [affectedByConfigMap_eq, hselects, if_neg hother]

namespace SportsGroup

/-- A query of one group. -/
def query (name group : String) : HotNews :=
  ⟨{ Metadata.empty with name := some name, ns := some "news" },
    ⟨["final"], none, none, [], [group], ⟨5⟩⟩, none⟩

def groups : Json := ofFields [
  ("metadata", ofFields [("name", .str "feed-group-source"), ("namespace", .str "news")]),
  ("data", ofFields [("sports", .str "bbc")])]

def map : ConfigMap :=
  ⟨{ Metadata.empty with name := some "feed-group-source", ns := some "news" },
    some [("sports", "bbc")]⟩

def key : ObjectKey := ⟨.configMaps, "news", "feed-group-source"⟩

def store : Store := ⟨[
  (⟨.hotNews, "news", "match"⟩, hotNewsToJson (query "match" " sports ")),
  (⟨.hotNews, "news", "vote"⟩, hotNewsToJson (query "vote" "politics")),
  (key, groups)], 0⟩

def present : Cluster := .start store [] []

def absent : Cluster := .start (store.remove key) [] []

def operator : Operator :=
  { settings := {}
    aggregator := ⟨{
      scheme := "http"
      username := ""
      password := none
      host := some (.domain "aggregator")
      port := none
      path := .segments [""]
      query := none
      fragment := none }⟩ }

def request : AdmissionRequest ConfigMap := ⟨"r", some "news", .create, some map, none⟩

def review : AdmissionReview ConfigMap := ⟨"admission.k8s.io/v1", "AdmissionReview", some request⟩

def environment : Environment Cluster :=
  Cluster.environmentWith Cluster.askAggregator fun _ => "now"

theorem mapChange : MapChange present present absent "news" "feed-group-source" map where
  wellFormed := Store.wellFormed_of_forall (by decide) (by decide +kernel)
  stored := ⟨groups, by decide +kernel, by decide +kernel⟩
  missing := {
    gone := by decide +kernel
    others := fun other hne => (Store.find?_remove key other store).trans (if_neg hne)
    faults := rfl }
  listed := Store.wellFormed_of_forall (by decide) (by decide +kernel)
  serves := rfl

theorem listed : ((Program.listObjects HotNews "news").run environment present).1 =
    .ok [query "match" " sports ", query "vote" "politics"] := by decide +kernel

end SportsGroup

open SportsGroup

/-- Of two queries one has a group in the config map: it is told of the change, and the other one
does not need to be. -/
theorem sportsGroup_agreed :
    MapChange present present absent "news" "feed-group-source" map ∧
    ((affectedByConfigMap operator.settings map).run environment present).1 =
      .ok [⟨"match", some "news"⟩] ∧
    (∀ feeds,
      ((resolvedNames operator (query "vote" "politics") feeds).run environment absent).1 =
        ((resolvedNames operator (query "vote" "politics") feeds).run environment present).1) ∧
    Stores review request map ∧
    answerReview Webhook.validateConfigMap.name review (reviewConfigMap operator.settings) =
      reviewGroups review request map ∧
    (∃ next, affectedByConfigMap operator.settings map =
      .api (.list .hotNews (some "news") none) next) ∧
    ∃ next, resolvedNames operator (query "match" " sports ") [] =
      readGroups "news" "feed-group-source" >>= next := by
  obtain ⟨hconcerned, hagreed⟩ := groupsMap_agreed operator
  have hreview : Stores review request map := ⟨rfl, rfl, rfl⟩
  have hselects : operator.settings.isFeedGroupsMap (some "news") "feed-group-source" := by decide
  obtain ⟨refs, hrun, hrefs, -, -, hspared⟩ := hconcerned mapChange listed
  have hmap : map.metadata.ns = some "news" := rfl
  have hgroups : (query "match" " sports ").spec.feedGroups ≠ [] := List.cons_ne_nil _ _
  obtain ⟨hvalidates, hlists, hreads, -, -⟩ :=
    @hagreed "news" "feed-group-source" review request map map (query "match" " sports ") []
      hreview rfl rfl hmap rfl rfl hgroups
  have hstored : present.store.find? ⟨.hotNews, "news", "vote"⟩ =
      some (hotNewsToJson (query "vote" "politics")) := rfl
  have hvote : decodeHotNews (hotNewsToJson (query "vote" "politics")) =
      some (query "vote" "politics") := by decide +kernel
  have hmatch : refs = [⟨"match", some "news"⟩] := hrefs.trans (by decide +kernel)
  subst hmatch
  exact ⟨mapChange, hrun,
    hspared hstored hvote (by decide),
    hreview, hvalidates.2 hselects, (hlists (by decide +kernel)).2 hselects, hreads.2 hselects⟩

end Newsdesk
