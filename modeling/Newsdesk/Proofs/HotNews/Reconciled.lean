import Newsdesk.Proofs.Cluster.Stored
import Newsdesk.Proofs.Cluster.Tended
import Newsdesk.Proofs.Ownership.Written
import Newsdesk.Proofs.Resource.Transitions

/-!
# A reconcile of a query that succeeds

In a cluster where nobody else writes, a reconcile of a query that ends well leaves exactly what
the query asks for: the resolved feed names in its specification, the finalizer, the result of the
one query for these names in its status, and references to it from exactly the feeds of these
names. Everything else stays as it was.
-/

namespace Newsdesk

open Json Text

/-! ## Changes of a store -/

/-- Only the object of a key may have changed, and it is no feed. -/
structure Store.ChangesOnly (key : ObjectKey) (s s' : Store) : Prop where
  others : ∀ other, other ≠ key → s'.find? other = s.find? other
  feeds : ∀ ns, s'.select .feeds (some ns) none = s.select .feeds (some ns) none

theorem Store.ChangesOnly.refl (key : ObjectKey) (s : Store) : s.ChangesOnly key s :=
  ⟨fun _ _ => rfl, fun _ => rfl⟩

theorem Store.ChangesOnly.trans {key : ObjectKey} {s s' s'' : Store} (h : ChangesOnly key s s')
    (h' : ChangesOnly key s' s'') : ChangesOnly key s s'' :=
  ⟨fun other ho => (h'.others other ho).trans (h.others other ho),
    fun ns => (h'.feeds ns).trans (h.feeds ns)⟩

theorem Store.changesOnly_accept {key : ObjectKey} (hk : key.collection ≠ .feeds) (object : Json)
    (s : Store) : s.ChangesOnly key (s.accept key object).2 :=
  ⟨fun other ho => by rw [find?_accept, if_neg ho], fun ns => select_accept hk object _ _ s⟩

theorem Store.WritesAtMost.changesOnly {key : ObjectKey} {s s' : Store}
    (h : s.WritesAtMost key s') (hk : key.collection ≠ .feeds) : s.ChangesOnly key s' := by
  rcases h with rfl | ⟨object, rfl⟩
  · exact .refl key _
  · exact changesOnly_accept hk object s

/-! ## The feed names of a query -/

/-- The groups that the config map of a namespace lists. -/
def groupsIn (op : Operator) (ns : String) (s : Store) : Option (List (String × String)) :=
  ((s.find? ⟨.configMaps, ns, op.settings.configMapName⟩).bind ConfigMap.decode).bind
    ConfigMap.data

/-- What groups are resolved to in a namespace; nothing if groups do not count there or are not
listed. -/
def resolvedIn (op : Operator) (groups : List String) (ns : String) (known : List String)
    (s : Store) : List String :=
  if op.settings.feedGroupsEnabledIn ns then
    match groupsIn op ns s with
    | some data => (resolveGroups groups data known).toOption.getD []
    | none => []
  else []

/-- The feed names that a query asks for: those of its groups, or its own if there are none. -/
def effectiveNames (op : Operator) (h : HotNews) (ns : String) (known : List String) (s : Store) :
    List String :=
  if resolvedIn op h.spec.feedGroups ns known s = [] then h.spec.feedsName
  else resolvedIn op h.spec.feedGroups ns known s

/-! ## The parts of a reconcile -/

section

variable {c c' : Cluster} {ask : AggregatorRequest → Cluster → Reply × Cluster}
  {timeText : Nat → String} (hf : c.faults = [])
include hf

variable {ns name : String} {h : HotNews} (hs : Stored c.store ⟨.hotNews, ns, name⟩ h)
include hs

theorem run_ensureFinalizer {h₁ : HotNews}
    (hrun : (ensureFinalizer h hotNewsFinalizer).run (Cluster.environmentWith ask timeText) c =
      (.ok h₁, c')) :
    Stored c'.store ⟨.hotNews, ns, name⟩ h₁ ∧
      c.store.ChangesOnly ⟨.hotNews, ns, name⟩ c'.store ∧ c.Follows c'.store c' ∧
      ∃ finalizers version, finalizers.getD [] = withFinalizer hotNewsFinalizer h.metadata ∧
        h₁ = { h with metadata :=
          { h.metadata with finalizers := finalizers, resourceVersion := version } } := by
  obtain ⟨hs₁, hwrites, hc, hrest⟩ := hs.run_ensureFinalizer hf rfl hrun
  exact ⟨hs₁, hwrites.changesOnly (by simp), hc, hrest⟩

/-- What the groups of a query are resolved to, when this can be done. -/
theorem run_resolvedNames {op : Operator} {feeds : List Feed} {resolved : List String}
    (hrun : (resolvedNames op h feeds).run (Cluster.environmentWith ask timeText) c =
      (.ok resolved, c')) :
    resolved = resolvedIn op h.spec.feedGroups ns (feedNames feeds) c.store ∧
      c.Follows c.store c' := by
  unfold resolvedNames at hrun
  simp only [hs.nsName] at hrun
  unfold resolvedIn groupsIn
  split at hrun
  · rename_i hnone
    obtain ⟨rfl, rfl⟩ := Program.run_pure_eq_ok.1 hrun
    refine ⟨?_, .refl c⟩
    rcases hnone with hnone | hnone
    · rw [hnone]
      split
      · split <;> rfl
      · rfl
    · rw [if_neg hnone]
  · rename_i hsome
    rw [if_pos (Decidable.not_not.1 fun hn => hsome (.inr hn))]
    obtain ⟨found, c₁, hget, hrun⟩ := Program.run_bind_eq_ok.1 hrun
    obtain ⟨hfound, hc⟩ := Program.run_getObject? hf (Program.run_within_eq_ok.1 hget)
    change found = (c.store.find? ⟨.configMaps, ns, _⟩).bind ConfigMap.decode at hfound
    rw [← hfound]
    cases hdata : found.bind ConfigMap.data with
    | none =>
      simp only [hdata] at hrun
      obtain ⟨rfl, rfl⟩ := Program.run_pure_eq_ok.1 hrun
      exact ⟨rfl, hc⟩
    | some data =>
      simp only [hdata] at hrun
      obtain ⟨hresolved, rfl⟩ := Program.run_ofExcept_eq_ok.1 hrun
      exact ⟨by simp [hresolved, Except.toOption], hc⟩

/-- The feed names that a query is run with are those that are stored then. -/
theorem run_effectiveSpec {op : Operator} {feeds : List Feed} {spec : HotNewsSpec}
    (hrun : (effectiveSpec op h feeds).run (Cluster.environmentWith ask timeText) c =
      (.ok spec, c')) :
    spec = { h.spec with feedsName := effectiveNames op h ns (feedNames feeds) c.store } ∧
      c.store.ChangesOnly ⟨.hotNews, ns, name⟩ c'.store ∧ c.Follows c'.store c' ∧
      ∃ version, Stored c'.store ⟨.hotNews, ns, name⟩ { h with
        metadata := { h.metadata with resourceVersion := version }
        spec := spec } := by
  unfold effectiveSpec at hrun
  obtain ⟨resolved, c₁, hresolved, hrun⟩ := Program.run_bind_eq_ok.1 hrun
  obtain ⟨rfl, hc⟩ := run_resolvedNames hf hs hresolved
  have hs₁ : Stored c₁.store ⟨.hotNews, ns, name⟩ h := hc.store.symm ▸ hs
  unfold effectiveNames
  split at hrun
  · rename_i hnew
    rw [if_neg hnew.1]
    obtain ⟨_, c₂, hpersist, hrun⟩ := Program.run_bind_eq_ok.1 hrun
    obtain ⟨rfl, rfl⟩ := Program.run_pure_eq_ok.1 hrun
    unfold persistFeedsName at hpersist
    simp only [hs.nsName, hs.displayName] at hpersist
    obtain ⟨h', c₃, hpatch, hpersist⟩ := Program.run_bind_eq_ok.1 hpersist
    obtain ⟨-, rfl⟩ := Program.run_pure_eq_ok.1 hpersist
    obtain ⟨old, hold, hd, hc'⟩ := Program.run_patchObject (hc.faults.trans hf)
      (Program.run_within_eq_ok.1 hpatch)
    obtain ⟨x, hx, ho, hobj, hdx⟩ := hs₁.found
    cases hx.symm.trans hold
    obtain rfl := decodeHotNews_written_feedsName ho hobj hdx hd
    refine ⟨rfl, ?_, (hc.trans hc').self, some c₁.store.nextVersion, ?_⟩
    · rw [hc'.store, ← hc.store]
      exact Store.changesOnly_accept (by simp) _ _
    · rw [hc'.store]
      exact hs₁.accept ho (inOrder_feedsNamePatch _ _) hd rfl rfl rfl
  · rename_i hsame
    obtain ⟨rfl, rfl⟩ := Program.run_pure_eq_ok.1 hrun
    refine ⟨?_, hc.store ▸ .refl _ _, hc.self, _, hs₁⟩
    split
    · rfl
    · rename_i hne
      rw [Decidable.not_not.1 fun hn => hsame ⟨hne, hn⟩]

/-- What is stored as the status of a query after its outcome was recorded. -/
theorem run_recordHotNewsOutcome {h₁ : HotNews} {summary : NewsSummary}
    (hname : h₁.metadata.name = h.metadata.name) (hns : h₁.metadata.ns = h.metadata.ns)
    (hstatus : h₁.status = h.status)
    (hrange : -0x80000000 ≤ summary.articlesCount ∧ summary.articlesCount ≤ 0x7FFFFFFF)
    (hrun : (recordHotNewsOutcome h₁ (.ok summary)).run (Cluster.environmentWith ask timeText) c =
      (.ok (), c')) :
    c.store.ChangesOnly ⟨.hotNews, ns, name⟩ c'.store ∧
      ∃ version, Stored c'.store ⟨.hotNews, ns, name⟩ { h with
        metadata := { h.metadata with resourceVersion := version }
        status := some (hotNewsStatusAfter h₁ (.ok summary) (timeText c.readings)) } := by
  unfold recordHotNewsOutcome at hrun
  obtain ⟨time, c₁, hnow, hrun⟩ := Program.run_bind_eq_ok.1 hrun
  obtain ⟨rfl, rfl⟩ : timeText c.readings = time ∧ { c with readings := c.readings + 1 } = c₁ := by
    simpa [Program.currentTime, Program.run, Cluster.environment,
      Cluster.environmentWith] using hnow
  generalize hnew : hotNewsStatusAfter h₁ (.ok summary) (timeText c.readings) = status at hrun ⊢
  have hin : status.InRange := hnew ▸ hrange
  unfold updateStatus at hrun
  split at hrun
  · rename_i hsame
    obtain ⟨-, rfl⟩ := Program.run_pure_eq_ok.1 hrun
    refine ⟨.refl _ _, h.metadata.resourceVersion, ?_⟩
    rw [← hsame, hstatus]
    exact hs
  · have hns₁ : (Resource.metadata h₁).nsName = ns := by
      change h₁.metadata.ns.getD "" = ns
      rw [hns]
      exact hs.nsName
    have hname₁ : (Resource.metadata h₁).displayName = name := by
      change (h₁.metadata.name.orElse fun _ => h₁.metadata.generateName).getD "" = name
      rw [hname, hs.name]
      rfl
    have hf₁ : ({ c with readings := c.readings + 1 } : Cluster).faults = [] := hf
    dsimp only at hrun
    rw [hns₁, hname₁] at hrun
    obtain ⟨old, hold, hc⟩ := Program.run_patchObjectStatus hf₁ (Program.run_within_eq_ok.1 hrun)
    obtain ⟨x, hx, ho, hobj, hdx⟩ := hs.found
    cases hx.symm.trans hold
    rw [hc.store]
    exact ⟨Store.changesOnly_accept (by simp) _ _, some c.store.nextVersion,
      hs.accept ho (inOrder_statusPart (inOrder_hotNewsStatus status))
        (decodeHotNews_written_status ho hobj hdx hin) rfl rfl rfl⟩

end

/-- The aggregator answers by its script. -/
theorem Cluster.fst_askAggregator_congr {c c' : Cluster} (h : c'.replies = c.replies)
    (request : AggregatorRequest) :
    (c'.askAggregator request).1 = (c.askAggregator request).1 := by
  unfold askAggregator
  rw [h]

/-! ## The answer to a query -/

/-- The title that an article has in a reply: its text stands under its name, or comes first where
the fields are listed in order. A missing one is empty. -/
inductive Article.Titled : Json → String → Prop
  | named {fields : JsonFields} {title : String}
      (found : (fields.filter (·.1 = "title")).map Prod.snd = [.str title]) :
      Titled (.obj fields) title
  | unnamed {fields : JsonFields} (missing : fields.filter (·.1 = "title") = []) :
      Titled (.obj fields) ""
  | listed {title : String} {rest : List Json} : Titled (.arr (.str title :: rest)) title
  | unlisted : Titled (.arr []) ""

theorem Article.titled_of_decode {item : Json} {a : Article} (h : Article.decode item = some a) :
    Titled item a.title := by
  obtain ⟨source, _, rfl, hread⟩ := decodeRecord_eq_some h
  obtain ⟨title, _, htitle, hread⟩ := bind_eq_some_reader hread
  -- the fields that are read after the title do not matter
  obtain ⟨_, _, -, hread⟩ := bind_eq_some_reader hread
  obtain ⟨_, _, -, hread⟩ := bind_eq_some_reader hread
  obtain ⟨_, _, -, hread⟩ := bind_eq_some_reader hread
  obtain ⟨_, _, -, hread⟩ := bind_eq_some_reader hread
  cases hread
  obtain ⟨found, next, hnext, hfound⟩ := bind_eq_some_reader htitle
  have htext {v : Json} (hv : found = some v) : v = .str title := by
    subst hv
    obtain ⟨text, htext, hend⟩ := Option.bind_eq_some_iff.1 hfound
    cases hend
    cases v with
    | str s =>
      cases htext
      rfl
    | _ => cases htext
  have hempty (hv : found = none) : title = "" := by
    subst hv
    cases hfound
    rfl
  cases source with
  | named fields =>
    unfold nextField at hnext
    dsimp only at hnext
    split at hnext
    · rename_i hmissing
      cases hnext
      exact hempty rfl ▸ .unnamed hmissing
    · rename_i f hf
      cases hnext
      exact .named (by rw [hf, List.map_singleton, htext rfl])
    · cases hnext
  | listed items =>
    cases items with
    | nil =>
      cases hnext
      exact hempty rfl ▸ .unlisted
    | cons v more =>
      cases hnext
      exact htext rfl ▸ .listed

/-- The address of a query, and the articles with which it was answered: the reply was a success,
and each item of its list is one of them. -/
structure Fetched (op : Operator) (spec : HotNewsSpec) (c : Cluster) (url : Url)
    (articles : List Article) : Prop where
  address : ∃ endpoint, op.aggregator.newsEndpoint = .ok endpoint ∧ queryUrl endpoint spec = .ok url
  answer : ∃ body items, (c.askAggregator ⟨.query, url, none⟩).1 = .answered 200 body ∧
    body.json? = some (.arr items) ∧
    List.Forall₂ (fun item article => Article.decode item = some article ∧
      Article.Titled item article.title) items articles

theorem Fetched.congr {op : Operator} {spec : HotNewsSpec} {c c' : Cluster} {url : Url}
    {articles : List Article} (hr : c'.replies = c.replies)
    (h : Fetched op spec c' url articles) : Fetched op spec c url articles where
  address := h.address
  answer := Cluster.fst_askAggregator_congr hr _ ▸ h.answer

/-- What counts as articles is a list of them in a reply with status 200. -/
theorem answered_of_queryOutcome {url : Url} {reply : Reply} {articles : List Article}
    (h : Aggregator.queryOutcome url reply = .ok articles) :
    ∃ body items, reply = .answered 200 body ∧ body.json? = some (.arr items) ∧
      items.mapM Article.decode = some articles := by
  cases reply with
  | answered status body =>
    unfold Aggregator.queryOutcome at h
    dsimp only at h
    split at h
    · rename_i hstatus
      split at h
      · rename_i found hdecoded
        cases h
        obtain ⟨value, hvalue, hlist⟩ := Option.bind_eq_some_iff.1 hdecoded
        cases value with
        | arr items => exact ⟨body, items, by rw [hstatus], hvalue, hlist⟩
        | _ => cases hlist
      · cases h
    · cases h
  | dropped => cases h
  | unanswered => cases h

theorem fetched_of_queryOutcome {op : Operator} {spec : HotNewsSpec} {c : Cluster}
    {endpoint url : Url} {articles : List Article}
    (hendpoint : op.aggregator.newsEndpoint = .ok endpoint)
    (hurl : queryUrl endpoint spec = .ok url)
    (hout : Aggregator.queryOutcome url (c.askAggregator (Aggregator.query url)).1 = .ok articles) :
    Fetched op spec c url articles where
  address := ⟨endpoint, hendpoint, hurl⟩
  answer := by
    obtain ⟨body, items, hreply, hbody, hitems⟩ := answered_of_queryOutcome hout
    exact ⟨body, items, hreply, hbody, (forall₂_of_mapM hitems).imp
      fun _ _ hdecode => ⟨hdecode, Article.titled_of_decode hdecode⟩⟩

/-- News that were fetched are those of the address that the query is for. -/
theorem run_fetchNews_eq_ok {σ : Type} {env : Environment σ} {s s' : σ} {op : Operator}
    {spec : HotNewsSpec} {summary : NewsSummary} :
    (fetchNews op spec).run env s = (.ok summary, s') ↔ ∃ endpoint url articles,
      op.aggregator.newsEndpoint = .ok endpoint ∧ queryUrl endpoint spec = .ok url ∧
        (Aggregator.query url).invalid? = none ∧
        Aggregator.queryOutcome url (env.aggregator (Aggregator.query url) s).1 = .ok articles ∧
        summary = summarize spec url.text articles ∧
        (env.aggregator (Aggregator.query url) s).2 = s' := by
  unfold fetchNews
  rw [Program.run_bind_eq_ok]
  constructor
  · rintro ⟨endpoint, _, h₁, h⟩
    obtain ⟨hendpoint, rfl⟩ := Program.run_ofExcept_eq_ok.1 h₁
    obtain ⟨url, _, h₂, h⟩ := Program.run_bind_eq_ok.1 h
    obtain ⟨hurl, rfl⟩ := Program.run_ofExcept_eq_ok.1 h₂
    obtain ⟨articles, _, hcall, h⟩ := Program.run_bind_eq_ok.1 h
    obtain ⟨hvalid, hout, rfl⟩ :=
      Program.run_callAggregator_eq_ok.1 (Program.run_within_eq_ok.1 hcall)
    obtain ⟨rfl, rfl⟩ := Program.run_pure_eq_ok.1 h
    exact ⟨endpoint, url, articles, hendpoint, hurl, hvalid, hout, rfl, rfl⟩
  · rintro ⟨endpoint, url, articles, hendpoint, hurl, hvalid, hout, rfl, rfl⟩
    refine ⟨endpoint, s, Program.run_ofExcept_eq_ok.2 ⟨hendpoint, rfl⟩, ?_⟩
    refine Program.run_bind_eq_ok.2 ⟨url, s, Program.run_ofExcept_eq_ok.2 ⟨hurl, rfl⟩, ?_⟩
    exact Program.run_bind_eq_ok.2 ⟨articles, _,
      Program.run_within_eq_ok.2 (Program.run_callAggregator_eq_ok.2 ⟨hvalid, hout, rfl⟩),
      Program.run_pure_eq_ok.2 ⟨rfl, rfl⟩⟩

/-- A status can show the number of articles. -/
theorem articlesCount_summarize (spec : HotNewsSpec) (link : String) (articles : List Article) :
    -0x80000000 ≤ (summarize spec link articles).articlesCount ∧
      (summarize spec link articles).articlesCount ≤ 0x7FFFFFFF := by
  simp only [summarize, maxArticlesCount]
  omega

/-! ## The whole reconcile -/

/-- The feeds that are stored in a namespace. -/
def storedFeeds (ns : String) (s : Store) : List Feed :=
  (s.select .feeds (some ns) none).filterMap decodeFeed

theorem storedFeeds_of_mapM {ns : String} {s : Store} {feeds : List Feed}
    (h : (s.select .feeds (some ns) none).mapM decodeFeed = some feeds) :
    storedFeeds ns s = feeds := by
  have hread := forall₂_of_mapM h
  unfold storedFeeds
  generalize s.select .feeds (some ns) none = xs at hread ⊢
  clear h
  induction hread with
  | nil => rfl
  | cons hf _ ih => rw [List.filterMap_cons_some hf, ih]

/-- The feed names that a query asks for in a store. -/
def namesIn (op : Operator) (h : HotNews) (ns : String) (s : Store) : List String :=
  effectiveNames op h ns (feedNames (storedFeeds ns s)) s

theorem groupsIn_congr {op : Operator} {ns name : String} {s s' : Store}
    (h : s.ChangesOnly ⟨.hotNews, ns, name⟩ s') : groupsIn op ns s' = groupsIn op ns s := by
  unfold groupsIn
  rw [h.others _ (by simp)]

theorem resolvedIn_congr {op : Operator} {groups known : List String} {ns name : String}
    {s s' : Store} (hs : s.ChangesOnly ⟨.hotNews, ns, name⟩ s') :
    resolvedIn op groups ns known s' = resolvedIn op groups ns known s := by
  unfold resolvedIn
  rw [groupsIn_congr hs]

theorem effectiveNames_congr {op : Operator} {h : HotNews} {ns name : String}
    {known : List String} {s s' : Store} (hs : s.ChangesOnly ⟨.hotNews, ns, name⟩ s') :
    effectiveNames op h ns known s' = effectiveNames op h ns known s := by
  unfold effectiveNames
  rw [resolvedIn_congr hs]

theorem storedFeeds_congr {ns name : String} {s s' : Store}
    (hs : s.ChangesOnly ⟨.hotNews, ns, name⟩ s') : storedFeeds ns s' = storedFeeds ns s := by
  unfold storedFeeds
  rw [hs.feeds]

/-- What groups resolve to is what the query asks for, if it is anything. -/
theorem resolvedIn_eq_nil_or {op : Operator} {h : HotNews} {ns : String} {known : List String}
    {s : Store} : resolvedIn op h.spec.feedGroups ns known s = [] ∨
      resolvedIn op h.spec.feedGroups ns known s = effectiveNames op h ns known s := by
  unfold effectiveNames
  split
  · exact .inl ‹_›
  · exact .inr rfl

/-- The aggregator by its script has no part in what is stored. -/
theorem Cluster.isOutside_askAggregator : IsOutside askAggregator where
  store _ _ := rfl
  faults _ _ := rfl
  readings _ _ := rfl
  log _ _ := rfl

theorem Cluster.isOutside_answering (answer : AggregatorRequest → Reply) :
    IsOutside (answering answer) where
  store _ _ := rfl
  faults _ _ := rfl
  readings _ _ := rfl
  log _ _ := rfl

/-- A refresh that ended well fetched news for the feed names that it wrote and took. -/
theorem run_refresh_fetched {ask : AggregatorRequest → Cluster → Reply × Cluster}
    (hask : Cluster.IsOutside ask) {op : Operator} {ns name : String} {s : Store}
    {c c' : Cluster} {timeText : Nat → String} {h : HotNews} {summary : NewsSummary}
    (hw : s.WellFormed) (hf : c.faults = []) (hs : Stored c.store ⟨.hotNews, ns, name⟩ h)
    (hsame : s.ChangesOnly ⟨.hotNews, ns, name⟩ c.store)
    (hrun : (refresh op h).run (Cluster.environmentWith ask timeText) c = (.ok summary, c')) :
    ∃ spec version c₁ c₂,
      spec = { h.spec with feedsName := namesIn op h ns s } ∧ c₁.replies = c.replies ∧
        (fetchNews op spec).run (Cluster.environmentWith ask timeText) c₁ = (.ok summary, c₂) ∧
        Stored c'.store ⟨.hotNews, ns, name⟩ { h with
          metadata := { h.metadata with resourceVersion := version }
          spec := spec } ∧
        c'.faults = [] ∧ c'.readings = c.readings ∧
        (∀ key, key ≠ ⟨.hotNews, ns, name⟩ → (key.collection = .feeds → key.ns ≠ ns) →
          c'.store.find? key = s.find? key) ∧
        ∀ uid, h.metadata.uid = some uid → OwnedIn ns uid spec.feedsName s c'.store := by
  unfold refresh at hrun
  simp only [hs.nsName] at hrun
  obtain ⟨feeds, c₁, hlist, hrun⟩ := Program.run_bind_eq_ok.1 hrun
  obtain ⟨hfeeds, hc₁⟩ := Program.run_listObjects hf (Program.run_within_eq_ok.1 hlist)
  have hfeeds : (s.select .feeds (some ns) none).mapM decodeFeed = some feeds := by
    rw [← hsame.feeds ns]
    exact hfeeds
  obtain ⟨spec, c₂, hspec, hrun⟩ := Program.run_bind_eq_ok.1 hrun
  obtain ⟨hspec, hchange, hc₂, version, hs₂⟩ :=
    run_effectiveSpec (hc₁.faults.trans hf) (hc₁.store.symm ▸ hs) hspec
  rw [hc₁.store, effectiveNames_congr hsame, ← storedFeeds_of_mapM hfeeds] at hspec
  rw [hc₁.store] at hchange
  have hc := hc₁.trans hc₂
  obtain ⟨fetched, c₃, hfetch, hrun⟩ := Program.run_bind_eq_ok.1 hrun
  obtain ⟨-, url, -, -, -, -, -, -, hasked⟩ := run_fetchNews_eq_ok.1 hfetch
  have hstore : c₃.store = c₂.store := hasked ▸ hask.store _ _
  have hfaults₃ : c₃.faults = [] := (hasked ▸ hask.faults _ _ : _ = _).trans (hc.faults.trans hf)
  have hreadings : c₃.readings = c₂.readings := hasked ▸ hask.readings _ _
  have hc₃ : s.ChangesOnly ⟨.hotNews, ns, name⟩ c₃.store := hstore ▸ hsame.trans hchange
  have hr₃ : c₃.readings = c.readings := hreadings.trans hc.readings
  rw [← hstore] at hs₂
  cases huid : h.metadata.uid with
  | none =>
    simp only [ownerReference?, huid, Option.map_none] at hrun
    obtain ⟨rfl, rfl⟩ := Program.run_pure_eq_ok.1 hrun
    exact ⟨spec, version, c₂, c₃, hspec, hc.replies, hfetch, hs₂, hfaults₃, hr₃,
      fun key hne _ => hc₃.others key hne, nofun⟩
  | some uid =>
    simp only [ownerReference?, huid, Option.map_some] at hrun
    obtain ⟨⟨⟩, c₄, hwrite, hrun⟩ := Program.run_bind_eq_ok.1 hrun
    obtain ⟨rfl, rfl⟩ := Program.run_pure_eq_ok.1 hrun
    obtain ⟨hf₄, hr₄, hothers, howned⟩ := run_planOwnerChanges hfaults₃ hw hfeeds
      (fun own => hc₃.others _ (by simp)) hwrite
    refine ⟨spec, version, c₂, c₃, hspec, hc.replies, hfetch, ?_, hf₄, hr₄.trans hr₃, ?_, ?_⟩
    · obtain ⟨x, hx, hrest⟩ := hs₂.found
      exact ⟨⟨x, (hothers _ (by simp)).trans hx, hrest⟩, hs₂.name, hs₂.ns, hs₂.active⟩
    · exact fun key hne hfeed => (hothers key hfeed).trans (hc₃.others key hne)
    · rintro _ ⟨⟩
      exact howned

/-- A refresh that ended well asked for, wrote and took the same feed names. -/
theorem run_refresh {op : Operator} {ns name uid : String} {s : Store} {c c' : Cluster}
    {timeText : Nat → String} {h : HotNews} {summary : NewsSummary} (hw : s.WellFormed)
    (hf : c.faults = []) (hs : Stored c.store ⟨.hotNews, ns, name⟩ h)
    (hsame : s.ChangesOnly ⟨.hotNews, ns, name⟩ c.store) (huid : h.metadata.uid = some uid)
    (hrun : (refresh op h).run (Cluster.environment timeText) c = (.ok summary, c')) :
    ∃ spec version url articles,
      spec = { h.spec with feedsName := namesIn op h ns s } ∧
        Fetched op spec c url articles ∧ summary = summarize spec url.text articles ∧
        Stored c'.store ⟨.hotNews, ns, name⟩ { h with
          metadata := { h.metadata with resourceVersion := version }
          spec := spec } ∧
        c'.faults = [] ∧ c'.readings = c.readings ∧
        (∀ key, key ≠ ⟨.hotNews, ns, name⟩ → (key.collection = .feeds → key.ns ≠ ns) →
          c'.store.find? key = s.find? key) ∧
        OwnedIn ns uid spec.feedsName s c'.store := by
  obtain ⟨spec, version, c₁, c₂, hspec, hreplies, hfetch, hs', hf', hr', hothers, howned⟩ :=
    run_refresh_fetched Cluster.isOutside_askAggregator hw hf hs hsame hrun
  obtain ⟨endpoint, url, articles, hendpoint, hurl, -, hout, rfl, -⟩ :=
    run_fetchNews_eq_ok.1 hfetch
  exact ⟨spec, version, url, articles, hspec,
    (fetched_of_queryOutcome hendpoint hurl hout).congr hreplies, rfl, hs', hf', hr', hothers,
    howned uid huid⟩

/-- The condition that tells at a time how many articles were fetched. -/
def newsFetched (count : Int) (name time : String) : Condition :=
  ⟨.added, true, "NewsFetched", "fetched " ++ toString count ++ " articles", name, time⟩

/-- A status that shows articles, and a success in the place of the condition that told the outcome
before. A success that was told already keeps its time. -/
structure ShowsNews (config : SummaryConfig) (url : Url) (articles : List Article)
    (name now : String) (previous : List Condition) (status : HotNewsStatus) : Prop where
  newsLink : status.newsLink = url.text
  articlesCount : status.articlesCount = min (articles.length : Int) 0x7FFFFFFF
  articlesTitles : status.articlesTitles = (articles.map Article.title).take
    (if 0 < config.titlesCount then config.titlesCount.toNat else 10)
  added : ∃ time, Condition.ShownSince (newsFetched status.articlesCount name) now
      (previous.find? (·.kind = .added)) time ∧
    status.conditions.filter (·.kind = .added) =
      newsFetched status.articlesCount name time :: (previous.filter (·.kind = .added)).tail
  others : ∀ (i : Nat) (c : Condition), c.kind ≠ .added →
    (status.conditions[i]? = some c ↔ previous[i]? = some c)

theorem showsNews_hotNewsStatusAfter (h : HotNews) (spec : HotNewsSpec) (url : Url)
    (articles : List Article) (now : String) :
    ShowsNews spec.summaryConfig url articles h.metadata.displayName now
      (h.status.elim [] HotNewsStatus.conditions)
      (hotNewsStatusAfter h (.ok (summarize spec url.text articles)) now) := by
  have hprevious : h.status.elim [] HotNewsStatus.conditions =
      (h.status.getD .empty).conditions := by
    cases h.status <;> rfl
  rw [hprevious]
  constructor
  case newsLink => rfl
  case articlesCount => rfl
  case articlesTitles => exact List.map_take
  case added => exact Condition.exists_shownSince (newsFetched _ h.metadata.displayName now) _
  case others => exact fun i c hc => (Condition.upserts _ _).getElem?_of_ne hc i

/-- A query after it was run with some feed names and answered with some articles. -/
structure QueryAfter (names : List String) (url : Url) (articles : List Article) (name now : String)
    (h h' : HotNews) : Prop where
  spec : h'.spec = { h.spec with feedsName := names }
  adopted : hotNewsFinalizer ∈ h'.metadata.finalizers.getD []
  finalizers : h'.metadata.finalizers.getD [] =
    if hotNewsFinalizer ∈ h.metadata.finalizers.getD [] then h.metadata.finalizers.getD []
    else h.metadata.finalizers.getD [] ++ [hotNewsFinalizer]
  metadata : h'.metadata = { h.metadata with
    finalizers := h'.metadata.finalizers
    resourceVersion := h'.metadata.resourceVersion }
  status : ∃ status, h'.status = some status ∧
    ShowsNews h.spec.summaryConfig url articles name now
      (h.status.elim [] HotNewsStatus.conditions) status

/-- A reconcile of a query in use that ends well has added the finalizer, refreshed the query and
recorded the outcome. -/
theorem run_reconcileHotNews_active {ask : AggregatorRequest → Cluster → Reply × Cluster}
    {op : Operator} {ns name : String} {c c' : Cluster} {timeText : Nat → String} {h : HotNews}
    {action : Action} (hf : c.faults = []) (hs : Stored c.store ⟨.hotNews, ns, name⟩ h)
    (hrun : (reconcileHotNews op ns name).run (Cluster.environmentWith ask timeText) c =
      (.ok action, c')) :
    action = .requeue op.settings.hotNewsRefresh ∧ ∃ c₁ h₁ c₂ summary c₃, c.Follows c.store c₁ ∧
      (ensureFinalizer h hotNewsFinalizer).run (Cluster.environmentWith ask timeText) c₁ =
        (.ok h₁, c₂) ∧
      (refresh op h₁).run (Cluster.environmentWith ask timeText) c₂ = (.ok summary, c₃) ∧
      (recordHotNewsOutcome h₁ (.ok summary)).run (Cluster.environmentWith ask timeText) c₃ =
        (.ok (), c') := by
  unfold reconcileHotNews at hrun
  obtain ⟨found, c₁, hget, hrun⟩ := Program.run_bind_eq_ok.1 hrun
  obtain ⟨rfl, hc₁⟩ := Program.run_getObject? hf (Program.run_within_eq_ok.1 hget)
  have hfound : (c.store.find? ⟨Resource.collection HotNews, ns, name⟩).bind
      (Resource.decode : Decoder HotNews) = some h := by
    obtain ⟨x, hx, -, -, hd⟩ := hs.found
    change (c.store.find? ⟨.hotNews, ns, name⟩).bind decodeHotNews = some h
    rw [hx]
    exact hd
  have hlife : Lifecycle.of h.metadata hotNewsFinalizer = .active := by
    simp [Lifecycle.of, hs.active]
  simp only [hfound, hlife] at hrun
  obtain ⟨h₁, c₂, hensure, hrun⟩ := Program.run_bind_eq_ok.1 hrun
  obtain ⟨outcome, c₃, hrefresh, hrun⟩ := Program.run_bind_eq_ok.1 hrun
  rw [Program.run_attempt_eq_ok] at hrefresh
  cases outcome with
  | error f =>
    -- a refresh that failed is recorded, and the reconcile fails with it
    obtain ⟨_, _, -, hrun⟩ := Program.run_bind_eq_ok.1 hrun
    exact absurd hrun Program.not_run_fail_eq_ok
  | ok summary =>
    obtain ⟨⟨⟩, c₄, hrecord, hrun⟩ := Program.run_bind_eq_ok.1 hrun
    obtain ⟨rfl, rfl⟩ := Program.run_pure_eq_ok.1 hrun
    exact ⟨rfl, c₁, h₁, c₂, summary, c₃, hc₁, hensure, hrefresh, hrecord⟩

/-- A reconcile of a query in use that ends well asks the aggregator for exactly the feeds whose
names it leaves in the specification and whose owner it is then. The rest of the query and of the
feeds stays as it was, and so does every other object. -/
theorem run_reconcileHotNews {op : Operator} {ns name uid : String} {c c' : Cluster}
    {timeText : Nat → String} {x : Json} {h : HotNews} {action : Action}
    (hw : c.store.WellFormed) (hf : c.faults = [])
    (hx : c.store.find? ⟨.hotNews, ns, name⟩ = some x) (hd : decodeHotNews x = some h)
    (hactive : h.metadata.isDeleting = false) (huid : h.metadata.uid = some uid)
    (hrun : (reconcileHotNews op ns name).run (Cluster.environment timeText) c =
      (.ok action, c')) :
    action = .requeue op.settings.hotNewsRefresh ∧
      (∃ x' h' url articles, c'.store.find? ⟨.hotNews, ns, name⟩ = some x' ∧
        decodeHotNews x' = some h' ∧ Fetched op h'.spec c url articles ∧
        QueryAfter (namesIn op h ns c.store) url articles name (timeText c.readings) h h') ∧
      OwnedIn ns uid (namesIn op h ns c.store) c.store c'.store ∧
      ∀ key, key ≠ ⟨.hotNews, ns, name⟩ → (key.collection = .feeds → key.ns ≠ ns) →
        c'.store.find? key = c.store.find? key := by
  have hs := hw.stored hx hd hactive
  obtain ⟨rfl, c₁, h₁, c₂, summary, c₃, hc₁, hensure, hrefresh, hrecord⟩ :=
    run_reconcileHotNews_active hf hs hrun
  obtain ⟨hs₂, hchange, hc₂, finalizers, version, hfinalizers, rfl⟩ :=
    run_ensureFinalizer (hc₁.faults.trans hf) (hc₁.store.symm ▸ hs) hensure
  rw [hc₁.store] at hchange
  have hc := hc₁.trans hc₂
  obtain ⟨spec, version', url, articles, hspec, hfetched, rfl, hs₃, hf₃, hr₃, hothers, howned⟩ :=
    run_refresh hw (hc.faults.trans hf) hs₂ hchange huid hrefresh
  obtain ⟨hlast, version'', hs₄⟩ := run_recordHotNewsOutcome hf₃ hs₃ rfl rfl rfl
    (articlesCount_summarize spec url.text articles) hrecord
  have hnames : spec.feedsName = namesIn op h ns c.store := by rw [hspec]; rfl
  obtain ⟨x', hx', -, -, hd'⟩ := hs₄.found
  refine ⟨rfl, ⟨x', _, url, articles, hx', hd', hfetched.congr hc.replies, ?_⟩, ⟨?_, ?_⟩, ?_⟩
  · have hadopted : hotNewsFinalizer ∈ finalizers.getD [] := by
      rw [hfinalizers, withFinalizer_eq]
      split <;> simp [*]
    have hreadings : c₃.readings = c.readings := hr₃.trans hc.readings
    have hconfig : spec.summaryConfig = h.spec.summaryConfig := by rw [hspec]
    have hname : h.metadata.displayName = name := hs.displayName
    refine ⟨hspec, hadopted, hfinalizers.trans (withFinalizer_eq _ _), rfl, _, rfl, ?_⟩
    rw [← hconfig, ← hreadings, ← hname]
    exact showsNews_hotNewsStatusAfter _ spec url articles _
  · intro own hnone
    rw [hlast.others _ (by simp)]
    exact howned.missing own hnone
  · intro own x hx
    rw [hlast.others _ (by simp), ← hnames]
    exact howned.stored hx
  · exact fun key hne hfeed => (hlast.others key hne).trans (hothers key hne hfeed)

namespace GroupedQuery

def owner (uid : String) : OwnerReference :=
  ⟨apiGroupVersion, Collection.hotNews.kind, "top", uid, some false, none⟩

def slowDeletion : Condition := ⟨.deleted, false, "InternalError", "slow", "top", "before"⟩

/-- A query of a group, which has asked for another feed before and shows what it was answered. -/
def query : HotNews :=
  ⟨{ Metadata.empty with
      name := some "top", ns := some "news", uid := some "u", resourceVersion := some "1" },
    ⟨["election"], none, none, ["cnn"], ["daily"], ⟨1⟩⟩,
    some ⟨7, "http://aggregator/news?sources=cnn&keywords=election", ["Old"],
      [newsFetched 7 "top" "before", slowDeletion]⟩⟩

def feed (name : String) (owners : List OwnerReference) : Feed :=
  ⟨{ Metadata.empty with
      name := some name, ns := some "news", resourceVersion := some "1"
      ownerReferences := some owners }, ⟨name, "http://" ++ name⟩, none⟩

def groups : Json := ofFields [
  ("metadata", ofFields [("name", .str "groups"), ("namespace", .str "news")]),
  ("data", ofFields [("daily", .str "bbc")])]

def store : Store := ⟨[
  (⟨.hotNews, "news", "top"⟩, hotNewsToJson query),
  (⟨.feeds, "news", "bbc"⟩, feedToJson (feed "bbc" [owner "v"])),
  (⟨.feeds, "news", "cnn"⟩, feedToJson (feed "cnn" [owner "u", owner "v"])),
  (⟨.configMaps, "news", "groups"⟩, groups)], 0⟩

def article (title : String) : Article := ⟨title, "", "", "", ""⟩

def cluster : Cluster := .start store []
  [⟨some "GET", none, .answered 200 (.value (.arr [(article "A").toJson, (article "B").toJson])),
    none⟩]

def operator : Operator :=
  { settings := { configMapName := "groups" }
    aggregator := ⟨{
      scheme := "http"
      username := ""
      password := none
      host := some (.domain "aggregator")
      port := none
      path := .segments [""]
      query := none
      fragment := none }⟩ }

theorem wellFormed : store.WellFormed := Store.wellFormed_of_forall (by decide) (by decide +kernel)

/-- A reconcile of the query. -/
def result : Except Failure Action × Cluster :=
  (reconcileHotNews operator "news" "top").run (Cluster.environment fun _ => "now") cluster

/-- The query after the reconcile: two articles were fetched for the feed of its group. -/
def refreshed : HotNews :=
  ⟨{ query.metadata with
      finalizers := some [hotNewsFinalizer]
      resourceVersion := some "1005" },
    { query.spec with feedsName := ["bbc"] },
    some ⟨2, "http://aggregator/news?sources=bbc&keywords=election", ["A"],
      [⟨.added, true, "NewsFetched", "fetched 2 articles", "top", "now"⟩, slowDeletion]⟩⟩

/-- The owners of a feed after the reconcile. -/
def ownersAfter (name : String) : Option (List OwnerReference) :=
  ((result.2.store.find? ⟨.feeds, "news", name⟩).bind decodeFeed).map fun f => f.metadata.owners

theorem outcome : result.1.toOption = some (.requeue (.ofSeconds 300)) ∧
    (result.2.store.find? ⟨.hotNews, "news", "top"⟩).bind decodeHotNews = some refreshed ∧
    ownersAfter "bbc" = some [owner "v", owner "u"] ∧ ownersAfter "cnn" = some [owner "v"] := by
  decide +kernel

theorem result_eq : result = (.ok (.requeue (.ofSeconds 300)), result.2) :=
  Program.eq_ok_of_toOption outcome.1

theorem decode_query : decodeHotNews (hotNewsToJson query) = some query := by decide +kernel

theorem articles_of_fetched {spec : HotNewsSpec} {url : Url} {articles : List Article}
    (h : Fetched operator spec cluster url articles) : articles = [article "A", article "B"] := by
  have hdecode : Article.decode (article "A").toJson = some (article "A") ∧
      Article.decode (article "B").toJson = some (article "B") := by
    decide +kernel
  obtain ⟨body, items, hreply, hbody, hitems⟩ := h.answer
  cases hreply
  cases hbody
  obtain _ | ⟨⟨ha, -⟩, _ | ⟨⟨hb, -⟩, _ | _⟩⟩ := hitems
  cases hdecode.1.symm.trans ha
  cases hdecode.2.symm.trans hb
  rfl

theorem namesIn_query : namesIn operator query "news" cluster.store = ["bbc"] := by decide +kernel

end GroupedQuery

open GroupedQuery

/-- A query of a group whose names have changed: it takes the feed of the new name, which keeps its
other owner, and gives up the one of the old name. Its status shows the articles of the new feed,
and still the removal that failed. -/
theorem groupedQuery_reconciled : cluster.store.WellFormed ∧
    result.1 = .ok (.requeue (.ofSeconds 300)) ∧
    (∃ x url, result.2.store.find? ⟨.hotNews, "news", "top"⟩ = some x ∧
      decodeHotNews x = some refreshed ∧
      Fetched operator refreshed.spec cluster url [article "A", article "B"] ∧
      QueryAfter ["bbc"] url [article "A", article "B"] "top" "now" query refreshed) ∧
    OwnedIn "news" "u" ["bbc"] cluster.store result.2.store ∧
    ownersAfter "bbc" = some [owner "v", owner "u"] ∧ ownersAfter "cnn" = some [owner "v"] ∧
    result.2.store.find? ⟨.configMaps, "news", "groups"⟩ = some groups := by
  obtain ⟨-, ⟨x, h, url, articles, hx, hd, hfetched, hafter⟩, howned, hothers⟩ :=
    run_reconcileHotNews wellFormed rfl rfl decode_query rfl rfl result_eq
  rw [namesIn_query] at hafter howned
  obtain ⟨-, hrefreshed, hbbc, hcnn⟩ := outcome
  rw [hx, Option.bind_some, hd] at hrefreshed
  cases hrefreshed
  cases articles_of_fetched hfetched
  exact ⟨wellFormed, congrArg Prod.fst result_eq, ⟨x, url, hx, hd, hfetched, hafter⟩, howned,
    hbbc, hcnn, hothers ⟨.configMaps, "news", "groups"⟩ (by decide) (by decide)⟩

end Newsdesk
