import Newsdesk.Proofs.Admission.Resolved
import Newsdesk.Proofs.HotNews.Reconciled
import Newsdesk.Proofs.Reconcile.Spared
import Newsdesk.Proofs.Resource.Reported

/-!
# A query that is reconciled again

After a reconcile of a query in use that ended well, the next one finds the finalizer, the feed
names, the owners and the status that it would write: it asks the aggregator once more and patches
nothing. There is one exception. A feed whose deletion was requested and that nothing holds up any
more is taken away by the first patch, also by one of its owners; the names that the groups of the
query resolve to must still be known then.
-/

namespace Newsdesk

open Json Text

/-! ## Reading the same again -/

section

variable {c c' c₁ : Cluster} {ask : AggregatorRequest → Cluster → Reply × Cluster}
  {timeText : Nat → String} {op : Operator}

/-- Groups are resolved as before as long as the config map is the same and the names are known. -/
theorem run_resolvedNames_again {h h' : HotNews} {feeds feeds' : List Feed}
    {resolved : List String} (hf : c.faults = []) (hf₁ : c₁.faults = [])
    (hgroups : h'.spec.feedGroups = h.spec.feedGroups)
    (hns : h'.metadata.nsName = h.metadata.nsName)
    (hmap : c₁.store.find? ⟨.configMaps, h.metadata.nsName, op.settings.configMapName⟩ =
      c.store.find? ⟨.configMaps, h.metadata.nsName, op.settings.configMapName⟩)
    (hknown : ∀ n ∈ resolved, n ∈ feedNames feeds')
    (hrun : (resolvedNames op h feeds).run (Cluster.environmentWith ask timeText) c =
      (.ok resolved, c')) :
    ∃ c₁', (resolvedNames op h' feeds').run (Cluster.environmentWith ask timeText) c₁ =
      (.ok resolved, c₁') ∧ c₁.Reads c₁' := by
  unfold resolvedNames at hrun ⊢
  rw [hgroups, hns]
  dsimp only at hrun ⊢
  split at hrun
  · rename_i hnone
    obtain ⟨rfl, -⟩ := Program.run_pure_eq_ok.1 hrun
    rw [if_pos hnone]
    exact ⟨c₁, rfl, .refl c₁⟩
  · rename_i hsome
    rw [if_neg hsome]
    obtain ⟨found, c₂, hget, hrun⟩ := Program.run_bind_eq_ok.1 hrun
    obtain ⟨c₂', hget', hreads⟩ := Program.run_getObject?_again hf hf₁ hmap
      (Program.run_within_eq_ok.1 hget)
    refine ⟨c₂', Program.run_bind_eq_ok.2 ⟨found, c₂', Program.run_within_eq_ok.2 hget', ?_⟩,
      hreads⟩
    cases hdata : found.bind ConfigMap.data with
    | none =>
      simp only [hdata] at hrun ⊢
      obtain ⟨rfl, -⟩ := Program.run_pure_eq_ok.1 hrun
      rfl
    | some data =>
      simp only [hdata] at hrun ⊢
      obtain ⟨hresolved, -⟩ := Program.run_ofExcept_eq_ok.1 hrun
      exact Program.run_ofExcept_eq_ok.2 ⟨resolveGroups_congr hresolved hknown, rfl⟩

/-- Groups that can be resolved again resolve to names that are known then. -/
theorem known_of_run_resolvedNames {h h' : HotNews} {feeds feeds' : List Feed}
    {resolved resolved' : List String} {c₁' : Cluster} (hf : c.faults = []) (hf₁ : c₁.faults = [])
    (hgroups : h'.spec.feedGroups = h.spec.feedGroups)
    (hns : h'.metadata.nsName = h.metadata.nsName)
    (hmap : c₁.store.find? ⟨.configMaps, h.metadata.nsName, op.settings.configMapName⟩ =
      c.store.find? ⟨.configMaps, h.metadata.nsName, op.settings.configMapName⟩)
    (hrun : (resolvedNames op h feeds).run (Cluster.environmentWith ask timeText) c =
      (.ok resolved, c'))
    (hagain : (resolvedNames op h' feeds').run (Cluster.environmentWith ask timeText) c₁ =
      (.ok resolved', c₁')) {n : String} (hn : n ∈ resolved) : n ∈ feedNames feeds' := by
  unfold resolvedNames at hrun hagain
  rw [hgroups, hns] at hagain
  dsimp only at hrun hagain
  split at hrun
  · obtain ⟨rfl, -⟩ := Program.run_pure_eq_ok.1 hrun
    cases hn
  · rename_i hsome
    rw [if_neg hsome] at hagain
    obtain ⟨found, c₂, hget, hrun⟩ := Program.run_bind_eq_ok.1 hrun
    obtain ⟨found', c₂', hget', hagain⟩ := Program.run_bind_eq_ok.1 hagain
    obtain ⟨hfound, -⟩ := Program.run_getObject? hf (Program.run_within_eq_ok.1 hget)
    obtain ⟨hfound', -⟩ := Program.run_getObject? hf₁ (Program.run_within_eq_ok.1 hget')
    rw [show c₁.store.find? ⟨Resource.collection ConfigMap, _, _⟩ = _ from hmap] at hfound'
    obtain rfl : found = found' := hfound.trans hfound'.symm
    cases hdata : found.bind ConfigMap.data with
    | none =>
      simp only [hdata] at hrun
      obtain ⟨rfl, -⟩ := Program.run_pure_eq_ok.1 hrun
      cases hn
    | some data =>
      simp only [hdata] at hrun hagain
      obtain ⟨hresolved, -⟩ := Program.run_ofExcept_eq_ok.1 hrun
      obtain ⟨hresolved', -⟩ := Program.run_ofExcept_eq_ok.1 hagain
      have hgrouped := (mem_resolveGroups hresolved).1 hn
      exact (known_of_resolveGroups hresolved' ((mem_resolveGroups hresolved').2 hgrouped)).1

end

/-- An aggregator that answers in one way answers a query as before. -/
theorem run_fetchNews_again {answer : AggregatorRequest → Reply} {timeText : Nat → String}
    {op : Operator} {spec : HotNewsSpec} {summary : NewsSummary} {c c' : Cluster}
    (hrun : (fetchNews op spec).run
      (Cluster.environmentWith (Cluster.answering answer) timeText) c = (.ok summary, c'))
    (c₁ : Cluster) : ∃ c₁', (fetchNews op spec).run
        (Cluster.environmentWith (Cluster.answering answer) timeText) c₁ = (.ok summary, c₁') ∧
      c₁.Reads c₁' := by
  obtain ⟨endpoint, url, articles, hendpoint, hurl, hvalid, hout, hsummary, -⟩ :=
    run_fetchNews_eq_ok.1 hrun
  exact ⟨_, run_fetchNews_eq_ok.2 ⟨endpoint, url, articles, hendpoint, hurl, hvalid, hout,
    hsummary, rfl⟩, Cluster.reads_logged rfl _ c₁⟩

/-! ## Owners -/

theorem OwnedIn.congr {ns uid : String} {names : List String} {s s' s'' : Store}
    (h : OwnedIn ns uid names s s')
    (hsame : ∀ own, s''.find? ⟨.feeds, ns, own⟩ = s'.find? ⟨.feeds, ns, own⟩) :
    OwnedIn ns uid names s s'' where
  missing own hnone := (hsame own).trans (h.missing own hnone)
  stored {own x} hx := by
    rw [hsame]
    exact h.stored hx

/-- A feed after a query has taken or given it up needs no further change. -/
theorem FeedAfter.settled {uid : String} {names : List String} {f f' : Feed}
    (h : FeedAfter uid names f f') : isWanted names f' = isOwnedBy f' uid := by
  have hspec : f'.spec = f.spec := by rw [h.rest]
  rw [Bool.eq_iff_iff, isWanted_iff, isOwnedBy_iff, h.owned, hspec]

/-- After a query has taken its feeds, each feed that is left can be read and needs no further
change. -/
theorem OwnedIn.settled {ns uid own : String} {names : List String} {s s' : Store} {x' : Json}
    (h : OwnedIn ns uid names s s') (hx' : s'.find? ⟨.feeds, ns, own⟩ = some x') :
    ∃ f', decodeFeed x' = some f' ∧ isWanted names f' = isOwnedBy f' uid := by
  cases hx : s.find? ⟨.feeds, ns, own⟩ with
  | none =>
    rw [h.missing own hx] at hx'
    cases hx'
  | some x =>
    obtain ⟨f, -, ⟨x'', f', hx'', hd', hafter⟩ | ⟨hgone, -⟩⟩ := h.stored hx
    · cases hx'.symm.trans hx''
      exact ⟨f', hd', hafter.settled⟩
    · rw [hgone] at hx'
      cases hx'

theorem exists_mapM_eq_some {α β : Type} {f : α → Option β} {xs : List α}
    (h : ∀ x ∈ xs, ∃ y, f x = some y) : ∃ ys, xs.mapM f = some ys := by
  induction xs with
  | nil => exact ⟨[], rfl⟩
  | cons x rest ih =>
    obtain ⟨⟨y, hy⟩, hrest⟩ := List.forall_mem_cons.1 h
    obtain ⟨ys, hys⟩ := ih hrest
    exact ⟨y :: ys, by simp [List.mapM_cons, hy, hys]⟩

/-- After a query has taken its feeds they can be listed, and no change of owners is planned. -/
theorem OwnedIn.planOwnerChanges_eq_nil {ns uid : String} {names : List String} {s s' : Store}
    (h : OwnedIn ns uid names s s') (hd : (s'.objects.map Prod.fst).Nodup) :
    ∃ feeds, (s'.select .feeds (some ns) none).mapM decodeFeed = some feeds ∧
      ∀ owner : OwnerReference, owner.uid = uid → planOwnerChanges feeds owner names = [] := by
  have hstored {x' : Json} (hx' : x' ∈ s'.select .feeds (some ns) none) :
      ∃ f', decodeFeed x' = some f' ∧ isWanted names f' = isOwnedBy f' uid := by
    rw [Store.select_namespace, List.mem_map] at hx'
    obtain ⟨⟨⟨collection, ns', own⟩, x⟩, he, rfl⟩ := hx'
    obtain ⟨hfind, rfl, rfl⟩ := (Store.mem_entriesIn hd).1 he
    exact h.settled hfind
  obtain ⟨feeds, hfeeds⟩ := exists_mapM_eq_some fun x' hx' =>
    (hstored hx').imp fun f' hf' => hf'.1
  refine ⟨feeds, hfeeds, fun owner howner => List.filterMap_eq_nil_iff.2 fun f' hf' => ?_⟩
  obtain ⟨x', hx', hd'⟩ := (mem_of_mapM hfeeds).2 f' hf'
  obtain ⟨f'', hd'', hsettled⟩ := hstored hx'
  cases hd'.symm.trans hd''
  rw [ownerChange?_eq_none_iff, howner]
  exact hsettled

theorem mem_storedFeeds {ns : String} {s : Store} (hd : (s.objects.map Prod.fst).Nodup)
    {f : Feed} : f ∈ storedFeeds ns s ↔
      ∃ own x, s.find? ⟨.feeds, ns, own⟩ = some x ∧ decodeFeed x = some f := by
  unfold storedFeeds
  rw [List.mem_filterMap]
  constructor
  · rintro ⟨x, hx, hf⟩
    rw [Store.select_namespace, List.mem_map] at hx
    obtain ⟨⟨⟨collection, ns', own⟩, x⟩, he, rfl⟩ := hx
    obtain ⟨hfind, rfl, rfl⟩ := (Store.mem_entriesIn hd).1 he
    exact ⟨own, x, hfind, hf⟩
  · rintro ⟨own, x, hfind, hf⟩
    refine ⟨x, ?_, hf⟩
    rw [Store.select_namespace, List.mem_map]
    exact ⟨(⟨.feeds, ns, own⟩, x), (Store.mem_entriesIn hd).2 ⟨hfind, rfl, rfl⟩, rfl⟩

/-- As long as no feed is released, taking feeds leaves their names known. -/
theorem OwnedIn.known {ns uid : String} {names : List String} {s s' : Store}
    (h : OwnedIn ns uid names s s') (hd : (s.objects.map Prod.fst).Nodup)
    (hd' : (s'.objects.map Prod.fst).Nodup)
    (hkept : ∀ own x, s.find? ⟨.feeds, ns, own⟩ = some x → Store.isReleased x = false)
    {n : String} (hn : n ∈ feedNames (storedFeeds ns s)) : n ∈ feedNames (storedFeeds ns s') := by
  obtain ⟨f, hf, rfl⟩ := List.mem_map.1 hn
  obtain ⟨own, x, hx, hdx⟩ := (mem_storedFeeds hd).1 hf
  obtain ⟨f₀, hdx₀, ⟨x', f', hx', hdx', hafter⟩ | ⟨-, hreleased⟩⟩ := h.stored hx
  · cases hdx.symm.trans hdx₀
    have hspec : f'.spec = f.spec := by rw [hafter.rest]
    exact List.mem_map.2 ⟨f', (mem_storedFeeds hd').2 ⟨own, x', hx', hdx'⟩, by rw [hspec]⟩
  · rw [hkept own x hx] at hreleased
    cases hreleased

/-! ## Statuses -/

theorem articlesCount_of_run_fetchNews {σ : Type} {env : Environment σ} {s s' : σ} {op : Operator}
    {spec : HotNewsSpec} {summary : NewsSummary}
    (h : (fetchNews op spec).run env s = (.ok summary, s')) :
    -0x80000000 ≤ summary.articlesCount ∧ summary.articlesCount ≤ 0x7FFFFFFF := by
  obtain ⟨_, url, articles, -, -, -, -, rfl, -⟩ := run_fetchNews_eq_ok.1 h
  exact articlesCount_summarize spec url.text articles

section

variable {c c' : Cluster} {ask : AggregatorRequest → Cluster → Reply × Cluster}
  {timeText : Nat → String} {outcome : Except Failure NewsSummary} {h : HotNews}

theorem run_recordHotNewsOutcome_eq :
    (recordHotNewsOutcome h outcome).run (Cluster.environmentWith ask timeText) c =
      (updateStatus h h.status (hotNewsStatusAfter h outcome (timeText c.readings))
        HotNewsStatus.toJson).run (Cluster.environmentWith ask timeText)
          { c with readings := c.readings + 1 } := rfl

/-- An outcome that the status shows is not recorded. -/
theorem run_recordHotNewsOutcome_of_reported
    (hstatus : h.status = some (hotNewsStatusAfter h outcome (timeText c.readings))) :
    (recordHotNewsOutcome h outcome).run (Cluster.environmentWith ask timeText) c =
      (.ok (), { c with readings := c.readings + 1 }) := by
  rw [run_recordHotNewsOutcome_eq]
  unfold updateStatus
  rw [if_pos hstatus]
  rfl

end

/-! ## After a success -/

/-- A query in use that has nothing to write: what its groups resolved to before is what it names,
its feeds are taken, and its status shows what it will be answered. -/
structure Settled (answer : AggregatorRequest → Reply) (timeText : Nat → String) (op : Operator)
    (ns name uid : String) (resolved : List String) (summary : NewsSummary) (before : Store)
    (c : Cluster) (h : HotNews) : Prop where
  faults : c.faults = []
  wellFormed : c.store.WellFormed
  addressable : (ApiRequest.get .hotNews ns name).invalid? = none
  listable : (ApiRequest.list .feeds (some ns) none).invalid? = none
  stored : Stored c.store ⟨.hotNews, ns, name⟩ h
  uid_eq : h.metadata.uid = some uid
  adopted : h.metadata.hasFinalizer hotNewsFinalizer = true
  resolves : ∃ h₀ c₁ c₂, c₁.faults = [] ∧ h.spec.feedGroups = h₀.spec.feedGroups ∧
    h.metadata.nsName = h₀.metadata.nsName ∧
    c.store.find? ⟨.configMaps, h₀.metadata.nsName, op.settings.configMapName⟩ =
      c₁.store.find? ⟨.configMaps, h₀.metadata.nsName, op.settings.configMapName⟩ ∧
    (resolvedNames op h₀ (storedFeeds ns before)).run
      (Cluster.environmentWith (Cluster.answering answer) timeText) c₁ = (.ok resolved, c₂)
  named : resolved = [] ∨ resolved = h.spec.feedsName
  fetches : ∀ c₁, ∃ c₁', (fetchNews op h.spec).run
    (Cluster.environmentWith (Cluster.answering answer) timeText) c₁ = (.ok summary, c₁') ∧
    c₁.Reads c₁'
  owned : OwnedIn ns uid h.spec.feedsName before c.store
  shown : ∀ now, h.status = some (hotNewsStatusAfter h (.ok summary) now)

section

variable {answer : AggregatorRequest → Reply} {timeText : Nat → String} {op : Operator}
  {ns name uid : String} {before : Store} {c c' : Cluster} {h : HotNews}

/-- A refresh of a query that has nothing to write patches nothing. -/
theorem Settled.run_refresh {resolved : List String} {summary : NewsSummary} {c₁ : Cluster}
    (hs : Settled answer timeText op ns name uid resolved summary before c h)
    (hknown : ∀ n ∈ resolved, n ∈ feedNames (storedFeeds ns c.store)) (hc : c.Reads c₁) :
    ∃ c', (refresh op h).run (Cluster.environmentWith (Cluster.answering answer) timeText) c₁ =
      (.ok summary, c') ∧ c₁.Reads c' := by
  obtain ⟨feeds, hfeeds, hplan⟩ := hs.owned.planOwnerChanges_eq_nil hs.wellFormed.distinct
  have hselect : (c₁.store.select .feeds (some ns) none).mapM decodeFeed = some feeds := by
    rw [hc.store, hfeeds]
  obtain ⟨c₂, hlist, hc₂⟩ := Program.run_listObjects_of_stored (α := Feed)
    (hc.faults.trans hs.faults) hs.listable hselect
  have hc' := hc.trans hc₂
  rw [storedFeeds_of_mapM hfeeds] at hknown
  obtain ⟨h₀, c₀, _, hf₀, hgroups, hns, hmap, hresolved⟩ := hs.resolves
  rw [← hc'.store] at hmap
  obtain ⟨c₃, hresolve, hc₃⟩ := run_resolvedNames_again hf₀ (hc'.faults.trans hs.faults) hgroups
    hns hmap hknown hresolved
  obtain ⟨c₄, hfetch, hc₄⟩ := hs.fetches c₃
  refine ⟨c₄, ?_, hc₂.trans (hc₃.trans hc₄)⟩
  unfold refresh
  simp only [hs.stored.nsName]
  refine Program.run_bind_eq_ok.2 ⟨feeds, c₂, Program.run_within_eq_ok.2 hlist, ?_⟩
  refine Program.run_bind_eq_ok.2
    ⟨h.spec, c₃, run_effectiveSpec_of_resolved hresolve hs.named, ?_⟩
  refine Program.run_bind_eq_ok.2 ⟨summary, c₄, hfetch, ?_⟩
  simp only [ownerReference?, hs.uid_eq, Option.map_some]
  rw [hplan _ rfl]
  rfl

/-- A reconcile of a query that has nothing to write patches nothing. -/
theorem Settled.run_again {resolved : List String} {summary : NewsSummary}
    (hs : Settled answer timeText op ns name uid resolved summary before c h)
    (hknown : ∀ n ∈ resolved, n ∈ feedNames (storedFeeds ns c.store)) :
    ∃ c', (reconcileHotNews op ns name).run
        (Cluster.environmentWith (Cluster.answering answer) timeText) c =
          (.ok (.requeue op.settings.hotNewsRefresh), c') ∧ c.Reads c' := by
  obtain ⟨x, hx, -, -, hd⟩ := hs.stored.found
  let c₁ := c.logged (.api (.get .hotNews ns name)) (c.store.answer (.get .hotNews ns name)).1
  have hget : (Program.getObject? HotNews ns name).run
      (Cluster.environmentWith (Cluster.answering answer) timeText) c = (.ok (some h), c₁) :=
    Program.run_getObject?_of_stored hs.faults hs.addressable hx hd
  have hc₁ : c.Reads c₁ := Cluster.reads_logged rfl _ c
  obtain ⟨c₂, hrefresh, hc₂⟩ := hs.run_refresh hknown hc₁
  have hlife : Lifecycle.of h.metadata hotNewsFinalizer = .active := by
    simp [Lifecycle.of, hs.stored.active]
  let c₃ : Cluster := { c₂ with readings := c₂.readings + 1 }
  have hrecord : (recordHotNewsOutcome h (.ok summary)).run
      (Cluster.environmentWith (Cluster.answering answer) timeText) c₂ = (.ok (), c₃) :=
    run_recordHotNewsOutcome_of_reported (hs.shown _)
  have hc₃ : c₂.Reads c₃ := ⟨rfl, rfl, .of_log_eq rfl⟩
  refine ⟨c₃, ?_, hc₁.trans (hc₂.trans hc₃)⟩
  refine Program.run_bind_eq_ok.2 ⟨some h, c₁, Program.run_within_eq_ok.2 hget, ?_⟩
  simp only [hlife]
  refine Program.run_bind_eq_ok.2 ⟨h, c₁, ?_, ?_⟩
  · rw [ensureFinalizer_of_has hs.adopted]
    rfl
  refine Program.run_bind_eq_ok.2 ⟨.ok summary, c₂, Program.run_attempt_eq_ok.2 hrefresh, ?_⟩
  exact Program.run_bind_eq_ok.2 ⟨(), c₃, hrecord, Program.run_pure_eq_ok.2 ⟨rfl, rfl⟩⟩

/-- A query in use of which a reconcile ended well can be addressed. -/
theorem Stored.valid_of_run_reconcileHotNews {action : Action} (hf : c.faults = [])
    (hs : Stored c.store ⟨.hotNews, ns, name⟩ h)
    (hrun : (reconcileHotNews op ns name).run
      (Cluster.environmentWith (Cluster.answering answer) timeText) c = (.ok action, c')) :
    (ApiRequest.get .hotNews ns name).invalid? = none := by
  obtain ⟨found, c₁, hget, -⟩ := Program.run_bind_eq_ok.1 hrun
  obtain ⟨-, -, hvalid⟩ := hs.run_getObject? hf (Program.run_within_eq_ok.1 hget)
  exact hvalid

/-- A refresh that ended well has listed the feeds and resolved the groups among them. -/
theorem run_refresh_resolved {summary : NewsSummary} (hf : c.faults = [])
    (hs : Stored c.store ⟨.hotNews, ns, name⟩ h)
    (hrun : (refresh op h).run
      (Cluster.environmentWith (Cluster.answering answer) timeText) c = (.ok summary, c')) :
    (ApiRequest.list .feeds (some ns) none).invalid? = none ∧ ∃ c₁ c₂, c.Follows c.store c₁ ∧
      (resolvedNames op h (storedFeeds ns c.store)).run
        (Cluster.environmentWith (Cluster.answering answer) timeText) c₁ =
          (.ok (resolvedIn op h.spec.feedGroups ns (feedNames (storedFeeds ns c.store)) c.store),
            c₂) := by
  unfold refresh at hrun
  simp only [hs.nsName] at hrun
  obtain ⟨feeds, c₁, hlist, hrun⟩ := Program.run_bind_eq_ok.1 hrun
  replace hlist := Program.run_within_eq_ok.1 hlist
  obtain ⟨hfeeds, hc₁⟩ := Program.run_listObjects hf hlist
  obtain ⟨spec, c₂, hspec, -⟩ := Program.run_bind_eq_ok.1 hrun
  obtain ⟨resolved, c₃, hresolved, -⟩ := Program.run_bind_eq_ok.1 hspec
  have hs₁ : Stored c₁.store ⟨.hotNews, ns, name⟩ h := hc₁.store.symm ▸ hs
  obtain ⟨rfl, -⟩ := run_resolvedNames (hc₁.faults.trans hf) hs₁ hresolved
  rw [hc₁.store] at hresolved
  rw [storedFeeds_of_mapM hfeeds]
  exact ⟨(Program.run_listObjects_eq_ok.1 hlist).1, c₁, c₃, hc₁, hresolved⟩

/-- A reconcile of a query in use that ended well leaves nothing to write. -/
theorem settled_of_run_reconcileHotNews {action : Action} (hw : c.store.WellFormed)
    (hf : c.faults = []) (hs : Stored c.store ⟨.hotNews, ns, name⟩ h)
    (huid : h.metadata.uid = some uid)
    (hrun : (reconcileHotNews op ns name).run
      (Cluster.environmentWith (Cluster.answering answer) timeText) c = (.ok action, c')) :
    action = .requeue op.settings.hotNewsRefresh ∧ ∃ h' summary,
      Settled answer timeText op ns name uid
        (resolvedIn op h.spec.feedGroups ns (feedNames (storedFeeds ns c.store)) c.store)
        summary c.store c' h' := by
  have hask := Cluster.isOutside_answering answer
  have htended := (sends_reconcileHotNews op ns name).tended hask hf hw hrun
  obtain ⟨rfl, c₁, h₁, c₂, summary, c₃, hc₁, hensure, hrefresh, hrecord⟩ :=
    run_reconcileHotNews_active hf hs hrun
  obtain ⟨hs₂, hchange, hc₂, finalizers, version, hfinalizers, hh₁⟩ :=
    run_ensureFinalizer (hc₁.faults.trans hf) (hc₁.store.symm ▸ hs) hensure
  rw [hc₁.store] at hchange
  have hf₂ : c₂.faults = [] := (hc₁.trans hc₂).faults.trans hf
  have hgroups : h₁.spec.feedGroups = h.spec.feedGroups := by rw [hh₁]
  have huid₁ : h₁.metadata.uid = some uid := by rw [hh₁]; exact huid
  have hadopted : h₁.metadata.hasFinalizer hotNewsFinalizer = true :=
    hasFinalizer_of_withFinalizer (by rw [hh₁]; exact hfinalizers)
  obtain ⟨hlist, c₄, c₅, hc₄, hresolve⟩ := run_refresh_resolved hf₂ hs₂ hrefresh
  rw [storedFeeds_congr hchange, resolvedIn_congr hchange, hgroups] at hresolve
  obtain ⟨spec, version', c₆, c₇, hspec, -, hfetch, hs₃, hf₃, -, hothers, howned⟩ :=
    run_refresh_fetched hask hw hf₂ hs₂ hchange hrefresh
  obtain ⟨hlast, version'', hs₄⟩ := run_recordHotNewsOutcome hf₃ hs₃ rfl rfl rfl
    (articlesCount_of_run_fetchNews hfetch) hrecord
  refine ⟨rfl, _, summary, {
    faults := htended.faults
    wellFormed := htended.wellFormed
    addressable := hs.valid_of_run_reconcileHotNews hf hrun
    listable := hlist
    stored := hs₄
    uid_eq := huid₁
    adopted := hadopted
    resolves := ⟨h₁, c₄, c₅, hc₄.faults.trans hf₂, by rw [hspec], rfl, ?_, hresolve⟩
    named := ?_
    fetches := run_fetchNews_again hfetch
    owned := (howned uid huid₁).congr fun own => hlast.others _ (by simp)
    shown := fun now => hotNewsStatusAfter_again (h := h₁) (.refl _) rfl rfl }⟩
  · -- no write of the reconcile is to the config map
    rw [hs₂.nsName, hlast.others _ (by simp), hothers _ (by simp) (by simp), hc₄.store,
      hchange.others _ (by simp)]
  · have hnames : spec.feedsName = effectiveNames op h₁ ns (feedNames (storedFeeds ns c.store))
        c.store := by rw [hspec]; rfl
    rw [← hgroups]
    exact hnames ▸ resolvedIn_eq_nil_or

/-- If a reconcile of a query that has nothing to write ends well, the names that its groups
resolve to are known. -/
theorem Settled.known {resolved : List String} {summary : NewsSummary} {action : Action}
    (hs : Settled answer timeText op ns name uid resolved summary before c h)
    (hrun : (reconcileHotNews op ns name).run
      (Cluster.environmentWith (Cluster.answering answer) timeText) c = (.ok action, c'))
    {n : String} (hn : n ∈ resolved) : n ∈ feedNames (storedFeeds ns c.store) := by
  obtain ⟨-, c₁, h₁, c₂, _, c₃, hc₁, hensure, hrefresh, -⟩ :=
    run_reconcileHotNews_active hs.faults hs.stored hrun
  rw [ensureFinalizer_of_has hs.adopted] at hensure
  obtain ⟨rfl, rfl⟩ := Program.run_pure_eq_ok.1 hensure
  have hf₁ := hc₁.faults.trans hs.faults
  obtain ⟨-, c₄, c₅, hc₄, hresolve⟩ :=
    run_refresh_resolved hf₁ (hc₁.store.symm ▸ hs.stored) hrefresh
  obtain ⟨h₀, c₀, _, hf₀, hgroups, hns, hmap, hresolved⟩ := hs.resolves
  rw [← hc₁.store, ← hc₄.store] at hmap
  rw [← hc₁.store]
  exact known_of_run_resolvedNames hf₀ (hc₄.faults.trans hf₁) hgroups hns hmap hresolved hresolve hn

/-- As long as no feed was released, the names that the groups of a query resolved to are known. -/
theorem Settled.known_of_kept {resolved : List String} {summary : NewsSummary}
    (hs : Settled answer timeText op ns name uid resolved summary before c h)
    (hd : (before.objects.map Prod.fst).Nodup)
    (hkept : ∀ own x, before.find? ⟨.feeds, ns, own⟩ = some x → Store.isReleased x = false)
    {n : String} (hn : n ∈ resolved) : n ∈ feedNames (storedFeeds ns c.store) := by
  obtain ⟨h₀, c₀, _, hf₀, -, -, -, hresolved⟩ := hs.resolves
  have hknown : n ∈ feedNames (storedFeeds ns before) :=
    known_of_run_resolvedNames hf₀ hf₀ rfl rfl rfl hresolved hresolved hn
  exact hs.owned.known hd hs.wellFormed.distinct hkept hknown

/-- The reconcile of a query after one that ended well patches nothing and ends well too, unless
its groups resolve to a name of which no feed is left. -/
theorem run_reconcileHotNews_again {action : Action} (hw : c.store.WellFormed)
    (hf : c.faults = []) (hs : Stored c.store ⟨.hotNews, ns, name⟩ h)
    (huid : h.metadata.uid = some uid)
    (hrun : (reconcileHotNews op ns name).run
      (Cluster.environmentWith (Cluster.answering answer) timeText) c = (.ok action, c')) :
    let known := ∀ n ∈ resolvedIn op h.spec.feedGroups ns (feedNames (storedFeeds ns c.store))
      c.store, n ∈ feedNames (storedFeeds ns c'.store)
    ∃ outcome c'', (reconcileHotNews op ns name).run
        (Cluster.environmentWith (Cluster.answering answer) timeText) c' = (outcome, c'') ∧
      (known → outcome = .ok action ∧ c'.Reads c'') ∧
      (¬ known → ∃ failure, outcome = .error failure) ∧
      ((∀ own x, c.store.find? ⟨.feeds, ns, own⟩ = some x → Store.isReleased x = false) →
        known) := by
  intro known
  obtain ⟨rfl, h', summary, hsettled⟩ := settled_of_run_reconcileHotNews hw hf hs huid hrun
  have hkept (hall : ∀ own x, c.store.find? ⟨.feeds, ns, own⟩ = some x →
      Store.isReleased x = false) : known := fun n hn => hsettled.known_of_kept hw.distinct hall hn
  by_cases hknown : known
  · obtain ⟨c'', hagain, hreads⟩ := hsettled.run_again hknown
    exact ⟨_, c'', hagain, fun _ => ⟨rfl, hreads⟩, absurd hknown, hkept⟩
  · refine ⟨_, _, rfl, fun h => absurd h hknown, fun _ => ?_, hkept⟩
    -- a run that ended well would have known the names
    cases houtcome : ((reconcileHotNews op ns name).run
      (Cluster.environmentWith (Cluster.answering answer) timeText) c').1 with
    | ok action => exact absurd (fun n hn => hsettled.known (Prod.ext houtcome rfl) hn) hknown
    | error failure => exact ⟨failure, rfl⟩

end

end Newsdesk
