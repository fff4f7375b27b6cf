import Newsdesk.Proofs.Cluster.Faults
import Newsdesk.Proofs.HotNews.Reconciled
import Newsdesk.Proofs.Reconcile.Spared
import Newsdesk.Watch.Affected

/-!
# The queries that a change of a feed concerns

A query writes itself into the feeds that it names, and a change of a feed is passed on to the
queries that are written into it. A sync of one query leaves the references of all others
(`SyncedFeed`), so when every query of a namespace has been synced, in whatever order, each feed is
owned by exactly the queries that name it.
-/

namespace Newsdesk

open Text

/-- Each query takes exactly the feeds that it names, one query after the other. -/
def syncAll : List HotNews → Program Unit
  | [] => return ()
  | h :: rest => do
    syncOwners h h.spec.feedsName
    syncAll rest

/-- Whether a query names a feed, blanks around the names aside. -/
def HotNews.names (h : HotNews) (f : Feed) : Bool :=
  h.spec.feedsName.any fun d => trim d = trim f.spec.name

/-! ## Syncs -/

/-- A feed after some queries have been synced. -/
structure SyncedFeed (queries : List HotNews) (f f' : Feed) : Prop where
  spec : f'.spec = f.spec
  owned : ∀ h ∈ queries, ∀ uid, h.metadata.uid = some uid →
    (hasOwner uid f'.metadata.owners ↔ h.names f = true)
  others : ∀ uid, (∀ h ∈ queries, h.metadata.uid ≠ some uid) →
    (hasOwner uid f'.metadata.owners ↔ hasOwner uid f.metadata.owners)

theorem SyncedFeed.refl (f : Feed) : SyncedFeed [] f f :=
  ⟨rfl, fun _ h => absurd h List.not_mem_nil, fun _ _ => Iff.rfl⟩

/-- A sync of one more query, whose identifier no other query has. -/
theorem SyncedFeed.cons {h : HotNews} {rest : List HotNews} {uid : String} {f f₁ f' : Feed}
    (huid : h.metadata.uid = some uid) (hnew : ∀ g ∈ rest, g.metadata.uid ≠ some uid)
    (hfirst : FeedAfter uid h.spec.feedsName f f₁) (hrest : SyncedFeed rest f₁ f') :
    SyncedFeed (h :: rest) f f' := by
  have hspec : f₁.spec = f.spec := by rw [hfirst.rest]
  have hkept {other : String} (hne : other ≠ uid) :
      hasOwner other f₁.metadata.owners ↔ hasOwner other f.metadata.owners := by
    have hothers : otherOwners uid f₁.metadata.owners = otherOwners uid f.metadata.owners :=
      hfirst.others
    rw [← hasOwner_otherOwners hne, hothers, hasOwner_otherOwners hne]
  refine ⟨hrest.spec.trans hspec, fun g hg other hother => ?_, fun other hnone => ?_⟩
  · rcases List.mem_cons.1 hg with rfl | hg
    · -- the later syncs are of queries with other identifiers
      cases huid.symm.trans hother
      rw [hrest.others _ hnew, hfirst.owned]
      simp [HotNews.names]
    · rw [hrest.owned g hg other hother, HotNews.names, HotNews.names, hspec]
  · obtain ⟨hfirst', hrest'⟩ := List.forall_mem_cons.1 hnone
    rw [hrest.others other hrest', hkept]
    rintro rfl
    exact hfirst' huid

section

variable {timeText : Nat → String} {ns : String} {c c' : Cluster} (hf : c.faults.Faulty)
  (hw : c.store.WellFormed)
include hf hw

/-- A sync that ends well leaves every feed of the namespace owned as it is wanted. -/
theorem run_syncOwners {h : HotNews} {uid : String} {desired : List String}
    (huid : h.metadata.uid = some uid) (hns : h.metadata.nsName = ns)
    (hrun : (syncOwners h desired).run (Cluster.environment timeText) c = (.ok (), c')) :
    c'.faults = c.faults ∧ c'.store.WellFormed ∧ OwnedIn ns uid desired c.store c'.store := by
  obtain ⟨hfaults, hquiet⟩ := (strict_syncOwners h desired).run_unfaulted hf hrun
  have hsends : (syncOwners h desired).Sends (·.Spares []) := sends_syncOwners (by simp) h desired
  have ht := hsends.tended Cluster.isOutside_askAggregator (c := { c with faults := [] }) rfl hw
    hquiet
  refine ⟨hfaults, ht.wellFormed, ?_⟩
  obtain ⟨owner, howner, hself⟩ : ∃ owner, ownerReference? h = some owner ∧ owner.uid = uid := by
    simp [ownerReference?, huid]
  unfold syncOwners at hquiet
  simp only [howner, hns] at hquiet
  obtain ⟨feeds, c₁, hlist, hwrite⟩ := Program.run_bind_eq_ok.1 hquiet
  obtain ⟨hread, hc₁⟩ := Program.run_listObjects rfl (Program.run_within_eq_ok.1 hlist)
  have hsame (own : String) :
      c₁.store.find? ⟨.feeds, ns, own⟩ = c.store.find? ⟨.feeds, ns, own⟩ := by
    rw [hc₁.store]
  obtain ⟨-, -, -, howned⟩ := run_planOwnerChanges hc₁.faults hw hread hsame hwrite
  exact hself ▸ howned

/-- What is left of the feeds of a namespace when its queries have been synced. -/
theorem run_syncAll {queries : List HotNews} (hns : ∀ h ∈ queries, h.metadata.nsName = ns)
    (huid : ∀ h ∈ queries, h.metadata.uid ≠ none)
    (hdistinct : (queries.map fun h => h.metadata.uid).Nodup)
    (hrun : (syncAll queries).run (Cluster.environment timeText) c = (.ok (), c')) :
    c'.store.WellFormed ∧ ∀ {own x' f'}, c'.store.find? ⟨.feeds, ns, own⟩ = some x' →
      decodeFeed x' = some f' → ∃ x f, c.store.find? ⟨.feeds, ns, own⟩ = some x ∧
        decodeFeed x = some f ∧ SyncedFeed queries f f' := by
  induction queries generalizing c with
  | nil =>
    obtain ⟨-, rfl⟩ := Program.run_pure_eq_ok.1 hrun
    exact ⟨hw, fun hx hd => ⟨_, _, hx, hd, .refl _⟩⟩
  | cons h rest ih =>
    obtain ⟨⟨⟩, c₁, hfirst, hrest⟩ := Program.run_bind_eq_ok.1 hrun
    obtain ⟨hns₁, hns'⟩ := List.forall_mem_cons.1 hns
    obtain ⟨huid₁, huid'⟩ := List.forall_mem_cons.1 huid
    obtain ⟨uid, huid₁⟩ := Option.ne_none_iff_exists'.1 huid₁
    rw [List.map_cons, List.nodup_cons] at hdistinct
    obtain ⟨hfaults, hw₁, howned⟩ := run_syncOwners hf hw huid₁ hns₁ hfirst
    obtain ⟨hw', hsynced⟩ := ih (hfaults ▸ hf) hw₁ hns' huid' hdistinct.2 hrest
    have hnew : ∀ g ∈ rest, g.metadata.uid ≠ some uid := by
      intro g hg he
      exact hdistinct.1 (List.mem_map.2 ⟨g, hg, he.trans huid₁.symm⟩)
    refine ⟨hw', fun {own x' f'} hx' hd' => ?_⟩
    obtain ⟨x₁, f₁, hx₁, hd₁, hf'⟩ := hsynced hx' hd'
    -- a feed that is there after the first sync was there before
    cases hx : c.store.find? ⟨.feeds, ns, own⟩ with
    | none =>
      rw [howned.missing own hx] at hx₁
      cases hx₁
    | some x =>
      obtain ⟨f, hd, ⟨y, g, hy, hg, hafter⟩ | ⟨hgone, -⟩⟩ := howned.stored hx
      · cases hy.symm.trans hx₁
        cases hg.symm.trans hd₁
        exact ⟨x, f, rfl, hd, hf'.cons huid₁ hnew hafter⟩
      · rw [hgone] at hx₁
        cases hx₁

end

/-! ## Readers -/

theorem ownersOf_of_owned {f : Feed} {queries : List HotNews}
    (h : ∀ h ∈ queries, ∃ uid, h.metadata.uid = some uid ∧
      (hasOwner uid f.metadata.owners ↔ h.names f = true)) :
    ownersOf f queries = (queries.filter fun h => h.names f).map HotNews.ref := by
  refine congrArg (List.map HotNews.ref) (List.filter_congr fun g hg => ?_)
  obtain ⟨uid, huid, howned⟩ := h g hg
  rw [huid]
  exact Bool.eq_iff_iff.2 (isOwnedBy_iff.trans howned)

/-- A feed without owners is owned by none of the queries. -/
theorem ownersOf_of_ownerless {f : Feed} (h : f.metadata.owners = []) (queries : List HotNews) :
    ownersOf f queries = [] := by
  unfold ownersOf
  rw [h, List.filter_eq_nil_iff.2, List.map_nil]
  intro g _
  cases g.metadata.uid <;> simp

/-- When the queries are listed, a change of a feed concerns those that own it. -/
theorem fst_run_affectedByFeed {σ : Type} {env : Environment σ} {s : σ} {f : Feed}
    {queries : List HotNews}
    (hlist : ((Program.listObjects HotNews f.metadata.nsName).run env s).1 = .ok queries) :
    ((affectedByFeed f).run env s).1 = .ok (ownersOf f queries) := by
  unfold affectedByFeed
  split
  · rename_i hnone
    rw [ownersOf_of_ownerless hnone]
    rfl
  · obtain ⟨s', hlist⟩ : ∃ s', (Program.listObjects HotNews f.metadata.nsName).run env s =
        (.ok queries, s') := ⟨_, Program.eq_ok_of_toOption (a := queries) (by rw [hlist]; rfl)⟩
    have hqueries : (listQueries f.metadata.nsName).run env s = (.ok queries, s') :=
      Program.run_bind_eq_ok.2 ⟨_, s', Program.run_attempt_eq_ok.2 hlist, rfl⟩
    exact congrArg Prod.fst (Program.run_bind_eq_ok.2 ⟨queries, s', hqueries, rfl⟩)

/-! ## Exactness -/

/-- A change of a feed reaches the queries that name it, and no others. -/
structure Reaches (f : Feed) (queries : List HotNews) : Prop where
  /-- In the order of the queries, and each of them once. -/
  owners : ownersOf f queries = (queries.filter fun h => h.names f).map HotNews.ref
  nodup : (queries.map HotNews.ref).Nodup → (ownersOf f queries).Nodup
  changed : ∀ {σ : Type} {env : Environment σ} {s : σ},
    ((Program.listObjects HotNews f.metadata.nsName).run env s).1 = .ok queries →
    ((affectedByFeed f).run env s).1 =
      .ok ((queries.filter fun h => h.names f).map HotNews.ref)

/-- When each query of a namespace has been synced once, in any order, a change of a feed reaches
exactly the queries that name it, whoever owned it before. -/
theorem syncAll_reaches {timeText : Nat → String} {ns : String} {c c' : Cluster}
    {queries order : List HotNews} (hf : c.faults.Faulty) (hw : c.store.WellFormed)
    (hns : ∀ h ∈ queries, h.metadata.nsName = ns) (huid : ∀ h ∈ queries, h.metadata.uid ≠ none)
    (hdistinct : (queries.map fun h => h.metadata.uid).Nodup) (horder : order.Perm queries)
    (hrun : (syncAll order).run (Cluster.environment timeText) c = (.ok (), c'))
    {own : String} {x : Json} {f : Feed} (hx : c'.store.find? ⟨.feeds, ns, own⟩ = some x)
    (hd : decodeFeed x = some f) : Reaches f queries := by
  obtain ⟨-, hsynced⟩ := run_syncAll hf hw (fun h hm => hns h (horder.mem_iff.1 hm))
    (fun h hm => huid h (horder.mem_iff.1 hm)) ((horder.map _).nodup_iff.2 hdistinct) hrun
  obtain ⟨-, f₀, -, -, hf'⟩ := hsynced hx hd
  have howners : ownersOf f queries = (queries.filter fun h => h.names f).map HotNews.ref := by
    refine ownersOf_of_owned fun h hm => ?_
    obtain ⟨uid, huid⟩ := Option.ne_none_iff_exists'.1 (huid h hm)
    refine ⟨uid, huid, ?_⟩
    rw [hf'.owned h (horder.mem_iff.2 hm) uid huid, HotNews.names, HotNews.names, hf'.spec]
  refine ⟨howners, fun hnodup => ?_, fun hlist => ?_⟩
  · rw [howners]
    exact (List.filter_sublist.map _).nodup hnodup
  · rw [← howners]
    exact fst_run_affectedByFeed hlist

namespace SharedFeeds

open GroupedQuery

def named (name uid : String) (feeds : List String) : HotNews :=
  ⟨{ Metadata.empty with name := some name, ns := some "news", uid := some uid },
    ⟨["election"], none, none, feeds, [], ⟨1⟩⟩, none⟩

def top : HotNews := named "top" "u" ["\u2003bbc"]

def low : HotNews := named "low" "v" ["cnn"]

/-- One feed has an owner that does not name it any more, and one that is no query. -/
def cluster : Cluster := .start ⟨[
  (⟨.hotNews, "news", "top"⟩, hotNewsToJson top),
  (⟨.hotNews, "news", "low"⟩, hotNewsToJson low),
  (⟨.feeds, "news", "bbc"⟩, feedToJson (feed "bbc" [owner "v", owner "z"])),
  (⟨.feeds, "news", "cnn"⟩, feedToJson (feed "cnn" []))], 0⟩
  [⟨some "GET", none, .dropped, none⟩] []

def synced : Except Failure Unit × Cluster :=
  (syncAll [low, top]).run (Cluster.environment fun _ => "now") cluster

end SharedFeeds

open SharedFeeds in
theorem sharedFeeds_reached : cluster.faults.Faulty ∧ cluster.store.WellFormed ∧
    synced.1 = .ok () ∧ ∃ x f, synced.2.store.find? ⟨.feeds, "news", "bbc"⟩ = some x ∧
      decodeFeed x = some f ∧ Reaches f [top, low] ∧
      ownersOf f [top, low] = [⟨"top", some "news"⟩] := by
  have hf : cluster.faults.Faulty := fun r hr =>
    ScriptRule.isFault_of_dropped (by rw [List.mem_singleton.1 hr])
  have hw : cluster.store.WellFormed := Store.wellFormed_of_forall (by decide) (by decide +kernel)
  have hrun : synced = (.ok (), synced.2) := Program.eq_ok_of_toOption (by decide +kernel)
  have hstored : ((synced.2.store.find? ⟨.feeds, "news", "bbc"⟩).bind decodeFeed).map
      (fun f => f.spec.name) = some "bbc" := by
    decide +kernel
  obtain ⟨f, hfound, hname⟩ := Option.map_eq_some_iff.1 hstored
  obtain ⟨x, hx, hd⟩ := Option.bind_eq_some_iff.1 hfound
  have hreaches : Reaches f [top, low] := syncAll_reaches hf hw (by decide) (by decide) (by decide)
    (.swap _ _ _) hrun hx hd
  refine ⟨hf, hw, congrArg Prod.fst hrun, x, f, hx, hd, hreaches, ?_⟩
  rw [hreaches.owners]
  simp only [HotNews.names, hname]
  decide +kernel

end Newsdesk
