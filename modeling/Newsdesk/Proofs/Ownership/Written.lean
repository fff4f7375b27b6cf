import Mathlib.Data.List.Forall2
import Newsdesk.Proofs.Cluster.Quiet
import Newsdesk.Proofs.HotNews.Written
import Newsdesk.Proofs.Ownership.Plan

/-!
# Owner changes that were written

When the planned changes of the feeds of a namespace have all been written, and nobody else
writes, the query owns exactly the wanted feeds (`FeedAfter`), and nothing else has changed.
-/

namespace Newsdesk

open Json Text

/-! ## Feeds as they are listed -/

/-- What is read from a list is read from its items, one by one. -/
theorem forall₂_of_mapM {α β : Type} {f : α → Option β} {xs : List α} {ys : List β}
    (h : xs.mapM f = some ys) : List.Forall₂ (fun x y => f x = some y) xs ys := by
  induction xs generalizing ys with
  | nil =>
    cases h
    exact .nil
  | cons x rest ih =>
    rw [List.mapM_cons] at h
    obtain ⟨y, hy, h⟩ := Option.bind_eq_some_iff.1 h
    obtain ⟨others, hothers, h⟩ := Option.bind_eq_some_iff.1 h
    cases h
    exact .cons hy (ih hothers)

/-- Objects are listed under their names. -/
theorem map_displayName_of_mapM {Spec Status : Type} {decode : Decoder (CustomObject Spec Status)}
    {entries : List (ObjectKey × Json)} {objects : List (CustomObject Spec Status)}
    (hn : ∀ e ∈ entries, ∀ o, decode e.2 = some o → o.metadata.displayName = e.1.name)
    (h : (entries.map Prod.snd).mapM decode = some objects) :
    objects.map (fun o => o.metadata.displayName) = entries.map (fun e => e.1.name) := by
  have hread := List.forall₂_map_left_iff.1 (forall₂_of_mapM h)
  clear h
  induction hread with
  | nil => rfl
  | @cons e o _ _ ho _ ih =>
    rw [List.map_cons, List.map_cons, hn e List.mem_cons_self o ho,
      ih fun e he => hn e (List.mem_cons_of_mem _ he)]

/-- What is listed is what is stored. -/
theorem mem_of_mapM {α β : Type} {f : α → Option β} {xs : List α} {ys : List β}
    (h : xs.mapM f = some ys) :
    (∀ x ∈ xs, ∃ y ∈ ys, f x = some y) ∧ ∀ y ∈ ys, ∃ x ∈ xs, f x = some y := by
  have hread := forall₂_of_mapM h
  clear h
  induction hread with
  | nil => simp
  | @cons x y _ _ hy _ ih =>
    obtain ⟨h₁, h₂⟩ := ih
    constructor
    · refine List.forall_mem_cons.2 ⟨⟨y, List.mem_cons_self, hy⟩, fun x' hx' => ?_⟩
      obtain ⟨y', hy', hd⟩ := h₁ x' hx'
      exact ⟨y', List.mem_cons_of_mem _ hy', hd⟩
    · refine List.forall_mem_cons.2 ⟨⟨x, List.mem_cons_self, hy⟩, fun y' hy' => ?_⟩
      obtain ⟨x', hx', hd⟩ := h₂ y' hy'
      exact ⟨x', List.mem_cons_of_mem _ hx', hd⟩

/-- A change is planned for a feed under its name. -/
theorem map_feed_planOwnerChanges (feeds : List Feed) (owner : OwnerReference)
    (names : List String) :
    ((planOwnerChanges feeds owner names).map OwnerChange.feed).Sublist
      (feeds.map fun f => f.metadata.displayName) := by
  induction feeds with
  | nil => exact .slnil
  | cons f rest ih =>
    unfold planOwnerChanges at ih ⊢
    cases hc : ownerChange? owner names f with
    | none =>
      rw [List.filterMap_cons_none hc]
      exact ih.cons _
    | some change =>
      rw [List.filterMap_cons_some hc, List.map_cons, List.map_cons, (ownerChange?_cases hc).1]
      exact ih.cons_cons _

/-- The feeds that are listed have different names. -/
theorem Store.WellFormed.nodup_displayName {s : Store} (hw : s.WellFormed) {ns : String}
    {feeds : List Feed} (h : (s.select .feeds (some ns) none).mapM decodeFeed = some feeds) :
    (feeds.map fun f => f.metadata.displayName).Nodup := by
  rw [Store.select_namespace] at h
  have hnames := map_displayName_of_mapM (fun e he f hd =>
    hw.displayName ((Store.mem_entriesIn hw.distinct).1 he).1 hd) h
  rw [hnames]
  exact Store.nodup_names_entriesIn hw.distinct .feeds ns

/-- The feeds that are listed are stored under their names. -/
theorem Store.WellFormed.stored_of_listed {s : Store} (hw : s.WellFormed) {ns : String}
    {feeds : List Feed} (h : (s.select .feeds (some ns) none).mapM decodeFeed = some feeds)
    {f : Feed} (hf : f ∈ feeds) :
    ∃ x, s.find? ⟨.feeds, ns, f.metadata.displayName⟩ = some x ∧ decodeFeed x = some f := by
  rw [Store.select_namespace] at h
  obtain ⟨x, hx, hd⟩ := (mem_of_mapM h).2 f hf
  obtain ⟨⟨⟨collection, ns', own⟩, x⟩, he, rfl⟩ := List.mem_map.1 hx
  obtain ⟨hfind, rfl, rfl⟩ := (Store.mem_entriesIn hw.distinct).1 he
  exact ⟨x, hw.displayName hfind hd ▸ hfind, hd⟩

theorem eq_of_displayName {feeds : List Feed}
    (h : (feeds.map fun f => f.metadata.displayName).Nodup) {f g : Feed} (hf : f ∈ feeds)
    (hg : g ∈ feeds) (he : f.metadata.displayName = g.metadata.displayName) : f = g := by
  induction feeds with
  | nil => cases hf
  | cons first rest ih =>
    rw [List.map_cons, List.nodup_cons] at h
    rcases List.mem_cons.1 hf with rfl | hf' <;> rcases List.mem_cons.1 hg with rfl | hg'
    · rfl
    · exact absurd (List.mem_map.2 ⟨g, hg', he.symm⟩) h.1
    · exact absurd (List.mem_map.2 ⟨f, hf', he⟩) h.1
    · exact ih h.2 hf' hg'

/-! ## Written changes -/

/-- A feed after a query has taken or given it up: the query owns it exactly if it has one of the
names, and nothing else has changed but its version. -/
structure FeedAfter (uid : String) (names : List String) (f f' : Feed) : Prop where
  owned : hasOwner uid f'.metadata.owners ↔ ∃ d ∈ names, trim d = trim f.spec.name
  others : f'.metadata.owners.filter (·.uid ≠ uid) = f.metadata.owners.filter (·.uid ≠ uid)
  rest : f' = { f with metadata := { f.metadata with
    ownerReferences := f'.metadata.ownerReferences
    resourceVersion := f'.metadata.resourceVersion } }

theorem feedAfter_of_none {owner : OwnerReference} {names : List String} {f : Feed}
    (h : ownerChange? owner names f = none) : FeedAfter owner.uid names f f where
  owned := by rw [← isWanted_iff, ownerChange?_eq_none_iff.1 h, isOwnedBy_iff]
  others := rfl
  rest := rfl

theorem feedAfter_of_some {owner : OwnerReference} {names : List String} {f : Feed}
    {change : OwnerChange} (h : ownerChange? owner names f = some change) (version : String) :
    FeedAfter owner.uid names f { f with metadata := { f.metadata with
      ownerReferences := some change.owners
      resourceVersion := some version } } where
  owned := by
    rw [← isWanted_iff, ← hasOwner_of_ownerChange? h]
    rfl
  others := otherOwners_of_ownerChange? h
  rest := rfl

/-- The feeds of a namespace after a query has taken exactly those of some names. None is new, and
one goes only if nothing held up its deletion. -/
structure OwnedIn (ns uid : String) (names : List String) (s s' : Store) : Prop where
  missing : ∀ own, s.find? ⟨.feeds, ns, own⟩ = none → s'.find? ⟨.feeds, ns, own⟩ = none
  stored : ∀ {own x}, s.find? ⟨.feeds, ns, own⟩ = some x → ∃ f, decodeFeed x = some f ∧
    ((∃ x' f', s'.find? ⟨.feeds, ns, own⟩ = some x' ∧ decodeFeed x' = some f' ∧
        FeedAfter uid names f f') ∨
      (s'.find? ⟨.feeds, ns, own⟩ = none ∧ Store.isReleased x = true))

section

variable {c c' : Cluster} {ask : AggregatorRequest → Cluster → Reply × Cluster}
  {timeText : Nat → String} (hf : c.faults = [])
include hf

/-- Changes of different feeds that have all been written. -/
theorem run_writeOwnerChanges {ns : String} {changes : List OwnerChange}
    (hd : (changes.map OwnerChange.feed).Nodup)
    (h : (writeOwnerChanges ns changes).run (Cluster.environmentWith ask timeText) c =
      (.ok (), c')) :
    c'.faults = [] ∧ c'.readings = c.readings ∧
      (∀ key, (∀ change ∈ changes, key ≠ ⟨.feeds, ns, change.feed⟩) →
        c'.store.find? key = c.store.find? key) ∧
      ∀ change ∈ changes, ∃ old version, c.store.find? ⟨.feeds, ns, change.feed⟩ = some old ∧
        c'.store.find? ⟨.feeds, ns, change.feed⟩ =
          if Store.isReleased (written version (ownersPatch change) old) then none
          else some (written version (ownersPatch change) old) := by
  induction changes generalizing c with
  | nil =>
    obtain ⟨-, rfl⟩ := Program.run_pure_eq_ok.1 h
    exact ⟨hf, rfl, fun _ _ => rfl, by simp⟩
  | cons change rest ih =>
    obtain ⟨f, c₁, hpatch, h⟩ := Program.run_bind_eq_ok.1 h
    obtain ⟨old, hold, -, hc⟩ := Program.run_patchObject hf (Program.run_within_eq_ok.1 hpatch)
    rw [List.map_cons, List.nodup_cons] at hd
    obtain ⟨hf', hr', hother, hall⟩ := ih (hc.faults.trans hf) hd.2 h
    have hstore (key : ObjectKey) : c₁.store.find? key =
        if key = ⟨.feeds, ns, change.feed⟩ then
          if Store.isReleased (written c.store.nextVersion (ownersPatch change) old) then none
          else some (written c.store.nextVersion (ownersPatch change) old)
        else c.store.find? key := by
      rw [hc.store]
      exact Store.find?_accept _ _ _ _
    -- the changes that follow are of other feeds
    have hne {other : OwnerChange} (ho : other ∈ rest) :
        (⟨.feeds, ns, other.feed⟩ : ObjectKey) ≠ ⟨.feeds, ns, change.feed⟩ := fun he =>
      hd.1 (List.mem_map.2 ⟨other, ho, by injection he⟩)
    refine ⟨hf', hr'.trans hc.readings, fun key hk => ?_, fun other ho => ?_⟩
    · rw [hother key fun other ho => hk other (List.mem_cons_of_mem _ ho), hstore,
        if_neg (hk change List.mem_cons_self)]
    · rcases List.mem_cons.1 ho with rfl | ho
      · refine ⟨old, c.store.nextVersion, hold, ?_⟩
        rw [hother _ fun later hl he => hne hl he.symm, hstore, if_pos rfl]
      · obtain ⟨old', version, hold', hnew⟩ := hall other ho
        rw [hstore, if_neg (hne ho)] at hold'
        exact ⟨old', version, hold', hnew⟩

omit hf in
theorem isReleased_written_owners (version : String) (change : OwnerChange) (x : Json) :
    Store.isReleased (written version (ownersPatch change) x) = Store.isReleased x := by
  have hfield (name : String) (h : name ≠ "resourceVersion") (h' : name ≠ "ownerReferences") :
      ((written version (ownersPatch change) x).field "metadata").field name =
        (x.field "metadata").field name := by
    unfold ownersPatch
    rw [Json.field, field?_metadata_written_metadataPatch, if_neg h, if_neg h']
    rfl
  unfold Store.isReleased
  simp only [hfield "deletionTimestamp" (by decide) (by decide),
    hfield "finalizers" (by decide) (by decide)]

omit hf in
/-- A feed whose owners were written reads as before but for its owners and its version. -/
theorem decodeFeed_written_owners {version : String} {change : OwnerChange} {x : Json} {f : Feed}
    (ho : InOrder x) (hobj : ∃ fields, x = .obj fields) (hd : decodeFeed x = some f) :
    decodeFeed (written version (ownersPatch change) x) = some { f with metadata :=
      { f.metadata with
        ownerReferences := some change.owners
        resourceVersion := some version } } :=
  CustomObject.decode_written_metadataPatch ho hobj hd (inOrder_owners _)
    (metadataOf_written_owners ho ((CustomObject.decode_eq_some_iff ho hobj).1 hd).1 _)

/-- When all planned changes have been written, the query owns exactly the wanted feeds of the
namespace, and no other object has changed. -/
theorem run_planOwnerChanges {ns : String} {feeds : List Feed} {owner : OwnerReference}
    {names : List String} {s : Store} (hw : s.WellFormed)
    (hlist : (s.select .feeds (some ns) none).mapM decodeFeed = some feeds)
    (hsame : ∀ own, c.store.find? ⟨.feeds, ns, own⟩ = s.find? ⟨.feeds, ns, own⟩)
    (h : (writeOwnerChanges ns (planOwnerChanges feeds owner names)).run
      (Cluster.environmentWith ask timeText) c = (.ok (), c')) :
    c'.faults = [] ∧ c'.readings = c.readings ∧
      (∀ key, (key.collection = .feeds → key.ns ≠ ns) →
        c'.store.find? key = c.store.find? key) ∧
      OwnedIn ns owner.uid names s c'.store := by
  have hnodup := hw.nodup_displayName hlist
  obtain ⟨hf', hr, hother, hall⟩ := run_writeOwnerChanges hf
    ((map_feed_planOwnerChanges feeds owner names).nodup hnodup) h
  have hplanned {change : OwnerChange} (hc : change ∈ planOwnerChanges feeds owner names) :
      ∃ f ∈ feeds, ownerChange? owner names f = some change ∧
        change.feed = f.metadata.displayName := by
    obtain ⟨f, hm, hc⟩ := List.mem_filterMap.1 hc
    exact ⟨f, hm, hc, (ownerChange?_cases hc).1⟩
  refine ⟨hf', hr, fun key hk => ?_, fun own hnone => ?_, fun {own x} hx => ?_⟩
  · refine hother key fun change _ he => ?_
    rw [he] at hk
    exact hk rfl rfl
  · rw [hother _ fun change hc he => ?_, hsame, hnone]
    obtain ⟨old, -, hold, -⟩ := hall change hc
    rw [← he, hsame, hnone] at hold
    cases hold
  · rw [Store.select_namespace] at hlist
    obtain ⟨f, hm, hd⟩ := (mem_of_mapM hlist).1 x
      (List.mem_map.2 ⟨(⟨.feeds, ns, own⟩, x), (Store.mem_entriesIn hw.distinct).2 ⟨hx, rfl, rfl⟩,
        rfl⟩)
    have hown : f.metadata.displayName = own := hw.displayName hx hd
    refine ⟨f, hd, ?_⟩
    cases hc : ownerChange? owner names f with
    | none =>
      -- no change was planned for this feed, and those of the others leave it alone
      refine .inl ⟨x, f, ?_, hd, feedAfter_of_none hc⟩
      rw [hother _ fun change hmem he => ?_, hsame, hx]
      obtain ⟨g, hg, hplan, hfeed⟩ := hplanned hmem
      have hsame : own = change.feed := by injection he
      obtain rfl := eq_of_displayName hnodup hm hg (hown.trans (hsame.trans hfeed))
      rw [hc] at hplan
      cases hplan
    | some change =>
      have hfeed : change.feed = own := (ownerChange?_cases hc).1.trans hown
      obtain ⟨old, version, hold, hnew⟩ := hall change (List.mem_filterMap.2 ⟨f, hm, hc⟩)
      rw [hfeed] at hold hnew
      rw [hsame, hx] at hold
      cases hold
      rw [isReleased_written_owners] at hnew
      split at hnew
      · rename_i hreleased
        exact .inr ⟨hnew, hreleased⟩
      · exact .inl ⟨_, _, hnew, decodeFeed_written_owners (hw.inOrder hx) (hw.named hx).obj hd,
          feedAfter_of_some hc version⟩

end

end Newsdesk
