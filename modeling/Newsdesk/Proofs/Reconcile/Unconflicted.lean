import Newsdesk.Proofs.Cluster.Conflicts
import Newsdesk.Proofs.HotNews.Unrefreshed

/-!
# Reconciles without conflicts

A reconcile makes every patch that names a version from what it was last answered about the object,
and writes to no object in between; so while nobody else writes, none of its patches is a conflict
(`Cluster.Unconflicted`). The feeds of a query are patched once at most, each from the version under
which it was listed (`Cluster.PatchesOnce`).
-/

namespace Newsdesk

open Json

section

variable {ask : AggregatorRequest → Cluster → Reply × Cluster} {timeText : Nat → String}
  {c c' : Cluster}

/-! ## Objects that were read -/

/-- A cluster without faults in which an object is stored as it was read. -/
structure Cluster.Holds {Spec Status : Type} [Resource (CustomObject Spec Status)]
    (ns name : String) (o : CustomObject Spec Status) (c : Cluster) : Prop where
  faults : c.faults = []
  wellFormed : c.store.WellFormed
  found : ∃ x, c.store.find? ⟨Resource.collection (CustomObject Spec Status), ns, name⟩ = some x ∧
    Resource.decode x = some o

section

variable {Spec Status : Type} [Resource (CustomObject Spec Status)] {o : CustomObject Spec Status}
  {ns name : String}

theorem Cluster.holds_of_run_getObject? (hf : c.faults = []) (hw : c.store.WellFormed)
    (hrun : (Program.getObject? (CustomObject Spec Status) ns name).run
      (Cluster.environmentWith ask timeText) c = (.ok (some o), c')) : c'.Holds ns name o := by
  obtain ⟨hfound, hfollows⟩ := Program.run_getObject? hf hrun
  refine ⟨hfollows.faults.trans hf, hfollows.store.symm ▸ hw, ?_⟩
  rw [hfollows.store]
  exact Option.bind_eq_some_iff.1 hfound.symm

/-- An object is still stored as it was read while it is not written to. -/
theorem Cluster.Holds.of_find? (hc : c.Holds ns name o) (hf : c'.faults = [])
    (hw : c'.store.WellFormed)
    (hsame : c'.store.find? ⟨Resource.collection (CustomObject Spec Status), ns, name⟩ =
      c.store.find? ⟨Resource.collection (CustomObject Spec Status), ns, name⟩) :
    c'.Holds ns name o := ⟨hf, hw, hsame ▸ hc.found⟩

theorem run_handleDeletion_eq {σ : Type} {env : Environment σ} {s s' : σ} {finalizer : String}
    {cleanup : Program Unit} {outcome : Except Failure Unit}
    (hrun : (handleDeletion o finalizer cleanup).run env s = (outcome, s')) :
    s' = s ∨ (∃ failure, cleanup.run env s = (.error failure, s')) ∨
      ∃ s₁, cleanup.run env s = (.ok (), s₁) ∧
        (do removeFinalizer o finalizer
            Program.record (.deleted (Resource.collection (CustomObject Spec Status)).kind) :
          Program Unit).run env s₁ = (outcome, s') := by
  unfold handleDeletion at hrun
  split at hrun
  · rcases Program.run_bind_eq hrun with hcleanup | ⟨_, s₁, hcleanup, hrest⟩
    · exact .inr (.inl hcleanup)
    · exact .inr (.inr ⟨s₁, hcleanup, hrest⟩)
  · obtain ⟨-, rfl⟩ := Prod.mk.inj hrun
    exact .inl rfl

variable [CustomKind Spec Status] (hc : c.Holds ns name o)
include hc

theorem Cluster.Holds.name_eq : o.metadata.displayName = name ∧ o.metadata.nsName = ns := by
  obtain ⟨x, hx, hd⟩ := hc.found
  exact hc.wellFormed.name_eq hx hd

/-- A patch made from the version that was read. -/
theorem Cluster.Holds.isCurrent {body : Json}
    (hversion : Store.versionOf body = nullableText o.metadata.resourceVersion) :
    (ApiRequest.patch (Resource.collection (CustomObject Spec Status)) ns name body).IsCurrent
      c.store := by
  obtain ⟨x, hx, hd⟩ := hc.found
  have ho := hc.wellFormed.inOrder hx
  exact ApiRequest.isCurrent_patch hx ho
    ((CustomKind.decode_eq_some_iff ho (hc.wellFormed.named hx).obj).1 hd).1 hversion

theorem unconflicted_of_run_ensureFinalizer {finalizer : String}
    {outcome : Except Failure (CustomObject Spec Status)}
    (hrun : (ensureFinalizer o finalizer).run (Cluster.environmentWith ask timeText) c =
      (outcome, c')) : c.Unconflicted c' := by
  obtain ⟨hname, hns⟩ := hc.name_eq
  unfold ensureFinalizer at hrun
  dsimp only at hrun
  rw [CustomKind.metadata_eq, hns, hname] at hrun
  split at hrun
  · obtain ⟨-, rfl⟩ := Prod.mk.inj hrun
    exact .of_log_eq rfl
  · exact Program.unconflicted_of_run_patchObject hc.faults
      (hc.isCurrent (versionOf_metadataPatch (by decide))) hrun

/-- An object in use that has been given a finalizer is stored as it was answered. -/
theorem Cluster.Holds.of_run_ensureFinalizer (hask : Cluster.IsOutside ask)
    (hactive : o.metadata.isDeleting = false) {finalizer : String} {o₁ : CustomObject Spec Status}
    (hrun : (ensureFinalizer o finalizer).run (Cluster.environmentWith ask timeText) c =
      (.ok o₁, c')) : c'.Holds ns name o₁ := by
  obtain ⟨x, hx, hd⟩ := hc.found
  have hs := hc.wellFormed.stored hx hd hactive
  obtain ⟨hs₁, -⟩ := Stored.run_ensureFinalizer hc.faults hs rfl hrun
  obtain ⟨x₁, hx₁, -, -, hd₁⟩ := hs₁.found
  have hspares : (ensureFinalizer o finalizer).Sends (·.Spares []) :=
    sends_ensureFinalizer (by simp) o _
  obtain ⟨hw₁, -⟩ := hspares.run_spares hask hc.wellFormed hrun
  exact ⟨Program.faults_of_run hask hc.faults hrun, hw₁, x₁, hx₁, hd₁⟩

theorem unconflicted_of_run_removeFinalizer {finalizer : String} {outcome : Except Failure Unit}
    (hrun : (removeFinalizer o finalizer).run (Cluster.environmentWith ask timeText) c =
      (outcome, c')) : c.Unconflicted c' := by
  obtain ⟨hname, hns⟩ := hc.name_eq
  unfold removeFinalizer at hrun
  dsimp only at hrun
  rw [CustomKind.metadata_eq, hns, hname] at hrun
  split at hrun
  · obtain ⟨_, hpatch⟩ := Program.exists_of_run_discarded hrun
    exact Program.unconflicted_of_run_patchObject hc.faults
      (hc.isCurrent (versionOf_metadataPatch (by decide))) hpatch
  · obtain ⟨-, rfl⟩ := Prod.mk.inj hrun
    exact .of_log_eq rfl

/-- What is left to do for an object that is to be deleted after its cleanup. -/
theorem unconflicted_of_run_removal {finalizer : String} {event : Event}
    {outcome : Except Failure Unit}
    (hrun : (do removeFinalizer o finalizer; Program.record event : Program Unit).run
      (Cluster.environmentWith ask timeText) c = (outcome, c')) : c.Unconflicted c' := by
  rcases Program.run_bind_eq hrun with ⟨_, hremove⟩ | ⟨_, c₁, hremove, hrecord⟩
  · exact unconflicted_of_run_removeFinalizer hc hremove
  · obtain ⟨-, rfl⟩ := Prod.mk.inj hrecord
    exact (unconflicted_of_run_removeFinalizer hc hremove).trans (.of_log_eq rfl)

end

/-! ## Feeds -/

section

variable (hask : Cluster.IsOutside ask) {op : Operator} {ns name : String}
include hask

/-- A feed whose source is removed before it goes. -/
theorem unconflicted_of_run_removedFeed {f : Feed} (hc : c.Holds ns name f)
    {outcome : Except Failure Unit}
    (hrun : (handleDeletion f feedFinalizer (removeSource op f)).run
      (Cluster.environmentWith ask timeText) c = (outcome, c')) : c.Unconflicted c' := by
  have hunversioned : (removeSource op f).Sends (·.isVersioned = false) :=
    Program.sends_removeSource fun _ _ => rfl
  have hreads : (removeSource op f).Sends (·.isPatch = false) :=
    Program.sends_removeSource fun _ _ => rfl
  rcases run_handleDeletion_eq hrun with rfl | ⟨_, hcleanup⟩ | ⟨c₁, hcleanup, hrest⟩
  · exact .of_log_eq rfl
  · exact hunversioned.unconflicted hask hc.faults hcleanup
  · -- the aggregator has no part in what is stored, so the version that was read still counts
    obtain ⟨-, hstore⟩ := hreads.run_reads hask hcleanup
    have hc₁ := hc.of_find? (Program.faults_of_run hask hc.faults hcleanup)
      (hstore.symm ▸ hc.wellFormed) (by rw [hstore])
    exact (hunversioned.unconflicted hask hc.faults hcleanup).trans
      (unconflicted_of_run_removal hc₁ hrest)

/-- No patch of a feed's reconcile is a conflict. -/
theorem unconflicted_of_run_reconcileFeed (hf : c.faults = []) (hw : c.store.WellFormed)
    {outcome : Except Failure Action}
    (hrun : (reconcileFeed op ns name).run (Cluster.environmentWith ask timeText) c =
      (outcome, c')) : c.Unconflicted c' := by
  have hlooked : (Program.getObject? Feed ns name).Sends (·.isVersioned = false) :=
    Program.sends_getObject? rfl
  have hfinished (f : Feed) (kind : ConditionKind) (attempt : Except Failure Unit) :
      (finishFeed f kind attempt).Sends (·.isVersioned = false) :=
    Program.sends_finishFeed fun _ => rfl
  have hregistered (f : Feed) : (registerSource op f).Sends (·.isVersioned = false) :=
    Program.sends_registerSource fun _ _ => rfl
  unfold reconcileFeed at hrun
  rcases Program.run_bind_eq hrun with ⟨_, hget⟩ | ⟨found, c₁, hget, hrun⟩
  · obtain ⟨_, hget⟩ := Program.exists_of_run_within hget
    exact hlooked.unconflicted hask hf hget
  have hget := Program.run_within_eq_ok.1 hget
  refine (hlooked.unconflicted hask hf hget).trans ?_
  cases found with
  | none =>
    obtain ⟨-, rfl⟩ := Prod.mk.inj hrun
    exact .of_log_eq rfl
  | some f =>
    have hc₁ := Cluster.holds_of_run_getObject? hf hw hget
    dsimp only at hrun
    cases hlife : Lifecycle.of f.metadata feedFinalizer with
    | gone =>
      rw [hlife] at hrun
      obtain ⟨-, rfl⟩ := Prod.mk.inj hrun
      exact .of_log_eq rfl
    | finalizing =>
      rw [hlife] at hrun
      rcases Program.run_bind_eq hrun with ⟨_, hattempt⟩ | ⟨removed, c₂, hattempt, hrun⟩
      · exact absurd hattempt Program.not_run_attempt_eq_error
      have hremoval := Program.run_attempt_eq_ok.1 hattempt
      refine (unconflicted_of_run_removedFeed hask hc₁ hremoval).trans ?_
      have hf₂ := Program.faults_of_run hask hc₁.faults hremoval
      cases removed with
      | ok done =>
        obtain ⟨-, rfl⟩ := Prod.mk.inj hrun
        exact .of_log_eq rfl
      | error failure => exact (hfinished f _ _).unconflicted hask hf₂ hrun
    | active =>
      rw [hlife] at hrun
      rcases Program.run_bind_eq hrun with ⟨_, hadopt⟩ | ⟨f₁, c₂, hadopt, hrun⟩
      · exact unconflicted_of_run_ensureFinalizer hc₁ hadopt
      refine (unconflicted_of_run_ensureFinalizer hc₁ hadopt).trans ?_
      have hrest := Program.Sends.bind (hregistered f₁).attempt (hfinished f₁ .added)
      exact hrest.unconflicted hask (Program.faults_of_run hask hc₁.faults hadopt) hrun

end

/-! ## Owner changes -/

/-- From one cluster to another without faults, without a conflict and without a patch of a feed. -/
structure Cluster.PassesFeeds (c c' : Cluster) : Prop where
  faults : c'.faults = []
  unconflicted : c.Unconflicted c'
  spares : c.SparesFeeds c'

/-- From one cluster to another without a conflict, by owner changes of different feeds as the only
patches of feeds. -/
structure Cluster.PatchesOnce (ns : String) (c c' : Cluster) : Prop where
  unconflicted : c.Unconflicted c'
  feeds : ∃ changes : List OwnerChange, (changes.map OwnerChange.feed).Nodup ∧
    c.PatchesFeeds (changes.map (ownersRequest ns)) c'

section

variable {c₁ c₂ : Cluster} {ns : String}

theorem Cluster.PassesFeeds.refl (hf : c.faults = []) : c.PassesFeeds c :=
  ⟨hf, .of_log_eq rfl, .refl c⟩

theorem Cluster.PassesFeeds.trans (h : c.PassesFeeds c₁) (h' : c₁.PassesFeeds c') :
    c.PassesFeeds c' :=
  ⟨h'.faults, h.unconflicted.trans h'.unconflicted, h.spares.trans h'.spares⟩

theorem Cluster.PassesFeeds.patchesOnce (h : c.PassesFeeds c') : c.PatchesOnce ns c' :=
  ⟨h.unconflicted, [], List.nodup_nil, h.spares.patchesFeeds⟩

/-- Nothing else that was done concerns the feeds. -/
theorem Cluster.PatchesOnce.between (h : c₁.PatchesOnce ns c₂) (hbefore : c.PassesFeeds c₁)
    (hafter : c₂.PassesFeeds c') : c.PatchesOnce ns c' := by
  obtain ⟨changes, hnodup, hsent⟩ := h.feeds
  refine ⟨(hbefore.unconflicted.trans h.unconflicted).trans hafter.unconflicted,
    changes, hnodup, ?_⟩
  have hall := (hbefore.spares.patchesFeeds.trans hsent).trans hafter.spares.patchesFeeds
  rwa [List.nil_append, List.append_nil] at hall

end

section

variable {ns : String}

/-- A program that names no version and patches no feed. -/
theorem Program.Sends.passesFeeds {α : Type} {p : Program α} (hask : Cluster.IsOutside ask)
    (h : p.Sends fun request => request.isVersioned = false ∧ request.patchesFeed = false)
    (hf : c.faults = []) {outcome : Except Failure α}
    (hrun : p.run (Cluster.environmentWith ask timeText) c = (outcome, c')) :
    c.PassesFeeds c' where
  faults := faults_of_run hask hf hrun
  unconflicted := (h.imp And.left).unconflicted hask hf hrun
  spares := (h.imp And.right).sparesFeeds hask hrun

/-- Changes of different feeds that were made from their stored versions are no conflicts, and those
that are sent are sent in order. -/
theorem patchesFeeds_of_run_current {changes : List OwnerChange} (hf : c.faults = [])
    (hnodup : (changes.map OwnerChange.feed).Nodup)
    (hcurrent : ∀ change ∈ changes,
      (ApiRequest.patch .feeds ns change.feed (ownersPatch change)).IsCurrent c.store)
    {outcome : Except Failure Unit}
    (hrun : (writeOwnerChanges ns changes).run (Cluster.environmentWith ask timeText) c =
      (outcome, c')) :
    c.Unconflicted c' ∧
      ∃ sent : List OwnerChange, sent.Sublist changes ∧
        c.PatchesFeeds (sent.map (ownersRequest ns)) c' := by
  induction changes generalizing c with
  | nil =>
    obtain ⟨-, rfl⟩ := Prod.mk.inj hrun
    exact ⟨.of_log_eq rfl, [], .slnil, [], by simp, rfl⟩
  | cons change rest ih =>
    have hfirst := hcurrent change List.mem_cons_self
    rcases Program.run_bind_eq hrun with ⟨_, hpatch⟩ | ⟨f, c₁, hpatch, hrest⟩
    · obtain ⟨_, hpatch⟩ := Program.exists_of_run_within hpatch
      refine ⟨Program.unconflicted_of_run_patchObject hf hfirst hpatch, ?_⟩
      rcases Program.log_patchObject hpatch with hlog | hlog
      · exact ⟨[], List.nil_sublist _, [], by rw [hlog, List.append_nil], rfl⟩
      · exact ⟨[change], List.cons_sublist_cons.2 (List.nil_sublist _),
          Cluster.patchesFeeds_of_log hlog⟩
    · have hpatch := Program.run_within_eq_ok.1 hpatch
      obtain ⟨old, hold, -, hfollows⟩ := Program.run_patchObject hf hpatch
      rw [List.map_cons, List.nodup_cons] at hnodup
      -- the feeds that are still to be patched are stored as before
      have hothers : ∀ other ∈ rest,
          (ApiRequest.patch .feeds ns other.feed (ownersPatch other)).IsCurrent c₁.store := by
        intro other ho x hx
        have hne : (⟨.feeds, ns, other.feed⟩ : ObjectKey) ≠ ⟨.feeds, ns, change.feed⟩ := by
          intro he
          injection he with _ _ hfeed
          exact hnodup.1 (List.mem_map.2 ⟨other, ho, hfeed⟩)
        rw [hfollows.store] at hx
        exact hcurrent other (List.mem_cons_of_mem _ ho) x
          (((Store.find?_accept _ _ _ _).trans (if_neg hne)).symm.trans hx)
      obtain ⟨hunconflicted, sent, hsub, hsent⟩ :=
        ih (hfollows.faults.trans hf) hnodup.2 hothers hrest
      refine ⟨(Program.unconflicted_of_run_patchObject hf hfirst hpatch).trans hunconflicted,
        change :: sent, hsub.cons_cons change, ?_⟩
      obtain ⟨-, -, rfl⟩ := Program.run_patchObject_eq_ok.1 hpatch
      exact (Cluster.patchesFeeds_of_log (c.log_askApi _)).trans hsent

section

variable {s : Store} {feeds : List Feed} {owner : OwnerReference} {names : List String}
  (hw : s.WellFormed) (hlist : (s.select .feeds (some ns) none).mapM decodeFeed = some feeds)
include hw hlist

/-- Changes that are planned for the listed feeds are made from their stored versions, as long as no
feed is written to. -/
theorem isCurrent_of_planned {s' : Store}
    (hsame : ∀ own, s'.find? ⟨.feeds, ns, own⟩ = s.find? ⟨.feeds, ns, own⟩)
    {change : OwnerChange} (hplanned : change ∈ planOwnerChanges feeds owner names) :
    (ApiRequest.patch .feeds ns change.feed (ownersPatch change)).IsCurrent s' := by
  obtain ⟨f, hf, hchange⟩ := List.mem_filterMap.1 hplanned
  obtain ⟨x, hx, hd⟩ := hw.stored_of_listed hlist hf
  obtain ⟨hfeed, hversion, -⟩ := ownerChange?_cases hchange
  have ho := hw.inOrder hx
  have hm := ((CustomObject.decode_eq_some_iff ho (hw.named hx).obj).1 hd).1
  rw [hfeed]
  refine ApiRequest.isCurrent_patch ((hsame _).trans hx) ho hm ?_
  rw [ownersPatch, versionOf_metadataPatch (by decide), hversion]

theorem patchesOnce_of_run_planned (hf : c.faults = [])
    (hsame : ∀ own, c.store.find? ⟨.feeds, ns, own⟩ = s.find? ⟨.feeds, ns, own⟩)
    {outcome : Except Failure Unit}
    (hrun : (writeOwnerChanges ns (planOwnerChanges feeds owner names)).run
      (Cluster.environmentWith ask timeText) c = (outcome, c')) : c.PatchesOnce ns c' := by
  have hnodup := (map_feed_planOwnerChanges feeds owner names).nodup (hw.nodup_displayName hlist)
  obtain ⟨hunconflicted, sent, hsub, hsent⟩ := patchesFeeds_of_run_current hf hnodup
    (fun _ => isCurrent_of_planned hw hlist hsame) hrun
  exact ⟨hunconflicted, sent, (hsub.map _).nodup hnodup, hsent⟩

end

end

/-! ## Queries -/

section

variable (hask : Cluster.IsOutside ask) {op : Operator} {ns name : String} {h : HotNews}
include hask

theorem passesFeeds_of_run_listFeeds (hf : c.faults = []) {outcome : Except Failure (List Feed)}
    (hrun : (listFeeds ns).run (Cluster.environmentWith ask timeText) c = (outcome, c')) :
    c.PassesFeeds c' :=
  Program.Sends.passesFeeds hask (Program.sends_listFeeds ⟨rfl, rfl⟩) hf hrun

theorem passesFeeds_of_run_persistFeedsName (hc : c.Holds ns name h) {names : List String}
    {outcome : Except Failure Unit}
    (hrun : (persistFeedsName h names).run (Cluster.environmentWith ask timeText) c =
      (outcome, c')) : c.PassesFeeds c' := by
  have hsends : (persistFeedsName h names).Sends (·.patchesFeed = false) :=
    Program.sends_persistFeedsName rfl
  refine ⟨Program.faults_of_run hask hc.faults hrun, ?_, hsends.sparesFeeds hask hrun⟩
  obtain ⟨hname, hns⟩ := hc.name_eq
  unfold persistFeedsName at hrun
  simp only [hns, hname] at hrun
  obtain ⟨_, hwithin⟩ := Program.exists_of_run_discarded hrun
  obtain ⟨_, hpatch⟩ := Program.exists_of_run_within hwithin
  exact Program.unconflicted_of_run_patchObject hc.faults
    (hc.isCurrent (versionOf_feedsNamePatch h names)) hpatch

theorem passesFeeds_of_run_effectiveSpec (hc : c.Holds ns name h) {feeds : List Feed}
    {outcome : Except Failure HotNewsSpec}
    (hrun : (effectiveSpec op h feeds).run (Cluster.environmentWith ask timeText) c =
      (outcome, c')) : c.PassesFeeds c' := by
  have hresolves {resolved : Except Failure (List String)} {c₁ : Cluster}
      (hresolve : (resolvedNames op h feeds).run (Cluster.environmentWith ask timeText) c =
        (resolved, c₁)) : c.PassesFeeds c₁ :=
    Program.Sends.passesFeeds hask (Program.sends_resolvedNames ⟨rfl, rfl⟩) hc.faults hresolve
  unfold effectiveSpec at hrun
  rcases Program.run_bind_eq hrun with ⟨_, hresolve⟩ | ⟨names, c₁, hresolve, hrun⟩
  · exact hresolves hresolve
  split at hrun
  · obtain ⟨-, hstore⟩ := reads_of_run_resolvedNames hask hresolve
    have hc₁ := hc.of_find? (hresolves hresolve).faults (hstore.symm ▸ hc.wellFormed)
      (by rw [hstore])
    obtain ⟨_, hpersist⟩ := Program.exists_of_run_discarded hrun
    exact (hresolves hresolve).trans (passesFeeds_of_run_persistFeedsName hask hc₁ hpersist)
  · obtain ⟨-, rfl⟩ := Prod.mk.inj hrun
    exact hresolves hresolve

/-- A refresh writes the feed names from the version of the query, and each owner change from the
version of a listed feed. -/
theorem patchesOnce_of_run_refresh (hc : c.Holds ns name h) {outcome : Except Failure NewsSummary}
    (hrun : (refresh op h).run (Cluster.environmentWith ask timeText) c = (outcome, c')) :
    c.PatchesOnce ns c' := by
  obtain ⟨-, hns⟩ := hc.name_eq
  unfold refresh at hrun
  simp only [hns] at hrun
  rcases Program.run_bind_eq hrun with ⟨_, hlisted⟩ | ⟨feeds, c₁, hlisted, hrun⟩
  · exact (passesFeeds_of_run_listFeeds hask hc.faults hlisted).patchesOnce
  have hpassed₁ := passesFeeds_of_run_listFeeds hask hc.faults hlisted
  obtain ⟨hlist, hfollows⟩ :=
    Program.run_listObjects hc.faults (Program.run_within_eq_ok.1 hlisted)
  have hc₁ := hc.of_find? hpassed₁.faults (hfollows.store.symm ▸ hc.wellFormed)
    (by rw [hfollows.store])
  rcases Program.run_bind_eq hrun with ⟨_, hspec⟩ | ⟨spec, c₂, hspec, hrun⟩
  · exact (hpassed₁.trans (passesFeeds_of_run_effectiveSpec hask hc₁ hspec)).patchesOnce
  have hpassed₂ := hpassed₁.trans (passesFeeds_of_run_effectiveSpec hask hc₁ hspec)
  have hfetches {fetched : Except Failure NewsSummary} {c₃ : Cluster}
      (hfetch : (fetchNews op spec).run (Cluster.environmentWith ask timeText) c₂ =
        (fetched, c₃)) : c.PassesFeeds c₃ :=
    hpassed₂.trans (Program.Sends.passesFeeds hask (Program.sends_fetchNews fun _ => ⟨rfl, rfl⟩)
      hpassed₂.faults hfetch)
  rcases Program.run_bind_eq hrun with ⟨_, hfetch⟩ | ⟨summary, c₃, hfetch, hrun⟩
  · exact (hfetches hfetch).patchesOnce
  have hpassed₃ := hfetches hfetch
  cases hself : ownerReference? h with
  | none =>
    simp only [hself] at hrun
    obtain ⟨-, rfl⟩ := Prod.mk.inj hrun
    exact hpassed₃.patchesOnce
  | some owner =>
    simp only [hself] at hrun
    obtain ⟨written, hwrite⟩ := Program.exists_of_run_discarded hrun
    have howned := patchesOnce_of_run_planned hc.wellFormed hlist hpassed₃.faults
      (fun own => hpassed₃.spares.store _ rfl) hwrite
    exact howned.between hpassed₃ (.refl (Program.faults_of_run hask hpassed₃.faults hwrite))

theorem patchesOnce_of_run_releaseFeeds (hc : c.Holds ns name h) {outcome : Except Failure Unit}
    (hrun : (releaseFeeds h).run (Cluster.environmentWith ask timeText) c = (outcome, c')) :
    c.PatchesOnce ns c' := by
  obtain ⟨-, hns⟩ := hc.name_eq
  obtain ⟨_, hsync⟩ := Program.exists_of_run_within hrun
  unfold syncOwners at hsync
  cases hself : ownerReference? h with
  | none =>
    simp only [hself] at hsync
    obtain ⟨-, rfl⟩ := Prod.mk.inj hsync
    exact (Cluster.PassesFeeds.refl hc.faults).patchesOnce
  | some owner =>
    simp only [hself, hns] at hsync
    rcases Program.run_bind_eq hsync with ⟨_, hlisted⟩ | ⟨feeds, c₁, hlisted, hwrite⟩
    · exact (passesFeeds_of_run_listFeeds hask hc.faults hlisted).patchesOnce
    have hpassed := passesFeeds_of_run_listFeeds hask hc.faults hlisted
    obtain ⟨hlist, -⟩ := Program.run_listObjects hc.faults (Program.run_within_eq_ok.1 hlisted)
    have howned := patchesOnce_of_run_planned hc.wellFormed hlist hpassed.faults
      (fun own => hpassed.spares.store _ rfl) hwrite
    exact howned.between hpassed (.refl (Program.faults_of_run hask hpassed.faults hwrite))

omit hask in
/-- Giving up feeds writes to no other objects. -/
theorem find?_of_run_releaseFeeds (hc : c.Holds ns name h)
    (hrun : (releaseFeeds h).run (Cluster.environmentWith ask timeText) c = (.ok (), c'))
    {key : ObjectKey} (hkey : key.collection ≠ .feeds) :
    c'.store.find? key = c.store.find? key := by
  obtain ⟨-, hns⟩ := hc.name_eq
  have hsync := Program.run_within_eq_ok.1 hrun
  unfold syncOwners at hsync
  cases hself : ownerReference? h with
  | none =>
    simp only [hself] at hsync
    obtain ⟨-, rfl⟩ := Prod.mk.inj hsync
    rfl
  | some owner =>
    simp only [hself, hns] at hsync
    obtain ⟨feeds, c₁, hlisted, hwrite⟩ := Program.run_bind_eq_ok.1 hsync
    obtain ⟨hlist, hfollows⟩ :=
      Program.run_listObjects hc.faults (Program.run_within_eq_ok.1 hlisted)
    obtain ⟨-, -, hothers, -⟩ := run_planOwnerChanges (hfollows.faults.trans hc.faults)
      hc.wellFormed hlist (fun own => by rw [hfollows.store]) hwrite
    rw [hothers key fun hfeeds => absurd hfeeds hkey, hfollows.store]

theorem patchesOnce_of_run_releasedQuery (hc : c.Holds ns name h) {outcome : Except Failure Unit}
    (hrun : (handleDeletion h hotNewsFinalizer (releaseFeeds h)).run
      (Cluster.environmentWith ask timeText) c = (outcome, c')) : c.PatchesOnce ns c' := by
  rcases run_handleDeletion_eq hrun with rfl | ⟨_, hrelease⟩ | ⟨c₁, hrelease, hrest⟩
  · exact (Cluster.PassesFeeds.refl hc.faults).patchesOnce
  · exact patchesOnce_of_run_releaseFeeds hask hc hrelease
  have hspares : (releaseFeeds h).Sends (·.Spares []) := sends_releaseFeeds (by simp) h
  obtain ⟨hw₁, -⟩ := hspares.run_spares hask hc.wellFormed hrelease
  have hf₁ := Program.faults_of_run hask hc.faults hrelease
  -- only feeds have been written to, so the query is still stored as it was read
  have hc₁ := hc.of_find? hf₁ hw₁ (find?_of_run_releaseFeeds hc hrelease nofun)
  have hremoval : (do removeFinalizer h hotNewsFinalizer
                      Program.record (.deleted Collection.hotNews.kind) : Program Unit).Sends
      (·.patchesFeed = false) :=
    Program.Sends.bind (Program.sends_removeFinalizer fun _ => rfl) fun _ =>
      Program.sends_record _
  exact (patchesOnce_of_run_releaseFeeds hask hc hrelease).between (.refl hc.faults)
    ⟨Program.faults_of_run hask hf₁ hrest, unconflicted_of_run_removal hc₁ hrest,
      hremoval.sparesFeeds hask hrest⟩

/-- No patch of a query's reconcile is a conflict, and it patches each feed once at most. -/
theorem patchesOnce_of_run_reconcileHotNews (hf : c.faults = []) (hw : c.store.WellFormed)
    {outcome : Except Failure Action}
    (hrun : (reconcileHotNews op ns name).run (Cluster.environmentWith ask timeText) c =
      (outcome, c')) : c.PatchesOnce ns c' := by
  have hlooks {found : Except Failure (Option HotNews)} {c₁ : Cluster}
      (hget : (Program.getObject? HotNews ns name).run (Cluster.environmentWith ask timeText) c =
        (found, c₁)) : c.PassesFeeds c₁ :=
    Program.Sends.passesFeeds hask (Program.sends_getObject? ⟨rfl, rfl⟩) hf hget
  unfold reconcileHotNews at hrun
  rcases Program.run_bind_eq hrun with ⟨_, hget⟩ | ⟨found, c₁, hget, hrun⟩
  · obtain ⟨_, hget⟩ := Program.exists_of_run_within hget
    exact (hlooks hget).patchesOnce
  have hget := Program.run_within_eq_ok.1 hget
  have hpassed₁ := hlooks hget
  cases found with
  | none =>
    obtain ⟨-, rfl⟩ := Prod.mk.inj hrun
    exact hpassed₁.patchesOnce
  | some h =>
    have hc₁ := Cluster.holds_of_run_getObject? hf hw hget
    dsimp only at hrun
    cases hlife : Lifecycle.of h.metadata hotNewsFinalizer with
    | gone =>
      rw [hlife] at hrun
      obtain ⟨-, rfl⟩ := Prod.mk.inj hrun
      exact hpassed₁.patchesOnce
    | finalizing =>
      rw [hlife] at hrun
      obtain ⟨_, hremoval⟩ := Program.exists_of_run_discarded hrun
      have hreleased := patchesOnce_of_run_releasedQuery hask hc₁ hremoval
      exact hreleased.between hpassed₁ (.refl (Program.faults_of_run hask hc₁.faults hremoval))
    | active =>
      rw [hlife] at hrun
      have hadopts {adopted : Except Failure HotNews} {c₂ : Cluster}
          (hadopt : (ensureFinalizer h hotNewsFinalizer).run
            (Cluster.environmentWith ask timeText) c₁ = (adopted, c₂)) : c.PassesFeeds c₂ := by
        have hsends : (ensureFinalizer h hotNewsFinalizer).Sends (·.patchesFeed = false) :=
          Program.sends_ensureFinalizer fun _ => rfl
        exact hpassed₁.trans ⟨Program.faults_of_run hask hc₁.faults hadopt,
          unconflicted_of_run_ensureFinalizer hc₁ hadopt, hsends.sparesFeeds hask hadopt⟩
      rcases Program.run_bind_eq hrun with ⟨_, hadopt⟩ | ⟨h₁, c₂, hadopt, hrun⟩
      · exact (hadopts hadopt).patchesOnce
      -- the refresh goes on from the version that the first write was answered with
      have hc₂ := hc₁.of_run_ensureFinalizer hask (Lifecycle.of_eq_active_iff.1 hlife) hadopt
      rcases Program.run_bind_eq hrun with ⟨_, hattempt⟩ | ⟨refreshed, c₃, hattempt, hrun⟩
      · exact absurd hattempt Program.not_run_attempt_eq_error
      have hrefresh := Program.run_attempt_eq_ok.1 hattempt
      have hf₃ := Program.faults_of_run hask hc₂.faults hrefresh
      refine (patchesOnce_of_run_refresh hask hc₂ hrefresh).between (hadopts hadopt) ?_
      have hrecords (outcome : Except Failure NewsSummary) :
          (recordHotNewsOutcome h₁ outcome).Sends fun request =>
            request.isVersioned = false ∧ request.patchesFeed = false :=
        Program.sends_recordHotNewsOutcome fun _ => ⟨rfl, rfl⟩
      cases refreshed with
      | ok summary =>
        exact Program.Sends.passesFeeds hask
          (Program.Sends.bind (hrecords _) fun _ => Program.sends_pure _) hf₃ hrun
      | error failure =>
        exact Program.Sends.passesFeeds hask
          (Program.Sends.bind (hrecords _).attempt fun _ => Program.sends_fail _) hf₃ hrun

end

end

/-- While nobody else writes, no patch of a reconcile is a conflict, whatever the aggregator answers
and however the reconcile ends. A query's reconcile patches each feed once at most. -/
theorem reconciles_unconflicted {ask : AggregatorRequest → Cluster → Reply × Cluster}
    {timeText : Nat → String} {op : Operator} {c : Cluster} (hask : Cluster.IsOutside ask)
    (hf : c.faults = []) (hw : c.store.WellFormed) :
    (∀ ns name, c.Unconflicted
      ((reconcileFeed op ns name).run (Cluster.environmentWith ask timeText) c).2) ∧
    ∀ ns name, c.PatchesOnce ns
      ((reconcileHotNews op ns name).run (Cluster.environmentWith ask timeText) c).2 :=
  ⟨fun _ _ => unconflicted_of_run_reconcileFeed hask hf hw rfl,
    fun _ _ => patchesOnce_of_run_reconcileHotNews hask hf hw rfl⟩

open GroupedQuery in
/-- A query that is given its finalizer, has its feed names rewritten, takes a feed and gives up
another one. -/
theorem reconciles_unconflicted_grouped : cluster.faults = [] ∧ cluster.store.WellFormed ∧
    result.1 = .ok (.requeue (.ofSeconds 300)) ∧
    (result.2.log.filter (·.request.isVersioned)).length = 4 ∧
    cluster.PatchesOnce "news" result.2 := by
  have hsent : (result.2.log.filter (·.request.isVersioned)).length = 4 := by decide +kernel
  have hqueries : ∀ ns name, cluster.PatchesOnce ns ((reconcileHotNews operator ns name).run
      (Cluster.environmentWith Cluster.askAggregator fun _ => "now") cluster).2 :=
    (reconciles_unconflicted Cluster.isOutside_askAggregator rfl wellFormed).2
  exact ⟨rfl, wellFormed, congrArg Prod.fst result_eq, hsent, hqueries "news" "top"⟩

end Newsdesk
