import Newsdesk.Proofs.Ownership.Plan
import Newsdesk.Proofs.Program.Conduct
import Newsdesk.Reconcile.HotNews

/-!
# What an owner sync sends

A sync lists the feeds of its namespace once, and then only patches feeds of that list, each with
the change that was planned for it (`SyncRule`). If it ends well, every feed that was not owned as
it was wanted has been patched (`SyncPost`).
-/

namespace Newsdesk

/-- The feeds of a namespace have been listed. -/
def Listed (ns : String) (feeds : List Feed) (calls : List LogEntry) : Prop :=
  ∃ reply, ⟨.api (.list .feeds (some ns) none), reply⟩ ∈ calls ∧
    reply.decode (decodeObjects decodeFeed) = .ok feeds

/-- A patch of a feed has been answered with the feed. -/
def Patched (ns name : String) (calls : List LogEntry) : Prop :=
  ∃ body reply feed, ⟨.api (.patch .feeds ns name body), reply⟩ ∈ calls ∧
    reply.decode decodeFeed = .ok feed

theorem Listed.mono {ns : String} {feeds : List Feed} {calls more : List LogEntry}
    (h : Listed ns feeds calls) (hm : calls ⊆ more) : Listed ns feeds more := by
  obtain ⟨reply, hr, hd⟩ := h
  exact ⟨reply, hm hr, hd⟩

/-- Writing changes sends their patches in order and stops at the first that fails. -/
theorem obeys_writeOwnerChanges {ns : String} {rule : CallRule} {post : CallPost Unit}
    (hfail : ∀ failure calls, post (.error failure) calls) {changes : List OwnerChange}
    {calls : List LogEntry}
    (hrule : ∀ more, calls ⊆ more → ∀ change ∈ changes,
      rule more (.api (.patch .feeds ns change.feed (ownersPatch change))))
    (hok : ∀ more, calls ⊆ more → (∀ change ∈ changes, Patched ns change.feed more) →
      post (.ok ()) more) :
    (writeOwnerChanges ns changes).Obeys rule post calls := by
  induction changes generalizing calls with
  | nil => exact Program.obeys_pure.2 (hok calls (List.Subset.refl _) (by simp))
  | cons change rest ih =>
    refine Program.Obeys.bind (Program.Obeys.within (Program.obeys_patchObject
      (fun failure => hfail _) (hrule _ (List.Subset.refl _) change (by simp))
      fun reply feed hd => ?_))
    refine ih (fun more hm c hc => ?_) (fun more hm hpatched => ?_)
    · exact hrule more (List.Subset.trans (List.subset_append_left ..) hm) c
        (List.mem_cons_of_mem _ hc)
    · refine hok more (List.Subset.trans (List.subset_append_left ..) hm) fun c hc => ?_
      rcases List.mem_cons.1 hc with rfl | hc
      · exact ⟨ownersPatch c, reply, feed, hm (List.mem_append_right _ (.head _)), hd⟩
      · exact hpatched c hc

section

variable (uid ns : String) (desired : List String)

/-- What a sync may send: a list first, and then planned changes of listed feeds. -/
inductive SyncRule : CallRule
  | list : SyncRule [] (.api (.list .feeds (some ns) none))
  | patch {calls : List LogEntry} {feeds : List Feed} {feed : Feed} {owner : OwnerReference}
      {change : OwnerChange} (listed : Listed ns feeds calls) (mem : feed ∈ feeds)
      (self : owner.uid = uid) (planned : ownerChange? owner desired feed = some change) :
      SyncRule calls (.api (.patch .feeds ns change.feed (ownersPatch change)))

/-- How a sync may end: with all changes written, or with a failure. -/
def SyncPost : CallPost Unit
  | .ok (), calls => ∃ feeds, Listed ns feeds calls ∧ ∀ feed ∈ feeds,
      isWanted desired feed ≠ isOwnedBy feed uid → Patched ns feed.metadata.displayName calls
  | .error _, _ => True

variable {uid ns}

/-- A sync obeys its rule, whatever it is answered. -/
theorem obeys_syncOwners {h : HotNews} (huid : h.metadata.uid = some uid)
    (hns : h.metadata.nsName = ns) :
    (syncOwners h desired).Obeys (SyncRule uid ns desired) (SyncPost uid ns desired) [] := by
  obtain ⟨owner, howner, hself⟩ : ∃ owner, ownerReference? h = some owner ∧ owner.uid = uid := by
    simp [ownerReference?, huid]
  have hfail (failure : Failure) (calls : List LogEntry) :
      SyncPost uid ns desired (.error failure) calls := trivial
  unfold syncOwners listFeeds
  simp only [howner, hns]
  refine Program.Obeys.bind (Program.Obeys.within (Program.obeys_listObjects
    (fun failure => hfail _) .list fun reply feeds hd => ?_))
  have hlisted : Listed ns feeds [⟨.api (.list .feeds (some ns) none), reply⟩] :=
    ⟨reply, .head _, hd⟩
  refine obeys_writeOwnerChanges hfail (fun more hm change hc => ?_)
    fun more hm hpatched => ⟨feeds, hlisted.mono hm, fun feed hf hne => ?_⟩
  · obtain ⟨feed, hf, hplanned⟩ := List.mem_filterMap.1 hc
    exact .patch (hlisted.mono hm) hf hself hplanned
  · -- the feed is not owned as it is wanted, so a change of it was planned, and it was written
    cases hplanned : ownerChange? owner desired feed with
    | none =>
      rw [ownerChange?_eq_none_iff, hself] at hplanned
      exact absurd hplanned hne
    | some change =>
      rw [← (ownerChange?_cases hplanned).1]
      exact hpatched change (List.mem_filterMap.2 ⟨feed, hf, hplanned⟩)

end

end Newsdesk
