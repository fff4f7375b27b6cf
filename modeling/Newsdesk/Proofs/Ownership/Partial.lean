import Newsdesk.Proofs.Cluster.Sparing
import Newsdesk.Proofs.Ownership.Written

/-!
# Owner changes that were written in part

A patch that fails under faults has changed nothing, unless the object could not be read with it.
Owner changes are written one after the other, so when one of them fails those before it have been
accepted, and nothing else has happened to the feeds (`WrittenUpTo`).
-/

namespace Newsdesk

open Json

/-! ## Patches that fail -/

section

variable {α : Type} {ns name : String} {body : Json}

theorem Store.answer_patch_of_error {decoder : Decoder α} {collection : Collection} {s : Store}
    {e : ApiError}
    (h : (s.answer (.patch collection ns name body)).1.decode decoder = .error e)
    (hreads : ∀ old, s.find? ⟨collection, ns, name⟩ = some old →
      ∃ a, decoder (written s.nextVersion body old) = some a) :
    (s.answer (.patch collection ns name body)).2 = s := by
  cases hold : s.find? ⟨collection, ns, name⟩ with
  | none => simp [answer, hold]
  | some old =>
    cases hstale : isStale body old with
    | true => simp [answer, hold, hstale]
    | false =>
      obtain ⟨a, ha⟩ := hreads old hold
      rw [decode_answer_patch.2 ⟨old, hold, hstale, ha⟩] at h
      cases h

variable [Resource α] {ask : AggregatorRequest → Cluster → Reply × Cluster}
  {timeText : Nat → String} {c c' : Cluster} {failure : Failure}

/-- A patch that fails has changed nothing, and was sent at most once. -/
theorem Program.run_patchObject_eq_error (hf : c.faults.Faulty)
    (hreads : ∀ old, c.store.find? ⟨Resource.collection α, ns, name⟩ = some old →
      ∃ a : α, Resource.decode (written c.store.nextVersion body old) = some a)
    (hrun : (patchObject ns name body : Program α).run (Cluster.environmentWith ask timeText) c =
      (.error failure, c')) :
    c'.store = c.store ∧ (c'.log = c.log ∨ ∃ reply, c'.log =
      c.log ++ [⟨.api (.patch (Resource.collection α) ns name body), reply⟩]) := by
  refine ⟨?_, (log_patchObject hrun).imp_right fun hlog => ⟨_, hlog⟩⟩
  have hend {outcome : Except ApiError α} {c₁ : Cluster}
      (h : (ofExcept .api outcome).run (Cluster.environmentWith ask timeText) c₁ =
        (.error failure, c')) : (∃ e, outcome = .error e) ∧ c₁ = c' := by
    cases outcome with
    | ok a => cases h
    | error e =>
      cases h
      exact ⟨⟨e, rfl⟩, rfl⟩
  unfold patchObject at hrun
  rcases run_bind_eq_error.1 hrun with hcall | ⟨outcome, c₁, hcall, hrun⟩
  · rw [run_callApi] at hcall
    split at hcall <;> cases hcall
  · obtain ⟨⟨e, rfl⟩, rfl⟩ := hend hrun
    rw [run_callApi] at hcall
    split at hcall
    · cases hcall
      rfl
    · obtain ⟨hreply, rfl⟩ := Prod.mk.inj hcall
      change Except.ok ((c.askApi _).1.decode _) = _ at hreply
      change (c.askApi _).2.store = c.store
      rcases Cluster.askApi_of_faulty hf (.patch (Resource.collection α) ns name body) with
        ⟨_, _, -, -, hasked⟩ | hasked
      · rw [hasked]
        rfl
      · rw [hasked] at hreply ⊢
        exact Store.answer_patch_of_error (Except.ok.inj hreply) hreads

end

/-! ## What is sent -/

/-- The patch of a feed for an owner change. -/
def ownersRequest (ns : String) (change : OwnerChange) : SentRequest :=
  .api (.patch .feeds ns change.feed (ownersPatch change))

/-- The patches of feeds that were sent from one cluster to another. -/
def Cluster.PatchesFeeds (requests : List SentRequest) (c c' : Cluster) : Prop :=
  ∃ calls, c'.log = c.log ++ calls ∧
    (calls.map LogEntry.request).filter SentRequest.patchesFeed = requests

section

variable {c c' c'' : Cluster} {requests more : List SentRequest}

theorem Cluster.PatchesFeeds.trans (h : c.PatchesFeeds requests c')
    (h' : c'.PatchesFeeds more c'') : c.PatchesFeeds (requests ++ more) c'' := by
  obtain ⟨calls, hlog, rfl⟩ := h
  obtain ⟨calls', hlog', rfl⟩ := h'
  refine ⟨calls ++ calls', by rw [hlog', hlog, List.append_assoc], ?_⟩
  rw [List.map_append, List.filter_append]

theorem Cluster.SparesFeeds.patchesFeeds (h : c.SparesFeeds c') : c.PatchesFeeds [] c' := by
  obtain ⟨calls, hlog, hall⟩ := h.log
  refine ⟨calls, hlog, List.filter_eq_nil_iff.2 fun request hr => ?_⟩
  obtain ⟨entry, he, rfl⟩ := List.mem_map.1 hr
  rw [hall entry he]
  exact Bool.false_ne_true

theorem Cluster.patchesFeeds_of_log {ns : String} {change : OwnerChange} {reply : Reply}
    (h : c'.log = c.log ++ [⟨ownersRequest ns change, reply⟩]) :
    c.PatchesFeeds [ownersRequest ns change] c' := ⟨_, h, rfl⟩

end

section

variable {ask : AggregatorRequest → Cluster → Reply × Cluster} {timeText : Nat → String}
  {ns : String} {c c' : Cluster}

/-- Changes that have all been written were sent in order. -/
theorem patchesFeeds_of_run_writeOwnerChanges {changes : List OwnerChange}
    (h : (writeOwnerChanges ns changes).run (Cluster.environmentWith ask timeText) c =
      (.ok (), c')) : c.PatchesFeeds (changes.map (ownersRequest ns)) c' := by
  induction changes generalizing c with
  | nil =>
    obtain ⟨-, rfl⟩ := Program.run_pure_eq_ok.1 h
    exact ⟨[], by simp, rfl⟩
  | cons change rest ih =>
    obtain ⟨f, c₁, hpatch, hrest⟩ := Program.run_bind_eq_ok.1 h
    obtain ⟨-, -, rfl⟩ := Program.run_patchObject_eq_ok.1 (Program.run_within_eq_ok.1 hpatch)
    exact (Cluster.patchesFeeds_of_log (c.log_askApi _)).trans (ih hrest)

/-- Writing changes fails at one of them, when those before it have been written. -/
theorem exists_of_run_writeOwnerChanges_eq_error {σ : Type} {env : Environment σ} {s s' : σ}
    {changes : List OwnerChange} {failure : Failure}
    (h : (writeOwnerChanges ns changes).run env s = (.error failure, s')) :
    ∃ done failed rest s₁, changes = done ++ failed :: rest ∧
      (writeOwnerChanges ns done).run env s = (.ok (), s₁) ∧
      (writeOwnerChanges ns [failed]).run env s₁ = (.error failure, s') := by
  induction changes generalizing s with
  | nil => exact absurd h Program.not_run_pure_eq_error
  | cons change rest ih =>
    rcases Program.run_bind_eq_error.1 h with hpatch | ⟨f, s₁, hpatch, hrest⟩
    · exact ⟨[], change, rest, s, rfl, rfl, Program.run_bind_eq_error.2 (.inl hpatch)⟩
    · obtain ⟨done, failed, later, s₂, rfl, hdone, hfailed⟩ := ih hrest
      exact ⟨change :: done, failed, later, s₂, rfl,
        Program.run_bind_eq_ok.2 ⟨f, s₁, hpatch, hdone⟩, hfailed⟩

/-! ## Written in part -/

/-- From one cluster to another by some owner changes that were accepted, and one that was not.
This one was sent unless its feed cannot be addressed, and nothing was sent after it. -/
structure WrittenUpTo (ns : String) (done : List OwnerChange) (failed : OwnerChange)
    (c c' : Cluster) : Prop where
  accepted : ∀ change ∈ done, ∃ old version,
    c.store.find? ⟨.feeds, ns, change.feed⟩ = some old ∧
      c'.store.find? ⟨.feeds, ns, change.feed⟩ =
        if Store.isReleased (written version (ownersPatch change) old) then none
        else some (written version (ownersPatch change) old)
  others : ∀ key, key.collection = .feeds → (∀ change ∈ done, key ≠ ⟨.feeds, ns, change.feed⟩) →
    c'.store.find? key = c.store.find? key
  sent : c.PatchesFeeds (done.map (ownersRequest ns)) c' ∨
    c.PatchesFeeds ((done ++ [failed]).map (ownersRequest ns)) c'

/-- Nothing else that was done concerns the feeds. -/
theorem WrittenUpTo.between {c₀ c₁ : Cluster} {done : List OwnerChange} {failed : OwnerChange}
    (h : WrittenUpTo ns done failed c c') (hbefore : c₀.SparesFeeds c)
    (hafter : c'.SparesFeeds c₁) : WrittenUpTo ns done failed c₀ c₁ where
  accepted change hc := by
    obtain ⟨old, version, hold, hnew⟩ := h.accepted change hc
    refine ⟨old, version, ?_, ?_⟩
    · rw [← hbefore.store _ rfl, hold]
    · rw [hafter.store _ rfl, hnew]
  others key hk hne := by rw [hafter.store key hk, h.others key hk hne, hbefore.store key hk]
  sent := by
    have hall {requests : List SentRequest} (hr : c.PatchesFeeds requests c') :
        c₀.PatchesFeeds requests c₁ := by
      have hsent := (hbefore.patchesFeeds.trans hr).trans hafter.patchesFeeds
      rwa [List.nil_append, List.append_nil] at hsent
    exact h.sent.imp hall hall

/-- A change that fails has changed nothing, if its feed could be read with it. -/
theorem run_writeOwnerChanges_eq_error {change : OwnerChange} {failure : Failure} {x : Json}
    {f : Feed} (hf : c.faults.Faulty) (hx : c.store.find? ⟨.feeds, ns, change.feed⟩ = some x)
    (ho : InOrder x) (hobj : ∃ fields, x = .obj fields) (hd : decodeFeed x = some f)
    (h : (writeOwnerChanges ns [change]).run (Cluster.environmentWith ask timeText) c =
      (.error failure, c')) :
    c'.store = c.store ∧ (c.PatchesFeeds [] c' ∨ c.PatchesFeeds [ownersRequest ns change] c') := by
  rcases Program.run_bind_eq_error.1 h with hpatch | ⟨_, _, -, hend⟩
  · obtain ⟨_, hpatch⟩ := Program.run_within_eq_error hpatch
    have hreads (old : Json)
        (hold : c.store.find? ⟨Resource.collection Feed, ns, change.feed⟩ = some old) :
        ∃ g : Feed, Resource.decode (written c.store.nextVersion (ownersPatch change) old) =
          some g := by
      cases hx.symm.trans hold
      exact ⟨_, decodeFeed_written_owners ho hobj hd⟩
    obtain ⟨hstore, hlog⟩ := Program.run_patchObject_eq_error hf hreads hpatch
    refine ⟨hstore, hlog.imp (fun hlog => ⟨[], ?_, rfl⟩) fun ⟨reply, hlog⟩ => ?_⟩
    · rw [hlog, List.append_nil]
    · exact Cluster.patchesFeeds_of_log hlog
  · exact absurd hend Program.not_run_pure_eq_error

section

variable {feeds : List Feed} {owner : OwnerReference} {names : List String} {s : Store}
  (hw : s.WellFormed) (hlist : (s.select .feeds (some ns) none).mapM decodeFeed = some feeds)
include hw hlist

/-- A change is planned for a feed that is stored. -/
theorem stored_of_planned {change : OwnerChange}
    (hplanned : change ∈ planOwnerChanges feeds owner names) :
    ∃ x f, s.find? ⟨.feeds, ns, change.feed⟩ = some x ∧ decodeFeed x = some f := by
  obtain ⟨f, hf, hchange⟩ := List.mem_filterMap.1 hplanned
  obtain ⟨x, hx, hd⟩ := hw.stored_of_listed hlist hf
  rw [← (ownerChange?_cases hchange).1] at hx
  exact ⟨x, f, hx, hd⟩

/-- The changes before one that is planned are of other feeds. -/
theorem nodup_of_planned {done rest : List OwnerChange} {change : OwnerChange}
    (hplan : planOwnerChanges feeds owner names = done ++ change :: rest) :
    (done.map OwnerChange.feed).Nodup ∧ ∀ earlier ∈ done, change.feed ≠ earlier.feed := by
  have hnodup : ((done ++ change :: rest).map OwnerChange.feed).Nodup := by
    rw [← hplan]
    exact (map_feed_planOwnerChanges feeds owner names).nodup (hw.nodup_displayName hlist)
  rw [List.map_append, List.map_cons, List.nodup_append] at hnodup
  obtain ⟨hdone, -, hapart⟩ := hnodup
  refine ⟨hdone, fun earlier he => ?_⟩
  exact (hapart _ (List.mem_map_of_mem he) _ List.mem_cons_self).symm

/-- Planned changes of listed feeds that were written up to one that failed. -/
theorem writtenUpTo_of_run {done rest : List OwnerChange} {failed : OwnerChange}
    {failure : Failure} {c₁ : Cluster} (hf : c.faults.Faulty) (hask : Cluster.IsOutside ask)
    (hsame : ∀ own, c.store.find? ⟨.feeds, ns, own⟩ = s.find? ⟨.feeds, ns, own⟩)
    (hplan : planOwnerChanges feeds owner names = done ++ failed :: rest)
    (hdone : (writeOwnerChanges ns done).run (Cluster.environmentWith ask timeText) c =
      (.ok (), c₁))
    (hfailed : (writeOwnerChanges ns [failed]).run (Cluster.environmentWith ask timeText) c₁ =
      (.error failure, c')) : WrittenUpTo ns done failed c c' := by
  obtain ⟨hnodup, hapart⟩ := nodup_of_planned hw hlist hplan
  have hplanned : failed ∈ planOwnerChanges feeds owner names := by
    rw [hplan]
    exact List.mem_append_right done List.mem_cons_self
  obtain ⟨x, f, hx, hd⟩ := stored_of_planned hw hlist hplanned
  -- what was written before the failure has met no fault
  obtain ⟨-, hclean⟩ := (strict_writeOwnerChanges ns done).run_unfaulted hf hdone
  obtain ⟨-, -, hothers, haccepted⟩ := run_writeOwnerChanges rfl hnodup hclean
  -- and has left the feed of the failed change as it was listed
  have huntouched : c₁.store.find? ⟨.feeds, ns, failed.feed⟩ = some x := by
    refine (hothers _ fun change hc he => ?_).trans ((hsame _).trans hx)
    injection he with _ _ hfeed
    exact hapart change hc hfeed
  obtain ⟨hstore, hsent⟩ := run_writeOwnerChanges_eq_error (Program.faulty_of_run hask hf hdone)
    huntouched (hw.inOrder hx) (hw.named hx).obj hd hfailed
  have hbefore := patchesFeeds_of_run_writeOwnerChanges hdone
  refine ⟨fun change hc => ?_, fun key _ hne => ?_, ?_⟩
  · rw [hstore]
    exact haccepted change hc
  · rw [hstore]
    exact hothers key hne
  · rw [List.map_append]
    refine hsent.imp (fun hnone => ?_) hbefore.trans
    simpa only [List.append_nil] using hbefore.trans hnone

end

end

end Newsdesk
