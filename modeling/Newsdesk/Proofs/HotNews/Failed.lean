import Newsdesk.Proofs.Feed.Calls
import Newsdesk.Proofs.HotNews.Repeated

/-!
# A query whose reconcile fails

A reconcile of a query in use that fails leaves the failure in the status, and one of a query that
is deleted never writes a status. So when the next reconcile fails in the same way it finds the
failure on record and leaves the status alone.
-/

namespace Newsdesk

open Json Text

/-- The ways in which a reconcile of a query fails. -/
inductive HotNewsFails {σ : Type} (env : Environment σ) (op : Operator) (ns name : String) (s : σ)
    (failure : Failure) (s' : σ) : Prop
  | unread (read : ((Program.getObject? HotNews ns name).within
      ("failed to get " ++ objectLabel "HotNews" ns name)).run env s = (.error failure, s'))
  | unreleased {h : HotNews} {s₁ : σ}
      (read : (Program.getObject? HotNews ns name).run env s = (.ok (some h), s₁))
      (life : Lifecycle.of h.metadata hotNewsFinalizer = .finalizing)
      (release : (handleDeletion h hotNewsFinalizer (releaseFeeds h)).run env s₁ =
        (.error failure, s'))
  | unadopted {h : HotNews} {s₁ : σ}
      (read : (Program.getObject? HotNews ns name).run env s = (.ok (some h), s₁))
      (life : Lifecycle.of h.metadata hotNewsFinalizer = .active)
      (adopt : (ensureFinalizer h hotNewsFinalizer).run env s₁ = (.error failure, s'))
  | unrefreshed {h h₁ : HotNews} {s₁ s₂ s₃ : σ} {recorded : Except Failure Unit}
      (read : (Program.getObject? HotNews ns name).run env s = (.ok (some h), s₁))
      (life : Lifecycle.of h.metadata hotNewsFinalizer = .active)
      (adopt : (ensureFinalizer h hotNewsFinalizer).run env s₁ = (.ok h₁, s₂))
      (refreshed : (refresh op h₁).run env s₂ = (.error failure, s₃))
      (record : (recordHotNewsOutcome h₁ (.error failure)).run env s₃ = (recorded, s'))
  | unrecorded {h h₁ : HotNews} {s₁ s₂ s₃ : σ} {summary : NewsSummary}
      (read : (Program.getObject? HotNews ns name).run env s = (.ok (some h), s₁))
      (life : Lifecycle.of h.metadata hotNewsFinalizer = .active)
      (adopt : (ensureFinalizer h hotNewsFinalizer).run env s₁ = (.ok h₁, s₂))
      (refreshed : (refresh op h₁).run env s₂ = (.ok summary, s₃))
      (record : (recordHotNewsOutcome h₁ (.ok summary)).run env s₃ = (.error failure, s'))

theorem hotNewsFails_of_run {σ : Type} {env : Environment σ} {op : Operator} {ns name : String}
    {s s' : σ} {failure : Failure}
    (hrun : (reconcileHotNews op ns name).run env s = (.error failure, s')) :
    HotNewsFails env op ns name s failure s' := by
  unfold reconcileHotNews at hrun
  rcases Program.run_bind_eq_error.1 hrun with hget | ⟨found, s₁, hget, hrun⟩
  · exact .unread hget
  replace hget := Program.run_within_eq_ok.1 hget
  cases found with
  | none => exact absurd hrun Program.not_run_pure_eq_error
  | some h =>
    cases hlife : Lifecycle.of h.metadata hotNewsFinalizer <;> simp only [hlife] at hrun
    case gone => exact absurd hrun Program.not_run_pure_eq_error
    case finalizing =>
      rcases Program.run_bind_eq_error.1 hrun with hrelease | ⟨_, _, -, hrun⟩
      · exact .unreleased hget hlife hrelease
      · exact absurd hrun Program.not_run_pure_eq_error
    case active =>
      rcases Program.run_bind_eq_error.1 hrun with hadopt | ⟨h₁, s₂, hadopt, hrun⟩
      · exact .unadopted hget hlife hadopt
      rcases Program.run_bind_eq_error.1 hrun with hrefresh | ⟨outcome, s₃, hrefresh, hrun⟩
      · exact absurd hrefresh Program.not_run_attempt_eq_error
      rw [Program.run_attempt_eq_ok] at hrefresh
      cases outcome with
      | ok summary =>
        rcases Program.run_bind_eq_error.1 hrun with hrecord | ⟨_, _, -, hrun⟩
        · exact .unrecorded hget hlife hadopt hrefresh hrecord
        · exact absurd hrun Program.not_run_pure_eq_error
      | error failure' =>
        rcases Program.run_bind_eq_error.1 hrun with hrecord | ⟨_, s₄, hrecord, hrun⟩
        · exact absurd hrecord Program.not_run_attempt_eq_error
        · obtain ⟨rfl, rfl⟩ := Program.run_fail_eq_error.1 hrun
          exact .unrefreshed hget hlife hadopt hrefresh (Program.run_attempt_eq_ok.1 hrecord)

/-- A status that was read can be shown. -/
theorem inRange_of_decodeHotNews {x : Json} (ho : InOrder x) (hobj : ∃ fields, x = .obj fields)
    {h : HotNews} (hd : decodeHotNews x = some h) : (h.status.getD .empty).InRange := by
  have hstatus := ((CustomKind.decode_eq_some_iff ho hobj).1 hd).2.2
  cases hs : h.status with
  | none => simp [HotNewsStatus.InRange, HotNewsStatus.empty]
  | some status =>
    rw [hs] at hstatus
    cases hv : x.field? "status" with
    | none =>
      rw [hv] at hstatus
      cases hstatus
    | some v =>
      rw [hv, nullable_some] at hstatus
      by_cases hnull : v = .null
      · subst hnull
        cases hstatus
      · rw [decodeNullable_of_ne_null _ hnull, Option.map_eq_some_iff] at hstatus
        obtain ⟨_, hread, ⟨⟩⟩ := hstatus
        exact HotNewsStatus.inRange_of_decode hread

section

variable {ask : AggregatorRequest → Cluster → Reply × Cluster} {timeText : Nat → String}
  {op : Operator} {ns name : String} {c c' : Cluster} {h : HotNews} {failure failure' : Failure}
  (hf : c.faults = []) (hw : c.store.WellFormed) (hask : Cluster.IsOutside ask)
include hf hw hask

/-- The outcome of a refresh that ended well can be recorded. -/
theorem not_run_recordHotNewsOutcome_eq_error {summary : NewsSummary} {c₁ : Cluster}
    (hvalid : (ApiRequest.get .hotNews ns name).invalid? = none)
    (hs : Stored c.store ⟨.hotNews, ns, name⟩ h)
    (hrefresh : (refresh op h).run (Cluster.environmentWith ask timeText) c = (.ok summary, c₁)) :
    ¬ (recordHotNewsOutcome h (.ok summary)).run (Cluster.environmentWith ask timeText) c₁ =
      (.error failure, c') := by
  intro hrecord
  obtain ⟨spec, version, _, _, -, -, hfetch, hs₁, hf₁, -⟩ :=
    run_refresh_fetched hask hw hf hs (.refl _ _) hrefresh
  have hf₂ : ({ c₁ with readings := c₁.readings + 1 } : Cluster).faults = [] := hf₁
  have hrange : (hotNewsStatusAfter h (.ok summary) (timeText c₁.readings)).InRange :=
    articlesCount_of_run_fetchNews hfetch
  obtain ⟨_, _, hrecorded, -⟩ := Stored.run_updateStatus hf₂ hs.nsName hs.displayName hvalid
    (HotNewsStatus.readsBack hrange) hs₁ rfl
  rw [run_recordHotNewsOutcome_eq, hrecorded] at hrecord
  cases congrArg Prod.fst hrecord

omit hf in
/-- After a failure that left the status of a query alone and was recorded, whatever is read of the
query shows this failure. -/
theorem status_of_failure_recorded {c₁ : Cluster} {recorded : Except Failure Unit}
    {x x' : Json} {h' : HotNews}
    (hvalid : (ApiRequest.get .hotNews ns name).invalid? = none)
    (hx : c.store.find? ⟨.hotNews, ns, name⟩ = some x) (hd : decodeHotNews x = some h)
    (ht : c.Tended ["status"] c₁)
    (hrecord : (recordHotNewsOutcome h (.error failure)).run
      (Cluster.environmentWith ask timeText) c₁ = (recorded, c'))
    (hx' : c'.store.find? ⟨.hotNews, ns, name⟩ = some x') (hd' : decodeHotNews x' = some h')
    (now : String) : h'.status = some (hotNewsStatusAfter h' (.error failure) now) := by
  have ht' : c₁.Tended [] c' := (Cluster.Tended.start ht.faults ht.wellFormed).run hask
    (sends_recordHotNewsOutcome (by simp) (by simp) h _) hrecord
  obtain ⟨x₁, hx₁, -⟩ := ht'.store.same hx'
  obtain ⟨x₀, hx₀, hsame⟩ := ht.store.same hx₁
  cases hx.symm.trans hx₀
  have ho := hw.inOrder hx
  have hobj := (hw.named hx).obj
  obtain ⟨hname, hns⟩ := hw.name_eq hx hd
  obtain ⟨hname', -⟩ := ht'.wellFormed.name_eq hx' hd'
  have hf₁ : ({ c₁ with readings := c₁.readings + 1 } : Cluster).faults = [] := ht.faults
  have hrange : (hotNewsStatusAfter h (.error failure) (timeText c₁.readings)).InRange :=
    inRange_of_decodeHotNews ho hobj hd
  have hread := HotNewsStatus.readsBack hrange
  have hcurrent := hsame.nullable_status ho hobj hd (by simp)
  rw [run_recordHotNewsOutcome_eq] at hrecord
  rw [← show _ = c' from congrArg Prod.snd hrecord] at hx'
  exact hotNewsStatusAfter_again (.refl _) (hname'.trans hname.symm) (status_of_run_updateStatus
    hf₁ hns hname hvalid hread ht.wellFormed hx₁ hcurrent hx' hd')

/-- A reconcile of a query in use with its finalizer that failed has left the failure in the
status. -/
theorem run_reconcileHotNews_failed {x : Json}
    (hx : c.store.find? ⟨.hotNews, ns, name⟩ = some x) (hd : decodeHotNews x = some h)
    (hhas : h.metadata.hasFinalizer hotNewsFinalizer = true)
    (hvalid : (ApiRequest.get .hotNews ns name).invalid? = none)
    (hrun : (reconcileHotNews op ns name).run (Cluster.environmentWith ask timeText) c =
      (.error failure, c')) {x' : Json} {h' : HotNews}
    (hx' : c'.store.find? ⟨.hotNews, ns, name⟩ = some x') (hd' : decodeHotNews x' = some h')
    (hactive : h'.metadata.isDeleting = false) (now : String) :
    h'.status = some (hotNewsStatusAfter h' (.error failure) now) := by
  have hwhole := (sends_reconcileHotNews op ns name).tended hask hf hw hrun
  obtain ⟨x₀, hx₀, hsame⟩ := hwhole.store.same hx'
  cases hx.symm.trans hx₀
  have ho := hw.inOrder hx
  have hobj := (hw.named hx).obj
  have hinuse : h.metadata.isDeleting = false :=
    (hsame.isDeleting_eq ho hobj hd (hwhole.wellFormed.inOrder hx')
      (hwhole.wellFormed.named hx').obj hd').symm.trans hactive
  have hs : Stored c.store ⟨.hotNews, ns, name⟩ h := hw.stored hx hd hinuse
  have hread {h₁ : HotNews} {c₁ : Cluster} (hget : (Program.getObject? HotNews ns name).run
      (Cluster.environmentWith ask timeText) c = (.ok (some h₁), c₁)) :
      h = h₁ ∧ c.Follows c.store c₁ ∧ c.Tended ["status"] c₁ := by
    obtain ⟨hfound, hc₁, -⟩ := hs.run_getObject? hf hget
    exact ⟨(Option.some.inj hfound).symm, hc₁,
      (Cluster.Tended.start hf hw).run hask (Program.sends_getObject? trivial) hget⟩
  -- with its finalizer in place the query is not written to before the refresh
  cases hotNewsFails_of_run hrun with
  | unread read =>
    have hget : (Program.getObject? HotNews ns name).run (Cluster.environmentWith ask timeText) c =
        (.ok (some h), _) := Program.run_getObject?_of_stored hf hvalid hx hd
    rw [Program.run_within, hget] at read
    cases congrArg Prod.fst read
  | unreleased read life release =>
    obtain ⟨rfl, -⟩ := hread read
    rw [(Lifecycle.of_eq_finalizing_iff.1 life).1] at hinuse
    cases hinuse
  | unadopted read life adopt =>
    obtain ⟨rfl, -, -⟩ := hread read
    rw [ensureFinalizer_of_has hhas] at adopt
    exact absurd adopt Program.not_run_pure_eq_error
  | unrefreshed read life adopt refreshed record =>
    obtain ⟨rfl, -, ht⟩ := hread read
    rw [ensureFinalizer_of_has hhas] at adopt
    obtain ⟨rfl, rfl⟩ := Program.run_pure_eq_ok.1 adopt
    have ht₃ := ht.run hask (sends_refresh (by simp) (by simp) op h) refreshed
    exact status_of_failure_recorded hw hask hvalid hx hd ht₃ record hx' hd' now
  | unrecorded read life adopt refreshed record =>
    obtain ⟨rfl, hc₁, ht⟩ := hread read
    rw [ensureFinalizer_of_has hhas] at adopt
    obtain ⟨rfl, rfl⟩ := Program.run_pure_eq_ok.1 adopt
    exact absurd record (not_run_recordHotNewsOutcome_eq_error ht.faults ht.wellFormed hask hvalid
      (hc₁.store.symm ▸ hs) refreshed)

/-- A failure that the status of a query shows is not recorded again. -/
theorem run_reconcileHotNews_reported
    (hreported : ∀ {x h}, (ApiRequest.get .hotNews ns name).invalid? = none →
      c.store.find? ⟨.hotNews, ns, name⟩ = some x → decodeHotNews x = some h →
      h.metadata.isDeleting = false → ∀ now,
        h.status = some (hotNewsStatusAfter h (.error failure) now))
    (hrun : (reconcileHotNews op ns name).run (Cluster.environmentWith ask timeText) c =
      (.error failure', c')) (halike : failure.Alike failure') :
    c.Adds (·.patchesStatus = false) c' := by
  have hread {h : HotNews} {c₁ : Cluster} (hget : (Program.getObject? HotNews ns name).run
      (Cluster.environmentWith ask timeText) c = (.ok (some h), c₁)) :
      c.Tended ["status"] c₁ :=
    (Cluster.Tended.start hf hw).run hask (Program.sends_getObject? trivial) hget
  -- a query that is given its finalizer shows what it showed before
  have hadopted {h h₁ : HotNews} {c₁ c₂ : Cluster}
      (hget : (Program.getObject? HotNews ns name).run (Cluster.environmentWith ask timeText) c =
        (.ok (some h), c₁)) (life : Lifecycle.of h.metadata hotNewsFinalizer = .active)
      (hadopt : (ensureFinalizer h hotNewsFinalizer).run (Cluster.environmentWith ask timeText) c₁ =
        (.ok h₁, c₂)) :
      (ApiRequest.get .hotNews ns name).invalid? = none ∧ c.Tended ["status"] c₂ ∧
        Stored c₂.store ⟨.hotNews, ns, name⟩ h₁ ∧
        ∀ now, h₁.status = some (hotNewsStatusAfter h₁ (.error failure) now) := by
    have ht := hread hget
    obtain ⟨hfound, hc₁⟩ := Program.run_getObject? hf hget
    have hvalid := Program.valid_of_run_getObject? hget
    obtain ⟨x, hx, hd⟩ := Option.bind_eq_some_iff.1 hfound.symm
    have hactive := Lifecycle.of_eq_active_iff.1 life
    have hs : Stored c₁.store ⟨.hotNews, ns, name⟩ h := hc₁.store.symm ▸ hw.stored hx hd hactive
    obtain ⟨hs₁, -, -, _, _, -, hh₁⟩ := hs.run_ensureFinalizer ht.faults rfl hadopt
    have hstatus := hreported hvalid hx hd hactive ""
    refine ⟨hvalid, ht.run hask (sends_ensureFinalizer (by simp) h _) hadopt, hs₁, ?_⟩
    exact fun now => hotNewsStatusAfter_again (h := h) (.refl _) (by rw [hh₁]; rfl)
      (by rw [hh₁]; exact hstatus)
  cases hotNewsFails_of_run hrun with
  | unread read =>
    have ht : c.Tended ["status"] c' := (Cluster.Tended.start hf hw).run hask
      (Program.Sends.within (Program.sends_getObject? trivial) _) read
    exact ht.addsNoStatus (by simp)
  | @unreleased h c₁ read life release =>
    have ht := (hread read).run hask
      (sends_handleDeletion (by simp) h _ (sends_releaseFeeds (by simp) h)) release
    exact ht.addsNoStatus (by simp)
  | @unadopted h c₁ read life adopt =>
    have ht := (hread read).run hask (sends_ensureFinalizer (by simp) h _) adopt
    exact ht.addsNoStatus (by simp)
  | @unrefreshed h h₁ c₁ c₂ c₃ recorded read life adopt refreshed record =>
    obtain ⟨-, ht, -, hstatus⟩ := hadopted read life adopt
    have ht₁ := ht.run hask (sends_refresh (by simp) (by simp) op h₁) refreshed
    have houtcomes : AlikeOutcomes (α := NewsSummary) (.error failure) (.error failure') := halike
    have hkept : h₁.status = some (hotNewsStatusAfter h₁ (.error failure')
        (timeText c₃.readings)) := hotNewsStatusAfter_again houtcomes rfl (hstatus "")
    have hsame := record.symm.trans (run_recordHotNewsOutcome_of_reported hkept)
    rw [(Prod.mk.inj hsame).2]
    exact (ht₁.addsNoStatus (by simp)).trans (.of_log_eq rfl)
  | @unrecorded h h₁ c₁ c₂ c₃ summary read life adopt refreshed record =>
    obtain ⟨hvalid, ht, hs, -⟩ := hadopted read life adopt
    exact absurd record
      (not_run_recordHotNewsOutcome_eq_error ht.faults ht.wellFormed hask hvalid hs refreshed)

/-- When a reconcile of a query with its finalizer fails twice in the same way, the second leaves
the status alone. -/
theorem run_reconcileHotNews_failed_again {c'' : Cluster} {x : Json}
    (hx : c.store.find? ⟨.hotNews, ns, name⟩ = some x) (hd : decodeHotNews x = some h)
    (hhas : h.metadata.hasFinalizer hotNewsFinalizer = true)
    (hrun : (reconcileHotNews op ns name).run (Cluster.environmentWith ask timeText) c =
      (.error failure, c'))
    (hagain : (reconcileHotNews op ns name).run (Cluster.environmentWith ask timeText) c' =
      (.error failure', c'')) (halike : failure.Alike failure') :
    c'.Adds (·.patchesStatus = false) c'' := by
  have ht := (sends_reconcileHotNews op ns name).tended hask hf hw hrun
  refine run_reconcileHotNews_reported ht.faults ht.wellFormed hask ?_ hagain halike
  exact fun hvalid hx' hd' hactive now =>
    run_reconcileHotNews_failed hf hw hask hx hd hhas hvalid hrun hx' hd' hactive now

end

end Newsdesk
