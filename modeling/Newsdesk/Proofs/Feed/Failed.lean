import Newsdesk.Proofs.Feed.Repeated
import Newsdesk.Proofs.Reconcile.Spared

/-!
# A feed whose reconcile fails

A reconcile of a feed that fails leaves the failure in the status. So when the next one fails in
the same way it finds the failure on record and leaves the status alone.
-/

namespace Newsdesk

open Json Text

/-- The ways in which a reconcile of a feed fails. -/
inductive FeedFails {σ : Type} (env : Environment σ) (op : Operator) (ns name : String) (s : σ)
    (failure : Failure) (s' : σ) : Prop
  | unread (read : ((Program.getObject? Feed ns name).within
      ("failed to get " ++ objectLabel "Feed" ns name)).run env s = (.error failure, s'))
  | unfinished {f : Feed} {s₁ s₂ : σ}
      (read : (Program.getObject? Feed ns name).run env s = (.ok (some f), s₁))
      (life : Lifecycle.of f.metadata feedFinalizer = .finalizing)
      (cleanup : (handleDeletion f feedFinalizer (removeSource op f)).run env s₁ =
        (.error failure, s₂))
      (record : (recordFeedOutcome f .deleted (.error failure)).run env s₂ = (.ok (), s'))
  | unadopted {f : Feed} {s₁ : σ}
      (read : (Program.getObject? Feed ns name).run env s = (.ok (some f), s₁))
      (life : Lifecycle.of f.metadata feedFinalizer = .active)
      (adopt : (ensureFinalizer f feedFinalizer).run env s₁ = (.error failure, s'))
  | unregistered {f f₁ : Feed} {s₁ s₂ s₃ : σ}
      (read : (Program.getObject? Feed ns name).run env s = (.ok (some f), s₁))
      (life : Lifecycle.of f.metadata feedFinalizer = .active)
      (adopt : (ensureFinalizer f feedFinalizer).run env s₁ = (.ok f₁, s₂))
      (register : (registerSource op f₁).run env s₂ = (.error failure, s₃))
      (record : (recordFeedOutcome f₁ .added (.error failure)).run env s₃ = (.ok (), s'))

theorem run_finishFeed_eq_error {σ : Type} {env : Environment σ} {s s' : σ} {f : Feed}
    {kind : ConditionKind} {outcome : Except Failure Unit} {failure : Failure}
    (h : (finishFeed f kind outcome).run env s = (.error failure, s')) :
    outcome = .error failure ∧ (recordFeedOutcome f kind outcome).run env s = (.ok (), s') := by
  have hrecord : ∃ t, (recordFeedOutcome f kind outcome).run env s = (.ok (), t) :=
    ⟨_, Program.run_bind_eq_ok.2 ⟨_, _, rfl, Program.run_bind_eq_ok.2
      ⟨_, _, Program.run_attempt _ _ _, Program.run_pure_eq_ok.2 ⟨rfl, rfl⟩⟩⟩⟩
  obtain ⟨t, hrecord⟩ := hrecord
  rcases Program.run_bind_eq_error.1 h with h | ⟨⟨⟩, t', h', h⟩
  · rw [hrecord] at h
    cases congrArg Prod.fst h
  · cases outcome with
    | ok done => exact absurd h Program.not_run_pure_eq_error
    | error failure' =>
      obtain ⟨rfl, rfl⟩ := Program.run_fail_eq_error.1 h
      exact ⟨rfl, h'⟩

theorem feedFails_of_run {σ : Type} {env : Environment σ} {op : Operator} {ns name : String}
    {s s' : σ} {failure : Failure}
    (hrun : (reconcileFeed op ns name).run env s = (.error failure, s')) :
    FeedFails env op ns name s failure s' := by
  unfold reconcileFeed at hrun
  rcases Program.run_bind_eq_error.1 hrun with hget | ⟨found, s₁, hget, hrun⟩
  · exact .unread hget
  replace hget := Program.run_within_eq_ok.1 hget
  cases found with
  | none => exact absurd hrun Program.not_run_pure_eq_error
  | some f =>
    cases hlife : Lifecycle.of f.metadata feedFinalizer <;> simp only [hlife] at hrun
    case gone => exact absurd hrun Program.not_run_pure_eq_error
    case finalizing =>
      rcases Program.run_bind_eq_error.1 hrun with h | ⟨outcome, s₂, hcleanup, hrun⟩
      · rw [Program.run_attempt] at h
        cases congrArg Prod.fst h
      rw [Program.run_attempt_eq_ok] at hcleanup
      cases outcome with
      | ok done => exact absurd hrun Program.not_run_pure_eq_error
      | error failure' =>
        obtain ⟨⟨⟩, hrecord⟩ := run_finishFeed_eq_error hrun
        exact .unfinished hget hlife hcleanup hrecord
    case active =>
      rcases Program.run_bind_eq_error.1 hrun with h | ⟨f₁, s₂, hadopt, hrun⟩
      · exact .unadopted hget hlife h
      rcases Program.run_bind_eq_error.1 hrun with h | ⟨outcome, s₃, hregister, hrun⟩
      · rw [Program.run_attempt] at h
        cases congrArg Prod.fst h
      rw [Program.run_attempt_eq_ok] at hregister
      obtain ⟨rfl, hrecord⟩ := run_finishFeed_eq_error hrun
      exact .unregistered hget hlife hadopt hregister hrecord

/-- What a reconcile of an object is about. -/
def attemptKind (m : Metadata) : ConditionKind := if m.isDeleting then .deleted else .added

theorem attemptKind_of_finalizing {m : Metadata} {finalizer : String}
    (h : Lifecycle.of m finalizer = .finalizing) : attemptKind m = .deleted :=
  if_pos (Lifecycle.of_eq_finalizing_iff.1 h).1

theorem attemptKind_of_active {m : Metadata} {finalizer : String}
    (h : Lifecycle.of m finalizer = .active) : attemptKind m = .added := by
  simp [attemptKind, Lifecycle.of_eq_active_iff.1 h]

section

variable {ask : AggregatorRequest → Cluster → Reply × Cluster} {timeText : Nat → String}
  {op : Operator} {ns name : String} {c c' : Cluster} {f : Feed} {failure failure' : Failure}
  (hf : c.faults = []) (hw : c.store.WellFormed)
include hf hw

/-- Whatever is read of a feed after an attempt was recorded shows this attempt. -/
theorem status_of_run_recordFeedOutcome {kind : ConditionKind} {outcome : Except Failure Unit}
    (hvalid : (ApiRequest.get .feeds ns name).invalid? = none)
    (hns : f.metadata.nsName = ns) (hname : f.metadata.displayName = name) {x : Json}
    (hx : c.store.find? ⟨.feeds, ns, name⟩ = some x)
    (hcurrent : nullable FeedStatus.decode (x.field? "status") = some f.status)
    (hrun : (recordFeedOutcome f kind outcome).run (Cluster.environmentWith ask timeText) c =
      (.ok (), c')) {x' : Json} {f' : Feed}
    (hx' : c'.store.find? ⟨.feeds, ns, name⟩ = some x') (hd' : decodeFeed x' = some f') :
    f'.status = some (feedStatusAfter f kind outcome (timeText c.readings)) := by
  rw [run_recordFeedOutcome] at hrun
  obtain ⟨-, rfl⟩ := Prod.mk.inj hrun
  have hf₁ : ({ c with readings := c.readings + 1 } : Cluster).faults = [] := hf
  exact status_of_run_updateStatus hf₁ hns hname hvalid (FeedStatus.readsBack _) hw hx hcurrent
    hx' hd'

variable (hask : Cluster.IsOutside ask)
include hask

omit hf in
/-- After an attempt that left a feed alone and was recorded, whatever is read of the feed shows
this attempt. -/
theorem status_of_recorded {c₁ : Cluster} {kind : ConditionKind} {outcome : Except Failure Unit}
    {x x' : Json} {f' : Feed} (hvalid : (ApiRequest.get .feeds ns name).invalid? = none)
    (hx : c.store.find? ⟨.feeds, ns, name⟩ = some x) (hd : decodeFeed x = some f)
    (ht : c.Tended ["spec", "status"] c₁)
    (hrun : (recordFeedOutcome f kind outcome).run (Cluster.environmentWith ask timeText) c₁ =
      (.ok (), c'))
    (hx' : c'.store.find? ⟨.feeds, ns, name⟩ = some x') (hd' : decodeFeed x' = some f')
    (now : String) : f'.status = some (feedStatusAfter f' kind outcome now) := by
  have hrecord : c₁.Tended ["spec"] c' := (Cluster.Tended.start ht.faults ht.wellFormed).run hask
    (sends_recordFeedOutcome (by simp) (by simp) f kind outcome) hrun
  obtain ⟨x₁, hx₁, hsame₁⟩ := hrecord.store.same hx'
  obtain ⟨x₀, hx₀, hsame⟩ := ht.store.same hx₁
  cases hx.symm.trans hx₀
  have ho := hw.inOrder hx
  have hobj := (hw.named hx).obj
  obtain ⟨hname, hns⟩ := hw.name_eq hx hd
  have hspec : f'.spec = f.spec := ((hsame.mono (by simp)).trans hsame₁).spec_eq ho hobj hd
    (hrecord.wellFormed.inOrder hx') (hrecord.wellFormed.named hx').obj hd' (by decide)
  have hcurrent := hsame.nullable_status ho hobj hd (by decide)
  exact feedStatusAfter_again (.refl outcome) hspec (status_of_run_recordFeedOutcome ht.faults
    ht.wellFormed hvalid hns hname hx₁ hcurrent hrun hx' hd')

/-- A reconcile of a feed with its finalizer that failed has left the failure in the status. -/
theorem run_reconcileFeed_failed {x : Json}
    (hx : c.store.find? ⟨.feeds, ns, name⟩ = some x) (hd : decodeFeed x = some f)
    (hhas : f.metadata.hasFinalizer feedFinalizer = true)
    (hvalid : (ApiRequest.get .feeds ns name).invalid? = none)
    (hrun : (reconcileFeed op ns name).run (Cluster.environmentWith ask timeText) c =
      (.error failure, c')) {x' : Json} {f' : Feed}
    (hx' : c'.store.find? ⟨.feeds, ns, name⟩ = some x') (hd' : decodeFeed x' = some f')
    (now : String) :
    f'.status = some (feedStatusAfter f' (attemptKind f'.metadata) (.error failure) now) := by
  have hwhole := (sends_reconcileFeed op ns name).tended hask hf hw hrun
  obtain ⟨x₀, hx₀, hsame⟩ := hwhole.store.same hx'
  cases hx.symm.trans hx₀
  have hkind : attemptKind f'.metadata = attemptKind f.metadata := by
    unfold attemptKind
    rw [hsame.isDeleting_eq (hw.inOrder hx) (hw.named hx).obj hd (hwhole.wellFormed.inOrder hx')
      (hwhole.wellFormed.named hx').obj hd']
  have hget : (Program.getObject? Feed ns name).run (Cluster.environmentWith ask timeText) c =
      (.ok (some f), _) := Program.run_getObject?_of_stored hf hvalid hx hd
  have hread {f₁ : Feed} {c₁ : Cluster} (h : (Program.getObject? Feed ns name).run
      (Cluster.environmentWith ask timeText) c = (.ok (some f₁), c₁)) :
      f = f₁ ∧ c.Tended ["spec", "status"] c₁ := by
    obtain ⟨hfound, -⟩ := Program.run_getObject? hf h
    rw [show c.store.find? ⟨Resource.collection Feed, ns, name⟩ = some x from hx] at hfound
    exact ⟨(Option.some.inj (hfound.trans hd)).symm,
      (Cluster.Tended.start hf hw).run hask (Program.sends_getObject? trivial) h⟩
  cases feedFails_of_run hrun with
  | unread read =>
    rw [Program.run_within, hget] at read
    cases congrArg Prod.fst read
  | unfinished read life cleanup record =>
    obtain ⟨rfl, ht⟩ := hread read
    have ht₂ := ht.run hask (sends_handleDeletion (by simp) f _ (sends_removeSource op f)) cleanup
    rw [hkind, attemptKind_of_finalizing life]
    exact status_of_recorded hw hask hvalid hx hd ht₂ record hx' hd' now
  | unadopted read life adopt =>
    obtain ⟨rfl, ht⟩ := hread read
    rw [ensureFinalizer_of_has hhas] at adopt
    exact absurd adopt Program.not_run_pure_eq_error
  | unregistered read life adopt register record =>
    obtain ⟨rfl, ht⟩ := hread read
    rw [ensureFinalizer_of_has hhas] at adopt
    obtain ⟨rfl, rfl⟩ := Program.run_pure_eq_ok.1 adopt
    have ht₂ := ht.run hask (sends_registerSource op f) register
    rw [hkind, attemptKind_of_active life]
    exact status_of_recorded hw hask hvalid hx hd ht₂ record hx' hd' now

/-- A failure that the status of a feed shows is not recorded again. -/
theorem run_reconcileFeed_reported
    (hreported : ∀ {x f}, (ApiRequest.get .feeds ns name).invalid? = none →
      c.store.find? ⟨.feeds, ns, name⟩ = some x → decodeFeed x = some f → ∀ now,
        f.status = some (feedStatusAfter f (attemptKind f.metadata) (.error failure) now))
    (hrun : (reconcileFeed op ns name).run (Cluster.environmentWith ask timeText) c =
      (.error failure', c')) (halike : failure.Alike failure') :
    c.Adds (·.patchesStatus = false) c' := by
  have hread {f : Feed} {c₁ : Cluster} (h : (Program.getObject? Feed ns name).run
      (Cluster.environmentWith ask timeText) c = (.ok (some f), c₁)) :
      c.Tended ["status"] c₁ ∧ (∃ x, c₁.store.find? ⟨.feeds, ns, name⟩ = some x ∧
        decodeFeed x = some f) ∧ ∀ now, f.status =
          some (feedStatusAfter f (attemptKind f.metadata) (.error failure) now) := by
    obtain ⟨hfound, hc₁⟩ := Program.run_getObject? hf h
    obtain ⟨x, hx, hd⟩ := Option.bind_eq_some_iff.1 hfound.symm
    have hvalid := Program.valid_of_run_getObject? h
    have hx₁ : c₁.store.find? ⟨.feeds, ns, name⟩ = some x := by rw [hc₁.store]; exact hx
    exact ⟨(Cluster.Tended.start hf hw).run hask (Program.sends_getObject? trivial) h,
      ⟨x, hx₁, hd⟩, hreported hvalid hx hd⟩
  have hrecord {f : Feed} {kind : ConditionKind} {c₁ : Cluster}
      (hstatus : ∀ now, f.status = some (feedStatusAfter f kind (.error failure) now))
      (h : (recordFeedOutcome f kind (.error failure')).run (Cluster.environmentWith ask timeText)
        c₁ = (.ok (), c')) : c₁.Adds (·.patchesStatus = false) c' := by
    have houtcomes : AlikeOutcomes (α := Unit) (.error failure) (.error failure') := halike
    have hkept : f.status = some (feedStatusAfter f kind (.error failure')
        (timeText c₁.readings)) := feedStatusAfter_again houtcomes rfl (hstatus "")
    have hsame := h.symm.trans (run_recordFeedOutcome_of_reported hkept)
    rw [(Prod.mk.inj hsame).2]
    exact .of_log_eq rfl
  cases feedFails_of_run hrun with
  | unread read =>
    have ht : c.Tended ["status"] c' := (Cluster.Tended.start hf hw).run hask
      (Program.Sends.within (Program.sends_getObject? trivial) _) read
    exact ht.addsNoStatus (by simp)
  | @unfinished f c₁ c₂ read life cleanup record =>
    obtain ⟨ht, -, hstatus⟩ := hread read
    have ht₂ := ht.run hask (sends_handleDeletion (by simp) f _ (sends_removeSource op f)) cleanup
    rw [attemptKind_of_finalizing life] at hstatus
    exact (ht₂.addsNoStatus (by simp)).trans (hrecord hstatus record)
  | @unadopted f c₁ read life adopt =>
    obtain ⟨ht, -, -⟩ := hread read
    have ht₂ := ht.run hask (sends_ensureFinalizer (by simp) f _) adopt
    exact ht₂.addsNoStatus (by simp)
  | @unregistered f f₁ c₁ c₂ c₃ read life adopt register record =>
    obtain ⟨ht, ⟨x, hx, hd⟩, hstatus⟩ := hread read
    rw [attemptKind_of_active life] at hstatus
    have ht₂ := ht.run hask (sends_ensureFinalizer (by simp) f _) adopt
    have ht₃ := ht₂.run hask (sends_registerSource op f₁) register
    have hs := ht.wellFormed.stored hx hd (Lifecycle.of_eq_active_iff.1 life)
    obtain ⟨-, -, -, _, _, -, hf₁⟩ := hs.run_ensureFinalizer ht.faults rfl adopt
    -- a feed that is given its finalizer shows what it showed before
    have hstatus₁ (now : String) :
        f₁.status = some (feedStatusAfter f₁ .added (.error failure) now) :=
      feedStatusAfter_again (f := f) (.refl _) (by rw [hf₁]) (by rw [hf₁]; exact hstatus "")
    exact (ht₃.addsNoStatus (by simp)).trans (hrecord hstatus₁ record)

/-- When a reconcile of a feed with its finalizer fails twice in the same way, the second leaves
the status alone. -/
theorem run_reconcileFeed_failed_again {c'' : Cluster} {x : Json}
    (hx : c.store.find? ⟨.feeds, ns, name⟩ = some x) (hd : decodeFeed x = some f)
    (hhas : f.metadata.hasFinalizer feedFinalizer = true)
    (hrun : (reconcileFeed op ns name).run (Cluster.environmentWith ask timeText) c =
      (.error failure, c'))
    (hagain : (reconcileFeed op ns name).run (Cluster.environmentWith ask timeText) c' =
      (.error failure', c'')) (halike : failure.Alike failure') :
    c'.Adds (·.patchesStatus = false) c'' := by
  have ht := (sends_reconcileFeed op ns name).tended hask hf hw hrun
  refine run_reconcileFeed_reported ht.faults ht.wellFormed hask ?_ hagain halike
  exact fun hvalid hx' hd' now =>
    run_reconcileFeed_failed hf hw hask hx hd hhas hvalid hrun hx' hd' now

end

end Newsdesk
