import Newsdesk.Proofs.Cluster.Stored
import Newsdesk.Proofs.Feed.Calls
import Newsdesk.Proofs.Resource.Reported

/-!
# A feed that is reconciled again

After a reconcile of a feed in use that ended well, the next one finds the finalizer and the status
that it would write: it registers the source once more and patches nothing.
-/

namespace Newsdesk

open Json Text

/-! ## Parts -/

section

variable {σ : Type} {env : Environment σ} {s s' : σ}

theorem run_registerSource_eq_ok {op : Operator} {f : Feed} :
    (registerSource op f).run env s = (.ok (), s') ↔ ∃ endpoint,
      op.aggregator.sourcesEndpoint = .ok endpoint ∧
        (Aggregator.registration endpoint (trim f.spec.url)).invalid? = none ∧
        Aggregator.callOutcome endpoint
          (env.aggregator (Aggregator.registration endpoint (trim f.spec.url)) s).1 = .ok () ∧
        (env.aggregator (Aggregator.registration endpoint (trim f.spec.url)) s).2 = s' := by
  unfold registerSource Program.addSource
  rw [Program.run_within_eq_ok, Program.run_bind_eq_ok]
  constructor
  · rintro ⟨endpoint, _, hfound, h⟩
    obtain ⟨hendpoint, rfl⟩ := Program.run_ofExcept_eq_ok.1 hfound
    exact ⟨endpoint, hendpoint, Program.run_callAggregator_eq_ok.1 h⟩
  · rintro ⟨endpoint, hendpoint, h⟩
    exact ⟨endpoint, s, Program.run_ofExcept_eq_ok.2 ⟨hendpoint, rfl⟩,
      Program.run_callAggregator_eq_ok.2 h⟩

end

section

variable {c c' : Cluster} {ask : AggregatorRequest → Cluster → Reply × Cluster}
  {timeText : Nat → String} {kind : ConditionKind} {outcome : Except Failure Unit} {f : Feed}

/-- Recording an attempt is bringing the status up to date, however that ends. -/
theorem run_recordFeedOutcome :
    (recordFeedOutcome f kind outcome).run (Cluster.environmentWith ask timeText) c =
      (.ok (), ((updateStatus f f.status (feedStatusAfter f kind outcome (timeText c.readings))
        FeedStatus.toJson).run (Cluster.environmentWith ask timeText)
          { c with readings := c.readings + 1 }).2) := by
  refine Program.run_bind_eq_ok.2 ⟨timeText c.readings, { c with readings := c.readings + 1 },
    rfl, ?_⟩
  exact Program.run_bind_eq_ok.2 ⟨_, _, Program.run_attempt _ _ _,
    Program.run_pure_eq_ok.2 ⟨rfl, rfl⟩⟩

/-- An attempt that the status shows is not recorded. -/
theorem run_recordFeedOutcome_of_reported
    (h : f.status = some (feedStatusAfter f kind outcome (timeText c.readings))) :
    (recordFeedOutcome f kind outcome).run (Cluster.environmentWith ask timeText) c =
      (.ok (), { c with readings := c.readings + 1 }) := by
  rw [run_recordFeedOutcome]
  unfold updateStatus
  rw [if_pos h]
  rfl

end

/-! ## After a success -/

section

variable {c c' : Cluster} {ask : AggregatorRequest → Cluster → Reply × Cluster}
  {timeText : Nat → String} {kind : ConditionKind} {outcome : Except Failure Unit} {f : Feed}
  {ns name : String}

/-- A feed in use shows the attempt that was recorded, whenever it is looked at. -/
theorem Stored.run_recordFeedOutcome (hf : c.faults = [])
    (hvalid : (ApiRequest.get .feeds ns name).invalid? = none)
    (hs : Stored c.store ⟨.feeds, ns, name⟩ f) :
    ∃ c' f', (recordFeedOutcome f kind outcome).run (Cluster.environmentWith ask timeText) c =
        (.ok (), c') ∧ c'.faults = [] ∧ Stored c'.store ⟨.feeds, ns, name⟩ f' ∧
      f'.spec = f.spec ∧ f'.metadata.finalizers = f.metadata.finalizers ∧
      ∀ now, f'.status = some (feedStatusAfter f' kind outcome now) := by
  have hf₁ : ({ c with readings := c.readings + 1 } : Cluster).faults = [] := hf
  obtain ⟨c', version, hupdate, hc, hs'⟩ := Stored.run_updateStatus hf₁ hs.nsName hs.displayName
    hvalid (FeedStatus.readsBack (feedStatusAfter f kind outcome (timeText c.readings))) hs rfl
  refine ⟨c', _, ?_, hc.faults.trans hf, hs', rfl, rfl, fun now => ?_⟩
  · rw [Newsdesk.run_recordFeedOutcome, hupdate]
  · exact feedStatusAfter_again (f := f) (.refl outcome) rfl rfl

end

section

variable {answer : AggregatorRequest → Reply} {timeText : Nat → String} {op : Operator}
  {ns name : String} {c c' : Cluster} {f : Feed} {action : Action} (hf : c.faults = [])
  (hs : Stored c.store ⟨.feeds, ns, name⟩ f)
include hf hs

/-- A reconcile of a feed in use that ended well has registered its source and recorded this. -/
theorem run_reconcileFeed_active
    (hrun : (reconcileFeed op ns name).run
      (Cluster.environmentWith (Cluster.answering answer) timeText) c = (.ok action, c')) :
    action = .awaitChange ∧ c'.faults = [] ∧
      (ApiRequest.get .feeds ns name).invalid? = none ∧
      (∃ endpoint, op.aggregator.sourcesEndpoint = .ok endpoint ∧
        (Aggregator.registration endpoint (trim f.spec.url)).invalid? = none ∧
        Aggregator.callOutcome endpoint
          (answer (Aggregator.registration endpoint (trim f.spec.url))) = .ok ()) ∧
      ∃ f', Stored c'.store ⟨.feeds, ns, name⟩ f' ∧ f'.spec = f.spec ∧
        f'.metadata.hasFinalizer feedFinalizer = true ∧
        ∀ now, f'.status = some (feedStatusAfter f' .added (.ok ()) now) := by
  unfold reconcileFeed at hrun
  obtain ⟨found, c₁, hget, hrun⟩ := Program.run_bind_eq_ok.1 hrun
  obtain ⟨rfl, hc₁, hvalid⟩ := hs.run_getObject? hf (Program.run_within_eq_ok.1 hget)
  have hlife : Lifecycle.of f.metadata feedFinalizer = .active :=
    Lifecycle.of_eq_active_iff.2 hs.active
  simp only [hlife] at hrun
  obtain ⟨f₁, c₂, hensure, hrun⟩ := Program.run_bind_eq_ok.1 hrun
  obtain ⟨hs₂, -, hc₂, finalizers, version₁, hfinalizers, hf₁⟩ :=
    Stored.run_ensureFinalizer (hc₁.faults.trans hf) (hc₁.store.symm ▸ hs) rfl hensure
  have hspec : f₁.spec = f.spec := by rw [hf₁]
  have hadopted : f₁.metadata.hasFinalizer feedFinalizer = true :=
    hasFinalizer_of_withFinalizer (by rw [hf₁]; exact hfinalizers)
  obtain ⟨outcome, c₃, hregister, hrun⟩ := Program.run_bind_eq_ok.1 hrun
  rw [Program.run_attempt_eq_ok] at hregister
  obtain ⟨⟨⟩, c₄, hrecord, hrun⟩ := Program.run_bind_eq_ok.1 hrun
  cases outcome with
  | error failure => exact absurd hrun Program.not_run_fail_eq_ok
  | ok done =>
    obtain ⟨rfl, rfl⟩ := Program.run_pure_eq_ok.1 hrun
    obtain ⟨endpoint, hendpoint, hrequest, hout, rfl⟩ := run_registerSource_eq_ok.1 hregister
    let request := Aggregator.registration endpoint (trim f₁.spec.url)
    have hf₃ : (Cluster.answering answer request c₂).2.faults = [] :=
      (hc₁.trans hc₂).faults.trans hf
    have hs₃ : Stored (Cluster.answering answer request c₂).2.store ⟨.feeds, ns, name⟩ f₁ := hs₂
    obtain ⟨c₅, f', hrecord', hf₅, hs₅, hspec', hfinalizers', hstatus⟩ :=
      hs₃.run_recordFeedOutcome hf₃ hvalid
    cases hrecord.symm.trans hrecord'
    rw [hspec] at hrequest hout hspec'
    refine ⟨rfl, hf₅, hvalid, ⟨endpoint, hendpoint, hrequest, hout⟩, f', hs₅, hspec', ?_, hstatus⟩
    unfold Metadata.hasFinalizer at hadopted ⊢
    rw [hfinalizers']
    exact hadopted

/-- A feed whose registration is on record is registered once more, and nothing is patched. -/
theorem run_reconcileFeed_settled {endpoint : Url}
    (hvalid : (ApiRequest.get .feeds ns name).invalid? = none)
    (hhas : f.metadata.hasFinalizer feedFinalizer = true)
    (hstatus : ∀ now, f.status = some (feedStatusAfter f .added (.ok ()) now))
    (hendpoint : op.aggregator.sourcesEndpoint = .ok endpoint)
    (hrequest : (Aggregator.registration endpoint (trim f.spec.url)).invalid? = none)
    (hout : Aggregator.callOutcome endpoint
      (answer (Aggregator.registration endpoint (trim f.spec.url))) = .ok ()) :
    ∃ c' read answered, (reconcileFeed op ns name).run
        (Cluster.environmentWith (Cluster.answering answer) timeText) c = (.ok .awaitChange, c') ∧
      c'.store = c.store ∧ c'.log = c.log ++ [⟨.api (.get .feeds ns name), read⟩,
        ⟨.aggregator (Aggregator.registration endpoint (trim f.spec.url)), answered⟩] := by
  obtain ⟨x, hx, -, -, hd⟩ := hs.found
  have hlife : Lifecycle.of f.metadata feedFinalizer = .active :=
    Lifecycle.of_eq_active_iff.2 hs.active
  let c₁ := c.logged (.api (.get .feeds ns name)) (c.store.answer (.get .feeds ns name)).1
  let c₂ := c₁.logged (.aggregator (Aggregator.registration endpoint (trim f.spec.url)))
    (answer (Aggregator.registration endpoint (trim f.spec.url)))
  have hget : (Program.getObject? Feed ns name).run
      (Cluster.environmentWith (Cluster.answering answer) timeText) c = (.ok (some f), c₁) :=
    Program.run_getObject?_of_stored hf hvalid hx hd
  have hregister : (registerSource op f).run
      (Cluster.environmentWith (Cluster.answering answer) timeText) c₁ = (.ok (), c₂) :=
    run_registerSource_eq_ok.2 ⟨endpoint, hendpoint, hrequest, hout, rfl⟩
  refine ⟨{ c₂ with readings := c₂.readings + 1 }, _, _, ?_, rfl, List.append_assoc _ _ _⟩
  refine Program.run_bind_eq_ok.2 ⟨some f, c₁, Program.run_within_eq_ok.2 hget, ?_⟩
  simp only [hlife]
  refine Program.run_bind_eq_ok.2 ⟨f, c₁, ?_, ?_⟩
  · rw [ensureFinalizer_of_has hhas]
    rfl
  refine Program.run_bind_eq_ok.2 ⟨.ok (), c₂, Program.run_attempt_eq_ok.2 hregister, ?_⟩
  exact Program.run_bind_eq_ok.2 ⟨(), _, run_recordFeedOutcome_of_reported (hstatus _),
    Program.run_pure_eq_ok.2 ⟨rfl, rfl⟩⟩

end

section

variable {answer : AggregatorRequest → Reply} {timeText : Nat → String} {op : Operator}
  {ns name : String} {c c' : Cluster} {f : Feed} {action : Action}

/-- The reconcile of a feed after one that ended well registers the source, patches nothing and ends
well too. -/
theorem run_reconcileFeed_again (hf : c.faults = []) (hs : Stored c.store ⟨.feeds, ns, name⟩ f)
    (hrun : (reconcileFeed op ns name).run
      (Cluster.environmentWith (Cluster.answering answer) timeText) c = (.ok action, c')) :
    ∃ endpoint c'' read answered, op.aggregator.sourcesEndpoint = .ok endpoint ∧
      (reconcileFeed op ns name).run
        (Cluster.environmentWith (Cluster.answering answer) timeText) c' = (.ok action, c'') ∧
      c''.store = c'.store ∧ c''.log = c'.log ++ [⟨.api (.get .feeds ns name), read⟩,
        ⟨.aggregator (Aggregator.registration endpoint (trim f.spec.url)), answered⟩] := by
  obtain ⟨rfl, hf', hvalid, ⟨endpoint, hendpoint, hrequest, hout⟩, f', hs', hspec, hhas, hstatus⟩ :=
    run_reconcileFeed_active hf hs hrun
  rw [← hspec] at hrequest hout ⊢
  obtain ⟨c'', read, answered, hagain⟩ :=
    run_reconcileFeed_settled hf' hs' hvalid hhas hstatus hendpoint hrequest hout
  exact ⟨endpoint, c'', read, answered, hendpoint, hagain⟩

end

end Newsdesk
