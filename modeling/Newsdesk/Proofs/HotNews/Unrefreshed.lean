import Newsdesk.Proofs.Feed.Calls
import Newsdesk.Proofs.HotNews.Repeated
import Newsdesk.Proofs.Ownership.Partial

/-!
# A refresh that fails

A refresh lists the feeds, resolves the groups, writes the feed names, asks the aggregator and then
takes the feeds, one by one. Each stage only begins when the one before has ended well, so what a
failed refresh has written is decided by the stage at which it failed (`LeftAlone`). The failure is
then shown by the status, which otherwise stays as it was (`ShowsFailure`).
-/

namespace Newsdesk

open Json

/-! ## Stages -/

/-- Where a refresh can fail; among the owner changes after some that were written. -/
inductive RefreshStage where
  | listing
  | resolving
  | rewriting
  | querying
  | owning (done : List OwnerChange) (failed : OwnerChange)

/-- A refresh of a query that failed at a stage. -/
inductive RefreshFails {σ : Type} (env : Environment σ) (op : Operator) (h : HotNews) (s : σ)
    (failure : Failure) (s' : σ) : RefreshStage → Prop
  | listing (list : (listFeeds h.metadata.nsName).run env s = (.error failure, s')) :
    RefreshFails env op h s failure s' .listing
  | resolving {feeds : List Feed} {s₁ : σ}
      (list : (listFeeds h.metadata.nsName).run env s = (.ok feeds, s₁))
      (resolve : (resolvedNames op h feeds).run env s₁ = (.error failure, s')) :
    RefreshFails env op h s failure s' .resolving
  | rewriting {feeds : List Feed} {names : List String} {s₁ s₂ : σ}
      (list : (listFeeds h.metadata.nsName).run env s = (.ok feeds, s₁))
      (resolve : (resolvedNames op h feeds).run env s₁ = (.ok names, s₂))
      (new : names ≠ [] ∧ names ≠ h.spec.feedsName)
      (rewrite : (persistFeedsName h names).run env s₂ = (.error failure, s')) :
    RefreshFails env op h s failure s' .rewriting
  | querying {feeds : List Feed} {spec : HotNewsSpec} {s₁ s₂ : σ}
      (list : (listFeeds h.metadata.nsName).run env s = (.ok feeds, s₁))
      (effective : (effectiveSpec op h feeds).run env s₁ = (.ok spec, s₂))
      (fetch : (fetchNews op spec).run env s₂ = (.error failure, s')) :
    RefreshFails env op h s failure s' .querying
  | owning {feeds : List Feed} {spec : HotNewsSpec} {summary : NewsSummary}
      {owner : OwnerReference} {done rest : List OwnerChange} {failed : OwnerChange}
      {s₁ s₂ s₃ s₄ : σ}
      (list : (listFeeds h.metadata.nsName).run env s = (.ok feeds, s₁))
      (effective : (effectiveSpec op h feeds).run env s₁ = (.ok spec, s₂))
      (fetch : (fetchNews op spec).run env s₂ = (.ok summary, s₃))
      (self : ownerReference? h = some owner)
      (plan : planOwnerChanges feeds owner spec.feedsName = done ++ failed :: rest)
      (before : (writeOwnerChanges h.metadata.nsName done).run env s₃ = (.ok (), s₄))
      (own : (writeOwnerChanges h.metadata.nsName [failed]).run env s₄ = (.error failure, s')) :
    RefreshFails env op h s failure s' (.owning done failed)

/-- A refresh fails at one of its stages. -/
theorem refreshFails_of_run {σ : Type} {env : Environment σ} {op : Operator} {h : HotNews}
    {s s' : σ} {failure : Failure} (hrun : (refresh op h).run env s = (.error failure, s')) :
    ∃ stage, RefreshFails env op h s failure s' stage := by
  unfold refresh at hrun
  rcases Program.run_bind_eq_error.1 hrun with hlist | ⟨feeds, s₁, hlist, hrun⟩
  · exact ⟨_, .listing hlist⟩
  rcases Program.run_bind_eq_error.1 hrun with hspec | ⟨spec, s₂, hspec, hrun⟩
  · unfold effectiveSpec at hspec
    rcases Program.run_bind_eq_error.1 hspec with hresolve | ⟨names, s₂, hresolve, hspec⟩
    · exact ⟨_, .resolving hlist hresolve⟩
    split at hspec
    · rename_i hnew
      rcases Program.run_bind_eq_error.1 hspec with hrewrite | ⟨_, _, -, hend⟩
      · exact ⟨_, .rewriting hlist hresolve hnew hrewrite⟩
      · exact absurd hend Program.not_run_pure_eq_error
    · exact absurd hspec Program.not_run_pure_eq_error
  rcases Program.run_bind_eq_error.1 hrun with hfetch | ⟨summary, s₃, hfetch, hrun⟩
  · exact ⟨_, .querying hlist hspec hfetch⟩
  cases hself : ownerReference? h with
  | none =>
    simp only [hself] at hrun
    exact absurd hrun Program.not_run_pure_eq_error
  | some owner =>
    simp only [hself] at hrun
    rcases Program.run_bind_eq_error.1 hrun with hwrite | ⟨_, _, -, hend⟩
    · obtain ⟨done, failed, rest, s₄, hplan, hdone, hfailed⟩ :=
        exists_of_run_writeOwnerChanges_eq_error hwrite
      exact ⟨_, .owning hlist hspec hfetch hself hplan hdone hfailed⟩
    · exact absurd hend Program.not_run_pure_eq_error

/-! ## What is left alone -/

/-- The specification that is stored for a query. -/
def Store.specOf (key : ObjectKey) (s : Store) : Option Json := (s.find? key).bind (·.field? "spec")

/-- What is left alone when the refresh of a query fails at a stage. Until the aggregator has been
asked no feed is patched, and before that nothing but the feed names can change the specification.
A specification that is no object reads otherwise after its feed names were written. -/
def LeftAlone (key : ObjectKey) (c c' : Cluster) : RefreshStage → Prop
  | .listing | .resolving => c.SparesFeeds c' ∧ c'.store.specOf key = c.store.specOf key
  | .rewriting => c.SparesFeeds c' ∧ ((∃ fields, c.store.specOf key = some (.obj fields)) →
      c'.store.specOf key = c.store.specOf key)
  | .querying => c.SparesFeeds c'
  | .owning done failed => WrittenUpTo key.ns done failed c c'

/-- Nothing else that was done concerns the feeds or the specification. -/
theorem LeftAlone.between {key : ObjectKey} {c c₁ c₂ c' : Cluster} {stage : RefreshStage}
    (h : LeftAlone key c₁ c₂ stage) (hbefore : c.SparesFeeds c₁)
    (hsame : c₁.store.specOf key = c.store.specOf key) (hafter : c₂.SparesFeeds c')
    (hsame' : c'.store.specOf key = c₂.store.specOf key) : LeftAlone key c c' stage := by
  cases stage with
  | listing => exact ⟨(hbefore.trans h.1).trans hafter, hsame'.trans (h.2.trans hsame)⟩
  | resolving => exact ⟨(hbefore.trans h.1).trans hafter, hsame'.trans (h.2.trans hsame)⟩
  | rewriting =>
    refine ⟨(hbefore.trans h.1).trans hafter, fun hobj => ?_⟩
    rw [← hsame] at hobj
    exact hsame'.trans ((h.2 hobj).trans hsame)
  | querying => exact (hbefore.trans h).trans hafter
  | owning done failed => exact WrittenUpTo.between h hbefore hafter

/-- While the specifications are frozen, that of an object in use stays. -/
theorem Store.Tended.specOf_eq {s s' : Store} (h : s.Tended ["spec"] s') {key : ObjectKey}
    {x : Json} (hx : s.find? key = some x) (hkept : Kept x) : s'.specOf key = s.specOf key := by
  obtain ⟨x', hx', -, hsame⟩ := h.kept hx hkept
  unfold specOf
  rw [hx, hx']
  exact hsame.fields "spec" (by simp)

section

variable {ask : AggregatorRequest → Cluster → Reply × Cluster} (hask : Cluster.IsOutside ask)
  {timeText : Nat → String} {op : Operator} {ns name : String} {c c' : Cluster} {h : HotNews}
  {failure : Failure}
include hask

theorem reads_of_run_listFeeds {outcome : Except Failure (List Feed)}
    (hrun : (listFeeds ns).run (Cluster.environmentWith ask timeText) c = (outcome, c')) :
    c.SparesFeeds c' ∧ c'.store = c.store := by
  have hsends : (listFeeds ns).Sends (·.isPatch = false) := Program.sends_listFeeds rfl
  exact hsends.run_reads hask hrun

theorem reads_of_run_resolvedNames {feeds : List Feed} {outcome : Except Failure (List String)}
    (hrun : (resolvedNames op h feeds).run (Cluster.environmentWith ask timeText) c =
      (outcome, c')) : c.SparesFeeds c' ∧ c'.store = c.store := by
  have hsends : (resolvedNames op h feeds).Sends (·.isPatch = false) :=
    Program.sends_resolvedNames rfl
  exact hsends.run_reads hask hrun

/-- Up to the answer of the aggregator no feed is patched. -/
theorem sparesFeeds_of_run_fetchNews {feeds : List Feed} {spec : HotNewsSpec}
    {outcome : Except Failure NewsSummary} {c₁ c₂ : Cluster}
    (hlist : (listFeeds ns).run (Cluster.environmentWith ask timeText) c = (.ok feeds, c₁))
    (hspec : (effectiveSpec op h feeds).run (Cluster.environmentWith ask timeText) c₁ =
      (.ok spec, c₂))
    (hfetch : (fetchNews op spec).run (Cluster.environmentWith ask timeText) c₂ =
      (outcome, c')) : c.SparesFeeds c' := by
  have hsends : (effectiveSpec op h feeds).Sends (·.patchesFeed = false) :=
    Program.sends_effectiveSpec rfl fun _ => rfl
  have hsends' : (fetchNews op spec).Sends (·.patchesFeed = false) :=
    Program.sends_fetchNews fun _ => rfl
  have hlisted := (reads_of_run_listFeeds hask hlist).1
  exact (hlisted.trans (hsends.sparesFeeds hask hspec)).trans (hsends'.sparesFeeds hask hfetch)

variable (hf : c.faults.Faulty) (hs : Stored c.store ⟨.hotNews, ns, name⟩ h)
include hf hs

/-- Feed names that could not be written leave a specification that is an object. -/
theorem run_persistFeedsName_eq_error {names : List String}
    (hrun : (persistFeedsName h names).run (Cluster.environmentWith ask timeText) c =
      (.error failure, c')) : c.SparesFeeds c' ∧
      ((∃ fields, c.store.specOf ⟨.hotNews, ns, name⟩ = some (.obj fields)) →
        c'.store = c.store) := by
  have hsends : (persistFeedsName h names).Sends (·.patchesFeed = false) :=
    Program.sends_persistFeedsName rfl
  refine ⟨hsends.sparesFeeds hask hrun, fun ⟨fields, hspec⟩ => ?_⟩
  unfold persistFeedsName at hrun
  simp only [hs.nsName, hs.displayName] at hrun
  obtain ⟨x, hx, ho, hobj, hd⟩ := hs.found
  rw [Store.specOf, hx, Option.bind_some] at hspec
  rcases Program.run_bind_eq_error.1 hrun with hpatch | ⟨_, _, -, hend⟩
  · obtain ⟨_, hpatch⟩ := Program.run_within_eq_error hpatch
    refine (Program.run_patchObject_eq_error hf (fun old hold => ?_) hpatch).1
    cases hx.symm.trans hold
    exact exists_decodeHotNews_written_feedsName ho hobj hd hspec
  · exact absurd hend Program.not_run_pure_eq_error

/-- What a failed refresh has left alone. -/
theorem RefreshFails.leftAlone (hw : c.store.WellFormed) {stage : RefreshStage}
    (hfails : RefreshFails (Cluster.environmentWith ask timeText) op h c failure c' stage) :
    LeftAlone ⟨.hotNews, ns, name⟩ c c' stage := by
  cases hfails with
  | listing list =>
    obtain ⟨hspares, hstore⟩ := reads_of_run_listFeeds hask list
    exact ⟨hspares, by rw [hstore]⟩
  | resolving list resolve =>
    obtain ⟨hspares₁, hstore₁⟩ := reads_of_run_listFeeds hask list
    obtain ⟨hspares₂, hstore₂⟩ := reads_of_run_resolvedNames hask resolve
    exact ⟨hspares₁.trans hspares₂, by rw [hstore₂, hstore₁]⟩
  | rewriting list resolve new rewrite =>
    obtain ⟨hspares₁, hstore₁⟩ := reads_of_run_listFeeds hask list
    obtain ⟨hspares₂, hstore₂⟩ := reads_of_run_resolvedNames hask resolve
    have hstore := hstore₂.trans hstore₁
    have hf₂ := Program.faulty_of_run hask (Program.faulty_of_run hask hf list) resolve
    obtain ⟨hspares₃, hkept⟩ :=
      run_persistFeedsName_eq_error hask hf₂ (hstore.symm ▸ hs) rewrite
    rw [hstore] at hkept
    exact ⟨(hspares₁.trans hspares₂).trans hspares₃, fun hobj => by rw [hkept hobj]⟩
  | querying list effective fetch =>
    exact sparesFeeds_of_run_fetchNews hask list effective fetch
  | @owning feeds spec summary owner done rest failed c₁ c₂ c₃ c₄ list effective fetch self plan
      before own =>
    have hspares := sparesFeeds_of_run_fetchNews hask list effective fetch
    have hf₃ := Program.faulty_of_run hask (Program.faulty_of_run hask
      (Program.faulty_of_run hask hf list) effective) fetch
    rw [hs.nsName] at list before own
    -- the list has met no fault, so it shows what is stored
    obtain ⟨-, hclean⟩ := (strict_listFeeds ns).run_unfaulted hf list
    obtain ⟨hlist, -⟩ := Program.run_listObjects rfl (Program.run_within_eq_ok.1 hclean)
    have hsame (own : String) :
        c₃.store.find? ⟨.feeds, ns, own⟩ = c.store.find? ⟨.feeds, ns, own⟩ := hspares.store _ rfl
    exact (writtenUpTo_of_run hw hlist hf₃ hask hsame plan before own).between hspares
      (.refl _)

end

/-! ## What is shown -/

/-- A status that shows a failure and otherwise what it showed before. -/
structure ShowsFailure (failure : Failure) (previous status : HotNewsStatus) : Prop where
  articlesCount : status.articlesCount = previous.articlesCount
  newsLink : status.newsLink = previous.newsLink
  articlesTitles : status.articlesTitles = previous.articlesTitles
  deleted : status.conditions.filter (·.kind = .deleted) =
    previous.conditions.filter (·.kind = .deleted)
  added : ∃ condition, Condition.find? .added status.conditions = some condition ∧
    condition.success = false ∧ condition.reason = failure.reason.name ∧
    condition.message = ": ".intercalate (failure.context ++ failure.cause.chain)

theorem showsFailure_hotNewsStatusAfter (h : HotNews) (failure : Failure) (now : String) :
    ShowsFailure failure (h.status.getD .empty) (hotNewsStatusAfter h (.error failure) now) where
  articlesCount := rfl
  newsLink := rfl
  articlesTitles := rfl
  deleted := Condition.filter_upsert (nofun : ConditionKind.added ≠ .deleted) _
  added := by
    obtain ⟨condition, hfound, hsame⟩ := Condition.reports_upsert
      (hotNewsCondition h.metadata.displayName (.error failure) now)
      (h.status.getD .empty).conditions
    rw [Condition.sameOutcome_iff] at hsame
    exact ⟨condition, hfound, by rw [hsame]; rfl, by rw [hsame]; rfl, by rw [hsame]; rfl⟩

/-- From one cluster to another by one attempt to have the status of a query show a failure. There
is none if the status on record does so. -/
def AttemptsStatus (ns name : String) (current : Option HotNewsStatus) (failure : Failure)
    (c c' : Cluster) : Prop :=
  ∃ status, ShowsFailure failure (current.getD .empty) status ∧
    (current = some status ∧ c'.log = c.log ∨ ∃ reply, c'.log = c.log ++
      [⟨.api (.patchStatus .hotNews ns name (ofFields [("status", status.toJson)])), reply⟩])

section

variable {ask : AggregatorRequest → Cluster → Reply × Cluster} {timeText : Nat → String}
  {ns name : String} {c c' : Cluster} {h : HotNews}

theorem Program.log_patchObjectStatus {α : Type} [Resource α] {body : Json}
    (hvalid : (ApiRequest.get (Resource.collection α) ns name).invalid? = none) :
    ((patchObjectStatus α ns name body).run (Cluster.environmentWith ask timeText) c).2.log =
      c.log ++ [⟨.api (.patchStatus (Resource.collection α) ns name body),
        (c.askApi (.patchStatus (Resource.collection α) ns name body)).1⟩] := by
  rw [snd_run_patchObjectStatus hvalid]
  exact Cluster.log_askApi _ c

/-- Bringing a status up to date is one call, unless the status is the one on record. -/
theorem Program.log_updateStatus {α S : Type} [Resource α] [DecidableEq S] {object : α}
    {current : Option S} {status : S} {encode : S → Json} {outcome : Except Failure Unit}
    (hns : (Resource.metadata object).nsName = ns)
    (hname : (Resource.metadata object).displayName = name)
    (hvalid : (ApiRequest.get (Resource.collection α) ns name).invalid? = none)
    (hrun : (updateStatus object current status encode).run (Cluster.environmentWith ask timeText)
      c = (outcome, c')) :
    current = some status ∧ c'.log = c.log ∨ ∃ reply, c'.log = c.log ++
      [⟨.api (.patchStatus (Resource.collection α) ns name
        (ofFields [("status", encode status)])), reply⟩] := by
  unfold updateStatus at hrun
  split at hrun
  · rename_i hsame
    obtain ⟨-, rfl⟩ := Prod.mk.inj hrun
    exact .inl ⟨hsame, rfl⟩
  · dsimp only at hrun
    rw [Program.run_within, hns, hname] at hrun
    obtain ⟨-, rfl⟩ := Prod.mk.inj hrun
    exact .inr ⟨_, Program.log_patchObjectStatus hvalid⟩

theorem attemptsStatus_of_run {failure : Failure} {recorded : Except Failure Unit}
    (hns : h.metadata.nsName = ns) (hname : h.metadata.displayName = name)
    (hvalid : (ApiRequest.get .hotNews ns name).invalid? = none)
    (hrun : (recordHotNewsOutcome h (.error failure)).run (Cluster.environmentWith ask timeText)
      c = (recorded, c')) : AttemptsStatus ns name h.status failure c c' := by
  rw [run_recordHotNewsOutcome_eq] at hrun
  have hshows := showsFailure_hotNewsStatusAfter h failure (timeText c.readings)
  have hlog := Program.log_updateStatus (α := HotNews) (c := { c with readings := c.readings + 1 })
    hns hname hvalid hrun
  exact ⟨_, hshows, hlog⟩

/-! ## The whole reconcile -/

/-- From one cluster to another in which a query that was read has its finalizer, whatever faults
there are. -/
structure Adopts (ns name : String) (c : Cluster) (h₀ : HotNews) (c' : Cluster) (h : HotNews) :
    Prop where
  addressable : (ApiRequest.get .hotNews ns name).invalid? = none
  faults : c'.faults.Faulty
  wellFormed : c'.store.WellFormed
  stored : Stored c'.store ⟨.hotNews, ns, name⟩ h
  status : h.status = h₀.status
  spares : c.SparesFeeds c'
  spec : c'.store.specOf ⟨.hotNews, ns, name⟩ = c.store.specOf ⟨.hotNews, ns, name⟩

variable (hask : Cluster.IsOutside ask)
include hask

theorem adopts_of_run {h₀ : HotNews} {c₁ : Cluster} (hf : c.faults.Faulty)
    (hw : c.store.WellFormed)
    (hread : (Program.getObject? HotNews ns name).run (Cluster.environmentWith ask timeText) c =
      (.ok (some h₀), c₁))
    (hlife : Lifecycle.of h₀.metadata hotNewsFinalizer = .active)
    (hadopt : (ensureFinalizer h₀ hotNewsFinalizer).run (Cluster.environmentWith ask timeText) c₁ =
      (.ok h, c')) : Adopts ns name c h₀ c' h := by
  obtain ⟨-, hstore, hfaults⟩ := Program.run_getObject?_eq_some hf hread
  have hf₁ : c₁.faults.Faulty := hfaults.symm ▸ hf
  have hw₁ : c₁.store.WellFormed := hstore.symm ▸ hw
  obtain ⟨hs₁, hs', hstatus⟩ :=
    stored_of_run_ensureFinalizer hf hw hread (Lifecycle.of_eq_active_iff.1 hlife) hadopt
  have hsends : (Program.getObject? HotNews ns name).Sends (·.patchesFeed = false) :=
    Program.sends_getObject? rfl
  have hsends' : (ensureFinalizer h₀ hotNewsFinalizer).Sends (·.patchesFeed = false) :=
    Program.sends_ensureFinalizer fun _ => rfl
  have hspares : (ensureFinalizer h₀ hotNewsFinalizer).Sends (·.Spares ["spec"]) :=
    sends_ensureFinalizer (by simp) h₀ _
  obtain ⟨hw', ht⟩ := hspares.run_spares hask hw₁ hadopt
  obtain ⟨x₁, hx₁, hkept⟩ := hs₁.kept
  have hspec := ht.specOf_eq hx₁ hkept
  rw [hstore] at hspec
  have hvalid := Program.valid_of_run_getObject? hread
  exact {
    addressable := hvalid
    faults := Program.faulty_of_run hask hf₁ hadopt
    wellFormed := hw'
    stored := hs'
    status := hstatus
    spares := (hsends.sparesFeeds hask hread).trans (hsends'.sparesFeeds hask hadopt)
    spec := hspec }

/-- When the refresh of a query in use fails, its reconcile fails with the same failure, whatever
becomes of the status. What is left alone is decided by the stage at which the refresh failed, and
the status that is to be written keeps the last result. -/
theorem failedRefresh_keeps_rest {op : Operator} {h₀ : HotNews} {failure : Failure}
    {c₁ c₂ c₃ : Cluster} (hf : c.faults.Faulty) (hw : c.store.WellFormed)
    (hread : (Program.getObject? HotNews ns name).run (Cluster.environmentWith ask timeText) c =
      (.ok (some h₀), c₁))
    (hlife : Lifecycle.of h₀.metadata hotNewsFinalizer = .active)
    (hadopt : (ensureFinalizer h₀ hotNewsFinalizer).run (Cluster.environmentWith ask timeText) c₁ =
      (.ok h, c₂))
    (hrefresh : (refresh op h).run (Cluster.environmentWith ask timeText) c₂ =
      (.error failure, c₃)) :
    ∃ c', (reconcileHotNews op ns name).run (Cluster.environmentWith ask timeText) c =
        (.error failure, c') ∧
      (∃ stage, RefreshFails (Cluster.environmentWith ask timeText) op h c₂ failure c₃ stage) ∧
      (∀ stage, RefreshFails (Cluster.environmentWith ask timeText) op h c₂ failure c₃ stage →
        LeftAlone ⟨.hotNews, ns, name⟩ c c' stage) ∧
      AttemptsStatus ns name h₀.status failure c₃ c' := by
  have ha := adopts_of_run hask hf hw hread hlife hadopt
  obtain ⟨recorded, c', hrecord⟩ : ∃ recorded c', (recordHotNewsOutcome h (.error failure)).run
      (Cluster.environmentWith ask timeText) c₃ = (recorded, c') := ⟨_, _, rfl⟩
  refine ⟨c', ?_, refreshFails_of_run hrefresh, fun stage hfails => ?_, ?_⟩
  · unfold reconcileHotNews
    refine Program.run_bind_eq_error.2
      (.inr ⟨some h₀, c₁, Program.run_within_eq_ok.2 hread, ?_⟩)
    simp only [hlife]
    refine Program.run_bind_eq_error.2 (.inr ⟨h, c₂, hadopt, ?_⟩)
    refine Program.run_bind_eq_error.2
      (.inr ⟨.error failure, c₃, Program.run_attempt_eq_ok.2 hrefresh, ?_⟩)
    exact Program.run_bind_eq_error.2 (.inr ⟨recorded, c', Program.run_attempt_eq_ok.2 hrecord,
      Program.run_fail_eq_error.2 ⟨rfl, rfl⟩⟩)
  · have hsends : (recordHotNewsOutcome h (.error failure)).Sends (·.patchesFeed = false) :=
      Program.sends_recordHotNewsOutcome fun _ => rfl
    have hspares : (recordHotNewsOutcome h (.error failure)).Sends (·.Spares ["spec"]) :=
      sends_recordHotNewsOutcome (by simp) (by simp) h _
    have hrefreshed : (refresh op h).Sends (·.Spares []) := sends_refresh (by simp) (by simp) op h
    -- the query is still there when the failure is recorded
    obtain ⟨x, hx, hkept⟩ := ha.stored.kept
    obtain ⟨hw₃, ht₃⟩ := hrefreshed.run_spares hask ha.wellFormed hrefresh
    obtain ⟨x', hx', hkept', -⟩ := ht₃.kept hx hkept
    obtain ⟨-, ht⟩ := hspares.run_spares hask hw₃ hrecord
    exact (hfails.leftAlone hask ha.faults ha.stored ha.wellFormed).between ha.spares ha.spec
      (hsends.sparesFeeds hask hrecord) (ht.specOf_eq hx' hkept')
  · rw [← ha.status]
    exact attemptsStatus_of_run ha.stored.nsName ha.stored.displayName ha.addressable hrecord

end

namespace DroppedPatch

open GroupedQuery

/-- Neither the feed that is to be given up nor the status can be patched. -/
def faults : Script := [
  ⟨some "PATCH", some "/apis/newsaggregator.io/v1/namespaces/news/feeds/cnn", .dropped, none⟩,
  ⟨some "PATCH", some "/apis/newsaggregator.io/v1/namespaces/news/hotnews/top/status", .dropped,
    none⟩]

def start : Cluster := .start store faults cluster.replies

abbrev env : Environment Cluster :=
  Cluster.environmentWith Cluster.askAggregator fun _ => "now"

def read : Except Failure (Option HotNews) × Cluster :=
  (Program.getObject? HotNews "news" "top").run env start

def adopted : HotNews := { query with metadata := { query.metadata with
  finalizers := some [hotNewsFinalizer]
  resourceVersion := some "1001" } }

def given : Except Failure HotNews × Cluster :=
  (ensureFinalizer query hotNewsFinalizer).run env read.2

def refreshed : Except Failure NewsSummary × Cluster :=
  (refresh operator adopted).run env given.2

def result : Except Failure Action × Cluster :=
  (reconcileHotNews operator "news" "top").run env start

def failure : Failure :=
  ⟨.api .dropped, ["failed to update owner references of Feed news/cnn"]⟩

/-- The owners of a feed. -/
def ownersOfFeed (name : String) (s : Store) : List String :=
  match (s.find? ⟨.feeds, "news", name⟩).bind decodeFeed with
  | some f => f.metadata.owners.map OwnerReference.uid
  | none => []

theorem faulty : start.faults.Faulty := by
  intro r hr
  rcases List.mem_cons.1 hr with rfl | hr
  · exact ScriptRule.isFault_of_dropped rfl
  · rw [List.mem_singleton.1 hr]
    exact ScriptRule.isFault_of_dropped rfl

/-- How the steps end: the first feed has been taken when the refresh fails. -/
theorem outcomes : read.1.toOption = some (some query) ∧ given.1.toOption = some adopted ∧
    Program.failure? refreshed.1 = some failure ∧
    ownersOfFeed "bbc" result.2.store ≠ ownersOfFeed "bbc" start.store := by
  decide +kernel

end DroppedPatch

open DroppedPatch in
/-- The first of two feeds was taken, and what failed is the patch of the second. -/
theorem droppedPatch_kept_rest : start.faults.Faulty ∧ start.store.WellFormed ∧
    result.1 = .error failure ∧
    (∃ done failed, WrittenUpTo "news" done failed start result.2) ∧
    AttemptsStatus "news" "top" GroupedQuery.query.status failure refreshed.2 result.2 := by
  have hw : start.store.WellFormed := GroupedQuery.wellFormed
  obtain ⟨hread, hgiven, hrefreshed, htaken⟩ := outcomes
  obtain ⟨c', hrun, ⟨stage, hfails⟩, hleft, hstatus⟩ := failedRefresh_keeps_rest
    Cluster.isOutside_askAggregator faulty hw (Program.eq_ok_of_toOption hread) rfl
    (Program.eq_ok_of_toOption hgiven) (Program.eq_error_of_failure? hrefreshed)
  obtain rfl : result.2 = c' := congrArg Prod.snd hrun
  refine ⟨faulty, hw, congrArg Prod.fst hrun, ?_, hstatus⟩
  -- no other stage has written a feed
  have hnone (hspares : start.SparesFeeds result.2) : False := by
    refine htaken ?_
    unfold ownersOfFeed
    rw [hspares.store _ rfl]
  have hleft := hleft stage hfails
  cases stage with
  | listing => exact (hnone hleft.1).elim
  | resolving => exact (hnone hleft.1).elim
  | rewriting => exact (hnone hleft.1).elim
  | querying => exact (hnone hleft).elim
  | owning done failed => exact ⟨done, failed, hleft⟩

namespace PositionalQuery

open DroppedPatch (env)

/-- A query whose specification lists its values in order; as such it can be read. -/
def object : Json := ofFields [
  ("metadata", ofFields [("name", .str "top"), ("namespace", .str "news"), ("uid", .str "u"),
    ("resourceVersion", .str "1"), ("finalizers", ofStrings [hotNewsFinalizer])]),
  ("spec", .arr [ofStrings ["election"], .null, .null, ofStrings ["cnn"], ofStrings ["daily"],
    ofFields [("titlesCount", ofInt 1)]])]

def query : HotNews :=
  ⟨{ Metadata.empty with
      name := some "top", ns := some "news", uid := some "u", resourceVersion := some "1"
      finalizers := some [hotNewsFinalizer] },
    ⟨["election"], none, none, ["cnn"], ["daily"], ⟨1⟩⟩, none⟩

def bbc : Feed := GroupedQuery.feed "bbc" []

def start : Cluster := .start ⟨[
  (⟨.hotNews, "news", "top"⟩, object),
  (⟨.feeds, "news", "bbc"⟩, feedToJson bbc),
  (⟨.configMaps, "news", "groups"⟩, GroupedQuery.groups)], 0⟩ [] []

def read : Except Failure (Option HotNews) × Cluster :=
  (Program.getObject? HotNews "news" "top").run env start

def listed : Except Failure (List Feed) × Cluster := (listFeeds "news").run env read.2

def resolved : Except Failure (List String) × Cluster :=
  (resolvedNames GroupedQuery.operator query [bbc]).run env listed.2

def rewritten : Except Failure Unit × Cluster := (persistFeedsName query ["bbc"]).run env resolved.2

def result : Except Failure Action × Cluster :=
  (reconcileHotNews GroupedQuery.operator "news" "top").run env start

def failure : Failure :=
  ⟨.api .undecodable, ["failed to update feedsName of HotNews news/top"]⟩

end PositionalQuery

open DroppedPatch (env) in
open PositionalQuery in
/-- A specification that is no object is lost when its feed names are written, though the write
counts as failed: what is stored then cannot be read. -/
theorem positionalSpec_lost : start.faults.Faulty ∧ start.store.WellFormed ∧
    read = (.ok (some query), read.2) ∧
    Lifecycle.of query.metadata hotNewsFinalizer = .active ∧
    (ensureFinalizer query hotNewsFinalizer).run env read.2 = (.ok query, read.2) ∧
    RefreshFails env GroupedQuery.operator query read.2 failure rewritten.2 .rewriting ∧
    result.1 = .error failure ∧
    start.store.specOf ⟨.hotNews, "news", "top"⟩ = object.field? "spec" ∧
    result.2.store.specOf ⟨.hotNews, "news", "top"⟩ =
      some (.obj [("feedsName", .arr [.str "bbc"])]) := by
  have hread : read = (.ok (some query), read.2) := Program.eq_ok_of_toOption (by decide +kernel)
  have hlist : listed = (.ok [bbc], listed.2) := Program.eq_ok_of_toOption (by decide +kernel)
  have hresolve : resolved = (.ok ["bbc"], resolved.2) :=
    Program.eq_ok_of_toOption (by decide +kernel)
  have hrewrite : rewritten = (.error failure, rewritten.2) :=
    Program.eq_error_of_failure? (by decide +kernel)
  have hresult : Program.failure? result.1 = some failure ∧
      result.2.store.specOf ⟨.hotNews, "news", "top"⟩ =
        some (.obj [("feedsName", .arr [.str "bbc"])]) := by
    decide +kernel
  have hfails : RefreshFails env GroupedQuery.operator query read.2 failure rewritten.2
      .rewriting := .rewriting hlist hresolve (by decide) hrewrite
  refine ⟨nofun, Store.wellFormed_of_forall (by decide) (by decide +kernel), hread, rfl, rfl,
    hfails, congrArg Prod.fst (Program.eq_error_of_failure? hresult.1), rfl, hresult.2⟩

end Newsdesk
