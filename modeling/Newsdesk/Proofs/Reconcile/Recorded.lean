import Newsdesk.Proofs.Feed.Failed
import Newsdesk.Proofs.HotNews.Failed
import Newsdesk.Proofs.HotNews.Unrefreshed

/-!
# Failures on record

A reconcile that has read its object and fails is to leave the failure in the status of the object
(`OnRecord`): it sends a status that shows it, or has read one. The failures of the attempts
themselves are left on record: registering and removing a source, and refreshing a query. Three
others are passed on without a record (`FeedUnrecorded`, `QueryUnrecorded`): a finalizer that could
not be given, a query that could not be removed, and a status that could not be written.
-/

namespace Newsdesk

open Json

/-! ## Records -/

/-- Conditions of which one shows a failure of an attempt of some kind. -/
def ShowFailure (kind : ConditionKind) (failure : Failure) (conditions : List Condition) : Prop :=
  ∃ condition ∈ conditions, condition.kind = kind ∧ condition.success = false ∧
    condition.reason = failure.reason.name ∧
    condition.message = ": ".intercalate (failure.context ++ failure.cause.chain)

/-- A request that patches the status of an object with conditions that show a failure. -/
def SentRequest.Records (key : ObjectKey) (kind : ConditionKind) (failure : Failure) :
    SentRequest → Prop
  | .api (.patchStatus collection ns name body) => key = ⟨collection, ns, name⟩ ∧
    ∃ conditions, decodeList Condition.decode ((body.field "status").field "conditions") =
      some conditions ∧ ShowFailure kind failure conditions
  | _ => False

/-- A failure was shown by the conditions that were read, or is recorded by a request between two
clusters. -/
def OnRecord (key : ObjectKey) (kind : ConditionKind) (failure : Failure) (read : List Condition)
    (c c' : Cluster) : Prop :=
  ShowFailure kind failure read ∨ ∃ calls, c'.log = c.log ++ calls ∧
    ∃ e ∈ calls, e.request.Records key kind failure

section

variable {key : ObjectKey} {kind : ConditionKind} {failure : Failure}
  {conditions : List Condition} {c c₁ c' : Cluster}

theorem showFailure_upsert (name now : String) (conditions : List Condition) :
    ShowFailure kind failure
      (Condition.upsert (failureCondition kind failure name now) conditions).1 := by
  obtain ⟨condition, hfound, hsame⟩ :=
    Condition.reports_upsert (failureCondition kind failure name now) conditions
  rw [Condition.sameOutcome_iff] at hsame
  refine ⟨condition, List.mem_of_find?_eq_some hfound, ?_⟩
  rw [hsame]
  exact ⟨rfl, rfl, rfl, rfl⟩

theorem OnRecord.of_adds {allowed : SentRequest → Prop}
    (h : OnRecord key kind failure conditions c₁ c') (hadds : c.Adds allowed c₁) :
    OnRecord key kind failure conditions c c' := by
  rcases h with h | ⟨calls, hlog, e, he, hrecords⟩
  · exact .inl h
  · obtain ⟨before, hbefore, -⟩ := hadds
    refine .inr ⟨before ++ calls, ?_, e, List.mem_append_right _ he, hrecords⟩
    rw [hlog, hbefore, List.append_assoc]

theorem not_onRecord_of_adds (hread : ¬ ShowFailure kind failure conditions)
    (h : c.Adds (·.patchesStatus = false) c') :
    ¬ OnRecord key kind failure conditions c c' := by
  rintro (hshown | ⟨calls, hlog, e, he, hrecords⟩)
  · exact hread hshown
  · obtain ⟨calls', hlog', hnone⟩ := h
    obtain rfl := List.append_cancel_left (hlog.symm.trans hlog')
    have hstatus := hnone e he
    -- a request that records a failure patches a status
    unfold SentRequest.Records at hrecords
    split at hrecords
    · rename_i heq
      rw [heq] at hstatus
      cases hstatus
    · exact hrecords

theorem field_conditions_feedStatus (status : FeedStatus) :
    decodeList Condition.decode
      (((ofFields [("status", status.toJson)]).field "status").field "conditions") =
      some status.conditions := Condition.decodeList_toJson status.conditions

theorem field_conditions_hotNewsStatus (status : HotNewsStatus) :
    decodeList Condition.decode
      (((ofFields [("status", status.toJson)]).field "status").field "conditions") =
      some status.conditions := by
  have hfield : status.toJson.field "conditions" =
      .arr (status.conditions.map Condition.toJson) := by
    unfold Json.field HotNewsStatus.toJson ofFields
    rw [field?_obj, lookup_sortFields]
    rfl
  exact (congrArg _ hfield).trans (Condition.decodeList_toJson status.conditions)

end

/-! ## Recording -/

section

variable {ask : AggregatorRequest → Cluster → Reply × Cluster} {timeText : Nat → String}
  {ns name : String} {c c' : Cluster} {failure : Failure}

theorem onRecord_of_run_recordFeedOutcome {f : Feed} {kind : ConditionKind}
    (hns : f.metadata.nsName = ns) (hname : f.metadata.displayName = name)
    (hvalid : (ApiRequest.get .feeds ns name).invalid? = none)
    (hrun : (recordFeedOutcome f kind (.error failure)).run
      (Cluster.environmentWith ask timeText) c = (.ok (), c')) :
    OnRecord ⟨.feeds, ns, name⟩ kind failure (f.status.getD ⟨[]⟩).conditions c c' := by
  rw [run_recordFeedOutcome] at hrun
  have hshows : ShowFailure kind failure
      (feedStatusAfter f kind (.error failure) (timeText c.readings)).conditions :=
    showFailure_upsert _ _ _
  generalize feedStatusAfter f kind (.error failure) (timeText c.readings) = status at hrun hshows
  have hwrite : (updateStatus f f.status status FeedStatus.toJson).run
      (Cluster.environmentWith ask timeText) { c with readings := c.readings + 1 } = (_, c') :=
    Prod.ext rfl (Prod.mk.inj hrun).2
  rcases Program.log_updateStatus (α := Feed) hns hname hvalid hwrite with ⟨hsame, -⟩ | ⟨_, hlog⟩
  · refine .inl ?_
    rw [hsame]
    exact hshows
  · exact .inr ⟨_, hlog, _, List.mem_singleton.2 rfl, rfl, _, field_conditions_feedStatus _, hshows⟩

theorem onRecord_of_run_recordHotNewsOutcome {h : HotNews} {recorded : Except Failure Unit}
    (hns : h.metadata.nsName = ns) (hname : h.metadata.displayName = name)
    (hvalid : (ApiRequest.get .hotNews ns name).invalid? = none)
    (hrun : (recordHotNewsOutcome h (.error failure)).run
      (Cluster.environmentWith ask timeText) c = (recorded, c')) :
    OnRecord ⟨.hotNews, ns, name⟩ .added failure (h.status.getD .empty).conditions c c' := by
  rw [run_recordHotNewsOutcome_eq] at hrun
  have hshows : ShowFailure .added failure
      (hotNewsStatusAfter h (.error failure) (timeText c.readings)).conditions :=
    showFailure_upsert _ _ _
  generalize hotNewsStatusAfter h (.error failure) (timeText c.readings) = status at hrun hshows
  rcases Program.log_updateStatus (α := HotNews) hns hname hvalid hrun with ⟨hsame, -⟩ | ⟨_, hlog⟩
  · refine .inl ?_
    rw [hsame]
    exact hshows
  · exact .inr ⟨_, hlog, _, List.mem_singleton.2 rfl, rfl, _, field_conditions_hotNewsStatus _,
      hshows⟩

end

/-! ## Failed reconciles -/

/-- A failure of a feed's reconcile that is passed on without a record: the feed could not be given
its finalizer. -/
structure FeedUnrecorded (env : Environment Cluster) (f : Feed) (failure : Failure)
    (c c₁ c' : Cluster) : Prop where
  life : Lifecycle.of f.metadata feedFinalizer = .active
  adopt : (ensureFinalizer f feedFinalizer).run env c₁ = (.error failure, c')
  silent : c.Adds (·.patchesStatus = false) c'

/-- The failures of a query's reconcile that are passed on without a record. -/
inductive QueryUnrecorded (env : Environment Cluster) (op : Operator) (h : HotNews)
    (failure : Failure) (c c₁ c' : Cluster) : Prop
  /-- The query could not be removed. -/
  | unreleased (life : Lifecycle.of h.metadata hotNewsFinalizer = .finalizing)
      (release : (handleDeletion h hotNewsFinalizer (releaseFeeds h)).run env c₁ =
        (.error failure, c'))
      (silent : c.Adds (·.patchesStatus = false) c')
  /-- It could not be given its finalizer. -/
  | unadopted (life : Lifecycle.of h.metadata hotNewsFinalizer = .active)
      (adopt : (ensureFinalizer h hotNewsFinalizer).run env c₁ = (.error failure, c'))
      (silent : c.Adds (·.patchesStatus = false) c')
  /-- Its refresh has ended well, which could not be recorded. -/
  | unwritten {h₁ : HotNews} {c₂ c₃ : Cluster} {summary : NewsSummary}
      (life : Lifecycle.of h.metadata hotNewsFinalizer = .active)
      (adopt : (ensureFinalizer h hotNewsFinalizer).run env c₁ = (.ok h₁, c₂))
      (refreshed : (refresh op h₁).run env c₂ = (.ok summary, c₃))
      (silent : c.Adds (·.patchesStatus = false) c₃)
      (record : (recordHotNewsOutcome h₁ (.ok summary)).run env c₃ = (.error failure, c'))

section

variable {ask : AggregatorRequest → Cluster → Reply × Cluster} {timeText : Nat → String}
  {op : Operator} {ns name : String} {c c₁ c' : Cluster} {failure : Failure}
  (hask : Cluster.IsOutside ask) (hf : c.faults.Faulty) (hw : c.store.WellFormed)
include hask hf hw

/-- A failed reconcile of a feed leaves the failure on record, unless the feed could not be given
its finalizer. -/
theorem reconcileFeed_onRecord {f : Feed}
    (hread : (Program.getObject? Feed ns name).run (Cluster.environmentWith ask timeText) c =
      (.ok (some f), c₁))
    (hrun : (reconcileFeed op ns name).run (Cluster.environmentWith ask timeText) c =
      (.error failure, c')) :
    OnRecord ⟨.feeds, ns, name⟩ (attemptKind f.metadata) failure (f.status.getD ⟨[]⟩).conditions
        c c' ∨
      FeedUnrecorded (Cluster.environmentWith ask timeText) f failure c c₁ c' := by
  have hvalid := Program.valid_of_run_getObject? hread
  have hlooked : (Program.getObject? Feed ns name).Sends (·.patchesStatus = false) :=
    Program.sends_getObject? rfl
  have hadds := hlooked.adds hask hread
  have hadopted : (ensureFinalizer f feedFinalizer).Sends (·.patchesStatus = false) :=
    Program.sends_ensureFinalizer fun _ => rfl
  have hsame {f' : Feed} {c₁' : Cluster}
      (h : (Program.getObject? Feed ns name).run (Cluster.environmentWith ask timeText) c =
        (.ok (some f'), c₁')) : f' = f ∧ c₁' = c₁ := by
    cases hread.symm.trans h
    exact ⟨rfl, rfl⟩
  cases feedFails_of_run hrun with
  | unread read =>
    rw [Program.run_within, hread] at read
    cases congrArg Prod.fst read
  | @unfinished f' _ _ read life cleanup record =>
    obtain ⟨rfl, rfl⟩ := hsame read
    obtain ⟨⟨x, hx, hd⟩, -⟩ := Program.run_getObject?_eq_some hf hread
    obtain ⟨hname, hns⟩ := hw.name_eq hx hd
    have hcleanup : (handleDeletion f' feedFinalizer (removeSource op f')).Sends (·.Spares []) :=
      sends_handleDeletion (by simp) f' _ (sends_removeSource op f')
    rw [attemptKind_of_finalizing life]
    exact .inl (((onRecord_of_run_recordFeedOutcome hns hname hvalid record).of_adds
      (hcleanup.adds hask cleanup)).of_adds hadds)
  | unadopted read life adopt =>
    obtain ⟨rfl, rfl⟩ := hsame read
    exact .inr ⟨life, adopt, hadds.trans (hadopted.adds hask adopt)⟩
  | @unregistered _ f₁ _ _ _ read life adopt register record =>
    obtain ⟨rfl, rfl⟩ := hsame read
    obtain ⟨-, hs, hstatus⟩ :=
      stored_of_run_ensureFinalizer hf hw hread (Lifecycle.of_eq_active_iff.1 life) adopt
    have hregister : (registerSource op f₁).Sends (·.Spares []) := sends_registerSource op f₁
    have hrecord := onRecord_of_run_recordFeedOutcome hs.nsName hs.displayName hvalid record
    rw [hstatus] at hrecord
    rw [attemptKind_of_active life]
    exact .inl ((hrecord.of_adds (hregister.adds hask register)).of_adds
      (hadds.trans (hadopted.adds hask adopt)))

/-- A failed reconcile of a query leaves the failure on record if it is one of its refresh. -/
theorem reconcileHotNews_onRecord {h : HotNews}
    (hread : (Program.getObject? HotNews ns name).run (Cluster.environmentWith ask timeText) c =
      (.ok (some h), c₁))
    (hrun : (reconcileHotNews op ns name).run (Cluster.environmentWith ask timeText) c =
      (.error failure, c')) :
    OnRecord ⟨.hotNews, ns, name⟩ (attemptKind h.metadata) failure
        (h.status.getD .empty).conditions c c' ∨
      QueryUnrecorded (Cluster.environmentWith ask timeText) op h failure c c₁ c' := by
  have hvalid := Program.valid_of_run_getObject? hread
  have hlooked : (Program.getObject? HotNews ns name).Sends (·.patchesStatus = false) :=
    Program.sends_getObject? rfl
  have hadds := hlooked.adds hask hread
  have hadopted : (ensureFinalizer h hotNewsFinalizer).Sends (·.patchesStatus = false) :=
    Program.sends_ensureFinalizer fun _ => rfl
  have hrefreshed (h₁ : HotNews) : (refresh op h₁).Sends (·.patchesStatus = false) :=
    Program.Sends.imp (sends_refresh (by simp) (by simp) op h₁) fun hspares =>
      SentRequest.Spares.patchesStatus hspares (List.mem_singleton.2 rfl)
  have hsame {h' : HotNews} {c₁' : Cluster}
      (hget : (Program.getObject? HotNews ns name).run (Cluster.environmentWith ask timeText) c =
        (.ok (some h'), c₁')) : h' = h ∧ c₁' = c₁ := by
    cases hread.symm.trans hget
    exact ⟨rfl, rfl⟩
  cases hotNewsFails_of_run hrun with
  | unread read =>
    rw [Program.run_within, hread] at read
    cases congrArg Prod.fst read
  | @unreleased h' _ read life release =>
    obtain ⟨rfl, rfl⟩ := hsame read
    have hreleased : (handleDeletion h' hotNewsFinalizer (releaseFeeds h')).Sends
        (·.Spares ["status"]) :=
      sends_handleDeletion (by simp) h' _ (sends_releaseFeeds (by simp) h')
    have hsilent := (hreleased.adds hask release).imp fun _ hspares =>
      SentRequest.Spares.patchesStatus hspares (List.mem_singleton.2 rfl)
    exact .inr (.unreleased life release (hadds.trans hsilent))
  | unadopted read life adopt =>
    obtain ⟨rfl, rfl⟩ := hsame read
    exact .inr (.unadopted life adopt (hadds.trans (hadopted.adds hask adopt)))
  | @unrefreshed _ h₁ _ _ _ _ read life adopt refreshed record =>
    obtain ⟨rfl, rfl⟩ := hsame read
    obtain ⟨-, hs, hstatus⟩ :=
      stored_of_run_ensureFinalizer hf hw hread (Lifecycle.of_eq_active_iff.1 life) adopt
    have hrecord := onRecord_of_run_recordHotNewsOutcome hs.nsName hs.displayName hvalid record
    rw [hstatus] at hrecord
    rw [attemptKind_of_active life]
    exact .inl ((hrecord.of_adds ((hrefreshed h₁).adds hask refreshed)).of_adds
      (hadds.trans (hadopted.adds hask adopt)))
  | @unrecorded _ h₁ _ _ _ _ read life adopt refreshed record =>
    obtain ⟨rfl, rfl⟩ := hsame read
    exact .inr (.unwritten life adopt refreshed ((hadds.trans (hadopted.adds hask adopt)).trans
      ((hrefreshed h₁).adds hask refreshed)) record)

end

/-- What becomes of the failure of a reconcile that has read its object, whatever faults there are:
it is left on record, or it is one of those that are passed on without a record. -/
theorem failures_left_on_record {ask : AggregatorRequest → Cluster → Reply × Cluster}
    {timeText : Nat → String} {op : Operator} {ns name : String} {c c₁ c' : Cluster}
    {failure : Failure} (hask : Cluster.IsOutside ask) (hf : c.faults.Faulty)
    (hw : c.store.WellFormed) :
    (∀ f : Feed,
      (Program.getObject? Feed ns name).run (Cluster.environmentWith ask timeText) c =
        (.ok (some f), c₁) →
      (reconcileFeed op ns name).run (Cluster.environmentWith ask timeText) c =
        (.error failure, c') →
      OnRecord ⟨.feeds, ns, name⟩ (attemptKind f.metadata) failure
          (f.status.getD ⟨[]⟩).conditions c c' ∨
        FeedUnrecorded (Cluster.environmentWith ask timeText) f failure c c₁ c') ∧
    ∀ h : HotNews,
      (Program.getObject? HotNews ns name).run (Cluster.environmentWith ask timeText) c =
        (.ok (some h), c₁) →
      (reconcileHotNews op ns name).run (Cluster.environmentWith ask timeText) c =
        (.error failure, c') →
      OnRecord ⟨.hotNews, ns, name⟩ (attemptKind h.metadata) failure
          (h.status.getD .empty).conditions c c' ∨
        QueryUnrecorded (Cluster.environmentWith ask timeText) op h failure c c₁ c' :=
  ⟨fun _ => reconcileFeed_onRecord hask hf hw, fun _ => reconcileHotNews_onRecord hask hf hw⟩

namespace LeavingFeed

open GroupedQuery (operator)

/-- A feed that is to be deleted, of which the aggregator does not give up the source. -/
def feed : Feed :=
  ⟨{ Metadata.empty with
      name := some "cnn", ns := some "news", resourceVersion := some "1"
      deletionTimestamp := Timestamp.parse? "2025-01-01T00:00:00Z"
      finalizers := some [feedFinalizer] }, ⟨"cnn", "http://cnn"⟩, none⟩

def start : Cluster := .start ⟨[(⟨.feeds, "news", "cnn"⟩, feedToJson feed)], 0⟩ [] []

def env : Environment Cluster :=
  Cluster.environmentWith (Cluster.answering fun _ => .answered 500 .empty) fun _ => "now"

def read : Except Failure (Option Feed) × Cluster :=
  (Program.getObject? Feed "news" "cnn").run env start

def result : Except Failure Action × Cluster := (reconcileFeed operator "news" "cnn").run env start

def failure : Failure :=
  ⟨.aggregator (.rejected "http://aggregator/sources" 500 ""),
    ["failed to delete source 'cnn' from aggregator"]⟩

theorem read_eq : read = (.ok (some feed), read.2) :=
  Program.eq_ok_of_toOption (by decide +kernel)

theorem result_eq : result = (.error failure, result.2) :=
  Program.eq_error_of_failure? (by decide +kernel)

end LeavingFeed

open LeavingFeed in
/-- A source that could not be removed is reported by the feed. -/
theorem leavingFeed_onRecord : start.faults.Faulty ∧ start.store.WellFormed ∧
    read = (.ok (some feed), read.2) ∧ result = (.error failure, result.2) ∧
    OnRecord ⟨.feeds, "news", "cnn"⟩ .deleted failure [] start result.2 := by
  have hw : start.store.WellFormed := Store.wellFormed_of_forall (by decide) (by decide +kernel)
  have hf : start.faults.Faulty := nofun
  obtain ⟨hfeeds, -⟩ := failures_left_on_record (Cluster.isOutside_answering _) hf hw
  refine ⟨hf, hw, read_eq, result_eq, ?_⟩
  rcases hfeeds feed read_eq result_eq with hrecord | hunrecorded
  · exact hrecord
  · exact absurd hunrecorded.life (by decide)

namespace LeavingQuery

open GroupedQuery (operator)

/-- A query that is to be deleted. -/
def query : HotNews :=
  ⟨{ Metadata.empty with
      name := some "top", ns := some "news", uid := some "u", resourceVersion := some "1"
      deletionTimestamp := Timestamp.parse? "2025-01-01T00:00:00Z"
      finalizers := some [hotNewsFinalizer] },
    ⟨["election"], none, none, ["bbc"], [], ⟨1⟩⟩, none⟩

/-- The feeds cannot be listed. -/
def start : Cluster :=
  .start ⟨[(⟨.hotNews, "news", "top"⟩, hotNewsToJson query)], 0⟩
    [⟨some "LIST", none, .dropped, none⟩] []

def env : Environment Cluster := Cluster.environmentWith Cluster.askAggregator fun _ => "now"

def read : Except Failure (Option HotNews) × Cluster :=
  (Program.getObject? HotNews "news" "top").run env start

def result : Except Failure Action × Cluster :=
  (reconcileHotNews operator "news" "top").run env start

def failure : Failure :=
  ⟨.api .dropped, ["failed to release Feed owner references", "failed to list Feeds in news"]⟩

theorem faulty : start.faults.Faulty := by
  intro r hr
  rw [List.mem_singleton.1 hr]
  exact ScriptRule.isFault_of_dropped rfl

end LeavingQuery

open LeavingQuery in
/-- A query that could not give up its feeds fails without a record: no status is patched, and the
status that was read shows no failure. -/
theorem leavingQuery_unrecorded : start.faults.Faulty ∧ start.store.WellFormed ∧
    read = (.ok (some query), read.2) ∧
    Lifecycle.of query.metadata hotNewsFinalizer = .finalizing ∧
    result = (.error failure, result.2) ∧
    ¬ OnRecord ⟨.hotNews, "news", "top"⟩ (attemptKind query.metadata) failure
      (query.status.getD .empty).conditions start result.2 := by
  have hread : read = (.ok (some query), read.2) := Program.eq_ok_of_toOption (by decide +kernel)
  have hresult : Program.failure? result.1 = some failure ∧
      result.2.log.all (fun e => !e.request.patchesStatus) = true := by decide +kernel
  have hsilent : start.Adds (·.patchesStatus = false) result.2 :=
    ⟨result.2.log, rfl, fun e he => by simpa using List.all_eq_true.1 hresult.2 e he⟩
  refine ⟨faulty, Store.wellFormed_of_forall (by decide) (by decide +kernel), hread, by decide,
    Program.eq_error_of_failure? hresult.1, not_onRecord_of_adds ?_ hsilent⟩
  rintro ⟨_, hm, -⟩
  cases hm

end Newsdesk
