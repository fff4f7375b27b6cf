import Newsdesk.Proofs.Program.Conduct
import Newsdesk.Reconcile.HotNews

/-!
# What the parts of reconciles send

Each part of a reconcile sends requests of a few kinds. It sends nothing but what is allowed, if
these are.
-/

namespace Newsdesk.Program

open Json

variable {allowed : SentRequest → Prop}

section

variable {α : Type} [Resource α] {object : α}

theorem sends_updateStatus {S : Type} [DecidableEq S] {current : Option S} {status : S}
    {encode : S → Json}
    (h : allowed (.api (.patchStatus (Resource.collection α) (Resource.metadata object).nsName
      (Resource.metadata object).displayName (ofFields [("status", encode status)])))) :
    (updateStatus object current status encode).Sends allowed := by
  unfold updateStatus
  split
  · exact sends_pure ()
  · exact Sends.within (sends_patchObjectStatus h) _

theorem sends_ensureFinalizer {finalizer : String}
    (h : ∀ finalizers, allowed (.api (.patch (Resource.collection α)
      (Resource.metadata object).nsName (Resource.metadata object).displayName
      (finalizersPatch (Resource.metadata object) finalizers)))) :
    (ensureFinalizer object finalizer).Sends allowed := by
  unfold ensureFinalizer
  dsimp only
  split
  · exact sends_pure object
  · exact sends_patchObject (h _)

theorem sends_removeFinalizer {finalizer : String}
    (h : ∀ finalizers, allowed (.api (.patch (Resource.collection α)
      (Resource.metadata object).nsName (Resource.metadata object).displayName
      (finalizersPatch (Resource.metadata object) finalizers)))) :
    (removeFinalizer object finalizer).Sends allowed := by
  unfold removeFinalizer
  dsimp only
  split
  · exact Sends.bind (sends_patchObject (h _)) fun _ => sends_pure ()
  · exact sends_pure ()

end

/-! ## Feeds -/

section

variable {op : Operator} {f : Feed}

theorem sends_registerSource
    (hask : ∀ endpoint source, allowed (.aggregator (Aggregator.registration endpoint source))) :
    (registerSource op f).Sends allowed :=
  Sends.within (Sends.bind (sends_ofExcept _ _) fun _ => sends_callAggregator (hask _ _)) _

theorem sends_removeSource
    (hask : ∀ endpoint name, allowed (.aggregator (Aggregator.removal endpoint name))) :
    (removeSource op f).Sends allowed :=
  Sends.within (Sends.bind (sends_ofExcept _ _) fun _ => sends_callAggregator (hask _ _)) _

variable {kind : ConditionKind} {outcome : Except Failure Unit}
  (hpatch : ∀ status : FeedStatus, allowed (.api (.patchStatus .feeds f.metadata.nsName
    f.metadata.displayName (ofFields [("status", status.toJson)]))))
include hpatch

theorem sends_recordFeedOutcome : (recordFeedOutcome f kind outcome).Sends allowed :=
  Sends.bind sends_currentTime fun _ =>
    Sends.bind (Sends.attempt (sends_updateStatus (hpatch _))) fun _ => sends_pure ()

theorem sends_finishFeed : (finishFeed f kind outcome).Sends allowed := by
  refine Sends.bind (sends_recordFeedOutcome hpatch) fun _ => ?_
  cases outcome with
  | ok done => exact sends_pure _
  | error failure => exact sends_fail failure

end

/-! ## Queries -/

theorem sends_listFeeds {ns : String} (h : allowed (.api (.list .feeds (some ns) none))) :
    (listFeeds ns).Sends allowed := Sends.within (sends_listObjects h) _

variable {op : Operator} {h : HotNews} {feeds : List Feed}

/-- Only one config map is ever asked for. -/
theorem sends_resolvedNames
    (hget : allowed (.api (.get .configMaps h.metadata.nsName op.settings.configMapName))) :
    (resolvedNames op h feeds).Sends allowed := by
  unfold resolvedNames
  dsimp only
  split
  · exact sends_pure []
  · refine Sends.bind (Sends.within (sends_getObject? hget) _) fun found => ?_
    cases found.bind ConfigMap.data with
    | none => exact sends_pure []
    | some data => exact sends_ofExcept _ _

theorem sends_persistFeedsName {names : List String}
    (hpatch : allowed (.api (.patch .hotNews h.metadata.nsName h.metadata.displayName
      (feedsNamePatch h names)))) : (persistFeedsName h names).Sends allowed :=
  Sends.bind (Sends.within (sends_patchObject hpatch) _) fun _ => sends_pure ()

theorem sends_effectiveSpec
    (hget : allowed (.api (.get .configMaps h.metadata.nsName op.settings.configMapName)))
    (hpatch : ∀ names, allowed (.api (.patch .hotNews h.metadata.nsName h.metadata.displayName
      (feedsNamePatch h names)))) : (effectiveSpec op h feeds).Sends allowed := by
  unfold effectiveSpec
  refine Sends.bind (sends_resolvedNames hget) fun resolved => ?_
  split
  · exact Sends.bind (sends_persistFeedsName (hpatch resolved)) fun _ => sends_pure _
  · exact sends_pure h.spec

theorem sends_fetchNews {spec : HotNewsSpec}
    (hask : ∀ url, allowed (.aggregator (Aggregator.query url))) :
    (fetchNews op spec).Sends allowed := by
  refine Sends.bind (sends_ofExcept _ _) fun endpoint => ?_
  refine Sends.bind (sends_ofExcept _ _) fun url => ?_
  exact Sends.bind (Sends.within (sends_callAggregator (hask url)) _) fun articles => sends_pure _

theorem sends_recordHotNewsOutcome {outcome : Except Failure NewsSummary}
    (hpatch : ∀ status : HotNewsStatus, allowed (.api (.patchStatus .hotNews h.metadata.nsName
      h.metadata.displayName (ofFields [("status", status.toJson)])))) :
    (recordHotNewsOutcome h outcome).Sends allowed :=
  Sends.bind sends_currentTime fun _ => sends_updateStatus (hpatch _)

end Newsdesk.Program
