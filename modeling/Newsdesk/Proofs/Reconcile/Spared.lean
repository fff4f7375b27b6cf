import Newsdesk.Proofs.Cluster.Tended
import Newsdesk.Proofs.Reconcile.Sent

/-!
# What the reconciles leave alone

The parts of the reconciles, one by one: which fields of the objects their patches leave alone.
Adding a finalizer and taking or giving up feeds leaves both the specification and the status,
resolving groups leaves the status, and only at its end a reconcile writes a status.
-/

namespace Newsdesk

open Json

variable {frozen : List String}

section

variable (hmetadata : "metadata" ∉ frozen)
include hmetadata

/-! ## Finalizers -/

theorem sends_ensureFinalizer {α : Type} [Resource α] (object : α) (finalizer : String) :
    (ensureFinalizer object finalizer).Sends (·.Spares frozen) :=
  Program.sends_ensureFinalizer fun _ => leaves_metadataPatch hmetadata _ (.inl rfl)
    (inOrder_ofStrings _)

theorem sends_removeFinalizer {α : Type} [Resource α] (object : α) (finalizer : String) :
    (removeFinalizer object finalizer).Sends (·.Spares frozen) :=
  Program.sends_removeFinalizer fun _ => leaves_metadataPatch hmetadata _ (.inl rfl)
    (inOrder_ofStrings _)

theorem sends_handleDeletion {α : Type} [Resource α] (object : α) (finalizer : String)
    {cleanup : Program Unit} (hcleanup : cleanup.Sends (·.Spares frozen)) :
    (handleDeletion object finalizer cleanup).Sends (·.Spares frozen) := by
  unfold handleDeletion
  split
  · refine Program.Sends.bind hcleanup fun _ => ?_
    exact Program.Sends.bind (sends_removeFinalizer hmetadata object finalizer) fun _ =>
      Program.sends_record _
  · exact Program.sends_pure ()

/-! ## Owners -/

theorem sends_writeOwnerChanges (ns : String) (changes : List OwnerChange) :
    (writeOwnerChanges ns changes).Sends (·.Spares frozen) := by
  induction changes with
  | nil => exact Program.sends_pure ()
  | cons change rest ih =>
    have hpatch : Leaves frozen (ownersPatch change) :=
      leaves_metadataPatch hmetadata _ (.inr rfl) (inOrder_owners _)
    exact Program.Sends.bind (Program.Sends.within (Program.sends_patchObject hpatch) _)
      fun _ => ih

theorem sends_syncOwners (h : HotNews) (desired : List String) :
    (syncOwners h desired).Sends (·.Spares frozen) := by
  unfold syncOwners
  split
  · exact Program.sends_pure ()
  · exact Program.Sends.bind (Program.sends_listFeeds trivial) fun _ =>
      sends_writeOwnerChanges hmetadata _ _

theorem sends_releaseFeeds (h : HotNews) : (releaseFeeds h).Sends (·.Spares frozen) :=
  Program.Sends.within (sends_syncOwners hmetadata h []) _

/-! ## Queries -/

theorem sends_effectiveSpec (hspec : "spec" ∉ frozen) (op : Operator) (h : HotNews)
    (feeds : List Feed) : (effectiveSpec op h feeds).Sends (·.Spares frozen) :=
  Program.sends_effectiveSpec trivial fun names => leaves_feedsNamePatch hmetadata hspec h names

theorem sends_refresh (hspec : "spec" ∉ frozen) (op : Operator) (h : HotNews) :
    (refresh op h).Sends (·.Spares frozen) := by
  refine Program.Sends.bind (Program.sends_listFeeds trivial) fun feeds => ?_
  refine Program.Sends.bind (sends_effectiveSpec hmetadata hspec op h feeds) fun spec => ?_
  refine Program.Sends.bind (Program.sends_fetchNews fun _ => trivial) fun summary => ?_
  split
  · exact Program.sends_pure summary
  · exact Program.Sends.bind (sends_writeOwnerChanges hmetadata _ _) fun _ =>
      Program.sends_pure summary

theorem sends_recordHotNewsOutcome (hstatus : "status" ∉ frozen) (h : HotNews)
    (outcome : Except Failure NewsSummary) :
    (recordHotNewsOutcome h outcome).Sends (·.Spares frozen) :=
  Program.sends_recordHotNewsOutcome fun status =>
    ⟨hstatus, leaves_statusPart hmetadata hstatus (inOrder_hotNewsStatus status)⟩

/-! ## Feeds -/

omit hmetadata in
theorem sends_registerSource (op : Operator) (f : Feed) :
    (registerSource op f).Sends (·.Spares frozen) :=
  Program.sends_registerSource fun _ _ => trivial

omit hmetadata in
theorem sends_removeSource (op : Operator) (f : Feed) :
    (removeSource op f).Sends (·.Spares frozen) :=
  Program.sends_removeSource fun _ _ => trivial

theorem sends_recordFeedOutcome (hstatus : "status" ∉ frozen) (f : Feed) (kind : ConditionKind)
    (outcome : Except Failure Unit) : (recordFeedOutcome f kind outcome).Sends (·.Spares frozen) :=
  Program.sends_recordFeedOutcome fun status =>
    ⟨hstatus, leaves_statusPart hmetadata hstatus (inOrder_feedStatus status)⟩

theorem sends_finishFeed (hstatus : "status" ∉ frozen) (f : Feed) (kind : ConditionKind)
    (outcome : Except Failure Unit) : (finishFeed f kind outcome).Sends (·.Spares frozen) :=
  Program.sends_finishFeed fun status =>
    ⟨hstatus, leaves_statusPart hmetadata hstatus (inOrder_feedStatus status)⟩

end

/-! ## Whole reconciles -/

/-- A reconcile of a feed leaves the specifications alone. -/
theorem sends_reconcileFeed (op : Operator) (ns name : String) :
    (reconcileFeed op ns name).Sends (·.Spares ["spec"]) := by
  refine Program.Sends.bind (Program.Sends.within (Program.sends_getObject? trivial) _) ?_
  intro found
  cases found with
  | none => exact Program.sends_pure _
  | some f =>
    dsimp only
    cases Lifecycle.of f.metadata feedFinalizer with
    | gone => exact Program.sends_pure _
    | finalizing =>
      refine Program.Sends.bind (Program.Sends.attempt (sends_handleDeletion (by simp) f
        feedFinalizer (sends_removeSource op f))) fun outcome => ?_
      cases outcome with
      | ok done => exact Program.sends_pure _
      | error failure => exact sends_finishFeed (by simp) (by simp) f _ _
    | active =>
      refine Program.Sends.bind (sends_ensureFinalizer (by simp) f feedFinalizer) fun f₁ => ?_
      refine Program.Sends.bind (Program.Sends.attempt (sends_registerSource op f₁)) ?_
      exact fun outcome => sends_finishFeed (by simp) (by simp) f₁ _ outcome

/-- A reconcile of a query leaves alone what the objects are. -/
theorem sends_reconcileHotNews (op : Operator) (ns name : String) :
    (reconcileHotNews op ns name).Sends (·.Spares []) := by
  refine Program.Sends.bind (Program.Sends.within (Program.sends_getObject? trivial) _) ?_
  intro found
  cases found with
  | none => exact Program.sends_pure _
  | some h =>
    dsimp only
    cases Lifecycle.of h.metadata hotNewsFinalizer with
    | gone => exact Program.sends_pure _
    | finalizing =>
      exact Program.Sends.bind (sends_handleDeletion (by simp) h hotNewsFinalizer
        (sends_releaseFeeds (by simp) h)) fun _ => Program.sends_pure _
    | active =>
      refine Program.Sends.bind (sends_ensureFinalizer (by simp) h hotNewsFinalizer) fun h₁ => ?_
      refine Program.Sends.bind (Program.Sends.attempt
        (sends_refresh (by simp) (by simp) op h₁)) fun outcome => ?_
      have hrecord (outcome : Except Failure NewsSummary) :
          (recordHotNewsOutcome h₁ outcome).Sends (·.Spares []) :=
        sends_recordHotNewsOutcome (by simp) (by simp) h₁ outcome
      cases outcome with
      | ok summary => exact Program.Sends.bind (hrecord _) fun _ => Program.sends_pure _
      | error f =>
        exact Program.Sends.bind (Program.Sends.attempt (hrecord _)) fun _ => Program.sends_fail f

end Newsdesk
