import Newsdesk.Proofs.Cluster.Written
import Newsdesk.Proofs.Program.Conduct
import Newsdesk.Reconcile.Feed

/-!
# What a reconcile of a feed sends

A reconcile reads its feed and then takes one of two ways. A feed that is in use gets the finalizer
if it lacks it, and its source is registered by its URL. The source of a feed that is deleted is
removed by its name, and only when this is answered well the finalizer goes. In either case the
outcome may be reported in the status (`FeedRule`).
-/

namespace Newsdesk

open Json Text

/-! ## Calls of the aggregator -/

/-- A request that registers a source. -/
def LogEntry.Registers (e : LogEntry) : Prop :=
  ∃ request, e.request = .aggregator request ∧ request.verb = .register

/-- A reply that says that something was done, or that there is nothing to be done. -/
def Reply.Settles (reply : Reply) : Prop :=
  ∃ status body, reply = .answered status body ∧ (200 ≤ status ∧ status < 300 ∨ status = 404)

/-- The removal of the source of a name that was answered with success, or that the source is not
there. -/
structure LogEntry.Removes (op : Operator) (source : String) (e : LogEntry) : Prop where
  request : ∃ sources, op.aggregator.sourcesEndpoint = .ok sources ∧
    e.request = .aggregator ⟨.remove, sources, some (ofFields [("name", .str source)])⟩
  reply : e.reply.Settles

/-- Whether a request went to the aggregator. -/
def LogEntry.toAggregator (e : LogEntry) : Bool :=
  match e.request with
  | .aggregator _ => true
  | .api _ => false

theorem LogEntry.Registers.not_removes {e : LogEntry} {op : Operator} {source : String}
    (h : e.Registers) : ¬ e.Removes op source := by
  rintro ⟨⟨_, -, hremove⟩, -⟩
  obtain ⟨request, hrequest, hverb⟩ := h
  cases hremove.symm.trans hrequest
  cases hverb

theorem settles_of_removalOutcome {endpoint : Url} {reply : Reply}
    (h : Aggregator.removalOutcome endpoint reply = .ok ()) : reply.Settles := by
  cases reply with
  | answered status body =>
    refine ⟨status, body, rfl, ?_⟩
    cases hs : isSuccessStatus status with
    | true => exact .inl (by simpa [isSuccessStatus] using hs)
    | false =>
      refine .inr ?_
      simp only [Aggregator.removalOutcome, Aggregator.callOutcome, hs, Bool.false_eq_true,
        if_false] at h
      split at h
      · rename_i heq
        cases heq
        rfl
      · cases h
  | dropped => cases h
  | unanswered => cases h

/-! ## The rule -/

section

variable (op : Operator) (ns name : String)

/-- The reading of the feed. -/
def feedRead (reply : Reply) : LogEntry := ⟨.api (.get .feeds ns name), reply⟩

/-- The patch of the finalizers of a feed. -/
def feedFinalizersPatch (f : Feed) (finalizers : List String) : ApiRequest :=
  .patch .feeds f.metadata.nsName f.metadata.displayName (finalizersPatch f.metadata finalizers)

/-- The patch that adds the finalizer to a feed. -/
def adoption (f : Feed) : ApiRequest :=
  feedFinalizersPatch f (f.metadata.finalizers.getD [] ++ [feedFinalizer])

/-- The patch that takes the finalizer from a feed. -/
def release (f : Feed) : ApiRequest :=
  feedFinalizersPatch f ((f.metadata.finalizers.getD []).filter (· ≠ feedFinalizer))

/-- The feed was read in use and with the finalizer, or the patch that adds it was answered with
the feed. -/
inductive Granted : Feed → List LogEntry → Prop
  | found {reply : Reply} {f : Feed} (read : reply.decode decodeFeed = .ok f)
      (active : f.metadata.isDeleting = false)
      (has : f.metadata.hasFinalizer feedFinalizer = true) : Granted f [feedRead ns name reply]
  | added {reply reply' : Reply} {f f' : Feed} (read : reply.decode decodeFeed = .ok f)
      (active : f.metadata.isDeleting = false) (answer : reply'.decode decodeFeed = .ok f') :
      Granted f' [feedRead ns name reply, ⟨.api (adoption f), reply'⟩]

/-- What a reconcile of a feed may send to the list of sources after some calls. -/
inductive SourceCall : List LogEntry → AggregatorRequest → Prop
  | register {calls : List LogEntry} {f : Feed} {sources : Url}
      (granted : Granted ns name f calls) (address : op.aggregator.sourcesEndpoint = .ok sources) :
      SourceCall calls ⟨.register, sources, some (ofFields [("url", .str (trim f.spec.url))])⟩
  | remove {reply : Reply} {f : Feed} {sources : Url} (read : reply.decode decodeFeed = .ok f)
      (deleting : f.metadata.isDeleting = true)
      (address : op.aggregator.sourcesEndpoint = .ok sources) :
      SourceCall [feedRead ns name reply]
        ⟨.remove, sources, some (ofFields [("name", .str (trim f.spec.name))])⟩

/-- What a reconcile of a feed may send after some calls. -/
inductive FeedRule : CallRule
  | read : FeedRule [] (.api (.get .feeds ns name))
  | adopt {reply : Reply} {f : Feed} (read : reply.decode decodeFeed = .ok f)
      (active : f.metadata.isDeleting = false) :
      FeedRule [feedRead ns name reply] (.api (adoption f))
  | source {calls : List LogEntry} {request : AggregatorRequest}
      (call : SourceCall op ns name calls request) : FeedRule calls (.aggregator request)
  | release {reply : Reply} {f : Feed} {e : LogEntry} (read : reply.decode decodeFeed = .ok f)
      (deleting : f.metadata.isDeleting = true) (removed : e.Removes op (trim f.spec.name)) :
      FeedRule [feedRead ns name reply, e] (.api (release f))
  | report {calls : List LogEntry} {home own : String} (status : FeedStatus) :
      FeedRule calls (.api (.patchStatus .feeds home own (ofFields [("status", status.toJson)])))

/-- However a reconcile of a feed ends. -/
def anyEnd {α : Type} : CallPost α := fun _ _ => True

variable {op ns name}

theorem obeys_recordFeedOutcome (f : Feed) (kind : ConditionKind) (outcome : Except Failure Unit)
    {post : CallPost Unit} {calls : List LogEntry} (hok : ∀ calls, post (.ok ()) calls) :
    (recordFeedOutcome f kind outcome).Obeys (FeedRule op ns name) post calls := by
  unfold recordFeedOutcome updateStatus Program.currentTime
  refine Program.Obeys.bind (Program.obeys_now.2 fun time => Program.obeys_pure.2 ?_)
  refine Program.Obeys.bind (Program.Obeys.attempt ?_)
  dsimp only
  split
  · exact Program.obeys_pure.2 (Program.obeys_pure.2 (hok _))
  · refine Program.Obeys.within (Program.obeys_patchObjectStatus ?_ (FeedRule.report _) ?_)
    · exact fun _ calls => Program.obeys_pure.2 (hok calls)
    · exact fun calls => Program.obeys_pure.2 (hok calls)

theorem obeys_finishFeed (f : Feed) (kind : ConditionKind) (outcome : Except Failure Unit)
    (calls : List LogEntry) :
    (finishFeed f kind outcome).Obeys (FeedRule op ns name) anyEnd calls := by
  unfold finishFeed
  refine Program.Obeys.bind (obeys_recordFeedOutcome f kind outcome fun calls => ?_)
  cases outcome with
  | ok => exact Program.obeys_pure.2 trivial
  | error => exact Program.obeys_fail.2 trivial

section

variable (f : Feed) {calls : List LogEntry}

theorem obeys_registerSource {post : CallPost Unit} (hpost : ∀ outcome calls, post outcome calls)
    (h : Granted ns name f calls) :
    (registerSource op f).Obeys (FeedRule op ns name) post calls := by
  unfold registerSource Program.addSource
  refine Program.Obeys.within (Program.Obeys.bind (Program.obeys_ofExcept ?_))
  cases haddress : op.aggregator.sourcesEndpoint with
  | error e => exact hpost _ _
  | ok sources =>
    exact Program.obeys_callAggregator (fun _ => hpost _) (.source (.register h haddress))
      fun _ _ _ => hpost _ _

theorem obeys_ensureFinalizer {reply : Reply} {post : CallPost Feed}
    (hread : reply.decode decodeFeed = .ok f) (hactive : f.metadata.isDeleting = false)
    (hfail : ∀ failure calls, post (.error failure) calls)
    (hok : ∀ f' calls, Granted ns name f' calls → post (.ok f') calls) :
    (ensureFinalizer f feedFinalizer).Obeys (FeedRule op ns name) post [feedRead ns name reply] := by
  unfold ensureFinalizer
  dsimp only
  split
  · rename_i hhas
    exact Program.obeys_pure.2 (hok f _ (.found hread hactive hhas))
  · refine Program.obeys_patchObject hfail (FeedRule.adopt hread hactive) fun answer f' ha => ?_
    exact hok f' _ (.added hread hactive ha)

theorem obeys_removeFinalizer {reply : Reply} {e : LogEntry} {post : CallPost Unit}
    (hread : reply.decode decodeFeed = .ok f) (hdeleting : f.metadata.isDeleting = true)
    (hremoved : e.Removes op (trim f.spec.name))
    (hfail : ∀ failure calls, post (.error failure) calls) (hok : ∀ calls, post (.ok ()) calls) :
    (removeFinalizer f feedFinalizer).Obeys (FeedRule op ns name) post
      [feedRead ns name reply, e] := by
  unfold removeFinalizer
  dsimp only
  split
  · refine Program.Obeys.bind (Program.obeys_patchObject hfail (.release hread hdeleting hremoved)
      fun answer f' ha => Program.obeys_pure.2 (hok _))
  · exact Program.obeys_pure.2 (hok _)

theorem obeys_removeSource {reply : Reply} {post : CallPost Unit}
    (hread : reply.decode decodeFeed = .ok f) (hdeleting : f.metadata.isDeleting = true)
    (hfail : ∀ failure calls, post (.error failure) calls)
    (hok : ∀ e : LogEntry, e.Removes op (trim f.spec.name) →
      post (.ok ()) [feedRead ns name reply, e]) :
    (removeSource op f).Obeys (FeedRule op ns name) post [feedRead ns name reply] := by
  unfold removeSource Program.deleteSource
  refine Program.Obeys.within (Program.Obeys.bind (Program.obeys_ofExcept ?_))
  cases haddress : op.aggregator.sourcesEndpoint with
  | error e => exact hfail _ _
  | ok sources =>
    refine Program.obeys_callAggregator (fun _ => hfail _)
      (.source (.remove hread hdeleting haddress)) fun answer _ hanswer => ?_
    exact hok _ ⟨⟨sources, haddress, rfl⟩, settles_of_removalOutcome hanswer⟩

end

theorem Lifecycle.of_eq_active_iff {m : Metadata} {finalizer : String} :
    Lifecycle.of m finalizer = .active ↔ m.isDeleting = false := by
  unfold Lifecycle.of
  cases m.isDeleting <;> cases m.hasFinalizer finalizer <;> simp

theorem Lifecycle.of_eq_finalizing_iff {m : Metadata} {finalizer : String} :
    Lifecycle.of m finalizer = .finalizing ↔
      m.isDeleting = true ∧ m.hasFinalizer finalizer = true := by
  unfold Lifecycle.of
  cases m.isDeleting <;> cases m.hasFinalizer finalizer <;> simp

/-- A reconcile obeys its rule, whatever it is answered. -/
theorem obeys_reconcileFeed :
    (reconcileFeed op ns name).Obeys (FeedRule op ns name) anyEnd [] := by
  unfold reconcileFeed
  refine Program.Obeys.bind (Program.Obeys.within (Program.obeys_getObject? ?_ ?_ .read ?_))
  · exact fun _ _ => trivial
  · exact fun _ => Program.obeys_pure.2 trivial
  intro reply f _ hread
  change Program.Obeys _ _ _ [feedRead ns name reply]
  cases hl : Lifecycle.of f.metadata feedFinalizer <;> simp only [hl]
  case gone => exact Program.obeys_pure.2 trivial
  case finalizing =>
    obtain ⟨hdeleting, hhas⟩ := Lifecycle.of_eq_finalizing_iff.1 hl
    refine Program.Obeys.bind (Program.Obeys.attempt ?_)
    have hfail (failure : Failure) (calls : List LogEntry) :
        (finishFeed f .deleted (.error failure)).Obeys (FeedRule op ns name) anyEnd calls :=
      obeys_finishFeed f .deleted (.error failure) calls
    unfold handleDeletion
    rw [if_pos (show (Resource.metadata f).hasFinalizer feedFinalizer = true from hhas)]
    refine Program.Obeys.bind (obeys_removeSource f hread hdeleting hfail fun e he => ?_)
    refine Program.Obeys.bind (obeys_removeFinalizer f hread hdeleting he hfail fun calls => ?_)
    exact Program.obeys_note.2 (Program.obeys_pure.2 (Program.obeys_pure.2 trivial))
  case active =>
    have hactive := Lifecycle.of_eq_active_iff.1 hl
    refine Program.Obeys.bind (obeys_ensureFinalizer f hread hactive (fun _ _ => trivial)
      fun f' calls hgranted => ?_)
    refine Program.Obeys.bind (Program.Obeys.attempt ?_)
    exact obeys_registerSource f' (fun outcome => obeys_finishFeed f' .added outcome) hgranted

end

end Newsdesk
