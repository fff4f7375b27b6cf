import Newsdesk.Proofs.Cluster.Server
import Newsdesk.Proofs.Feed.Calls

/-!
# The lifetime of a feed

One feed under any sequence of reconciles, writes of others and faults (`FeedStep`). Any call may
fail, the aggregator may answer anything, a reconcile may stop at any point, and between two of
its calls others may write. Two things are kept (`FeedWorld.Sound`): a source that may still be
registered has a feed that carries the finalizer, and so has a reconcile that was granted the
registration. So a feed cannot go while its source may still be registered.
-/

namespace Newsdesk

open Json Text

/-! ## The finalizer of a stored feed -/

/-- Whether a stored feed carries the finalizer. -/
def carriesFinalizer (x : Json) : Prop :=
  ∃ m, metadataOf x = some m ∧ m.hasFinalizer feedFinalizer = true

/-- An object that carries the finalizer is not removed, whether its deletion is requested or
not. -/
theorem isReleased_eq_false {x : Json} (h : InOrder x) (hc : carriesFinalizer x) :
    Store.isReleased x = false := by
  obtain ⟨m, hm, hf⟩ := hc
  have hr := ((metadataOf_eq_some_iff h).1 hm).2.finalizers
  have hnone : m.finalizers ≠ none := fun he => by simp [Metadata.hasFinalizer, he] at hf
  have hempty : m.finalizers ≠ some [] := fun he => by simp [Metadata.hasFinalizer, he] at hf
  obtain ⟨v, hv⟩ : ∃ v, (x.field "metadata").field? "finalizers" = some v := by
    cases hl : (x.field "metadata").field? "finalizers" with
    | none => exact absurd (by simpa [hl] using hr.symm) hnone
    | some v => exact ⟨v, rfl⟩
  rw [hv, nullable_some] at hr
  have hnull : v ≠ .null := by
    rintro rfl
    exact hnone (Option.some.inj hr).symm
  have harr : v ≠ .arr [] := by
    rintro rfl
    exact hempty (Option.some.inj hr).symm
  have hfield : (x.field "metadata").field "finalizers" = v := by
    rw [Json.field, hv, Option.getD_some]
  unfold Store.isReleased
  simp [hfield, hnull, harr]

namespace ApiServer

/-- The object of a key is stored and carries the finalizer. -/
def Carries (s : ApiServer) (key : ObjectKey) : Prop :=
  ∃ x, s.object key = some x ∧ carriesFinalizer x

/-- A change of the server by others: they may write as they like, but leave the finalizer of the
feed alone, and an object is removed only when it has no finalizers left. -/
structure KeepsFinalizer (key : ObjectKey) (s s' : ApiServer) : Prop where
  evolves : s.Evolves s'
  carries : s.Carries key → s'.Carries key

theorem Accepts.object_of_carries {s s' : ApiServer} {key : ObjectKey} {patch old new : Json}
    (h : s.Accepts key patch old new s') (hn : InOrder new) (hc : carriesFinalizer new) :
    s'.object key = some new := by
  rw [h.object, if_pos rfl, isReleased_eq_false hn hc]
  rfl

end ApiServer

/-! ## The system -/

/-- A reconcile under way: what is left of it, and its calls so far. -/
structure FeedRun where
  rest : Program Action
  calls : List LogEntry

/-- A server, the reconcile under way, and the calls of all reconciles before. -/
structure FeedWorld where
  server : ApiServer
  run : Option FeedRun
  past : List LogEntry

/-- All calls so far. -/
def FeedWorld.history (w : FeedWorld) : List LogEntry := w.past ++ w.run.elim [] FeedRun.calls

/-- One step of the system. -/
inductive FeedStep (op : Operator) (ns name : String) : FeedWorld → FeedWorld → Prop
  | start {w : FeedWorld} (idle : w.run = none) :
      FeedStep op ns name w { w with run := some ⟨reconcileFeed op ns name, []⟩ }
  | api {w : FeedWorld} {request : ApiRequest} {next : Reply → Program Action}
      {calls : List LogEntry} {reply : Reply} {server : ApiServer}
      (running : w.run = some ⟨.api request next, calls⟩)
      (serves : w.server.Serves request reply server) :
      FeedStep op ns name w
        { w with server, run := some ⟨next reply, calls ++ [⟨.api request, reply⟩]⟩ }
  | aggregator {w : FeedWorld} {request : AggregatorRequest} {next : Reply → Program Action}
      {calls : List LogEntry} (reply : Reply)
      (running : w.run = some ⟨.aggregator request next, calls⟩) :
      FeedStep op ns name w
        { w with run := some ⟨next reply, calls ++ [⟨.aggregator request, reply⟩]⟩ }
  | now {w : FeedWorld} {next : String → Program Action} {calls : List LogEntry} (time : String)
      (running : w.run = some ⟨.now next, calls⟩) :
      FeedStep op ns name w { w with run := some ⟨next time, calls⟩ }
  | note {w : FeedWorld} {event : Event} {next : Program Action} {calls : List LogEntry}
      (running : w.run = some ⟨.note event next, calls⟩) :
      FeedStep op ns name w { w with run := some ⟨next, calls⟩ }
  | stop {w : FeedWorld} {run : FeedRun} (running : w.run = some run) :
      FeedStep op ns name w { w with run := none, past := w.past ++ run.calls }
  | others {w : FeedWorld} {server : ApiServer}
      (keeps : w.server.KeepsFinalizer ⟨.feeds, ns, name⟩ server) :
      FeedStep op ns name w { w with server }

/-- What can come of a world. -/
inductive FeedWorld.Leads (op : Operator) (ns name : String) (w : FeedWorld) : FeedWorld → Prop
  | refl : Leads op ns name w w
  | step {w' w'' : FeedWorld} (before : Leads op ns name w w') (step : FeedStep op ns name w' w'') :
      Leads op ns name w w''

/-! ## Registrations -/

section

variable {op : Operator} {ns name : String} {calls : List LogEntry} {e : LogEntry}

/-- Some registration has not been followed by a removal, whatever the source. -/
def Registered (op : Operator) (calls : List LogEntry) : Prop :=
  ∃ before e after, calls = before ++ e :: after ∧ e.Registers ∧
    ∀ e' ∈ after, ∀ source, ¬ e'.Removes op source

/-- A call of a history with one more call is this one, or one of those before. -/
theorem split_concat {before after : List LogEntry} {r : LogEntry}
    (h : calls ++ [e] = before ++ r :: after) : (before = calls ∧ r = e ∧ after = []) ∨
      ∃ between, after = between ++ [e] ∧ calls = before ++ r :: between := by
  rcases List.eq_nil_or_concat after with rfl | ⟨between, last, rfl⟩
  · obtain ⟨rfl, ⟨⟩⟩ := List.append_inj' h rfl
    exact .inl ⟨rfl, rfl, rfl⟩
  · rw [List.concat_eq_append, ← List.cons_append, ← List.append_assoc] at h
    obtain ⟨rfl, ⟨⟩⟩ := List.append_inj' h rfl
    exact .inr ⟨between, List.concat_eq_append, rfl⟩

theorem registered_append :
    Registered op (calls ++ [e]) ↔
      e.Registers ∨ (Registered op calls ∧ ∀ source, ¬ e.Removes op source) := by
  constructor
  · rintro ⟨before, r, after, heq, hr, hall⟩
    rcases split_concat heq with ⟨-, rfl, -⟩ | ⟨between, rfl, hcalls⟩
    · exact .inl hr
    · exact .inr ⟨⟨before, r, between, hcalls, hr, fun e' he' => hall e' (by simp [he'])⟩,
        hall e (by simp)⟩
  · rintro (he | ⟨⟨before, r, after, rfl, hr, hall⟩, he⟩)
    · exact ⟨calls, e, [], rfl, he, by simp⟩
    · refine ⟨before, r, after ++ [e], by simp, hr, fun e' he' => ?_⟩
      rcases List.mem_append.1 he' with h | h
      · exact hall e' h
      · rwa [List.mem_singleton.1 h]

theorem not_registers_api {request : ApiRequest} {reply : Reply} :
    ¬ LogEntry.Registers ⟨.api request, reply⟩ := by
  rintro ⟨_, h, -⟩
  cases h

/-- Whatever was sent to the aggregator registers or removes the source of the feed as it was read
just before. -/
def Addressed (op : Operator) (ns name : String) (calls : List LogEntry) : Prop :=
  ∀ before request reply after, calls = before ++ ⟨.aggregator request, reply⟩ :: after →
    ∃ past run, before = past ++ run ∧ SourceCall op ns name run request

theorem Addressed.append (h : Addressed op ns name calls)
    (hlast : ∀ request, e.request = .aggregator request →
      ∃ past run, calls = past ++ run ∧ SourceCall op ns name run request) :
    Addressed op ns name (calls ++ [e]) := by
  intro before request reply after heq
  rcases split_concat heq with ⟨rfl, rfl, -⟩ | ⟨between, -, hcalls⟩
  · exact hlast request rfl
  · exact h before request reply between hcalls

end

/-! ## A reconcile under way -/

/-- No reply has shown a feed whose deletion is requested. -/
def NeverDeleting (calls : List LogEntry) : Prop :=
  ∀ e ∈ calls, ∀ f, e.reply.decode decodeFeed = .ok f → f.metadata.isDeleting = false

section

variable {op : Operator} {ns name : String} {s s' : ApiServer}

theorem carriesFinalizer_written {version : String} {base : Option String} {old : Json}
    {m : Metadata} (ho : InOrder old) (hm : metadataOf old = some m) {finalizers : List String}
    (hf : feedFinalizer ∈ finalizers) :
    carriesFinalizer
      (written version (metadataPatch base "finalizers" (ofStrings finalizers)) old) :=
  ⟨_, metadataOf_written_finalizers ho hm finalizers, by simpa [Metadata.hasFinalizer] using hf⟩

/-- When the patch that adds the finalizer to a feed is answered with a feed, the feed is stored
with the finalizer, and it is as it was read otherwise. -/
theorem adopted_of_answer {f f' : Feed} {reply : Reply} (hs : s.Serves (adoption f) reply s')
    (hf : s.Seen ⟨.feeds, ns, name⟩ f) (hd : reply.decode decodeFeed = .ok f') :
    s'.Carries ⟨.feeds, ns, name⟩ ∧ f'.metadata.isDeleting = f.metadata.isDeleting := by
  have hname : f.metadata.displayName = name := by simp [Metadata.displayName, hf.name]
  unfold adoption feedFinalizersPatch at hs
  rw [hname, hf.ns] at hs
  cases hs with
  | refuse fails => exact absurd hd (fails f')
  | patch accepts honest =>
    have hm := accepts.metadataOf_old hf (versionOf_metadataPatch (by simp))
    have ho := s.inOrder accepts.stored
    obtain ⟨version, -, -, rfl⟩ := accepts.fresh
    have hcarries : carriesFinalizer (written version (finalizersPatch f.metadata
        (f.metadata.finalizers.getD [] ++ [feedFinalizer])) _) :=
      carriesFinalizer_written ho hm (by simp)
    have hobject := accepts.object_of_carries
      (inOrder_written _ (inOrder_metadataPatch _ _ (inOrder_ofStrings _)) ho) hcarries
    -- the answer is what is stored, so its metadata are those that have been written
    have hf' := ApiServer.metadataOf_of_decodeFeed hobject (honest f' hd)
    unfold finalizersPatch at hf'
    rw [metadataOf_written_finalizers ho hm] at hf'
    refine ⟨⟨_, hobject, hcarries⟩, ?_⟩
    rw [← Option.some.inj hf']
    rfl

/-- What is true of a reconcile under way. -/
structure FeedRun.Sound (op : Operator) (ns name : String) (s : ApiServer) (run : FeedRun) :
    Prop where
  obeys : run.rest.Obeys (FeedRule op ns name) anyEnd run.calls
  seen : ∀ reply f, feedRead ns name reply ∈ run.calls → reply.decode decodeFeed = .ok f →
    s.Seen ⟨.feeds, ns, name⟩ f
  held : ∀ f, Granted ns name f run.calls →
    s.Carries ⟨.feeds, ns, name⟩ ∧ NeverDeleting run.calls
  once : (run.calls.filter LogEntry.toAggregator).length ≤ 1

theorem FeedRun.Sound.keeps {run : FeedRun} (h : run.Sound op ns name s)
    (hk : s.KeepsFinalizer ⟨.feeds, ns, name⟩ s') : run.Sound op ns name s' where
  obeys := h.obeys
  seen reply f hr hd := (h.seen reply f hr hd).evolves hk.evolves
  held f hg := ⟨hk.carries (h.held f hg).1, (h.held f hg).2⟩
  once := h.once

/-- The last call before a registration is granted. -/
theorem granted_append {calls : List LogEntry} {e : LogEntry} {g : Feed}
    (h : Granted ns name g (calls ++ [e])) :
    (∃ reply, calls = [] ∧ e = feedRead ns name reply ∧ reply.decode decodeFeed = .ok g ∧
        g.metadata.isDeleting = false ∧ g.metadata.hasFinalizer feedFinalizer = true) ∨
      ∃ reply f reply', calls = [feedRead ns name reply] ∧ e = ⟨.api (adoption f), reply'⟩ ∧
        reply.decode decodeFeed = .ok f ∧ f.metadata.isDeleting = false ∧
        reply'.decode decodeFeed = .ok g := by
  generalize hc : calls ++ [e] = all at h
  cases h with
  | @found reply _ read active has =>
    obtain ⟨rfl, ⟨⟩⟩ := List.append_inj' (hc.trans (List.nil_append _).symm) rfl
    exact .inl ⟨reply, rfl, rfl, read, active, has⟩
  | @added reply reply' f _ read active answer =>
    obtain ⟨rfl, ⟨⟩⟩ := List.append_inj' (hc.trans (List.singleton_append).symm) rfl
    exact .inr ⟨reply, f, reply', rfl, rfl, read, active, answer⟩

theorem FeedRun.Sound.api {request : ApiRequest} {next : Reply → Program Action}
    {calls : List LogEntry} {reply : Reply}
    (h : FeedRun.Sound op ns name s ⟨.api request next, calls⟩)
    (hs : s.Serves request reply s') :
    FeedRun.Sound op ns name s' ⟨next reply, calls ++ [⟨.api request, reply⟩]⟩ where
  obeys := (Program.obeys_api.1 h.obeys).2 reply
  seen r f hr hd := by
    rcases List.mem_append.1 hr with hr | hr
    · exact (h.seen r f hr hd).evolves hs.evolves
    · cases List.mem_singleton.1 hr
      cases hs with
      | get honest =>
        obtain ⟨x, hx, hf⟩ := honest f hd
        exact ApiServer.seen_of_stored hx hf
      | refuse _ write => cases write
  held g hg := by
    rcases granted_append hg with
      ⟨r, rfl, he, hd, hactive, hhas⟩ | ⟨r, f, r', rfl, he, hd, hactive, hd'⟩
    · cases he
      cases hs with
      | refuse _ write => cases write
      | get honest =>
        obtain ⟨x, hx, hf⟩ := honest g hd
        refine ⟨⟨x, hx, g.metadata, ApiServer.metadataOf_of_decodeFeed hx hf, hhas⟩, ?_⟩
        intro e he f hf
        rw [List.mem_singleton.1 he] at hf
        cases hd.symm.trans hf
        exact hactive
    · cases he
      obtain ⟨hcarries, hactive'⟩ := adopted_of_answer hs (h.seen r f (.head _) hd) hd'
      refine ⟨hcarries, fun e he f hf => ?_⟩
      rcases List.mem_append.1 he with he | he
      · rw [List.mem_singleton.1 he] at hf
        cases hd.symm.trans hf
        exact hactive
      · rw [List.mem_singleton.1 he] at hf
        cases hd'.symm.trans hf
        exact hactive'.trans hactive
  once := by simpa [LogEntry.toAggregator] using h.once

theorem FeedRun.Sound.sourceCall {request : AggregatorRequest} {next : Reply → Program Action}
    {calls : List LogEntry} (h : FeedRun.Sound op ns name s ⟨.aggregator request next, calls⟩) :
    SourceCall op ns name calls request := by
  cases (Program.obeys_aggregator.1 h.obeys).1 with
  | source call => exact call

theorem SourceCall.filter_eq_nil {calls : List LogEntry} {request : AggregatorRequest}
    (h : SourceCall op ns name calls request) : calls.filter LogEntry.toAggregator = [] := by
  cases h with
  | register granted => cases granted <;> rfl
  | remove => rfl

theorem FeedRun.Sound.aggregator {request : AggregatorRequest} {next : Reply → Program Action}
    {calls : List LogEntry} (h : FeedRun.Sound op ns name s ⟨.aggregator request next, calls⟩)
    (reply : Reply) :
    FeedRun.Sound op ns name s ⟨next reply, calls ++ [⟨.aggregator request, reply⟩]⟩ where
  obeys := (Program.obeys_aggregator.1 h.obeys).2 reply
  seen r f hr hd := by
    rcases List.mem_append.1 hr with hr | hr
    · exact h.seen r f hr hd
    · cases List.mem_singleton.1 hr
  held g hg := by
    rcases granted_append hg with ⟨_, _, ⟨⟩, _⟩ | ⟨_, _, _, _, ⟨⟩, _⟩
  once := by
    rw [List.filter_append, h.sourceCall.filter_eq_nil]
    exact Nat.le_refl 1

theorem ApiServer.Accepts.carries {key other : ObjectKey} {patch old new : Json}
    (h : s.Accepts other patch old new s') (hn : InOrder new)
    (hc : carriesFinalizer old → carriesFinalizer new) (hs : s.Carries key) : s'.Carries key := by
  obtain ⟨x, hx, hxc⟩ := hs
  by_cases hk : key = other
  · subst hk
    rw [h.stored] at hx
    cases hx
    exact ⟨new, h.object_of_carries hn (hc hxc), hc hxc⟩
  · exact ⟨x, by rw [h.object, if_neg hk, hx], hxc⟩

/-- A call of a reconcile leaves the finalizer with the feed, unless the source has just been
removed. -/
theorem FeedRun.Sound.carries {request : ApiRequest} {next : Reply → Program Action}
    {calls : List LogEntry} {reply : Reply}
    (h : FeedRun.Sound op ns name s ⟨.api request next, calls⟩) (hs : s.Serves request reply s')
    (hc : s.Carries ⟨.feeds, ns, name⟩) :
    s'.Carries ⟨.feeds, ns, name⟩ ∨
      ∃ before e source, calls = before ++ [e] ∧ e.Removes op source := by
  have hrule := (Program.obeys_api.1 h.obeys).1
  cases hrule with
  | read =>
    cases hs with
    | get => exact .inl hc
    | refuse => exact .inl hc
  | adopt =>
    unfold adoption feedFinalizersPatch at hs
    cases hs with
    | refuse => exact .inl hc
    | patch accepts =>
      have ho := s.inOrder accepts.stored
      obtain ⟨m, hm, -⟩ := s.placed accepts.stored
      obtain ⟨version, -, -, rfl⟩ := accepts.fresh
      exact .inl (accepts.carries
        (inOrder_written _ (inOrder_metadataPatch _ _ (inOrder_ofStrings _)) ho)
        (fun _ => carriesFinalizer_written ho hm (by simp)) hc)
  | @release r f e read deleting removed => exact .inr ⟨[feedRead ns name r], e, _, rfl, removed⟩
  | report status =>
    cases hs with
    | refuse => exact .inl hc
    | patchStatus accepts =>
      have ho := s.inOrder accepts.stored
      obtain ⟨version, -, -, rfl⟩ := accepts.fresh
      refine .inl (accepts.carries (inOrder_written _ ?_ ho) ?_ hc)
      · exact inOrder_statusPart (inOrder_feedStatus status)
      · rintro ⟨m, hm, hf⟩
        exact ⟨_, metadataOf_written_status ho hm (inOrder_feedStatus status), hf⟩

end

/-! ## Every run -/

/-- What is kept by every step. -/
structure FeedWorld.Sound (op : Operator) (ns name : String) (w : FeedWorld) : Prop where
  run : ∀ run, w.run = some run → run.Sound op ns name w.server
  registered : Registered op w.history → w.server.Carries ⟨.feeds, ns, name⟩
  addressed : Addressed op ns name w.history

section

variable {op : Operator} {ns name : String} {w w' : FeedWorld}

/-- A step without a call. -/
theorem FeedWorld.Sound.silent (h : w.Sound op ns name) {run : Option FeedRun}
    {past : List LogEntry} (hhistory : w.history = past ++ run.elim [] FeedRun.calls)
    (hrun : ∀ r, run = some r → r.Sound op ns name w.server) :
    FeedWorld.Sound op ns name ⟨w.server, run, past⟩ := by
  have hregistered := h.registered
  have haddressed := h.addressed
  rw [hhistory] at hregistered haddressed
  exact ⟨hrun, hregistered, haddressed⟩

theorem FeedStep.sound (hs : FeedStep op ns name w w') (h : w.Sound op ns name) :
    w'.Sound op ns name := by
  cases hs with
  | start idle =>
    refine h.silent (by simp [FeedWorld.history, idle]) fun run hrun => ?_
    cases hrun
    exact ⟨obeys_reconcileFeed, by simp, fun _ => nofun, by simp⟩
  | @api request next calls reply server running serves =>
    have hrun := h.run _ running
    have hh : w.history = w.past ++ calls := by simp [FeedWorld.history, running]
    refine ⟨fun run hrun' => ?_, fun hr => ?_, ?_⟩
    · cases hrun'
      exact hrun.api serves
    · simp only [FeedWorld.history, Option.elim_some, ← List.append_assoc] at hr
      rcases registered_append.1 hr with hr | ⟨hr, -⟩
      · exact absurd hr not_registers_api
      · rcases hrun.carries serves (h.registered (hh ▸ hr)) with
          hc | ⟨before, e, source, rfl, he⟩
        · exact hc
        · -- the source has just been removed: nothing is registered
          rw [← List.append_assoc] at hr
          rcases registered_append.1 hr with hr | ⟨-, hr⟩
          · exact absurd he hr.not_removes
          · exact absurd he (hr source)
    · simp only [FeedWorld.history, Option.elim_some, ← List.append_assoc]
      exact (hh ▸ h.addressed).append nofun
  | @aggregator request next calls reply running =>
    have hrun := h.run _ running
    have hh : w.history = w.past ++ calls := by simp [FeedWorld.history, running]
    refine ⟨fun run hrun' => ?_, fun hr => ?_, ?_⟩
    · cases hrun'
      exact hrun.aggregator reply
    · simp only [FeedWorld.history, Option.elim_some, ← List.append_assoc] at hr
      rcases registered_append.1 hr with ⟨r, hr, hv⟩ | ⟨hr, -⟩
      · cases hr
        cases hrun.sourceCall with
        | register granted => exact (hrun.held _ granted).1
        | remove => cases hv
      · exact h.registered (hh ▸ hr)
    · simp only [FeedWorld.history, Option.elim_some, ← List.append_assoc]
      refine (hh ▸ h.addressed).append ?_
      rintro _ ⟨⟩
      exact ⟨w.past, calls, rfl, hrun.sourceCall⟩
  | @now next calls time running =>
    have hrun := h.run _ running
    refine h.silent (by simp [FeedWorld.history, running]) fun run hrun' => ?_
    cases hrun'
    exact ⟨Program.obeys_now.1 hrun.obeys time, hrun.seen, hrun.held, hrun.once⟩
  | @note event next calls running =>
    have hrun := h.run _ running
    refine h.silent (by simp [FeedWorld.history, running]) fun run hrun' => ?_
    cases hrun'
    exact ⟨Program.obeys_note.1 hrun.obeys, hrun.seen, hrun.held, hrun.once⟩
  | stop running => exact h.silent (by simp [FeedWorld.history, running]) nofun
  | others keeps => exact ⟨fun run hrun => (h.run run hrun).keeps keeps,
      fun hr => keeps.carries (h.registered hr), h.addressed⟩

theorem FeedWorld.Leads.sound (hl : w.Leads op ns name w') (h : w.Sound op ns name) :
    w'.Sound op ns name := by
  induction hl with
  | refl => exact h
  | step _ step ih => exact step.sound ih

end

/-- A server with nothing under way and no calls so far. -/
def FeedWorld.start (server : ApiServer) : FeedWorld := ⟨server, none, []⟩

/-- A patch that sets the finalizers to a list without that of the operator. -/
def DropsFinalizer (body : Json) : Prop :=
  ∃ v, (body.field "metadata").field? "finalizers" = some v ∧
    ∀ finalizers, decodeStrings v = some finalizers → feedFinalizer ∉ finalizers

theorem not_dropsFinalizer_adoption (m : Metadata) {finalizers : List String}
    (hf : feedFinalizer ∈ finalizers) : ¬ DropsFinalizer (finalizersPatch m finalizers) := by
  rintro ⟨v, hv, hall⟩
  unfold finalizersPatch ofStrings at hv
  rw [field_metadata_metadataPatch, field?_obj, lookup_metadataPatch, if_pos rfl] at hv
  cases hv
  exact hall finalizers (decodeStrings_ofStrings finalizers) hf

/-- A feed never disappears while its source may still be registered. Whatever the servers answer
and others write: a registration is sent only while the stored feed carries the finalizer, which
was found or has been added, and never when a deletion has been seen; the finalizer is given up
only after a removal that was answered well; when the feed is gone, every registration has been
followed by such a removal; and a reconcile calls the aggregator at most once. It does so at the
list of sources, to register the URL or to remove the name of the feed that it has been shown. -/
theorem feed_outlives_source {op : Operator} {ns name : String} {server : ApiServer}
    {w : FeedWorld} (hw : (FeedWorld.start server).Leads op ns name w) :
    (∀ request next calls, w.run = some ⟨.aggregator request next, calls⟩ →
      request.verb = .register →
        (∃ f sources, Granted ns name f calls ∧ op.aggregator.sourcesEndpoint = .ok sources ∧
          request = ⟨.register, sources, some (ofFields [("url", .str (trim f.spec.url))])⟩) ∧
        w.server.Carries ⟨.feeds, ns, name⟩ ∧ NeverDeleting calls) ∧
    (∀ collection home own body next calls,
      w.run = some ⟨.api (.patch collection home own body) next, calls⟩ → DropsFinalizer body →
        ∃ reply f e, calls = [feedRead ns name reply, e] ∧ reply.decode decodeFeed = .ok f ∧
          f.metadata.isDeleting = true ∧ e.Removes op (trim f.spec.name)) ∧
    (w.server.object ⟨.feeds, ns, name⟩ = none → ∀ before e after,
      w.history = before ++ e :: after → e.Registers →
        ∃ e' ∈ after, ∃ source, e'.Removes op source) ∧
    (∀ run, w.run = some run → (run.calls.filter LogEntry.toAggregator).length ≤ 1) ∧
    Addressed op ns name w.history := by
  have hsound : w.Sound op ns name := by
    refine hw.sound ⟨nofun, ?_, fun before request reply after heq => ?_⟩
    · rintro ⟨before, e, after, heq, -⟩
      cases before <;> cases heq
    · cases before <;> cases heq
  refine ⟨fun request next calls hrun hverb => ?_,
    fun collection home own body next calls hrun hd => ?_,
    fun hgone before e after heq he => ?_, fun run hrun => (hsound.run run hrun).once,
    hsound.addressed⟩
  · have hr := hsound.run _ hrun
    cases hr.sourceCall with
    | register granted address => exact ⟨⟨_, _, granted, address, rfl⟩, hr.held _ granted⟩
    | remove => cases hverb
  · have hr := hsound.run _ hrun
    have hrule := (Program.obeys_api.1 hr.obeys).1
    generalize hreq : SentRequest.api (.patch collection home own body) = request at hrule
    cases hrule with
    | adopt =>
      cases hreq
      exact absurd hd (not_dropsFinalizer_adoption _ (by simp))
    | @release reply f e read deleting removed => exact ⟨reply, f, e, rfl, read, deleting, removed⟩
    | read => cases hreq
    | source => cases hreq
    | report => cases hreq
  · refine Classical.byContradiction fun hnot => ?_
    obtain ⟨x, hx, -⟩ := hsound.registered
      ⟨before, e, after, heq, he, fun e' he' source hr => hnot ⟨e', he', source, hr⟩⟩
    rw [hgone] at hx
    cases hx

/-! ## A feed that is deleted -/

section

variable {op : Operator} {ns name : String} {w₀ : FeedWorld} {s s' : ApiServer}
  {calls past : List LogEntry} {rest : Program Action}

theorem FeedWorld.Leads.start (hl : w₀.Leads op ns name ⟨s, none, past⟩)
    (hrest : reconcileFeed op ns name = rest) : w₀.Leads op ns name ⟨s, some ⟨rest, []⟩, past⟩ :=
  hrest ▸ hl.step (.start rfl)

theorem FeedWorld.Leads.api {request : ApiRequest} {next : Reply → Program Action}
    (hl : w₀.Leads op ns name ⟨s, some ⟨.api request next, calls⟩, past⟩) (reply : Reply)
    (hs : s.Serves request reply s') (hrest : next reply = rest) :
    w₀.Leads op ns name ⟨s', some ⟨rest, calls ++ [⟨.api request, reply⟩]⟩, past⟩ :=
  hrest ▸ hl.step (.api rfl hs)

theorem FeedWorld.Leads.aggregator {request : AggregatorRequest} {next : Reply → Program Action}
    (hl : w₀.Leads op ns name ⟨s, some ⟨.aggregator request next, calls⟩, past⟩) (reply : Reply)
    (hrest : next reply = rest) :
    w₀.Leads op ns name ⟨s, some ⟨rest, calls ++ [⟨.aggregator request, reply⟩]⟩, past⟩ :=
  hrest ▸ hl.step (.aggregator reply rfl)

end

namespace DeletedFeed

def operator : Operator := ⟨{}, ⟨{
  scheme := "http"
  username := ""
  password := none
  host := some (.domain "aggregator")
  port := none
  path := .segments [""]
  query := none
  fragment := none }⟩⟩

/-- The feed of a version, whose deletion may be requested. -/
def feed (version : String) (deletion : Option String) : Feed :=
  ⟨{ Metadata.empty with
      name := some "bbc"
      ns := some "news"
      resourceVersion := some version
      finalizers := some [feedFinalizer]
      deletionTimestamp := deletion.bind Timestamp.parse? }, ⟨"bbc", "http://bbc"⟩, none⟩

def inUse : Feed := feed "1" none

def deleted : Feed := feed "2" (some "2025-01-01T00:00:00Z")

def key : ObjectKey := ⟨.feeds, "news", "bbc"⟩

theorem storable_inUse : ApiServer.Storable key ["1"] (feedToJson inUse) where
  inOrder := by
    have h : canonical (feedToJson inUse) = feedToJson inUse := by decide +kernel
    exact h ▸ inOrder_canonical _
  placed := ⟨inUse.metadata, by decide +kernel⟩
  versioned := ⟨"1", by decide +kernel⟩

theorem storable_deleted : ApiServer.Storable key ["2", "1"] (feedToJson deleted) where
  inOrder := by
    have h : canonical (feedToJson deleted) = feedToJson deleted := by decide +kernel
    exact h ▸ inOrder_canonical _
  placed := ⟨deleted.metadata, by decide +kernel⟩
  versioned := ⟨"2", by decide +kernel⟩

def reading (f : Feed) : Reply := Store.found (feedToJson f)

theorem decode_reading : (reading inUse).decode decodeFeed = .ok inUse ∧
    (reading deleted).decode decodeFeed = .ok deleted := ⟨rfl, rfl⟩

def answer : Reply := .answered 200 .empty

def sources : Url := { operator.aggregator.base with path := .segments ["sources"] }

def registration : AggregatorRequest :=
  ⟨.register, sources, some (ofFields [("url", .str "http://bbc")])⟩

def removal : AggregatorRequest := ⟨.remove, sources, some (ofFields [("name", .str "bbc")])⟩

/-- The calls of a reconcile of the feed in use: it is read, and its source is registered. -/
theorem calls_inUse : ∃ next next',
    reconcileFeed operator "news" "bbc" = .api (.get .feeds "news" "bbc") next ∧
      next (reading inUse) = .aggregator registration next' :=
  ⟨_, _, rfl, rfl⟩

def releasing : Json := finalizersPatch deleted.metadata []

/-- The calls of a reconcile of the deleted feed: it is read, its source is removed, and the
finalizer is taken from it. -/
theorem calls_deleted : ∃ next next' next'',
    reconcileFeed operator "news" "bbc" = .api (.get .feeds "news" "bbc") next ∧
      next (reading deleted) = .aggregator removal next' ∧
      next' answer = .api (.patch .feeds "news" "bbc" releasing) next'' :=
  ⟨_, _, _, rfl, rfl, rfl⟩

theorem serves_get {used : List String} {f : Feed}
    (h : ApiServer.Storable key used (feedToJson f))
    (hd : (reading f).decode decodeFeed = .ok f) (hf : decodeFeed (feedToJson f) = some f) :
    (ApiServer.single h).Serves (.get .feeds "news" "bbc") (reading f) (.single h) := by
  refine .get fun g hg => ⟨feedToJson f, ApiServer.single_object h, ?_⟩
  cases hd.symm.trans hg
  exact hf

def gone : ApiServer := .bare fun _ => ["3", "2", "1"]

theorem accepts_releasing : ∃ new, (ApiServer.single storable_deleted).Accepts key releasing
    (feedToJson deleted) new gone :=
  ⟨_, ApiServer.accepts_bare "3" storable_deleted (by decide +kernel) (by decide)
    (by decide +kernel)⟩

theorem keeps : (ApiServer.single storable_inUse).KeepsFinalizer key
    (.single storable_deleted) where
  evolves := ApiServer.evolves_single _ _ (by decide +kernel) (by decide)
  carries _ := ⟨feedToJson deleted, ApiServer.single_object _, deleted.metadata, by decide +kernel⟩

end DeletedFeed

open DeletedFeed

/-- A feed whose source is registered is deleted: the source is removed before the feed goes. -/
theorem deletedFeed_outlives_source : ∃ w w' w'' next release before after,
    (FeedWorld.start (.single storable_inUse)).Leads operator "news" "bbc" w ∧
      w.run = some ⟨.aggregator registration next, [feedRead "news" "bbc" (reading inUse)]⟩ ∧
      registration.verb = .register ∧ w.server.Carries key ∧
    (FeedWorld.start (.single storable_inUse)).Leads operator "news" "bbc" w' ∧
      w'.run = some ⟨.api (.patch .feeds "news" "bbc" releasing) release,
        [feedRead "news" "bbc" (reading deleted), ⟨.aggregator removal, answer⟩]⟩ ∧
      DropsFinalizer releasing ∧ LogEntry.Removes operator "bbc" ⟨.aggregator removal, answer⟩ ∧
    (FeedWorld.start (.single storable_inUse)).Leads operator "news" "bbc" w'' ∧
      w''.server.object key = none ∧
      w''.history = before ++ ⟨.aggregator registration, answer⟩ :: after ∧
      (∃ e ∈ after, ∃ source, e.Removes operator source) ∧
      Addressed operator "news" "bbc" w''.history := by
  obtain ⟨next, next', hget, hregister⟩ := calls_inUse
  obtain ⟨anext, rnext, pnext, hget', hremove, hrelease⟩ := calls_deleted
  obtain ⟨new, haccepts⟩ := accepts_releasing
  have h₀ : (FeedWorld.start (.single storable_inUse)).Leads operator "news" "bbc"
      ⟨.single storable_inUse, none, []⟩ := .refl
  have hw := (h₀.start hget).api (reading inUse)
    (serves_get storable_inUse decode_reading.1 (by decide +kernel)) hregister
  -- the reconcile stops there, and the deletion of the feed is requested
  have hstopped := ((hw.aggregator answer rfl).step (.stop rfl)).step (.others keeps)
  have hw' := ((hstopped.start hget').api (reading deleted)
    (serves_get storable_deleted decode_reading.2 (by decide +kernel)) hremove).aggregator
    answer hrelease
  have hw'' := hw'.api .dropped (.patch haccepts fun _ h => nomatch h) rfl
  have hdrops : DropsFinalizer releasing :=
    ⟨.arr [], by decide +kernel, fun finalizers hf => by cases hf; simp⟩
  obtain ⟨-, -, hgone, -, haddressed⟩ := feed_outlives_source hw''
  refine ⟨_, _, _, next', pnext, [feedRead "news" "bbc" (reading inUse)], _, hw, rfl, rfl, ?_,
    hw', rfl, hdrops, ?_, hw'', rfl, rfl, ?_, haddressed⟩
  · exact ((feed_outlives_source hw).1 registration next' _ rfl rfl).2.1
  · obtain ⟨reply, f, e, hcalls, hd, -, he⟩ :=
      (feed_outlives_source hw').2.1 _ _ _ _ _ _ rfl hdrops
    cases hcalls
    cases decode_reading.2.symm.trans hd
    exact he
  · exact hgone rfl [feedRead "news" "bbc" (reading inUse)] ⟨.aggregator registration, answer⟩ _
      rfl ⟨registration, rfl, rfl⟩

end Newsdesk
