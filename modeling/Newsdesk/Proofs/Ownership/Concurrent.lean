import Newsdesk.Proofs.Cluster.Server
import Newsdesk.Proofs.Ownership.Sync

/-!
# Concurrent owner syncs

Any number of queries sync the owners of the feeds of one namespace at the same time, one call
after the other in any order (`SyncStep`). A patch replaces all owner references of a feed by a
list that was computed from an earlier reading of it. Still no patch loses or brings back a
reference to another query: the patch names the version that was read, and what is stored under
that version is what was read. Hence a query that is deleted and has given up its feeds stays
without feeds, whatever syncs were under way.
-/

namespace Newsdesk

open Json

/-- The owners of a stored object. -/
def storedOwners (x : Json) : List OwnerReference := (metadataOf x).elim [] Metadata.owners

theorem storedOwners_of_metadataOf {x : Json} {m : Metadata} (h : metadataOf x = some m) :
    storedOwners x = m.owners := by simp [storedOwners, h]

namespace ApiServer

/-- Nobody becomes the owner of a feed by a change of the server who was not before. -/
def GainsNone (uid ns : String) (s s' : ApiServer) : Prop :=
  ∀ name x', s'.object ⟨.feeds, ns, name⟩ = some x' → hasOwner uid (storedOwners x') →
    ∃ x, s.object ⟨.feeds, ns, name⟩ = some x ∧ hasOwner uid (storedOwners x)

/-- A change of the server by others: they may write all but owner references. -/
structure KeepsOwners (s s' : ApiServer) : Prop where
  evolves : s.Evolves s'
  owners : ∀ key x', s'.object key = some x' →
    storedOwners x' = [] ∨ ∃ x, s.object key = some x ∧ storedOwners x' = storedOwners x

end ApiServer

/-! ## The system -/

/-- A sync under way: its desired feeds, what is left of it, and its calls so far. -/
structure SyncRun where
  desired : List String
  rest : Program Unit
  calls : List LogEntry

/-- A server, the syncs under way by the unique identifiers of their queries, and the queries
whose deletion has been requested. -/
structure SyncWorld where
  server : ApiServer
  running : String → Option SyncRun
  deleting : String → Prop

/-- The world with another run of a query. -/
def SyncWorld.setRun (w : SyncWorld) (uid : String) (run : Option SyncRun) : SyncWorld :=
  { w with running := fun u => if u = uid then run else w.running u }

theorem SyncWorld.setRun_running (w : SyncWorld) (uid : String) (run : Option SyncRun)
    (u : String) : (w.setRun uid run).running u = if u = uid then run else w.running u := rfl

/-- One step of the system. A query whose deletion has been requested only gives up its feeds. -/
inductive SyncStep (ns : String) : SyncWorld → SyncWorld → Prop
  | start {w : SyncWorld} {h : HotNews} {uid : String} {desired : List String}
      (idle : w.running uid = none) (self : h.metadata.uid = some uid)
      (home : h.metadata.nsName = ns) (release : w.deleting uid → desired = []) :
      SyncStep ns w (w.setRun uid (some ⟨desired, syncOwners h desired, []⟩))
  | call {w : SyncWorld} {uid : String} {desired : List String} {request : ApiRequest}
      {next : Reply → Program Unit} {calls : List LogEntry} {reply : Reply} {server : ApiServer}
      (running : w.running uid = some ⟨desired, .api request next, calls⟩)
      (serves : w.server.Serves request reply server) :
      SyncStep ns w (SyncWorld.setRun { w with server } uid
        (some ⟨desired, next reply, calls ++ [⟨.api request, reply⟩]⟩))
  | stop {w : SyncWorld} {uid : String} : SyncStep ns w (w.setRun uid none)
  | delete {w : SyncWorld} {uid : String} :
      SyncStep ns w { w with deleting := fun u => u = uid ∨ w.deleting u }
  | others {w : SyncWorld} {server : ApiServer} (keeps : w.server.KeepsOwners server) :
      SyncStep ns w { w with server }

/-- What can come of a world. -/
inductive SyncWorld.Leads (ns : String) (w : SyncWorld) : SyncWorld → Prop
  | refl : Leads ns w w
  | step {w' w'' : SyncWorld} (before : Leads ns w w') (step : SyncStep ns w' w'') : Leads ns w w''

/-- A world without any sync under way. -/
def SyncWorld.Idle (w : SyncWorld) : Prop := ∀ uid, w.running uid = none

/-! ## The invariant -/

/-- What is true of a sync under way: it obeys its rule, the feeds that it has listed are those
that were stored, and if it gives up all feeds, then the feeds that are left to it are among
those that it has listed and not yet patched. -/
structure SyncRun.Sound (ns : String) (s : ApiServer) (uid : String) (run : SyncRun) : Prop where
  obeys : run.rest.Obeys (SyncRule uid ns run.desired) (SyncPost uid ns run.desired) run.calls
  seen : ∀ feeds, Listed ns feeds run.calls → ∀ f ∈ feeds, ∃ name, s.Seen ⟨.feeds, ns, name⟩ f
  left : run.desired = [] → ∀ feeds, Listed ns feeds run.calls →
    ∀ name x, s.object ⟨.feeds, ns, name⟩ = some x → hasOwner uid (storedOwners x) →
      (∃ f ∈ feeds, f.metadata.displayName = name ∧ isOwnedBy f uid = true) ∧
        ¬ Patched ns name run.calls

/-- All syncs under way are sound. -/
def SyncWorld.Sound (ns : String) (w : SyncWorld) : Prop :=
  ∀ uid run, w.running uid = some run → run.Sound ns w.server uid

section

variable {ns uid : String} {s s' : ApiServer}

/-- A sync stays sound as long as its query is not made an owner by anything else. -/
theorem SyncRun.Sound.evolves {run : SyncRun} (h : run.Sound ns s uid) (he : s.Evolves s')
    (hg : run.desired = [] → s.GainsNone uid ns s') : run.Sound ns s' uid where
  obeys := h.obeys
  seen feeds hl f hf := (h.seen feeds hl f hf).imp fun _ hseen => hseen.evolves he
  left hd feeds hl name x' hx' ho' := by
    obtain ⟨x, hx, ho⟩ := hg hd name x' hx' ho'
    exact h.left hd feeds hl name x hx ho

section

variable {desired : List String} {request : ApiRequest} {next : Reply → Program Unit}
  {calls : List LogEntry} {reply : Reply}
  (h : SyncRun.Sound ns s uid ⟨desired, .api request next, calls⟩)
include h

/-- A patch of a sound sync that is accepted writes the change that was planned for the very feed
that is stored. -/
theorem SyncRun.Sound.accepts {collection : Collection} {home name : String} {body old new : Json}
    (hr : request = .patch collection home name body)
    (ha : s.Accepts ⟨collection, home, name⟩ body old new s') :
    ∃ (owner : OwnerReference) (feed : Feed) (change : OwnerChange), owner.uid = uid ∧
      ownerChange? owner desired feed = some change ∧ storedOwners old = feed.metadata.owners ∧
      storedOwners new = change.owners := by
  subst hr
  have hrule := (Program.obeys_api.1 h.obeys).1
  cases hrule with
  | @patch _ feeds feed owner change hl hf hself hplanned =>
    obtain ⟨hname, hversion, -⟩ := ownerChange?_cases hplanned
    obtain ⟨name, hseen⟩ := h.seen feeds hl feed hf
    have hkey : change.feed = name := by simp [hname, Metadata.displayName, hseen.name]
    rw [hkey] at ha
    -- the patch names the version of the feed as it was listed, so this is what is stored
    have hm : metadataOf old = some feed.metadata := ha.metadataOf_old hseen (by
      unfold ownersPatch
      rw [versionOf_metadataPatch (by simp), hversion])
    obtain ⟨version, -, -, rfl⟩ := ha.fresh
    refine ⟨owner, feed, change, hself, hplanned, storedOwners_of_metadataOf hm, ?_⟩
    exact storedOwners_of_metadataOf
      (metadataOf_written_owners (s.inOrder ha.stored) hm change.owners)

/-- The references to other queries are the same, in the same order. -/
theorem SyncRun.Sound.otherOwners_accepts {collection : Collection} {home name : String}
    {body old new : Json} (hr : request = .patch collection home name body)
    (ha : s.Accepts ⟨collection, home, name⟩ body old new s') :
    otherOwners uid (storedOwners new) = otherOwners uid (storedOwners old) := by
  obtain ⟨owner, feed, change, rfl, hplanned, hold, hnew⟩ := h.accepts hr ha
  rw [hold, hnew]
  exact otherOwners_of_ownerChange? hplanned

/-- A sync that gives up all feeds leaves no reference to its query. -/
theorem SyncRun.Sound.not_hasOwner_accepts (hd : desired = []) {collection : Collection}
    {home name : String} {body old new : Json} (hr : request = .patch collection home name body)
    (ha : s.Accepts ⟨collection, home, name⟩ body old new s') :
    ¬ hasOwner uid (storedOwners new) := by
  obtain ⟨owner, feed, change, rfl, hplanned, -, hnew⟩ := h.accepts hr ha
  rw [hnew, hasOwner_of_ownerChange? hplanned, hd, isWanted_nil]
  exact Bool.false_ne_true

/-- A call of a sync makes nobody an owner but its own query, and not even that one if it gives
up all feeds. -/
theorem SyncRun.Sound.gainsNone (hs : s.Serves request reply s') {other : String}
    (ho : other = uid → desired = []) : s.GainsNone other ns s' := by
  intro name x' hx' howner
  cases hs with
  | get => exact ⟨x', hx', howner⟩
  | list => exact ⟨x', hx', howner⟩
  | refuse => exact ⟨x', hx', howner⟩
  | patchStatus => cases (Program.obeys_api.1 h.obeys).1
  | @patch collection home name body old new reply s' accepts honest =>
    rw [accepts.object] at hx'
    split at hx'
    case isFalse => exact ⟨x', hx', howner⟩
    case isTrue hkey =>
      split at hx'
      · cases hx'
      · cases hx'
        have hne : other ≠ uid := fun he =>
          h.not_hasOwner_accepts (ho he) rfl accepts (he ▸ howner)
        refine ⟨old, hkey ▸ accepts.stored, ?_⟩
        rw [← hasOwner_otherOwners hne, ← h.otherOwners_accepts rfl accepts]
        exact (hasOwner_otherOwners hne).2 howner

/-- A sync stays sound when it is answered. -/
theorem SyncRun.Sound.call (hs : s.Serves request reply s') :
    SyncRun.Sound ns s' uid ⟨desired, next reply, calls ++ [⟨.api request, reply⟩]⟩ where
  obeys := (Program.obeys_api.1 h.obeys).2 reply
  seen feeds hl f hf := by
    obtain ⟨r, hr, hdecode⟩ := hl
    rcases List.mem_append.1 hr with hr | hr
    · exact (h.seen feeds ⟨r, hr, hdecode⟩ f hf).imp fun _ hseen => hseen.evolves hs.evolves
    · cases List.mem_singleton.1 hr
      cases hs with
      | list honest => exact (honest feeds hdecode).seen hf
      | refuse _ write => cases write
  left hd feeds hl name x' hx' howner := by
    obtain ⟨r, hr, hdecode⟩ := hl
    rcases List.mem_append.1 hr with hr | hr
    · obtain ⟨x, hx, ho⟩ := h.gainsNone hs (fun _ => hd) name x' hx' howner
      obtain ⟨hfeed, hnot⟩ := h.left hd feeds ⟨r, hr, hdecode⟩ name x hx ho
      refine ⟨hfeed, ?_⟩
      rintro ⟨body, r', feed, hr', hdecode'⟩
      rcases List.mem_append.1 hr' with hr' | hr'
      · exact hnot ⟨body, r', feed, hr', hdecode'⟩
      · -- the feed has just been patched: it has no reference to the query any more
        cases List.mem_singleton.1 hr'
        cases hs with
        | refuse fails => exact fails feed hdecode'
        | patch accepts =>
          rw [accepts.object, if_pos rfl] at hx'
          split at hx'
          · cases hx'
          · cases hx'
            exact h.not_hasOwner_accepts hd rfl accepts howner
    · cases List.mem_singleton.1 hr
      have hrule := (Program.obeys_api.1 h.obeys).1
      cases hs with
      | refuse _ write => cases write
      | list honest =>
        obtain ⟨f, hf, hdf⟩ := (honest feeds hdecode).2 name x' hx'
        obtain ⟨m, hm, hname, -⟩ := s.placed hx'
        have hfm := ApiServer.metadataOf_of_decodeFeed hx' hdf
        refine ⟨⟨f, hf, ?_, ?_⟩, ?_⟩
        · rw [hm] at hfm
          cases hfm
          simp [Metadata.displayName, hname]
        · rw [isOwnedBy_iff, ← storedOwners_of_metadataOf hfm]
          exact howner
        · cases hrule
          rintro ⟨body, r', feed, hr', -⟩
          cases List.mem_singleton.1 hr'

end

end

/-! ## Every run -/

section

variable {ns : String} {w w' : SyncWorld}

theorem ApiServer.KeepsOwners.gainsNone {s s' : ApiServer} (h : s.KeepsOwners s') (uid : String) :
    s.GainsNone uid ns s' := by
  intro name x' hx' howner
  rcases h.owners _ x' hx' with hnone | ⟨x, hx, hsame⟩
  · rw [hnone] at howner
    obtain ⟨r, hr, -⟩ := howner
    cases hr
  · exact ⟨x, hx, hsame ▸ howner⟩

/-- Every step keeps all syncs under way sound. -/
theorem SyncStep.sound (hs : SyncStep ns w w') (h : w.Sound ns) : w'.Sound ns := by
  intro u run hrun
  cases hs with
  | @start q uid desired idle self home release =>
    rw [SyncWorld.setRun_running] at hrun
    split at hrun
    case isFalse => exact h u run hrun
    case isTrue hu =>
      subst hu
      cases hrun
      exact ⟨obeys_syncOwners desired self home, fun feeds ⟨_, hr, _⟩ => (List.not_mem_nil hr).elim,
        fun _ feeds ⟨_, hr, _⟩ => (List.not_mem_nil hr).elim⟩
  | @call uid desired request next calls reply server running serves =>
    have hcalling := h uid _ running
    rw [SyncWorld.setRun_running] at hrun
    split at hrun
    case isFalse hne =>
      exact (h u run hrun).evolves serves.evolves fun _ =>
        hcalling.gainsNone serves fun hu => absurd hu hne
    case isTrue hu =>
      subst hu
      cases hrun
      exact hcalling.call serves
  | stop =>
    rw [SyncWorld.setRun_running] at hrun
    split at hrun
    · cases hrun
    · exact h u run hrun
  | delete => exact h u run hrun
  | others keeps => exact (h u run hrun).evolves keeps.evolves fun _ => keeps.gainsNone u

theorem SyncWorld.Leads.sound (hl : w.Leads ns w') (h : w.Sound ns) : w'.Sound ns := by
  induction hl with
  | refl => exact h
  | step _ step ih => exact step.sound ih

/-- A query whose deletion has been requested and that has no feeds left, nor a sync under way
that could take one. -/
structure SyncWorld.Released (ns : String) (w : SyncWorld) (uid : String) : Prop where
  deleting : w.deleting uid
  running : ∀ run, w.running uid = some run → run.desired = []
  free : ∀ name x, w.server.object ⟨.feeds, ns, name⟩ = some x → ¬ hasOwner uid (storedOwners x)

/-- A sync that has given up all feeds leaves the query released. -/
theorem SyncWorld.Sound.released (h : w.Sound ns) {uid : String} {calls : List LogEntry}
    (hdeleting : w.deleting uid) (hdone : w.running uid = some ⟨[], .done (), calls⟩) :
    w.Released ns uid := by
  refine ⟨hdeleting, fun run hrun => ?_, fun name x hx howner => ?_⟩
  · rw [hdone] at hrun
    cases hrun
    rfl
  · have hsound := h uid _ hdone
    obtain ⟨feeds, hlisted, hall⟩ := Program.obeys_pure.1 hsound.obeys
    obtain ⟨⟨f, hf, hname, howned⟩, hnot⟩ := hsound.left rfl feeds hlisted name x hx howner
    -- every listed feed that the query owned has been patched
    exact hnot (hname ▸ hall f hf (by simp [howned]))

/-- Once released, for ever. -/
theorem SyncStep.released (hs : SyncStep ns w w') (h : w.Sound ns) {uid : String}
    (hr : w.Released ns uid) : w'.Released ns uid := by
  have hfree {s' : ApiServer} (hg : w.server.GainsNone uid ns s') (name : String) (x' : Json)
      (hx' : s'.object ⟨.feeds, ns, name⟩ = some x') : ¬ hasOwner uid (storedOwners x') := by
    intro howner
    obtain ⟨x, hx, ho⟩ := hg name x' hx' howner
    exact hr.free name x hx ho
  cases hs with
  | @start q u desired idle self home release =>
    refine ⟨hr.deleting, fun run hrun => ?_, hr.free⟩
    rw [SyncWorld.setRun_running] at hrun
    split at hrun
    case isFalse => exact hr.running run hrun
    case isTrue hu =>
      subst hu
      cases hrun
      exact release hr.deleting
  | @call u desired request next calls reply server running serves =>
    have hgains := (h u _ running).gainsNone serves fun (hu : uid = u) =>
      hr.running _ (hu ▸ running)
    refine ⟨hr.deleting, fun run hrun => ?_, hfree hgains⟩
    rw [SyncWorld.setRun_running] at hrun
    split at hrun
    case isFalse => exact hr.running run hrun
    case isTrue hu =>
      subst hu
      cases hrun
      exact hr.running ⟨desired, .api request next, calls⟩ running
  | stop =>
    refine ⟨hr.deleting, fun run hrun => ?_, hr.free⟩
    rw [SyncWorld.setRun_running] at hrun
    split at hrun
    · cases hrun
    · exact hr.running run hrun
  | delete => exact ⟨.inr hr.deleting, hr.running, hr.free⟩
  | others keeps => exact ⟨hr.deleting, hr.running, hfree (keeps.gainsNone uid)⟩

theorem SyncWorld.Leads.released (hl : w.Leads ns w') (h : w.Sound ns) {uid : String}
    (hr : w.Released ns uid) : w'.Released ns uid := by
  induction hl with
  | refl => exact hr
  | step before step ih => exact step.released (before.sound h) ih

end

/-- However the syncs of any number of queries interleave, an accepted patch of one of them keeps
the references to all others, in their order; and once a sync of a query whose deletion has been
requested has given up all feeds, no feed ever refers to the query again. -/
theorem concurrent_syncs_keep_owners {ns : String} {w₀ w : SyncWorld} (hidle : w₀.Idle)
    (hw : w₀.Leads ns w) :
    (∀ uid desired collection home name body next calls old new server,
      w.running uid = some ⟨desired, .api (.patch collection home name body) next, calls⟩ →
      w.server.Accepts ⟨collection, home, name⟩ body old new server →
        otherOwners uid (storedOwners new) = otherOwners uid (storedOwners old)) ∧
    ∀ uid calls, w.deleting uid → w.running uid = some ⟨[], .done (), calls⟩ →
      ∀ w', w.Leads ns w' → ∀ name x, w'.server.object ⟨.feeds, ns, name⟩ = some x →
        ¬ hasOwner uid (storedOwners x) := by
  have hsound : w.Sound ns := hw.sound fun uid run hrun => by
    rw [hidle uid] at hrun
    cases hrun
  constructor
  · intro uid desired collection home name body next calls old new server hrun haccepts
    exact (hsound uid _ hrun).otherOwners_accepts rfl haccepts
  · intro uid calls hdeleting hdone w' hw' name x hx
    exact (hw'.released hsound (hsound.released hdeleting hdone)).free name x hx

/-! ## A feed with two owners -/

section

variable {ns uid : String} {w₀ w : SyncWorld} (hl : w₀.Leads ns w)
include hl

theorem SyncWorld.Leads.start {h : HotNews} (desired : List String) (idle : w.running uid = none)
    (self : h.metadata.uid = some uid) (home : h.metadata.nsName = ns)
    (release : w.deleting uid → desired = []) :
    ∃ w', w₀.Leads ns w' ∧ w'.server = w.server ∧ w'.deleting = w.deleting ∧
      w'.running uid = some ⟨desired, syncOwners h desired, []⟩ :=
  ⟨_, hl.step (.start idle self home release), rfl, rfl, if_pos rfl⟩

theorem SyncWorld.Leads.call {desired : List String} {request : ApiRequest}
    {next : Reply → Program Unit} {calls : List LogEntry} {reply : Reply} {server : ApiServer}
    (running : w.running uid = some ⟨desired, .api request next, calls⟩)
    (serves : w.server.Serves request reply server) :
    ∃ w', w₀.Leads ns w' ∧ w'.server = server ∧ w'.deleting = w.deleting ∧
      w'.running uid = some ⟨desired, next reply, calls ++ [⟨.api request, reply⟩]⟩ :=
  ⟨_, hl.step (.call running serves), rfl, rfl, if_pos rfl⟩

end

namespace SharedFeed

def owner (uid : String) : OwnerReference :=
  ⟨apiGroupVersion, Collection.hotNews.kind, "top", uid, some false, none⟩

/-- A feed with two owners. -/
def feed : Feed :=
  ⟨{ Metadata.empty with
      name := some "bbc"
      ns := some "news"
      resourceVersion := some "1"
      ownerReferences := some [owner "u", owner "v"] }, ⟨"bbc", "http://bbc"⟩, none⟩

/-- One of the owners. -/
def query : HotNews :=
  ⟨{ Metadata.empty with name := some "top", ns := some "news", uid := some "u" },
    ⟨[], none, none, [], [], ⟨0⟩⟩, none⟩

def key : ObjectKey := ⟨.feeds, "news", "bbc"⟩

/-- The patch that takes the feed from one of the owners. -/
def patch : Json := metadataPatch (some "1") "ownerReferences" (.arr [(owner "v").toJson])

/-- The feed as it is stored then. -/
def released : Json := written "2" patch (feedToJson feed)

def releasedFeed : Feed :=
  { feed with metadata := { feed.metadata with
    resourceVersion := some "2", ownerReferences := some [owner "v"] } }

theorem storable : ApiServer.Storable key ["1"] (feedToJson feed) where
  inOrder := by
    have h : canonical (feedToJson feed) = feedToJson feed := by decide +kernel
    exact h ▸ inOrder_canonical _
  placed := ⟨feed.metadata, by decide +kernel⟩
  versioned := ⟨"1", by decide +kernel⟩

theorem storable_released : ApiServer.Storable key ["2", "1"] released where
  inOrder := by
    have h : canonical released = released := by decide +kernel
    exact h ▸ inOrder_canonical _
  placed := ⟨releasedFeed.metadata, by decide +kernel⟩
  versioned := ⟨"2", by decide +kernel⟩

def listing : Reply := .answered 200 (.value (ofFields [("items", .arr [feedToJson feed])]))

def world : SyncWorld := ⟨ApiServer.single storable, fun _ => none, fun _ => False⟩

theorem accepts : (ApiServer.single storable).Accepts key patch (feedToJson feed) released
    (ApiServer.single storable_released) :=
  ApiServer.accepts_single storable storable_released (by decide +kernel) (by decide)
    (by decide +kernel)

theorem lists : (ApiServer.single storable).Lists "news" [feed] := by
  have hdecode : decodeFeed (feedToJson feed) = some feed := by decide +kernel
  refine ⟨fun f hf => ?_, fun name x hx => ?_⟩
  · rw [List.mem_singleton.1 hf]
    exact ⟨"bbc", feedToJson feed, rfl, hdecode⟩
  · obtain ⟨-, ⟨⟩⟩ := Option.ite_none_right_eq_some.1 hx
    exact ⟨feed, by simp, hdecode⟩

/-- The calls of a sync of the query that gives up all feeds. -/
theorem syncOwners_calls : ∃ next next',
    syncOwners query [] = .api (.list .feeds (some "news") none) next ∧
      next listing = .api (.patch .feeds "news" "bbc" patch) next' ∧
      next' (Store.found released) = .done () := ⟨_, _, rfl, rfl, rfl⟩

end SharedFeed

open SharedFeed

/-- A query that shares a feed is deleted: it gives up the feed, which keeps its other owner. -/
theorem sharedFeed_given_up : ∃ (w w' : SyncWorld) (next : Reply → Program Unit)
      (calls calls' : List LogEntry) (server : ApiServer),
    world.Leads "news" w ∧
    w.running "u" = some ⟨[], .api (.patch .feeds "news" "bbc" patch) next, calls⟩ ∧
    w.server.Accepts key patch (feedToJson feed) released server ∧
    otherOwners "u" (storedOwners released) = otherOwners "u" (storedOwners (feedToJson feed)) ∧
    world.Leads "news" w' ∧ w'.deleting "u" ∧ w'.running "u" = some ⟨[], .done (), calls'⟩ ∧
    ∀ name x, w'.server.object ⟨.feeds, "news", name⟩ = some x →
      ¬ hasOwner "u" (storedOwners x) := by
  obtain ⟨next, next', hlist, hpatch, hdone⟩ := syncOwners_calls
  have hidle : world.Idle := fun _ => rfl
  obtain ⟨w₁, hw₁, hs₁, hd₁, hr₁⟩ :=
    (SyncWorld.Leads.refl.step (@SyncStep.delete "news" world "u")).start
      (h := query) [] (hidle "u") rfl rfl fun _ => rfl
  rw [hlist] at hr₁
  have hlisting : w₁.server.Serves (.list .feeds (some "news") none) listing
      (.single storable) := by
    rw [hs₁]
    refine .list fun feeds hd => ?_
    have hfeeds : listing.decode (decodeObjects decodeFeed) = .ok [feed] := by rfl
    rw [hfeeds] at hd
    cases hd
    exact lists
  obtain ⟨w, hw, hs, hd, hr⟩ := hw₁.call hr₁ hlisting
  rw [hpatch] at hr
  have haccepts : w.server.Accepts key patch (feedToJson feed) released
      (.single storable_released) := hs ▸ accepts
  have hpatched : w.server.Serves (.patch .feeds "news" "bbc" patch) (Store.found released)
      (.single storable_released) := by
    refine .patch haccepts fun f hf => ?_
    have hfeed : (Store.found released).decode decodeFeed = .ok releasedFeed := by rfl
    rw [hfeed] at hf
    cases hf
    decide +kernel
  obtain ⟨w', hw', -, hd', hr'⟩ := hw.call hr hpatched
  rw [hdone] at hr'
  have hdeleting : w'.deleting "u" := by
    rw [hd', hd, hd₁]
    exact .inl rfl
  refine ⟨w, w', next', _, _, _, hw, hr, haccepts, ?_, hw', hdeleting, hr', ?_⟩
  · exact (concurrent_syncs_keep_owners hidle hw).1 _ _ _ _ _ _ _ _ _ _ _ hr haccepts
  · exact (concurrent_syncs_keep_owners hidle hw').2 _ _ hdeleting hr' w' .refl

end Newsdesk
