import Mathlib.Data.List.Nodup
import Mathlib.Logic.Relation
import Newsdesk.Proofs.Admission.Answered

/-!
# The feeds of a namespace

A feed is admitted by what the feeds of its namespace are at that moment. If reviews come one after
the other, the feeds stay orderly (`Orderly`): every name is short enough and none but its own, and
every URL is that of a host. And a review refuses nothing but what would end this
(`feeds_orderly`).
-/

namespace Newsdesk

open Text

/-! ## Specifications -/

/-- A specification as a feed may have it. -/
structure FeedSpec.Sound (spec : FeedSpec) : Prop where
  named : 1 ≤ (trim spec.name).length
  short : (trim spec.name).length ≤ maxFeedNameLength
  hosted : ∃ url host, Url.parse (trim spec.url) = .ok url ∧ url.host = some host ∧
    host ≠ Host.empty

theorem feedNameErrors_eq_nil_iff {name : String} : feedNameErrors name = [] ↔
    1 ≤ (trim name).length ∧ (trim name).length ≤ maxFeedNameLength := by
  have hlength : (trim name).length = (trimList name.toList).length := String.length_ofList
  have hpos : 1 ≤ (trimList name.toList).length ↔ trimList name.toList ≠ [] :=
    List.length_pos_iff
  rw [hlength, hpos]
  unfold feedNameErrors
  dsimp only
  split
  · simp [*]
  · rename_i hne
    split <;> rename_i hlong
    · simp [Nat.not_le.2 hlong]
    · simp [hne, Nat.not_lt.1 hlong]

theorem hasHost_iff {url : Url} :
    url.hasHost = true ↔ ∃ host, url.host = some host ∧ host ≠ Host.empty := by
  unfold Url.hasHost
  cases url.host <;> simp

theorem feedUrlErrors_eq_nil_iff {text : String} : feedUrlErrors text = [] ↔
    ∃ url host, Url.parse (trim text) = .ok url ∧ url.host = some host ∧ host ≠ Host.empty := by
  unfold feedUrlErrors
  dsimp only
  split
  · rename_i hempty
    -- an empty text has no scheme
    have hparse : Url.parse (trim text) = .error .relativeWithoutBase := by
      rw [hempty]
      decide +kernel
    simp [hparse]
  · cases Url.parse (trim text) with
    | error e => simp
    | ok url =>
      have hhost : url.hasHost = true ↔ _ := hasHost_iff
      cases hhas : url.hasHost <;> simp_all

theorem validateFeedSpec_eq_nil_iff {spec : FeedSpec} :
    validateFeedSpec spec = [] ↔ spec.Sound := by
  rw [validateFeedSpec, List.append_eq_nil_iff, feedNameErrors_eq_nil_iff,
    feedUrlErrors_eq_nil_iff]
  exact ⟨fun ⟨⟨hnamed, hshort⟩, hhosted⟩ => ⟨hnamed, hshort, hhosted⟩,
    fun h => ⟨⟨h.named, h.short⟩, h.hosted⟩⟩

theorem FeedSpec.Sound.trim_ne {spec : FeedSpec} (h : spec.Sound) : trim spec.name ≠ "" := by
  intro hempty
  have hnamed := h.named
  rw [hempty] at hnamed
  exact absurd hnamed (by decide)

/-! ## Reviews -/

/-- What is wrong with the name of a feed among those that were listed. -/
def foundErrors (feed : Feed) : Except String (List Feed) → List FieldError
  | .ok existing => (duplicateName? feed existing).toList
  | .error message => [⟨"spec.name", message⟩]

theorem duplicateName?_eq_none_iff {feed : Feed} {existing : List Feed} :
    duplicateName? feed existing = none ↔ ∀ other ∈ existing,
      sameObject feed.metadata other.metadata = true ∨
        trim other.spec.name ≠ trim feed.spec.name := by
  simp only [duplicateName?, Option.map_eq_none_iff, List.find?_eq_none, Bool.and_eq_true,
    Bool.not_eq_true', decide_eq_true_eq, not_and_or, Bool.not_eq_false]

section

variable {σ : Type} {env : Environment σ} {s s' : σ} {outcome : Except String (List Feed)}

/-- A list of feeds ends well or with a message. -/
theorem exists_run_searchFeeds (env : Environment σ) (s : σ) (ns : String) :
    ∃ outcome s', (searchFeeds ns).run env s = (.ok outcome, s') := by
  obtain ⟨listed, s', hlist⟩ := exists_run_tryListObjects Feed env s ns
  exact ⟨_, s', run_searchFeeds hlist⟩

theorem exists_run_feedErrors {feed : Feed}
    (hsearch : (searchFeeds feed.metadata.nsName).run env s = (.ok outcome, s')) :
    ∃ errors s'', (feedErrors feed).run env s = (.ok errors, s'') ∧
      (errors = [] ↔ feed.spec.Sound ∧ foundErrors feed outcome = []) := by
  unfold feedErrors
  dsimp only
  split
  · rename_i hempty
    refine ⟨_, s, Program.run_pure_eq_ok.2 ⟨rfl, rfl⟩, ?_⟩
    rw [validateFeedSpec_eq_nil_iff]
    exact ⟨fun h => absurd hempty h.trim_ne, And.left⟩
  · refine ⟨validateFeedSpec feed.spec ++ foundErrors feed outcome, s',
      Program.run_bind_eq_ok.2 ⟨outcome, s', hsearch, ?_⟩, ?_⟩
    · cases outcome <;> exact Program.run_pure_eq_ok.2 ⟨rfl, rfl⟩
    · rw [List.append_eq_nil_iff, validateFeedSpec_eq_nil_iff]

variable {review : AdmissionReview Feed} {request : AdmissionRequest Feed} {object : Feed}

/-- A feed is admitted if it is sound and its name has been found to be its own. -/
theorem exists_run_answerReview_feed (hreview : Stores review request object)
    (hsearch : (searchFeeds (object.metadata.orNamespace request.ns).nsName).run env s =
      (.ok outcome, s')) :
    ∃ r s'', (answerReview Webhook.validateFeed.name review reviewFeed).run env s = (.ok r, s'') ∧
      (r.allowed = true ↔ object.spec.Sound ∧ foundErrors object outcome = []) := by
  obtain ⟨errors, s'', herrors, hnone⟩ := @exists_run_feedErrors _ _ _ _ _
    { object with metadata := object.metadata.orNamespace request.ns } hsearch
  have hrespond : (reviewFeed request (.allow review request)).run env s =
      (.ok ((AdmissionResponse.allow review request).verdict errors []), s'') := by
    unfold reviewFeed
    simp only [hreview.object_eq, hreview.stores, if_true]
    exact Program.run_bind_eq_ok.2 ⟨errors, s'', herrors, rfl⟩
  refine ⟨_, _, run_answerReview hreview.request_eq _ hrespond, ?_⟩
  rw [AdmissionResponse.allowed_verdict_iff rfl, hnone]
  cases outcome <;> exact Iff.rfl

end

/-! ## Changes -/

/-- The feeds of a namespace as they should be. -/
structure Orderly (feeds : List Feed) : Prop where
  sound : ∀ f ∈ feeds, f.spec.Sound
  distinct : (trimmedNames feeds).Nodup

/-- Every feed has an identifier of its own. -/
structure Identified (feeds : List Feed) : Prop where
  present : ∀ f ∈ feeds, f.metadata.uid.isSome
  distinct : (feeds.map fun f => f.metadata.uid).Nodup

theorem Identified.eq_of_uid {feeds : List Feed} (h : Identified feeds) {f g : Feed}
    (hf : f ∈ feeds) (hg : g ∈ feeds) (huid : f.metadata.uid = g.metadata.uid) : f = g :=
  List.inj_on_of_nodup_map h.distinct hf hg huid

theorem Orderly.eq_of_name {feeds : List Feed} (h : Orderly feeds) {f g : Feed}
    (hf : f ∈ feeds) (hg : g ∈ feeds) (hname : trim f.spec.name = trim g.spec.name) : f = g :=
  List.inj_on_of_nodup_map h.distinct hf hg hname

/-- What is asked of the feeds of a namespace: to take a feed in, or to put a feed in the place of
the one with its identifier. -/
inductive FeedChange where
  | create (feed : Feed)
  | update (feed : Feed)

namespace FeedChange

/-- The feed as it is to be stored. -/
def feed : FeedChange → Feed
  | .create feed => feed
  | .update feed => feed

def operation : FeedChange → Operation
  | .create _ => .create
  | .update _ => .update

/-- The feeds after a change. -/
def apply : FeedChange → List Feed → List Feed
  | .create feed, feeds => feeds ++ [feed]
  | .update feed, feeds => feeds.map fun f => if f.metadata.uid = feed.metadata.uid then feed else f

/-- A feed that is created gets an identifier that no feed has, and one that is updated has the
identifier of a stored feed. -/
def Fits (feeds : List Feed) : FeedChange → Prop
  | .create feed => feed.metadata.uid.isSome ∧ ∀ f ∈ feeds, f.metadata.uid ≠ feed.metadata.uid
  | .update feed => ∃ f ∈ feeds, f.metadata.uid = feed.metadata.uid

/-- A review of a change in a namespace. A feed that is to be created may not have its identifier
yet. -/
structure AskedBy (ns : String) (change : FeedChange) (review : AdmissionReview Feed)
    (request : AdmissionRequest Feed) (object : Feed) : Prop where
  request_eq : review.request = some request
  operation_eq : request.operation = change.operation
  object_eq : request.object = some object
  ns_eq : (object.metadata.orNamespace request.ns).nsName = ns
  spec_eq : object.spec = change.feed.spec
  uid_eq : object.metadata.uid = change.feed.metadata.uid ∨
    change.operation = .create ∧ object.metadata.uid = none

theorem AskedBy.stores {ns : String} {change : FeedChange} {review : AdmissionReview Feed}
    {request : AdmissionRequest Feed} {object : Feed}
    (h : change.AskedBy ns review request object) : Stores review request object where
  request_eq := h.request_eq
  stores := by
    rw [h.operation_eq]
    cases change <;> rfl
  object_eq := h.object_eq

section

variable {feeds : List Feed} {change : FeedChange}

theorem Fits.isSome (hids : Identified feeds) (hfits : change.Fits feeds) :
    change.feed.metadata.uid.isSome := by
  cases change with
  | create f => exact hfits.1
  | update f =>
    obtain ⟨g, hg, huid⟩ := hfits
    exact huid ▸ hids.present g hg

/-- One more feed whose key no other one has leaves the keys different. -/
theorem nodup_map_create {α : Type} {key : Feed → α} {f : Feed} (hkeys : (feeds.map key).Nodup)
    (hnew : ∀ g ∈ feeds, key g ≠ key f) : ((apply (.create f) feeds).map key).Nodup := by
  rw [apply, List.map_append, List.map_singleton, List.nodup_append]
  refine ⟨hkeys, by simp, fun k hk own hown => ?_⟩
  obtain ⟨g, hg, rfl⟩ := List.mem_map.1 hk
  rw [List.mem_singleton.1 hown]
  exact hnew g hg

theorem map_uid_update (f : Feed) : (apply (.update f) feeds).map (fun g => g.metadata.uid) =
    feeds.map fun g => g.metadata.uid := by
  rw [apply, List.map_map]
  refine List.map_congr_left fun g _ => ?_
  by_cases h : g.metadata.uid = f.metadata.uid <;> simp [h]

theorem Fits.identified_apply (hids : Identified feeds) (hfits : change.Fits feeds) :
    Identified (change.apply feeds) := by
  cases change with
  | create f =>
    obtain ⟨hsome, hfresh⟩ := hfits
    refine ⟨fun g hg => ?_, nodup_map_create hids.distinct hfresh⟩
    rcases List.mem_append.1 hg with hg | hg
    · exact hids.present g hg
    · rw [List.mem_singleton.1 hg]
      exact hsome
  | update f =>
    refine ⟨fun g hg => ?_, (map_uid_update f).symm ▸ hids.distinct⟩
    have hmem : g.metadata.uid ∈ feeds.map fun g => g.metadata.uid :=
      map_uid_update f ▸ List.mem_map_of_mem (f := fun g : Feed => g.metadata.uid) hg
    obtain ⟨g', hg', huid⟩ := List.mem_map.1 hmem
    exact huid ▸ hids.present g' hg'

/-- No feed with another identifier has the name of a feed. -/
def NameIsOwn (feeds : List Feed) (f : Feed) : Prop :=
  ∀ g ∈ feeds, g.metadata.uid ≠ f.metadata.uid → trim g.spec.name ≠ trim f.spec.name

theorem orderly_create_iff {f : Feed} (hfresh : ∀ g ∈ feeds, g.metadata.uid ≠ f.metadata.uid)
    (horder : Orderly feeds) :
    Orderly (apply (.create f) feeds) ↔ f.spec.Sound ∧ NameIsOwn feeds f := by
  have hnew : f ∈ apply (.create f) feeds := List.mem_append_right _ (List.mem_singleton_self f)
  constructor
  · refine fun h => ⟨h.sound f hnew, fun g hg hne hname => hne ?_⟩
    have hkept : g ∈ apply (.create f) feeds := List.mem_append_left _ hg
    exact congrArg (fun g : Feed => g.metadata.uid) (h.eq_of_name hkept hnew hname)
  · rintro ⟨hsound, hother⟩
    refine ⟨fun g hg => ?_,
      nodup_map_create horder.distinct fun g hg => hother g hg (hfresh g hg)⟩
    rcases List.mem_append.1 hg with hg | hg
    · exact horder.sound g hg
    · rw [List.mem_singleton.1 hg]
      exact hsound

theorem orderly_update_iff {f old : Feed} (hids : Identified feeds) (hold : old ∈ feeds)
    (huid : old.metadata.uid = f.metadata.uid) (horder : Orderly feeds) :
    Orderly (apply (.update f) feeds) ↔ f.spec.Sound ∧ NameIsOwn feeds f := by
  have hnew : f ∈ apply (.update f) feeds := List.mem_map.2 ⟨old, hold, if_pos huid⟩
  constructor
  · refine fun h => ⟨h.sound f hnew, fun g hg hne hname => hne ?_⟩
    have hkept : g ∈ apply (.update f) feeds := List.mem_map.2 ⟨g, hg, if_neg hne⟩
    exact congrArg (fun g : Feed => g.metadata.uid) (h.eq_of_name hkept hnew hname)
  · rintro ⟨hsound, hother⟩
    refine ⟨fun g hg => ?_, ?_⟩
    · obtain ⟨g', hg', rfl⟩ := List.mem_map.1 hg
      split
      · exact hsound
      · exact horder.sound g' hg'
    · rw [trimmedNames, apply, List.map_map]
      refine List.Nodup.map_on (fun a ha b hb hname => ?_) (List.Nodup.of_map _ hids.distinct)
      by_cases hua : a.metadata.uid = f.metadata.uid <;>
        by_cases hub : b.metadata.uid = f.metadata.uid <;> simp [hua, hub] at hname
      · exact hids.eq_of_uid ha hb (hua.trans hub.symm)
      · exact absurd hname.symm (hother b hb hub)
      · exact absurd hname (hother a ha hua)
      · exact horder.eq_of_name ha hb hname

/-- A change keeps feeds orderly if the feed is sound and its name is its own. -/
theorem Fits.orderly_apply_iff (hids : Identified feeds) (hfits : change.Fits feeds)
    (horder : Orderly feeds) :
    Orderly (change.apply feeds) ↔ change.feed.spec.Sound ∧ NameIsOwn feeds change.feed := by
  cases change with
  | create f => exact orderly_create_iff hfits.2 horder
  | update f =>
    obtain ⟨old, hold, huid⟩ := hfits
    exact orderly_update_iff hids hold huid horder

variable {ns : String} {review : AdmissionReview Feed} {request : AdmissionRequest Feed}
  {object : Feed} (hids : Identified feeds) (hfits : change.Fits feeds)
  (hasks : change.AskedBy ns review request object)
include hids hfits hasks

/-- The feed under review is the same object as the stored feed with its identifier, and as no
other. -/
theorem AskedBy.sameObject_iff {f : Feed} (hf : f ∈ feeds) :
    sameObject object.metadata f.metadata = true ↔
      f.metadata.uid = change.feed.metadata.uid := by
  have hsome := hfits.isSome hids
  rcases hasks.uid_eq with huid | ⟨hcreate, hnone⟩
  · rw [sameObject, huid, hsome]
    simp [eq_comm]
  · -- without an identifier it is no stored feed, and the one it will get is a new one
    cases change with
    | create g => exact iff_of_false (by simp [sameObject, hnone]) (hfits.2 f hf)
    | update g => cases hcreate

/-- The feeds that were listed show whether the name of a feed is its own. -/
theorem AskedBy.foundErrors_eq_nil_iff {listed : List Feed} (hlisted : listed.Perm feeds) :
    foundErrors object (.ok listed) = [] ↔ NameIsOwn feeds change.feed := by
  rw [foundErrors, Option.toList_eq_nil_iff, duplicateName?_eq_none_iff, hasks.spec_eq]
  refine forall_congr' fun f => ?_
  rw [hlisted.mem_iff]
  refine imp_congr_right fun hf => ?_
  rw [hasks.sameObject_iff hids hfits hf, Decidable.or_iff_not_imp_left]

end

end FeedChange

/-! ## Runs -/

/-- What may happen to the feeds of a namespace: a change is reviewed while all of them are
listed, and is made if it is admitted; or a feed is deleted. -/
inductive FeedsStep (ns : String) (feeds : List Feed) : List Feed → Prop
  | decide {change : FeedChange} {review : AdmissionReview Feed}
      {request : AdmissionRequest Feed} {object : Feed} {σ : Type} {env : Environment σ}
      {s s' s'' : σ} {listed : List Feed} {r : AdmissionResponse}
      (fits : change.Fits feeds) (asks : change.AskedBy ns review request object)
      (lists : (searchFeeds ns).run env s = (.ok (.ok listed), s'))
      (complete : listed.Perm feeds)
      (answers : (answerReview Webhook.validateFeed.name review reviewFeed).run env s =
        (.ok r, s'')) :
      FeedsStep ns feeds (if r.allowed then change.apply feeds else feeds)
  | delete (uid : Option String) : FeedsStep ns feeds (feeds.filter (·.metadata.uid ≠ uid))

section

variable {ns : String} {feeds feeds' : List Feed}

/-- A change is admitted if the feeds are orderly after it, and only then. -/
theorem exists_run_answerReview_change {σ : Type} {env : Environment σ} {s s' : σ}
    {listed : List Feed} {change : FeedChange} {review : AdmissionReview Feed}
    {request : AdmissionRequest Feed} {object : Feed} (hids : Identified feeds)
    (horder : Orderly feeds) (hfits : change.Fits feeds)
    (hasks : change.AskedBy ns review request object)
    (hsearch : (searchFeeds ns).run env s = (.ok (.ok listed), s'))
    (hlisted : listed.Perm feeds) :
    ∃ r s'', (answerReview Webhook.validateFeed.name review reviewFeed).run env s = (.ok r, s'') ∧
      (r.allowed = true ↔ Orderly (change.apply feeds)) := by
  obtain ⟨r, s'', hrun, hallowed⟩ :=
    exists_run_answerReview_feed hasks.stores (hasks.ns_eq.symm ▸ hsearch)
  refine ⟨r, s'', hrun, ?_⟩
  rw [hallowed, hasks.foundErrors_eq_nil_iff hids hfits hlisted, hasks.spec_eq,
    hfits.orderly_apply_iff hids horder]

/-- One step keeps the feeds orderly and their identifiers their own. -/
theorem FeedsStep.orderly (h : FeedsStep ns feeds feeds') (hids : Identified feeds)
    (horder : Orderly feeds) : Identified feeds' ∧ Orderly feeds' := by
  cases h with
  | decide fits asks lists complete answers =>
    obtain ⟨r', s₁, hrun, hallowed⟩ :=
      exists_run_answerReview_change hids horder fits asks lists complete
    obtain ⟨hr, -⟩ := Prod.mk.inj (hrun.symm.trans answers)
    cases hr
    split
    · exact ⟨fits.identified_apply hids, hallowed.1 ‹_›⟩
    · exact ⟨hids, horder⟩
  | delete uid =>
    have hsublist : (feeds.filter (·.metadata.uid ≠ uid)).Sublist feeds := List.filter_sublist
    exact ⟨⟨fun f hf => hids.present f (hsublist.subset hf), (hsublist.map _).nodup hids.distinct⟩,
      ⟨fun f hf => horder.sound f (hsublist.subset hf), (hsublist.map _).nodup horder.distinct⟩⟩

/-- Whatever happens, the feeds stay orderly. -/
theorem orderly_of_reachable (hids : Identified feeds) (horder : Orderly feeds)
    (h : Relation.ReflTransGen (FeedsStep ns) feeds feeds') :
    Identified feeds' ∧ Orderly feeds' := by
  induction h with
  | refl => exact ⟨hids, horder⟩
  | tail _ step ih => exact step.orderly ih.1 ih.2

end

/-- The reviews keep the feeds of a namespace orderly. From valid feeds with different names and
identifiers every run of creations, updates and deletions leads to feeds that are sound and have
different names. Nothing else is refused: a change is admitted if and only if the feeds are orderly
after it, so an update that leaves a specification as it is always is admitted. And if the feeds
cannot be listed, nothing is admitted. -/
theorem feeds_orderly :
    (∀ {ns : String} {start feeds : List Feed}, Identified start →
      (∀ f ∈ start, validateFeedSpec f.spec = []) → (trimmedNames start).Nodup →
      Relation.ReflTransGen (FeedsStep ns) start feeds → Orderly feeds ∧ Identified feeds) ∧
    (∀ {σ : Type} {env : Environment σ} {s s' : σ} {ns : String} {feeds listed : List Feed}
      {change : FeedChange} {review : AdmissionReview Feed} {request : AdmissionRequest Feed}
      {object : Feed}, Identified feeds → Orderly feeds → change.Fits feeds →
      change.AskedBy ns review request object →
      (searchFeeds ns).run env s = (.ok (.ok listed), s') → listed.Perm feeds →
      ∃ r s'', (answerReview Webhook.validateFeed.name review reviewFeed).run env s =
          (.ok r, s'') ∧
        (r.allowed = true ↔ Orderly (change.apply feeds)) ∧
        (∀ new, change = .update new →
          (∃ old ∈ feeds, old.metadata.uid = new.metadata.uid ∧ old.spec = new.spec) →
          r.allowed = true)) ∧
    ∀ {σ : Type} {env : Environment σ} {s : σ} {review : AdmissionReview Feed}
      {request : AdmissionRequest Feed} {object : Feed}, Stores review request object →
      (∀ listed, ((searchFeeds (object.metadata.orNamespace request.ns).nsName).run env s).1 ≠
        .ok (.ok listed)) →
      ∃ r s'', (answerReview Webhook.validateFeed.name review reviewFeed).run env s =
          (.ok r, s'') ∧ r.allowed = false := by
  refine ⟨fun {ns start feeds} hids hvalid hnames hreach => ?_,
    fun {σ env s s' ns feeds listed change review request object} hids horder hfits hasks hsearch
      hlisted => ?_,
    fun {σ env s review request object} hreview hfails => ?_⟩
  · exact (orderly_of_reachable hids
      ⟨fun f hf => validateFeedSpec_eq_nil_iff.1 (hvalid f hf), hnames⟩ hreach).symm
  · obtain ⟨r, s'', hrun, hallowed⟩ :=
      exists_run_answerReview_change hids horder hfits hasks hsearch hlisted
    refine ⟨r, s'', hrun, hallowed, ?_⟩
    rintro new rfl ⟨old, hold, huid, hspec⟩
    refine hallowed.2 ((hfits.orderly_apply_iff hids horder).2 ⟨?_, fun f hf hne hname => hne ?_⟩)
    · exact hspec ▸ horder.sound old hold
    · have hsame : f = old := horder.eq_of_name hf hold (hname.trans (by rw [hspec]; rfl))
      exact hsame ▸ huid
  · obtain ⟨outcome, s', hsearch⟩ := exists_run_searchFeeds env s
      (object.metadata.orNamespace request.ns).nsName
    obtain ⟨r, s'', hrun, hallowed⟩ := exists_run_answerReview_feed hreview hsearch
    refine ⟨r, s'', hrun, Bool.eq_false_iff.2 fun hyes => ?_⟩
    cases outcome with
    | ok listed => exact hfails listed (by rw [hsearch])
    | error message => exact List.cons_ne_nil _ _ (hallowed.1 hyes).2

namespace TwoFeeds

def feed (uid : Option String) (name : String) : Feed :=
  ⟨{ Metadata.empty with name := some "feed", ns := some "news", uid := uid },
    ⟨name, "https://feeds.example/rss "⟩, none⟩

def first : Feed := feed (some "u1") "bbc"

def second : Feed := feed (some "u2") "\u2003cnn "

/-- A feed that would take the name of the first one. -/
def taken : Feed := feed (some "u3") " bbc"

def cluster (faults : Script) : Cluster :=
  .start ⟨[(⟨.feeds, "news", "feed"⟩, feedToJson first)], 0⟩ faults []

def environment : Environment Cluster := Cluster.environment fun _ => "now"

def request (operation : Operation) (object : Feed) : AdmissionRequest Feed :=
  ⟨"r", some "news", operation, some object, none⟩

def review (operation : Operation) (object : Feed) : AdmissionReview Feed :=
  ⟨"admission.k8s.io/v1", "AdmissionReview", some (request operation object)⟩

theorem identified : Identified [first] := ⟨by decide, by decide⟩

theorem valid : ∀ f ∈ [first], validateFeedSpec f.spec = [] := by decide +kernel

theorem searched : (searchFeeds "news").run environment (cluster []) =
    (.ok (.ok [first]), ((searchFeeds "news").run environment (cluster [])).2) :=
  Program.eq_ok_of_toOption (by decide +kernel)

/-- The second feed is reviewed before it has its identifier. -/
theorem created : FeedsStep "news" [first] [first, second] := by
  have hanswers : (answerReview Webhook.validateFeed.name
      (review .create (feed none "\u2003cnn ")) reviewFeed).run environment (cluster []) =
        (.ok (.allow (review .create (feed none "\u2003cnn "))
          (request .create (feed none "\u2003cnn "))), _) :=
    Program.eq_ok_of_toOption (by decide +kernel)
  have hfits : FeedChange.Fits [first] (.create second) := ⟨rfl, by decide⟩
  have hasks : FeedChange.AskedBy "news" (.create second) (review .create (feed none "\u2003cnn "))
      (request .create (feed none "\u2003cnn ")) (feed none "\u2003cnn ") :=
    ⟨rfl, rfl, rfl, rfl, rfl, .inr ⟨rfl, rfl⟩⟩
  exact .decide hfits hasks searched (.refl _) hanswers

theorem not_searched (listed : List Feed) : ((searchFeeds "news").run environment
    (cluster [⟨some "LIST", none, .dropped, none⟩])).1 ≠ .ok (.ok listed) := by
  have hdropped : ((searchFeeds "news").run environment
      (cluster [⟨some "LIST", none, .dropped, none⟩])).1.toOption.bind Except.toOption = none := by
    decide +kernel
  intro hsame
  rw [hsame] at hdropped
  cases hdropped

end TwoFeeds

open TwoFeeds

/-- A second feed comes to a namespace, and neither may take the name of the other one. -/
theorem twoFeeds_orderly :
    Identified [first] ∧ (∀ f ∈ [first], validateFeedSpec f.spec = []) ∧
    (trimmedNames [first]).Nodup ∧
    Relation.ReflTransGen (FeedsStep "news") [first] [first, second] ∧
    (Orderly [first, second] ∧ Identified [first, second]) ∧
    (∃ r s, (answerReview Webhook.validateFeed.name (review .update first) reviewFeed).run
      environment (cluster []) = (.ok r, s) ∧ r.allowed = true) ∧
    (∃ r s, (answerReview Webhook.validateFeed.name (review .create taken) reviewFeed).run
      environment (cluster []) = (.ok r, s) ∧ r.allowed = false) ∧
    ∃ r s, (answerReview Webhook.validateFeed.name (review .update first) reviewFeed).run
      environment (cluster [⟨some "LIST", none, .dropped, none⟩]) = (.ok r, s) ∧
        r.allowed = false := by
  obtain ⟨hreachable, hdecided, hunlisted⟩ := feeds_orderly
  have hsteps : Relation.ReflTransGen (FeedsStep "news") [first] [first, second] :=
    .single created
  obtain ⟨hstart, -⟩ := @hreachable "news" [first] [first] identified valid (by decide) .refl
  have hstored : FeedChange.Fits [first] (.update first) := ⟨first, List.mem_singleton_self _, rfl⟩
  have hfresh : FeedChange.Fits [first] (.create taken) := ⟨rfl, by decide⟩
  have hupdate : FeedChange.AskedBy "news" (.update first) (review .update first)
      (request .update first) first := ⟨rfl, rfl, rfl, rfl, rfl, .inl rfl⟩
  have hcreate : FeedChange.AskedBy "news" (.create taken) (review .create taken)
      (request .create taken) taken := ⟨rfl, rfl, rfl, rfl, rfl, .inl rfl⟩
  obtain ⟨r, s, hrun, -, hunchanged⟩ :=
    hdecided identified hstart hstored hupdate searched (.refl _)
  obtain ⟨r', s', hrun', hallowed, -⟩ :=
    hdecided identified hstart hfresh hcreate searched (.refl _)
  have htaken : ¬ Orderly [first, taken] := fun h => absurd h.distinct (by decide)
  have hstores : Stores (review .update first) (request .update first) first := ⟨rfl, rfl, rfl⟩
  exact ⟨identified, valid, by decide, hsteps, hreachable identified valid (by decide) hsteps,
    ⟨r, s, hrun, hunchanged first rfl ⟨first, List.mem_singleton_self _, rfl, rfl⟩⟩,
    ⟨r', s', hrun', Bool.eq_false_iff.2 fun hyes => htaken (hallowed.1 hyes)⟩,
    hunlisted hstores not_searched⟩

end Newsdesk
