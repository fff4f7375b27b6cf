import Newsdesk.Proofs.Cluster.Faults
import Newsdesk.Proofs.Cluster.Stored
import Newsdesk.Proofs.Reconcile.Spared

/-!
# Runs under any script

Whatever is scripted for the API server, what is stored is only changed by requests that the store
answers. So what every allowed request keeps is kept by a run (`Program.Sends.run_kept`): objects
that are not patched stay as they are (`Cluster.SparesFeeds`), and what a patch leaves alone is left
alone by the run.
-/

namespace Newsdesk

open Json

/-! ## Calls -/

theorem Cluster.log_askApi (request : ApiRequest) (c : Cluster) :
    (c.askApi request).2.log = c.log ++ [⟨.api request, (c.askApi request).1⟩] := by
  unfold askApi
  cases c.faults.take request.verb request.path <;> rfl

theorem Program.log_patchObject {α : Type} [Resource α]
    {ask : AggregatorRequest → Cluster → Reply × Cluster} {timeText : Nat → String}
    {c c' : Cluster} {ns name : String} {body : Json} {outcome : Except Failure α}
    (hrun : (patchObject ns name body : Program α).run (Cluster.environmentWith ask timeText) c =
      (outcome, c')) :
    c'.log = c.log ∨ c'.log = c.log ++ [⟨.api (.patch (Resource.collection α) ns name body),
      (c.askApi (.patch (Resource.collection α) ns name body)).1⟩] := by
  rcases state_of_run_patchObject hrun with rfl | rfl
  · exact .inl rfl
  · exact .inr (c.log_askApi _)

/-- A call changes the store at most as an answer of the store does. -/
theorem Cluster.askApi_kept {kept : Store → Prop} {c : Cluster} {request : ApiRequest}
    (hkept : kept c.store → kept (c.store.answer request).2) (hs : kept c.store) :
    kept (c.askApi request).2.store := by
  unfold askApi
  cases c.faults.take request.verb request.path with
  | some taken => exact hs
  | none => exact hkept hs

/-- From one cluster to another by allowed requests, to a store of some kind. -/
structure Cluster.Keeps (allowed : SentRequest → Prop) (kept : Store → Prop) (c c' : Cluster) :
    Prop where
  store : kept c'.store
  log : c.Adds allowed c'

namespace Program

section

variable {α : Type} {ask : AggregatorRequest → Cluster → Reply × Cluster}
  (hask : Cluster.IsOutside ask) {timeText : Nat → String} {c c' : Cluster}
  {outcome : Except Failure α} {p : Program α}
include hask

/-- What every allowed request keeps is kept by a run of a program that sends no others. -/
theorem Sends.run_kept {allowed : SentRequest → Prop} (kept : Store → Prop)
    (hkept : ∀ request s, allowed (.api request) → kept s → kept (s.answer request).2)
    (h : p.Sends allowed) (hs : kept c.store)
    (hrun : p.run (Cluster.environmentWith ask timeText) c = (outcome, c')) :
    c.Keeps allowed kept c' := by
  rw [← show (p.run _ c).2 = c' from congrArg Prod.snd hrun]
  have hstart : c.Keeps allowed kept c := ⟨hs, .refl _ _⟩
  refine (h c.log).kept_by_run ?_ ?_ ?_ ?_ hstart
  · intro _ request c₁ hrule hc₁
    exact ⟨Cluster.askApi_kept (hkept request c₁.store hrule) hc₁.store,
      hc₁.log.trans (.of_log hrule (c₁.log_askApi request))⟩
  · intro _ request c₁ hrule hc₁
    refine ⟨?_, hc₁.log.trans (.of_log hrule (hask.log request c₁))⟩
    change kept (ask request c₁).2.store
    rw [hask.store]
    exact hc₁.store
  · exact fun hc₁ => ⟨hc₁.store, hc₁.log⟩
  · exact fun hc₁ => ⟨hc₁.store, hc₁.log⟩

/-- A program that sends allowed requests adds no others. -/
theorem Sends.adds {allowed : SentRequest → Prop} (h : p.Sends allowed)
    (hrun : p.run (Cluster.environmentWith ask timeText) c = (outcome, c')) :
    c.Adds allowed c' :=
  (h.run_kept hask (fun _ => True) (fun _ _ _ _ => trivial) trivial hrun).log

/-- What calls keep of the faults is kept of them by a run. -/
theorem kept_faults_of_run (kept : Script → Prop)
    (hapi : ∀ request {c : Cluster}, kept c.faults → kept (c.askApi request).2.faults)
    (hf : kept c.faults)
    (hrun : p.run (Cluster.environmentWith ask timeText) c = (outcome, c')) : kept c'.faults := by
  rw [← show (p.run _ c).2 = c' from congrArg Prod.snd hrun]
  clear hrun
  induction p generalizing c with
  | done value => exact hf
  | fail failure => exact hf
  | api request next ih => exact ih _ (hapi request hf)
  | aggregator request next ih =>
    refine ih _ ?_
    rw [hask.faults]
    exact hf
  | now next ih => exact ih _ hf
  | note event next ih => exact ih hf

/-- A script stays one of faults. -/
theorem faulty_of_run (hf : c.faults.Faulty)
    (hrun : p.run (Cluster.environmentWith ask timeText) c = (outcome, c')) :
    c'.faults.Faulty := by
  refine kept_faults_of_run hask Script.Faulty (fun request {c₁} hf₁ => ?_) hf hrun
  rcases Cluster.askApi_of_faulty hf₁ request with ⟨_, _, -, hfaults, h⟩ | h <;> rw [h]
  · exact hfaults
  · exact hf₁

theorem faults_of_run (hf : c.faults = [])
    (hrun : p.run (Cluster.environmentWith ask timeText) c = (outcome, c')) : c'.faults = [] :=
  kept_faults_of_run hask (· = [])
    (fun request _ hf₁ => (Cluster.follows_askApi hf₁ request).faults.trans hf₁) hf hrun

/-- A run of a program whose patches leave alone what the objects are. -/
theorem Sends.run_spares {frozen : List String} (h : p.Sends (·.Spares frozen))
    (hw : c.store.WellFormed)
    (hrun : p.run (Cluster.environmentWith ask timeText) c = (outcome, c')) :
    c'.store.WellFormed ∧ c.store.Tended frozen c'.store := by
  refine (h.run_kept hask (fun s => s.WellFormed ∧ c.store.Tended frozen s) ?_ ⟨hw, .refl _ _⟩
    hrun).store
  intro request s hspares hs
  obtain ⟨hw', ht'⟩ := Store.tended_answer hs.1 hspares
  exact ⟨hw', hs.2.trans ht'⟩

end

end Program

/-! ## Finalizers -/

/-- An object in use that was read and has been given a finalizer is stored, whatever faults there
are, with the status that was read. -/
theorem stored_of_run_ensureFinalizer {Spec Status : Type} [Resource (CustomObject Spec Status)]
    [CustomKind Spec Status] [Collected (CustomObject Spec Status)]
    {o o₁ : CustomObject Spec Status} {finalizer ns name : String}
    {ask : AggregatorRequest → Cluster → Reply × Cluster} {timeText : Nat → String}
    {c c₁ c' : Cluster} (hf : c.faults.Faulty) (hw : c.store.WellFormed)
    (hread : (Program.getObject? (CustomObject Spec Status) ns name).run
      (Cluster.environmentWith ask timeText) c = (.ok (some o), c₁))
    (hactive : o.metadata.isDeleting = false)
    (hadopt : (ensureFinalizer o finalizer).run (Cluster.environmentWith ask timeText) c₁ =
      (.ok o₁, c')) :
    Stored c₁.store ⟨Resource.collection (CustomObject Spec Status), ns, name⟩ o ∧
      Stored c'.store ⟨Resource.collection (CustomObject Spec Status), ns, name⟩ o₁ ∧
      o₁.status = o.status := by
  obtain ⟨⟨x, hx, hd⟩, hstore, hfaults⟩ := Program.run_getObject?_eq_some hf hread
  have hs := hw.stored hx hd hactive
  rw [← hstore] at hs
  -- the finalizer was written without a fault
  obtain ⟨-, hclean⟩ :=
    (strict_ensureFinalizer o finalizer).run_unfaulted (hfaults.symm ▸ hf) hadopt
  obtain ⟨hs₁, -, -, _, _, -, ho₁⟩ :=
    Stored.run_ensureFinalizer (c := { c₁ with faults := [] }) rfl hs rfl hclean
  exact ⟨hs, hs₁, by rw [ho₁]⟩

/-! ## Feeds -/

/-- A request that patches a feed. -/
def SentRequest.patchesFeed : SentRequest → Bool
  | .api (.patch .feeds _ _ _) => true
  | .api (.patchStatus .feeds _ _ _) => true
  | _ => false

/-- From one cluster to another without a patch of a feed. -/
structure Cluster.SparesFeeds (c c' : Cluster) : Prop where
  log : c.Adds (·.patchesFeed = false) c'
  store : ∀ key, key.collection = .feeds → c'.store.find? key = c.store.find? key

theorem Cluster.SparesFeeds.refl (c : Cluster) : c.SparesFeeds c := ⟨.refl _ c, fun _ _ => rfl⟩

theorem Cluster.SparesFeeds.trans {c c' c'' : Cluster} (h : c.SparesFeeds c')
    (h' : c'.SparesFeeds c'') : c.SparesFeeds c'' :=
  ⟨h.log.trans h'.log, fun key hk => (h'.store key hk).trans (h.store key hk)⟩

/-- A request that patches no feed leaves every feed. -/
theorem Store.find?_feeds_answer {request : ApiRequest} {s : Store}
    (h : SentRequest.patchesFeed (.api request) = false) {key : ObjectKey}
    (hkey : key.collection = .feeds) : (s.answer request).2.find? key = s.find? key := by
  have haccept {collection : Collection} (hne : collection ≠ .feeds) (ns name : String)
      (object : Json) : (s.accept ⟨collection, ns, name⟩ object).2.find? key = s.find? key := by
    rw [find?_accept, if_neg]
    rintro rfl
    exact hne hkey
  cases request with
  | list => rfl
  | get => rw [answer_get]
  | patch collection ns name patch =>
    have hne : collection ≠ .feeds := by
      rintro rfl
      cases h
    unfold answer
    dsimp only
    split
    · split
      · rfl
      · exact haccept hne ns name _
    · rfl
  | patchStatus collection ns name patch =>
    have hne : collection ≠ .feeds := by
      rintro rfl
      cases h
    unfold answer
    dsimp only
    split
    · exact haccept hne ns name _
    · rfl

theorem Program.Sends.sparesFeeds {α : Type} {p : Program α}
    (h : p.Sends (·.patchesFeed = false)) {ask : AggregatorRequest → Cluster → Reply × Cluster}
    (hask : Cluster.IsOutside ask) {timeText : Nat → String} {c c' : Cluster}
    {outcome : Except Failure α}
    (hrun : p.run (Cluster.environmentWith ask timeText) c = (outcome, c')) :
    c.SparesFeeds c' := by
  let kept (s : Store) : Prop := ∀ key : ObjectKey, key.collection = .feeds →
    s.find? key = c.store.find? key
  have hkept (request : ApiRequest) (s : Store)
      (hspares : SentRequest.patchesFeed (.api request) = false) (hs : kept s) :
      kept (s.answer request).2 := by
    intro key hk
    rw [Store.find?_feeds_answer hspares hk]
    exact hs key hk
  have hkeeps := h.run_kept hask kept hkept (fun _ _ => rfl) hrun
  exact ⟨hkeeps.log, hkeeps.store⟩

/-! ## Reading -/

theorem Store.answer_of_read {request : ApiRequest} {s : Store}
    (h : SentRequest.isPatch (.api request) = false) : (s.answer request).2 = s := by
  cases request with
  | list => rfl
  | get => exact answer_get _ _ _ _
  | patch => cases h
  | patchStatus => cases h

theorem SentRequest.patchesFeed_of_read {request : SentRequest} (h : request.isPatch = false) :
    request.patchesFeed = false := by
  cases request with
  | aggregator => rfl
  | api request =>
    cases request with
    | list => rfl
    | get => rfl
    | patch => cases h
    | patchStatus => cases h

/-- A program that patches nothing leaves what is stored. -/
theorem Program.Sends.run_reads {α : Type} {p : Program α} (h : p.Sends (·.isPatch = false))
    {ask : AggregatorRequest → Cluster → Reply × Cluster} (hask : Cluster.IsOutside ask)
    {timeText : Nat → String} {c c' : Cluster} {outcome : Except Failure α}
    (hrun : p.run (Cluster.environmentWith ask timeText) c = (outcome, c')) :
    c.SparesFeeds c' ∧ c'.store = c.store := by
  have hkept (request : ApiRequest) (s : Store)
      (hread : SentRequest.isPatch (.api request) = false) (hs : s = c.store) :
      (s.answer request).2 = c.store := (Store.answer_of_read hread).trans hs
  have hkeeps := h.run_kept hask (· = c.store) hkept rfl hrun
  refine ⟨⟨hkeeps.log.imp fun _ => SentRequest.patchesFeed_of_read, fun key _ => ?_⟩,
    hkeeps.store⟩
  rw [hkeeps.store]

end Newsdesk
