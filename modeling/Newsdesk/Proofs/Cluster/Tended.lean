import Newsdesk.Proofs.Cluster.Reads
import Newsdesk.Proofs.HotNews.Written
import Newsdesk.Proofs.Program.Conduct

/-!
# What the operator leaves alone

The operator patches finalizers, owner references, feed names and statuses. No patch of it touches
the name of an object or asks for its deletion (`Leaves`), so what a run of its programs makes of a
store has the same objects, but for those that were to be deleted (`Store.Tended`). A program may
leave further fields alone, such as the status; they are said to be frozen.
-/

namespace Newsdesk

open Json

/-! ## Patches -/

/-- What one object keeps when it becomes another: its names, the request of its deletion and the
frozen fields. -/
structure SameObject (frozen : List String) (x x' : Json) : Prop where
  metadata : ∀ name, name = "name" ∨ name = "namespace" ∨ name = "deletionTimestamp" →
    (x'.field "metadata").field? name = (x.field "metadata").field? name
  fields : ∀ name ∈ frozen, x'.field? name = x.field? name

section

variable {frozen : List String} {x y z : Json}

theorem SameObject.refl (frozen : List String) (x : Json) : SameObject frozen x x :=
  ⟨fun _ _ => rfl, fun _ _ => rfl⟩

theorem SameObject.trans (h : SameObject frozen x y) (h' : SameObject frozen y z) :
    SameObject frozen x z :=
  ⟨fun name hn => (h'.metadata name hn).trans (h.metadata name hn),
    fun name hn => (h'.fields name hn).trans (h.fields name hn)⟩

theorem SameObject.mono {frozen' : List String} (h : SameObject frozen x y)
    (hsub : frozen' ⊆ frozen) : SameObject frozen' x y :=
  ⟨h.metadata, fun name hn => h.fields name (hsub hn)⟩

theorem SameObject.namedBy {key : ObjectKey} (h : SameObject frozen x y) (hn : NamedBy key x) :
    NamedBy key y :=
  ⟨(h.metadata _ (.inl rfl)).trans hn.name, (h.metadata _ (.inr (.inl rfl))).trans hn.ns⟩

theorem SameObject.kept_iff (h : SameObject frozen x y) : Kept y ↔ Kept x := by
  have hsame := h.metadata "deletionTimestamp" (.inr (.inr rfl))
  unfold Kept Json.field at *
  rw [hsame]

end

/-- A patch that leaves alone what an object is, whatever version the write gives it. -/
structure Leaves (frozen : List String) (patch : Json) : Prop where
  inOrder : InOrder patch
  same : ∀ version old, SameObject frozen old (written version patch old)

section

variable {frozen : List String} (hmetadata : "metadata" ∉ frozen)
include hmetadata

theorem leaves_metadataPatch (base : Option String) {name : String}
    (hname : name = "finalizers" ∨ name = "ownerReferences") {items : List Json}
    (hi : InOrder (.arr items)) : Leaves frozen (metadataPatch base name (.arr items)) where
  inOrder := inOrder_metadataPatch _ _ hi
  same version old := by
    refine ⟨fun other ho => ?_, fun other ho => ?_⟩
    · have hne : other ≠ "resourceVersion" ∧ other ≠ name := by
        rcases hname with rfl | rfl <;> rcases ho with rfl | rfl | rfl <;> decide
      rw [field?_metadata_written_metadataPatch, if_neg hne.1, if_neg hne.2]
    · exact field?_written_metadataPatch _ _ (ne_of_mem_of_not_mem ho hmetadata)

theorem leaves_feedsNamePatch (hspec : "spec" ∉ frozen) (base : HotNews) (names : List String) :
    Leaves frozen (feedsNamePatch base names) where
  inOrder := inOrder_feedsNamePatch base names
  same version old := by
    refine ⟨fun other ho => ?_, fun other ho => ?_⟩
    · have hne : other ≠ "resourceVersion" := by
        rcases ho with rfl | rfl | rfl <;> decide
      unfold written
      rw [Store.field?_metadata_withVersion, if_neg hne,
        field?_metadata_mergePatch_feedsNamePatch _ _ _ hne]
    · rw [field?_written_feedsNamePatch _ _ _ _ (ne_of_mem_of_not_mem ho hmetadata),
        if_neg (ne_of_mem_of_not_mem ho hspec), mergedField_none]

theorem leaves_statusPart (hfree : "status" ∉ frozen) {status : Json} (hs : InOrder status) :
    Leaves frozen (Store.statusPart (ofFields [("status", status)])) where
  inOrder := inOrder_statusPart hs
  same version old := by
    unfold written
    refine ⟨fun other ho => ?_, fun other ho => ?_⟩
    · have hne : other ≠ "resourceVersion" := by
        rcases ho with rfl | rfl | rfl <;> decide
      rw [Store.field?_metadata_withVersion, if_neg hne, Json.field,
        field?_mergePatch_statusPart, if_neg (by decide)]
      rfl
    · rw [Store.field?_withVersion _ _ (ne_of_mem_of_not_mem ho hmetadata),
        field?_mergePatch_statusPart, if_neg (ne_of_mem_of_not_mem ho hfree)]

end

/-! ## Stores -/

/-- From one store to another by patches that leave alone what the objects are. None is new, and
one goes only if its deletion was requested. -/
structure Store.Tended (frozen : List String) (s s' : Store) : Prop where
  same : ∀ {key x'}, s'.find? key = some x' →
    ∃ x, s.find? key = some x ∧ SameObject frozen x x'
  stays : ∀ {key x}, s.find? key = some x → Kept x → ∃ x', s'.find? key = some x'

theorem Store.Tended.refl (frozen : List String) (s : Store) : s.Tended frozen s :=
  ⟨fun h => ⟨_, h, .refl _ _⟩, fun h _ => ⟨_, h⟩⟩

/-- An object whose deletion is not requested is still there, and its deletion is not requested. -/
theorem Store.Tended.kept {frozen : List String} {s s' : Store} (h : s.Tended frozen s')
    {key : ObjectKey} {x : Json} (hx : s.find? key = some x) (hkept : Kept x) :
    ∃ x', s'.find? key = some x' ∧ Kept x' ∧ SameObject frozen x x' := by
  obtain ⟨x', hx'⟩ := h.stays hx hkept
  obtain ⟨y, hy, hsame⟩ := h.same hx'
  cases hx.symm.trans hy
  exact ⟨x', hx', hsame.kept_iff.2 hkept, hsame⟩

theorem Store.Tended.trans {frozen : List String} {s s' s'' : Store} (h : s.Tended frozen s')
    (h' : s'.Tended frozen s'') : s.Tended frozen s'' where
  same hx := by
    obtain ⟨x', hx', hsame'⟩ := h'.same hx
    obtain ⟨x, hx, hsame⟩ := h.same hx'
    exact ⟨x, hx, hsame.trans hsame'⟩
  stays hx hk := by
    obtain ⟨x', hx', hk', -⟩ := h.kept hx hk
    exact h'.stays hx' hk'

namespace Store

theorem map_fst_putEntry {key : ObjectKey} {object : Json} {entries : List (ObjectKey × Json)}
    (h : (entries.lookup key).isSome) :
    (putEntry key object entries).map Prod.fst = entries.map Prod.fst := by
  induction entries with
  | nil => cases h
  | cons e rest ih =>
    obtain ⟨k, old⟩ := e
    by_cases hk : k = key
    · simp [putEntry, hk]
    · have hrest : (rest.lookup key).isSome := by
        simpa [List.lookup_cons, beq_eq_false_iff_ne.2 (Ne.symm hk)] using h
      simp [putEntry, hk, ih hrest]

variable {frozen : List String} {s : Store} {key : ObjectKey} {patch old : Json}

theorem nodup_accept (hd : (s.objects.map Prod.fst).Nodup) (hx : s.find? key = some old)
    (object : Json) : ((s.accept key object).2.objects.map Prod.fst).Nodup := by
  unfold accept
  dsimp only
  split
  · exact (List.filter_sublist.map _).nodup hd
  · exact (map_fst_putEntry (by rw [show s.objects.lookup key = some old from hx]; rfl)).symm ▸ hd

theorem tended_accept (hx : s.find? key = some old) (hp : Leaves frozen patch) :
    s.Tended frozen (s.accept key (old.mergePatch patch)).2 where
  same {other x'} hx' := by
    rw [find?_accept] at hx'
    split at hx'
    · rename_i ho
      subst ho
      split at hx'
      · cases hx'
      · cases hx'
        exact ⟨old, hx, hp.same _ _⟩
    · exact ⟨x', hx', .refl _ _⟩
  stays {other x} hother hk := by
    rw [find?_accept]
    split
    · rename_i ho
      subst ho
      cases hx.symm.trans hother
      have hreleased := ((hp.same s.nextVersion old).kept_iff.2 hk).isReleased
      rw [← written, hreleased]
      exact ⟨_, rfl⟩
    · exact ⟨x, hother⟩

theorem WellFormed.accept (hw : s.WellFormed) (hx : s.find? key = some old)
    (hp : Leaves frozen patch) : (s.accept key (old.mergePatch patch)).2.WellFormed := by
  have hfind {other : ObjectKey} {x' : Json}
      (hx' : (s.accept key (old.mergePatch patch)).2.find? other = some x') :
      (other = key ∧ x' = written s.nextVersion patch old) ∨ s.find? other = some x' := by
    rw [find?_accept] at hx'
    split at hx'
    · split at hx'
      · cases hx'
      · cases hx'
        exact .inl ⟨‹_›, rfl⟩
    · exact .inr hx'
  refine ⟨nodup_accept hw.distinct hx _, fun hx' => ?_, fun hx' => ?_⟩
  · rcases hfind hx' with ⟨rfl, rfl⟩ | hx'
    · exact inOrder_written _ hp.inOrder (hw.inOrder hx)
    · exact hw.inOrder hx'
  · rcases hfind hx' with ⟨rfl, rfl⟩ | hx'
    · exact (hp.same _ _).namedBy (hw.named hx)
    · exact hw.named hx'

end Store

/-! ## Runs -/

/-- A request that leaves alone what the objects are. -/
def SentRequest.Spares (frozen : List String) : SentRequest → Prop
  | .api (.patch _ _ _ patch) => Leaves frozen patch
  | .api (.patchStatus _ _ _ patch) => "status" ∉ frozen ∧ Leaves frozen (Store.statusPart patch)
  | _ => True

/-- An aggregator that has no part in what is stored. -/
structure Cluster.IsOutside (ask : AggregatorRequest → Cluster → Reply × Cluster) : Prop where
  store : ∀ request c, (ask request c).2.store = c.store
  faults : ∀ request c, (ask request c).2.faults = c.faults
  readings : ∀ request c, (ask request c).2.readings = c.readings
  log : ∀ request c,
    (ask request c).2.log = c.log ++ [⟨.aggregator request, (ask request c).1⟩]

/-- From one cluster to another by requests that leave alone what the objects are. -/
structure Cluster.Tended (frozen : List String) (c c' : Cluster) : Prop where
  faults : c'.faults = []
  wellFormed : c'.store.WellFormed
  store : c.store.Tended frozen c'.store
  log : c.Adds (·.Spares frozen) c'

section

variable {frozen : List String}

theorem Cluster.Tended.trans {c c' c'' : Cluster} (h : c.Tended frozen c')
    (h' : c'.Tended frozen c'') : c.Tended frozen c'' :=
  ⟨h'.faults, h'.wellFormed, h.store.trans h'.store, h.log.trans h'.log⟩

/-- While the statuses are frozen no status is patched. -/
theorem SentRequest.Spares.patchesStatus {request : SentRequest} (hspares : request.Spares frozen)
    (hstatus : "status" ∈ frozen) : request.patchesStatus = false := by
  cases request with
  | aggregator => rfl
  | api request =>
    cases request with
    | list => rfl
    | get => rfl
    | patch => rfl
    | patchStatus => exact absurd hstatus hspares.1

theorem Cluster.Tended.addsNoStatus {c c' : Cluster} (h : c.Tended frozen c')
    (hstatus : "status" ∈ frozen) : c.Adds (·.patchesStatus = false) c' :=
  h.log.imp fun _ hspares => hspares.patchesStatus hstatus

/-- A call that is spared is refused or leaves alone what the objects are. -/
theorem Store.tended_answer {s : Store} (hw : s.WellFormed) {request : ApiRequest}
    (h : SentRequest.Spares frozen (.api request)) :
    (s.answer request).2.WellFormed ∧ s.Tended frozen (s.answer request).2 := by
  have hsame : s.WellFormed ∧ s.Tended frozen s := ⟨hw, .refl _ _⟩
  cases request with
  | list => exact hsame
  | get =>
    rw [answer_get]
    exact hsame
  | patch collection ns name patch =>
    unfold answer
    dsimp only
    split
    · rename_i old hx
      split
      · exact hsame
      · exact ⟨hw.accept hx h, tended_accept hx h⟩
    · exact hsame
  | patchStatus collection ns name patch =>
    unfold answer
    dsimp only
    split
    · rename_i old hx
      exact ⟨hw.accept hx h.2, tended_accept hx h.2⟩
    · exact hsame

/-- A run of a program that sends nothing else leaves alone what the objects are. -/
theorem Program.Sends.tended {α : Type} {ask : AggregatorRequest → Cluster → Reply × Cluster}
    (hask : Cluster.IsOutside ask) {timeText : Nat → String} {p : Program α}
    (h : p.Sends (·.Spares frozen)) {c c' : Cluster} (hf : c.faults = []) (hw : c.store.WellFormed)
    {outcome : Except Failure α}
    (hrun : p.run (Cluster.environmentWith ask timeText) c = (outcome, c')) :
    c.Tended frozen c' := by
  have hstart : c.Tended frozen c := ⟨hf, hw, .refl _ _, .refl _ _⟩
  rw [← show (p.run _ c).2 = c' from congrArg Prod.snd hrun]
  refine (h c.log).kept_by_run ?_ ?_ ?_ ?_ hstart
  · intro _ request c' hrule ht
    have hreply := Cluster.askApi_eq ht.faults request
    obtain ⟨hw', ht'⟩ := Store.tended_answer ht.wellFormed hrule
    change c.Tended frozen (c'.askApi request).2
    rw [hreply]
    exact ⟨ht.faults, hw', ht.store.trans ht', ht.log.trans (.of_log hrule rfl)⟩
  · intro _ request c' hrule ht
    change c.Tended frozen (ask request c').2
    refine ⟨?_, ?_, ?_, ht.log.trans (.of_log hrule (hask.log request c'))⟩
    · rw [hask.faults, ht.faults]
    · rw [hask.store]
      exact ht.wellFormed
    · rw [hask.store]
      exact ht.store
  · exact fun ht => ⟨ht.faults, ht.wellFormed, ht.store, ht.log⟩
  · exact fun ht => ⟨ht.faults, ht.wellFormed, ht.store, ht.log⟩

theorem Cluster.Tended.start {c : Cluster} (hf : c.faults = []) (hw : c.store.WellFormed) :
    c.Tended frozen c := ⟨hf, hw, .refl _ _, .refl _ _⟩

theorem Cluster.Tended.run {α : Type} {ask : AggregatorRequest → Cluster → Reply × Cluster}
    (hask : IsOutside ask) {timeText : Nat → String} {p : Program α} {c c₁ c₂ : Cluster}
    {outcome : Except Failure α} (ht : c.Tended frozen c₁) (h : p.Sends (·.Spares frozen))
    (hrun : p.run (environmentWith ask timeText) c₁ = (outcome, c₂)) : c.Tended frozen c₂ :=
  ht.trans (h.tended hask ht.faults ht.wellFormed hrun)

end

end Newsdesk
