import Newsdesk.Proofs.Cluster.Tended

/-!
# Custom objects in use

A custom object in use that is stored under its name (`Stored`) is still there after its finalizer
was added and after its status was written: it reads as before but for what was written and for
its version.
-/

namespace Newsdesk

open Json

/-- A kind of custom objects that are read part by part. -/
class CustomKind (Spec Status : Type) [Resource (CustomObject Spec Status)] where
  spec : Decoder Spec
  status : Decoder Status
  metadata_eq : ∀ o : CustomObject Spec Status, Resource.metadata o = o.metadata
  decode_eq : (Resource.decode : Decoder (CustomObject Spec Status)) =
    CustomObject.decode spec status

instance : CustomKind FeedSpec FeedStatus where
  spec := FeedSpec.decode
  status := FeedStatus.decode
  metadata_eq _ := rfl
  decode_eq := rfl

instance : CustomKind HotNewsSpec HotNewsStatus where
  spec := HotNewsSpec.decode
  status := HotNewsStatus.decode
  metadata_eq _ := rfl
  decode_eq := rfl

section

variable {Spec Status : Type} [Resource (CustomObject Spec Status)]

/-- An object in use that is stored under its name. -/
structure Stored (s : Store) (key : ObjectKey) (o : CustomObject Spec Status) : Prop where
  found : ∃ x, s.find? key = some x ∧ InOrder x ∧ (∃ fields, x = .obj fields) ∧
    Resource.decode x = some o
  name : o.metadata.name = some key.name
  ns : o.metadata.ns = some key.ns
  active : o.metadata.isDeleting = false

variable [CustomKind Spec Status] {s : Store} {key : ObjectKey} {o o' : CustomObject Spec Status}

theorem CustomKind.decode_eq_some_iff {x : Json} (h : InOrder x)
    (hobj : ∃ fields, x = .obj fields) :
    Resource.decode x = some o ↔ metadataOf x = some o.metadata ∧
      required (CustomKind.spec Status) (x.field? "spec") = some o.spec ∧
      nullable (CustomKind.status Spec) (x.field? "status") = some o.status := by
  rw [CustomKind.decode_eq]
  exact CustomObject.decode_eq_some_iff h hobj

/-- An object carries the name and the namespace under which it is stored. -/
theorem Store.WellFormed.metadata_eq (hw : s.WellFormed) {x : Json} (hx : s.find? key = some x)
    (hd : Resource.decode x = some o) :
    o.metadata.name = some key.name ∧ o.metadata.ns = some key.ns :=
  (hw.named hx).of_metadataOf (hw.inOrder hx)
    ((CustomKind.decode_eq_some_iff (hw.inOrder hx) (hw.named hx).obj).1 hd).1

/-- An object is read under the name under which it is stored. -/
theorem Store.WellFormed.name_eq (hw : s.WellFormed) {x : Json} (hx : s.find? key = some x)
    (hd : Resource.decode x = some o) :
    o.metadata.displayName = key.name ∧ o.metadata.nsName = key.ns := by
  obtain ⟨hname, hns⟩ := hw.metadata_eq hx hd
  simp [Metadata.displayName, Metadata.nsName, hname, hns]

theorem Store.WellFormed.stored (hw : s.WellFormed) {x : Json} (hx : s.find? key = some x)
    (hd : Resource.decode x = some o) (hactive : o.metadata.isDeleting = false) :
    Stored s key o := by
  obtain ⟨hname, hns⟩ := hw.metadata_eq hx hd
  exact ⟨⟨x, hx, hw.inOrder hx, (hw.named hx).obj, hd⟩, hname, hns, hactive⟩

/-! ## Objects that are left alone -/

section

variable {frozen : List String} {x x' : Json} (h : SameObject frozen x x') (ho : InOrder x)
  (hobj : ∃ fields, x = .obj fields) (hd : Resource.decode x = some o)
include h ho hobj hd

theorem SameObject.nullable_status (hstatus : "status" ∈ frozen) :
    nullable (CustomKind.status Spec) (x'.field? "status") = some o.status := by
  rw [h.fields _ hstatus]
  exact ((CustomKind.decode_eq_some_iff ho hobj).1 hd).2.2

variable (ho' : InOrder x') (hobj' : ∃ fields, x' = .obj fields)
  (hd' : Resource.decode x' = some o')
include ho' hobj' hd'

theorem SameObject.spec_eq (hspec : "spec" ∈ frozen) : o'.spec = o.spec := by
  have hs := ((CustomKind.decode_eq_some_iff ho hobj).1 hd).2.1
  have hs' := ((CustomKind.decode_eq_some_iff ho' hobj').1 hd').2.1
  rw [h.fields _ hspec, hs] at hs'
  exact (Option.some.inj hs').symm

theorem SameObject.isDeleting_eq : o'.metadata.isDeleting = o.metadata.isDeleting := by
  have hm := ((CustomKind.decode_eq_some_iff ho hobj).1 hd).1
  have hm' := ((CustomKind.decode_eq_some_iff ho' hobj').1 hd').1
  have ht := ((metadataOf_eq_some_iff ho).1 hm).2.deletionTimestamp
  have ht' := ((metadataOf_eq_some_iff ho').1 hm').2.deletionTimestamp
  rw [h.metadata _ (.inr (.inr rfl)), ht] at ht'
  unfold Metadata.isDeleting
  rw [Option.some.inj ht']

end

omit [CustomKind Spec Status] in
theorem Stored.displayName (hs : Stored s key o) : o.metadata.displayName = key.name := by
  simp [Metadata.displayName, hs.name]

omit [CustomKind Spec Status] in
theorem Stored.nsName (hs : Stored s key o) : o.metadata.nsName = key.ns := by
  simp [Metadata.nsName, hs.ns]

theorem Stored.kept (hs : Stored s key o) : ∃ x, s.find? key = some x ∧ Kept x := by
  obtain ⟨x, hx, ho, hobj, hd⟩ := hs.found
  exact ⟨x, hx, kept_of_active ho ((CustomKind.decode_eq_some_iff ho hobj).1 hd).1 hs.active⟩

/-- An accepted patch that leaves the object in use. -/
theorem Stored.accept {patch old : Json} (hs : Stored s key o) (ho : InOrder old)
    (hp : InOrder patch) (hd : Resource.decode (written s.nextVersion patch old) = some o')
    (hname : o'.metadata.name = o.metadata.name) (hns : o'.metadata.ns = o.metadata.ns)
    (hactive : o'.metadata.isDeleting = o.metadata.isDeleting) :
    Stored (s.accept key (old.mergePatch patch)).2 key o' where
  found := by
    have ho' := inOrder_written s.nextVersion hp ho
    have hobj := written_obj s.nextVersion patch old
    have hm := ((CustomKind.decode_eq_some_iff ho' hobj).1 hd).1
    refine ⟨written s.nextVersion patch old, ?_, ho', hobj, hd⟩
    rw [Store.find?_accept, if_pos rfl]
    exact if_neg (by rw [← written, isReleased_of_active ho' hm (hactive.trans hs.active)]; simp)
  name := hname.trans hs.name
  ns := hns.trans hs.ns
  active := hactive.trans hs.active

omit [CustomKind Spec Status] in
/-- An object whose look-up ended well can be addressed, and was found. -/
theorem Stored.run_getObject? {c c' : Cluster}
    {ask : AggregatorRequest → Cluster → Reply × Cluster} {timeText : Nat → String}
    {ns name : String} {found : Option (CustomObject Spec Status)}
    (hs : Stored c.store ⟨Resource.collection (CustomObject Spec Status), ns, name⟩ o)
    (hf : c.faults = [])
    (hrun : (Program.getObject? (CustomObject Spec Status) ns name).run
      (Cluster.environmentWith ask timeText) c = (.ok found, c')) :
    found = some o ∧ c.Follows c.store c' ∧ (ApiRequest.get
      (Resource.collection (CustomObject Spec Status)) ns name).invalid? = none := by
  obtain ⟨hfound, hc⟩ := Program.run_getObject? hf hrun
  obtain ⟨x, hx, -, -, hd⟩ := hs.found
  rw [hx, Option.bind_some, hd] at hfound
  subst hfound
  exact ⟨rfl, hc, Program.valid_of_run_getObject? hrun⟩

/-! ## Finalizers -/

/-- The finalizers of an object that has been given one. -/
def withFinalizer (finalizer : String) (m : Metadata) : List String :=
  if m.hasFinalizer finalizer then m.finalizers.getD [] else m.finalizers.getD [] ++ [finalizer]

theorem withFinalizer_eq (finalizer : String) (m : Metadata) :
    withFinalizer finalizer m = if finalizer ∈ m.finalizers.getD [] then m.finalizers.getD []
      else m.finalizers.getD [] ++ [finalizer] := by
  simp [withFinalizer, Metadata.hasFinalizer]

theorem hasFinalizer_of_withFinalizer {finalizer : String} {m m' : Metadata}
    (h : m'.finalizers.getD [] = withFinalizer finalizer m) : m'.hasFinalizer finalizer = true := by
  unfold Metadata.hasFinalizer
  rw [h]
  unfold withFinalizer
  split
  · assumption
  · simp

omit [CustomKind Spec Status] in
theorem ensureFinalizer_of_has {finalizer : String}
    (h : (Resource.metadata o).hasFinalizer finalizer = true) :
    ensureFinalizer o finalizer = pure o := if_pos h

/-- At most the object of a key has been written, and at most once. -/
def Store.WritesAtMost (key : ObjectKey) (s s' : Store) : Prop :=
  s' = s ∨ ∃ object, s' = (s.accept key object).2

variable {c c' : Cluster} {ask : AggregatorRequest → Cluster → Reply × Cluster}
  {timeText : Nat → String} (hf : c.faults = []) (hs : Stored c.store key o)
  (hkey : key.collection = Resource.collection (CustomObject Spec Status))
include hf hs hkey

/-- An object that has been given a finalizer. -/
theorem Stored.run_ensureFinalizer {finalizer : String} {o₁ : CustomObject Spec Status}
    (hrun : (ensureFinalizer o finalizer).run (Cluster.environmentWith ask timeText) c =
      (.ok o₁, c')) :
    Stored c'.store key o₁ ∧ c.store.WritesAtMost key c'.store ∧ c.Follows c'.store c' ∧
      ∃ finalizers version, finalizers.getD [] = withFinalizer finalizer o.metadata ∧
        o₁ = { o with metadata :=
          { o.metadata with finalizers := finalizers, resourceVersion := version } } := by
  unfold ensureFinalizer at hrun
  dsimp only at hrun
  rw [CustomKind.metadata_eq] at hrun
  split at hrun
  · rename_i hhas
    obtain ⟨rfl, rfl⟩ := Program.run_pure_eq_ok.1 hrun
    exact ⟨hs, .inl rfl, .refl c, _, _, (if_pos hhas).symm, rfl⟩
  · rename_i hhas
    rw [hs.nsName, hs.displayName] at hrun
    obtain ⟨old, hold, hd, hc⟩ := Program.run_patchObject hf hrun
    obtain ⟨collection, ns, name⟩ := key
    cases hkey
    obtain ⟨x, hx, ho, hobj, hdx⟩ := hs.found
    cases hx.symm.trans hold
    have hm := ((CustomKind.decode_eq_some_iff ho hobj).1 hdx).1
    have hd' := hd
    rw [CustomKind.decode_eq] at hdx hd'
    obtain rfl := Option.some.inj (hd'.symm.trans
      (CustomObject.decode_written_metadataPatch ho hobj hdx (inOrder_ofStrings _)
        (metadataOf_written_finalizers ho hm _)))
    rw [hc.store]
    exact ⟨hs.accept ho (inOrder_metadataPatch _ _ (inOrder_ofStrings _)) hd rfl rfl rfl,
      .inr ⟨_, rfl⟩, hc.store ▸ hc.self, _, _, (if_neg hhas).symm, rfl⟩

end

/-! ## Statuses -/

/-- The status of an object that can be addressed can be addressed. -/
theorem ApiRequest.invalid?_patchStatus {collection : Collection} {ns name : String}
    (h : (ApiRequest.get collection ns name).invalid? = none) (body : Json) :
    (ApiRequest.patchStatus collection ns name body).invalid? = none := by
  have hstatus : "/status".toList.all isPathChar = true := by decide
  unfold invalid? at h ⊢
  simp only [name?, path, String.toList_append, List.all_append, hstatus, Bool.and_true] at h ⊢
  exact h

/-- Writing a status is one call, whatever the reply reads as. -/
theorem Program.snd_run_patchObjectStatus {α σ : Type} [Resource α] {env : Environment σ} {s : σ}
    {ns name : String} {body : Json}
    (hvalid : (ApiRequest.get (Resource.collection α) ns name).invalid? = none) :
    ((patchObjectStatus α ns name body).run env s).2 =
      (env.api (.patchStatus (Resource.collection α) ns name body) s).2 := by
  unfold patchObjectStatus
  change (run _ ((callApi _ _).bind _) s).2 = _
  rw [run_bind, run_callApi, ApiRequest.invalid?_patchStatus hvalid]
  dsimp only
  cases ((env.api _ s).1.decode (Resource.decode : Decoder α)) <;> rfl

section

variable {c : Cluster} {ask : AggregatorRequest → Cluster → Reply × Cluster}
  {timeText : Nat → String} (hf : c.faults = [])
include hf

/-- The store after a status was written, unless it was the one on record. -/
theorem Program.follows_updateStatus {α S : Type} [Resource α] [DecidableEq S] {object : α}
    {current : Option S} {new : S} {encode : S → Json} {ns name : String} {x : Json}
    (hns : (Resource.metadata object).nsName = ns)
    (hname : (Resource.metadata object).displayName = name)
    (hvalid : (ApiRequest.get (Resource.collection α) ns name).invalid? = none)
    (hx : c.store.find? ⟨Resource.collection α, ns, name⟩ = some x) :
    c.Follows
      (if current = some new then c.store
      else (c.store.accept ⟨Resource.collection α, ns, name⟩
        (x.mergePatch (Store.statusPart (ofFields [("status", encode new)])))).2)
      ((updateStatus object current new encode).run
        (Cluster.environmentWith ask timeText) c).2 := by
  unfold updateStatus
  split
  · exact .refl c
  · have hfollows := Cluster.follows_askApi hf
      (.patchStatus (Resource.collection α) ns name (ofFields [("status", encode new)]))
    rw [Store.answer_patchStatus hx] at hfollows
    subst hns hname
    rw [run_within]
    change Cluster.Follows _ _ ((patchObjectStatus α _ _ _).run _ c).2
    rw [snd_run_patchObjectStatus hvalid]
    exact hfollows

variable {Spec Status : Type} [Resource (CustomObject Spec Status)] [CustomKind Spec Status]
  [DecidableEq Status] {ns name : String} {object : CustomObject Spec Status} {new : Status}
  {encode : Status → Json}
  (hns : object.metadata.nsName = ns) (hname : object.metadata.displayName = name)
  (hvalid : (ApiRequest.get (Resource.collection (CustomObject Spec Status)) ns
    name).invalid? = none)
  (hread : ReadsBack (CustomKind.status Spec) encode new)
include hns hname hvalid hread

/-- Bringing the status of an object in use up to date always ends well. -/
theorem Stored.run_updateStatus {o : CustomObject Spec Status}
    (hs : Stored c.store ⟨Resource.collection (CustomObject Spec Status), ns, name⟩ o)
    (hcurrent : object.status = o.status) :
    ∃ c' version, (updateStatus object object.status new encode).run
        (Cluster.environmentWith ask timeText) c = (.ok (), c') ∧ c.Follows c'.store c' ∧
      Stored c'.store ⟨Resource.collection (CustomObject Spec Status), ns, name⟩ { o with
        metadata := { o.metadata with resourceVersion := version }
        status := some new } := by
  unfold updateStatus
  split
  · rename_i hsame
    refine ⟨c, o.metadata.resourceVersion, rfl, .refl c, ?_⟩
    rw [← hsame, hcurrent]
    exact hs
  · obtain ⟨x, hx, ho, hobj, hd⟩ := hs.found
    have hd' : Resource.decode (written c.store.nextVersion
        (Store.statusPart (ofFields [("status", encode new)])) x) = some { o with
          metadata := { o.metadata with resourceVersion := some c.store.nextVersion }
          status := some new } := by
      rw [CustomKind.decode_eq] at hd ⊢
      exact CustomObject.decode_written_status ho hread hobj hd
    obtain ⟨c', hrun, hc⟩ := Program.run_patchObjectStatus_of_stored hf
      (ApiRequest.invalid?_patchStatus hvalid _) hx hd'
    dsimp only
    rw [CustomKind.metadata_eq, hns, hname]
    refine ⟨c', some c.store.nextVersion, Program.run_within_eq_ok.2 hrun, hc.self, ?_⟩
    rw [hc.store]
    exact hs.accept ho (inOrder_statusPart hread.inOrder) hd' rfl rfl rfl

/-- Whatever is read after a status was brought up to date shows this status. -/
theorem status_of_run_updateStatus (hw : c.store.WellFormed) {x : Json}
    (hx : c.store.find? ⟨Resource.collection (CustomObject Spec Status), ns, name⟩ = some x)
    (hcurrent : nullable (CustomKind.status Spec) (x.field? "status") = some object.status) :
    let c' := ((updateStatus object object.status new encode).run
      (Cluster.environmentWith ask timeText) c).2
    ∀ {x' : Json} {o' : CustomObject Spec Status},
      c'.store.find? ⟨Resource.collection (CustomObject Spec Status), ns, name⟩ = some x' →
        Resource.decode x' = some o' → o'.status = some new := by
  intro c' x' o' hx' hd'
  rw [← CustomKind.metadata_eq] at hns hname
  have hfollows : c.Follows _ c' := Program.follows_updateStatus hf hns hname hvalid hx
  rw [hfollows.store] at hx'
  split at hx'
  · rename_i hsame
    cases hx.symm.trans hx'
    have hstatus := ((CustomKind.decode_eq_some_iff (hw.inOrder hx) (hw.named hx).obj).1 hd').2.2
    rw [hcurrent] at hstatus
    exact (Option.some.inj hstatus).symm.trans hsame
  · have ho := hw.inOrder hx
    rw [Store.find?_accept, if_pos rfl] at hx'
    split at hx'
    · cases hx'
    · cases hx'
      rw [CustomKind.decode_eq] at hd'
      have hpart := inOrder_statusPart hread.inOrder
      have hstatus := ((CustomObject.decode_eq_some_iff (inOrder_written _ hpart ho)
        (written_obj _ _ _)).1 hd').2.2
      exact Option.some.inj (hstatus.symm.trans (nullable_field?_written_status ho hread))

end

end Newsdesk
