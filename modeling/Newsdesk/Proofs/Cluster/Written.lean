import Newsdesk.Cluster.Store
import Newsdesk.Proofs.Json.Merging
import Newsdesk.Proofs.Resource.Reading
import Newsdesk.Reconcile.HotNews

/-!
# What a write leaves

An accepted patch is merged into the stored object, which then gets a version (`written`). The
patches of the operator touch a few fields only: the finalizers or the owner references, the feed
names of a query, the status. So the object that is read afterwards is the one that was read
before with these fields set: patching commutes with reading.
-/

namespace Newsdesk

open Json

/-- What is stored after a patch has been accepted with a version. -/
def written (version : String) (patch old : Json) : Json :=
  Store.withVersion version (old.mergePatch patch)

namespace Json

theorem field?_obj (fields : JsonFields) (name : String) :
    (Json.obj fields).field? name = fields.lookup name := rfl

/-- Two levels of fields: what a merge patch of one field that is an object does below it. -/
theorem field?_field_mergePatch {patch : JsonFields} (h : Ascending patch) {part : JsonFields}
    (hpart : Ascending part) {name : String} (hl : patch.lookup name = some (.obj part))
    (old : Json) (below : String) :
    ((old.mergePatch (.obj patch)).field name).field? below =
      mergedField ((old.field name).field? below) (part.lookup below) := by
  unfold field
  rw [field?_mergePatch h, hl, mergedField_some (by simp)]
  simp only [Option.getD_some, field?_mergePatch hpart]

end Json

namespace Store

theorem field?_withVersion (version : String) (x : Json) {name : String} (h : name ≠ "metadata") :
    (withVersion version x).field? name = x.field? name := by
  unfold withVersion
  rw [field?_mergePatch (List.pairwise_singleton _ _)]
  simp [List.lookup_cons, beq_eq_false_iff_ne.2 h]

theorem field?_metadata_withVersion (version : String) (x : Json) (name : String) :
    ((withVersion version x).field "metadata").field? name =
      if name = "resourceVersion" then some (.str version)
      else (x.field "metadata").field? name := by
  have hpart : Ascending [("resourceVersion", .str version)] := List.pairwise_singleton _ _
  unfold withVersion
  rw [field?_field_mergePatch (List.pairwise_singleton _ _) hpart (by simp)]
  split
  · rename_i h
    simp [h, mergedField]
  · rename_i h
    simp [List.lookup_cons, beq_eq_false_iff_ne.2 h]

theorem withVersion_obj (version : String) (x : Json) :
    ∃ fields, withVersion version x = .obj fields := ⟨_, mergePatch_obj _ _⟩

theorem inOrder_withVersion (version : String) {x : Json} (h : InOrder x) :
    InOrder (withVersion version x) := by
  refine h.mergePatch (.obj (List.pairwise_singleton _ _) fun f hf => ?_)
  rw [List.mem_singleton.1 hf]
  refine .obj (List.pairwise_singleton _ _) fun g hg => ?_
  rw [List.mem_singleton.1 hg]
  exact .str version

/-- The version of a written object is the one that the write gave it. -/
theorem versionOf_written (version : String) (patch old : Json) :
    versionOf (written version patch old) = .str version := by
  unfold versionOf written field
  have h := field?_metadata_withVersion version (old.mergePatch patch) "resourceVersion"
  rw [if_pos rfl] at h
  exact congrArg (Option.getD · .null) h

end Store

theorem inOrder_written (version : String) {patch old : Json} (hp : InOrder patch)
    (ho : InOrder old) : InOrder (written version patch old) :=
  Store.inOrder_withVersion version (ho.mergePatch hp)

/-! ## Patches of the metadata -/

theorem inOrder_nullableText (s : Option String) : InOrder (nullableText s) := by
  cases s with
  | none => exact .null
  | some s => exact .str s

theorem inOrder_metadataPatch (version : Option String) (name : String) {value : Json}
    (hv : InOrder value) : InOrder (metadataPatch version name value) := by
  refine inOrder_ofFields fun f hf => ?_
  rw [List.mem_singleton.1 hf]
  refine inOrder_ofFields fun g hg => ?_
  rcases List.mem_cons.1 hg with rfl | hg
  · exact inOrder_nullableText version
  · rw [List.mem_singleton.1 hg]
    exact hv

theorem inOrder_ownerReference (r : OwnerReference) : InOrder r.toJson := by
  obtain ⟨apiVersion, kind, name, uid, block, controller⟩ := r
  refine inOrder_ofOptionalFields ?_
  cases block <;> cases controller <;> simp

theorem inOrder_owners (owners : List OwnerReference) :
    InOrder (.arr (owners.map OwnerReference.toJson)) := by
  refine .arr fun x hx => ?_
  obtain ⟨r, _, rfl⟩ := List.mem_map.1 hx
  exact inOrder_ownerReference r

theorem inOrder_conditions (cs : List Condition) :
    InOrder (.arr (cs.map Condition.toJson)) := by
  refine .arr fun x hx => ?_
  obtain ⟨c, _, rfl⟩ := List.mem_map.1 hx
  exact inOrder_ofFields (by simp)

theorem inOrder_feedStatus (s : FeedStatus) : InOrder s.toJson :=
  inOrder_ofFields (by simpa using inOrder_conditions s.conditions)

theorem inOrder_statusPart {status : Json} (h : InOrder status) :
    InOrder (Store.statusPart (ofFields [("status", status)])) := by
  have hbody : InOrder (ofFields [("status", status)]) := inOrder_ofFields (by simpa using h)
  refine .obj (List.pairwise_singleton _ _) fun f hf => ?_
  rw [List.mem_singleton.1 hf]
  exact hbody.field "status"

/-- A patch of the status leaves all other fields. -/
theorem field?_mergePatch_statusPart (old status : Json) (name : String) :
    (old.mergePatch (Store.statusPart (ofFields [("status", status)]))).field? name =
      if name = "status" then mergedField (old.field? "status") (some status)
      else old.field? name := by
  unfold Store.statusPart
  rw [field?_mergePatch (List.pairwise_singleton _ _)]
  split
  · rename_i h
    subst h
    rfl
  · rename_i h
    simp [List.lookup_cons, beq_eq_false_iff_ne.2 h]

section

variable {base : Option String} {name : String} {items : List Json}

/-- The part of a metadata patch below `metadata`. -/
theorem lookup_metadataPatch (other : String) :
    (sortFields [("resourceVersion", nullableText base), (name, .arr items)]).lookup other =
      if other = name then some (.arr items)
      else if other = "resourceVersion" then some (nullableText base) else none := by
  rw [lookup_sortFields]
  by_cases h : other = name
  · simp [h]
  · by_cases hr : other = "resourceVersion"
    · subst hr
      simp [List.lookup_cons, h, beq_eq_false_iff_ne.2 h]
    · simp [List.lookup_cons, h, hr, beq_eq_false_iff_ne.2 h, beq_eq_false_iff_ne.2 hr]

theorem field_metadata_metadataPatch :
    (metadataPatch base name (.arr items)).field "metadata" =
      .obj (sortFields [("resourceVersion", nullableText base), (name, .arr items)]) := by
  unfold metadataPatch ofFields field
  rw [field?_obj, lookup_sortFields]
  rfl

/-- A metadata patch names the version that it was made from. -/
theorem versionOf_metadataPatch (h : name ≠ "resourceVersion") :
    Store.versionOf (metadataPatch base name (.arr items)) = nullableText base := by
  unfold Store.versionOf
  rw [field_metadata_metadataPatch, field, field?_obj, lookup_metadataPatch, if_neg (Ne.symm h),
    if_pos rfl]
  rfl

/-- A metadata patch leaves all fields but the metadata. -/
theorem field?_written_metadataPatch (version : String) (old : Json) {other : String}
    (h : other ≠ "metadata") :
    (written version (metadataPatch base name (.arr items)) old).field? other =
      old.field? other := by
  unfold written metadataPatch ofFields
  rw [Store.field?_withVersion _ _ h, field?_mergePatch (ascending_sortFields _),
    lookup_sortFields]
  simp [List.lookup_cons, beq_eq_false_iff_ne.2 h]

/-- A metadata patch sets one field of the metadata, and the write sets the version. -/
theorem field?_metadata_written_metadataPatch (version : String) (old : Json) (other : String) :
    ((written version (metadataPatch base name (.arr items)) old).field "metadata").field? other =
      if other = "resourceVersion" then some (.str version)
      else if other = name then some (.arr items)
      else (old.field "metadata").field? other := by
  unfold written metadataPatch ofFields
  rw [Store.field?_metadata_withVersion]
  split
  · rfl
  · rename_i hr
    rw [field?_field_mergePatch (ascending_sortFields _) (ascending_sortFields _)
      (by rw [lookup_sortFields]; rfl), lookup_metadataPatch]
    split
    · rw [mergedField_some (by simp), mergePatch_arr]
    · rw [mergedField_none]

end

/-! ## Reading what was written -/

/-- The metadata of an object, as its readers take them. -/
def metadataOf (x : Json) : Option Metadata := Metadata.decode (x.field "metadata")

theorem metadataOf_eq_some_iff {x : Json} (h : InOrder x) {m : Metadata} :
    metadataOf x = some m ↔ (∃ fields, x.field? "metadata" = some (.obj fields)) ∧
      Metadata.Reads ((x.field "metadata").field? ·) m := by
  unfold metadataOf
  rw [Metadata.decode_eq_some_iff (h.field "metadata")]
  refine and_congr_left fun _ => ?_
  unfold field
  cases x.field? "metadata" with
  | none => simp
  | some v => simp

/-- A custom object is read from its metadata, its specification and its status. -/
theorem CustomObject.decode_eq_some_iff {Spec Status : Type} {spec : Decoder Spec}
    {status : Decoder Status} {x : Json} (h : InOrder x) (hobj : ∃ fields, x = .obj fields)
    {o : CustomObject Spec Status} :
    CustomObject.decode spec status x = some o ↔
      metadataOf x = some o.metadata ∧ required spec (x.field? "spec") = some o.spec ∧
        nullable status (x.field? "status") = some o.status := by
  obtain ⟨fields, rfl⟩ := hobj
  rw [CustomObject.decode_obj_eq_some_iff h.ascending]
  refine and_congr_left fun _ => ?_
  unfold metadataOf field
  rw [field?_obj]
  cases fields.lookup "metadata" with
  | none => exact ⟨nofun, nofun⟩
  | some v => rfl

section

variable {version : String} {patch old : Json}

theorem written_obj (version : String) (patch old : Json) :
    ∃ fields, written version patch old = .obj fields := Store.withVersion_obj _ _

theorem field?_metadata_written (version : String) (patch old : Json) :
    ∃ fields, (written version patch old).field? "metadata" = some (.obj fields) := by
  unfold written Store.withVersion
  rw [field?_mergePatch (List.pairwise_singleton _ _)]
  exact ⟨_, congrArg some (mergePatch_obj _ _)⟩

theorem metadataOf_written_of_reads (hp : InOrder patch) (ho : InOrder old) {m : Metadata}
    (h : Metadata.Reads (((written version patch old).field "metadata").field? ·) m) :
    metadataOf (written version patch old) = some m :=
  (metadataOf_eq_some_iff (inOrder_written version hp ho)).2
    ⟨field?_metadata_written version patch old, h⟩

variable {base : Option String} {m : Metadata} (ho : InOrder old) (hm : metadataOf old = some m)
include ho hm

/-- Finalizers that are written are the finalizers that are read. -/
theorem metadataOf_written_finalizers (finalizers : List String) :
    metadataOf (written version (metadataPatch base "finalizers" (ofStrings finalizers)) old) =
      some { m with finalizers := some finalizers, resourceVersion := some version } := by
  have hr := ((metadataOf_eq_some_iff ho).1 hm).2
  have hf := @field?_metadata_written_metadataPatch base "finalizers"
    (finalizers.map .str) version old
  refine metadataOf_written_of_reads (inOrder_metadataPatch _ _ (inOrder_ofStrings _)) ho
    (hr.update (fun name h => ?_) ?_ ?_ ?_)
  · simp only [writtenMetadata, List.mem_cons, List.not_mem_nil, or_false, not_or] at h
    simp only [ofStrings, hf, h, if_false]
  · simp only [ofStrings, hf, ↓reduceIte, String.reduceEq, nullable_some]
    exact congrArg (Option.map some) (decodeStrings_ofStrings finalizers)
  · simpa [ofStrings, hf] using hr.ownerReferences
  · simp [ofStrings, hf, decodeNullable]

/-- Owner references that are written are those that are read. -/
theorem metadataOf_written_owners (owners : List OwnerReference) :
    metadataOf (written version (metadataPatch base "ownerReferences"
        (.arr (owners.map OwnerReference.toJson))) old) =
      some { m with ownerReferences := some owners, resourceVersion := some version } := by
  have hr := ((metadataOf_eq_some_iff ho).1 hm).2
  have hf := @field?_metadata_written_metadataPatch base "ownerReferences"
    (owners.map OwnerReference.toJson) version old
  refine metadataOf_written_of_reads (inOrder_metadataPatch _ _ (inOrder_owners _)) ho
    (hr.update (fun name h => ?_) ?_ ?_ ?_)
  · simp only [writtenMetadata, List.mem_cons, List.not_mem_nil, or_false, not_or] at h
    simp only [hf, h, if_false]
  · simpa [hf] using hr.finalizers
  · simp [hf, decodeNullable_of_ne_null, OwnerReference.decodeList_toJson]
  · simp [hf, decodeNullable]

/-- A patch that leaves the metadata alone changes their version only. -/
theorem metadataOf_written_of_frame (hp : InOrder patch)
    (hf : ∀ name, name ≠ "resourceVersion" →
      ((old.mergePatch patch).field "metadata").field? name = (old.field "metadata").field? name) :
    metadataOf (written version patch old) = some { m with resourceVersion := some version } := by
  have hr := ((metadataOf_eq_some_iff ho).1 hm).2
  have hw (name : String) : ((written version patch old).field "metadata").field? name =
      if name = "resourceVersion" then some (.str version)
      else (old.field "metadata").field? name := by
    unfold written
    rw [Store.field?_metadata_withVersion]
    split
    · rfl
    · exact hf name ‹_›
  refine metadataOf_written_of_reads hp ho (hr.update (fun name h => ?_) ?_ ?_ ?_)
  · simp only [writtenMetadata, List.mem_cons, List.not_mem_nil, or_false, not_or] at h
    simp only [hw, h, if_false]
  · simpa [hw] using hr.finalizers
  · simpa [hw] using hr.ownerReferences
  · simp [hw, decodeNullable]

/-- What is written to the status is all that a write to the status changes, but for the version. -/
theorem metadataOf_written_status {status : Json} (hs : InOrder status) :
    metadataOf (written version (Store.statusPart (ofFields [("status", status)])) old) =
      some { m with resourceVersion := some version } := by
  refine metadataOf_written_of_frame ho hm (inOrder_statusPart hs) fun name _ => ?_
  unfold field
  rw [field?_mergePatch_statusPart, if_neg (by decide)]

end

end Newsdesk
