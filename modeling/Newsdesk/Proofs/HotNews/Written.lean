import Newsdesk.Proofs.Cluster.Store

/-!
# Reading custom objects that were written

The patches of the operator and the decoders commute: after a patch of the metadata only the
metadata read differently, after a patch of the feed names only these and the version, after a
patch of the status only the status and the version.
-/

namespace Newsdesk

open Json

/-- A patch of the metadata leaves the specification and the status as they are read. -/
theorem CustomObject.decode_written_metadataPatch {Spec Status : Type} {spec : Decoder Spec}
    {status : Decoder Status} {o : CustomObject Spec Status} {version : String} {old : Json}
    (ho : InOrder old) (hobj : ∃ fields, old = .obj fields)
    (hd : CustomObject.decode spec status old = some o)
    {base : Option String} {name : String} {items : List Json} (hi : InOrder (.arr items))
    {m : Metadata}
    (hm : metadataOf (written version (metadataPatch base name (.arr items)) old) = some m) :
    CustomObject.decode spec status (written version (metadataPatch base name (.arr items)) old) =
      some { o with metadata := m } := by
  obtain ⟨-, hspec, hstatus⟩ := (CustomObject.decode_eq_some_iff ho hobj).1 hd
  refine (CustomObject.decode_eq_some_iff (inOrder_written _ (inOrder_metadataPatch _ _ hi) ho)
    (written_obj _ _ _)).2 ⟨hm, ?_, ?_⟩
  · rw [field?_written_metadataPatch _ _ (by decide)]
    exact hspec
  · rw [field?_written_metadataPatch _ _ (by decide)]
    exact hstatus

/-! ## Feed names -/

section

variable {version : String} {old : Json} {h base : HotNews} {names : List String}

theorem inOrder_feedsNamePatch (base : HotNews) (names : List String) :
    InOrder (feedsNamePatch base names) := by
  refine inOrder_ofFields ?_
  simp only [List.mem_cons, List.not_mem_nil, or_false, forall_eq_or_imp, forall_eq]
  exact ⟨inOrder_ofFields (by simpa using inOrder_nullableText _),
    inOrder_ofFields (by simpa using inOrder_ofStrings names)⟩

/-- The fields of a patch of the feed names. -/
theorem lookup_feedsNamePatch (base : HotNews) (names : List String) (name : String) :
    (sortFields [
        ("metadata", ofFields [("resourceVersion", nullableText base.metadata.resourceVersion)]),
        ("spec", ofFields [("feedsName", ofStrings names)])]).lookup name =
      if name = "spec" then some (.obj [("feedsName", ofStrings names)])
      else if name = "metadata" then
        some (.obj [("resourceVersion", nullableText base.metadata.resourceVersion)])
      else none := by
  rw [lookup_sortFields]
  by_cases hs : name = "spec"
  · subst hs
    rfl
  · by_cases hm : name = "metadata"
    · subst hm
      rfl
    · simp [List.lookup_cons, hs, hm, beq_eq_false_iff_ne.2 hs, beq_eq_false_iff_ne.2 hm]

theorem field?_written_feedsNamePatch (version : String) (base : HotNews) (names : List String)
    (old : Json) {name : String} (hn : name ≠ "metadata") :
    (written version (feedsNamePatch base names) old).field? name =
      mergedField (old.field? name)
        (if name = "spec" then some (.obj [("feedsName", ofStrings names)]) else none) := by
  unfold written feedsNamePatch
  rw [Store.field?_withVersion _ _ hn, ofFields, field?_mergePatch (ascending_sortFields _),
    lookup_feedsNamePatch]
  simp [hn]

theorem field?_metadata_mergePatch_feedsNamePatch (base : HotNews) (names : List String)
    (old : Json) {name : String} (hn : name ≠ "resourceVersion") :
    ((old.mergePatch (feedsNamePatch base names)).field "metadata").field? name =
      (old.field "metadata").field? name := by
  unfold feedsNamePatch
  rw [ofFields, field?_field_mergePatch (ascending_sortFields _) (List.pairwise_singleton _ _)
    (lookup_feedsNamePatch base names "metadata")]
  simp [List.lookup_cons, beq_eq_false_iff_ne.2 hn]

theorem lookup_mergeFields_feedsName (old : JsonFields) (names : List String) (name : String) :
    (mergeFields old [("feedsName", ofStrings names)]).lookup name =
      if name = "feedsName" then some (ofStrings names) else old.lookup name := by
  rw [lookup_mergeFields (List.pairwise_singleton _ _)]
  split
  · rename_i hn
    subst hn
    exact congrArg some (mergePatch_arr _ _)
  · rename_i hn
    simp [List.lookup_cons, beq_eq_false_iff_ne.2 hn]

theorem inOrder_mergePatch_feedsName {old : Json} (ho : InOrder old) (names : List String) :
    InOrder (old.mergePatch (.obj [("feedsName", ofStrings names)])) :=
  ho.mergePatch (.obj (List.pairwise_singleton _ _) fun f hf => by
    rw [List.mem_singleton.1 hf]
    exact inOrder_ofStrings names)

/-- The specification after a patch of the feed names, where it is an object. -/
theorem HotNewsSpec.decode_mergePatch_obj {fields : JsonFields} (ho : InOrder (.obj fields))
    {s : HotNewsSpec} (hs : HotNewsSpec.decode (.obj fields) = some s) :
    HotNewsSpec.decode ((Json.obj fields).mergePatch (.obj [("feedsName", ofStrings names)])) =
      some { s with feedsName := names } := by
  have hordered := inOrder_mergePatch_feedsName ho names
  have hlookup := lookup_mergeFields_feedsName fields names
  rw [mergePatch_obj] at hordered ⊢
  rw [decode_obj_eq_some_iff hordered.ascending]
  rw [decode_obj_eq_some_iff ho.ascending] at hs
  have hnames : defaulted decodeStrings [] ((mergeFields fields
      [("feedsName", ofStrings names)]).lookup "feedsName") = some names := by
    rw [hlookup, if_pos rfl, defaulted_some, decodeStrings_ofStrings]
  exact hs.setFeedsName (fun name hn => (hlookup name).trans (if_neg hn)) hnames

/-- The specification after a patch of the feed names, if it can be read then. -/
theorem HotNewsSpec.decode_mergePatch {old : Json} (ho : InOrder old) {s s' : HotNewsSpec}
    (hs : HotNewsSpec.decode old = some s)
    (hs' : HotNewsSpec.decode (old.mergePatch (.obj [("feedsName", ofStrings names)])) = some s') :
    s' = { s with feedsName := names } := by
  cases old with
  | obj fields => exact Option.some.inj (hs'.symm.trans (decode_mergePatch_obj ho hs))
  | _ =>
    -- the keywords are missing then
    have hordered := inOrder_mergePatch_feedsName ho names
    rw [mergePatch_obj] at hs' hordered
    have hkeywords := ((decode_obj_eq_some_iff hordered.ascending).1 hs').keywords
    rw [lookup_mergeFields_feedsName, if_neg (by decide)] at hkeywords
    cases hkeywords

/-- After its feed names were written only the specification of a query may read differently. -/
theorem decodeHotNews_written_feedsName_iff (ho : InOrder old)
    (hobj : ∃ fields, old = .obj fields) {h h' : HotNews} (hd : decodeHotNews old = some h)
    {v : Json} (hv : old.field? "spec" = some v) :
    decodeHotNews (written version (feedsNamePatch base names) old) = some h' ↔
      h'.metadata = { h.metadata with resourceVersion := some version } ∧
        HotNewsSpec.decode (v.mergePatch (.obj [("feedsName", ofStrings names)])) = some h'.spec ∧
        h'.status = h.status := by
  have ho' := inOrder_written version (inOrder_feedsNamePatch base names) ho
  obtain ⟨hm, -, hstatus⟩ := (CustomObject.decode_eq_some_iff ho hobj).1 hd
  have hm' : metadataOf (written version (feedsNamePatch base names) old) =
      some { h.metadata with resourceVersion := some version } :=
    metadataOf_written_of_frame ho hm (inOrder_feedsNamePatch base names) fun name hne =>
      field?_metadata_mergePatch_feedsNamePatch base names old hne
  refine (CustomObject.decode_eq_some_iff ho' (written_obj _ _ _)).trans ?_
  rw [hm', field?_written_feedsNamePatch _ _ _ _ (by decide), if_pos rfl, hv,
    mergedField_some (by simp), field?_written_feedsNamePatch _ _ _ _ (by decide),
    if_neg (by decide), mergedField_none, hstatus]
  simp only [Option.some.injEq, eq_comm, required_some, Option.getD_some]

theorem field?_spec_of_decodeHotNews (ho : InOrder old) (hobj : ∃ fields, old = .obj fields)
    {h : HotNews} (hd : decodeHotNews old = some h) :
    ∃ v, old.field? "spec" = some v ∧ InOrder v ∧ HotNewsSpec.decode v = some h.spec := by
  have hspec := ((CustomObject.decode_eq_some_iff ho hobj).1 hd).2.1
  have hvo := ho.field "spec"
  unfold Json.field at hvo
  cases hv : old.field? "spec" with
  | none =>
    rw [hv] at hspec
    cases hspec
  | some v =>
    rw [hv] at hspec hvo
    exact ⟨v, rfl, hvo, hspec⟩

/-- A query whose feed names were written, if it can be read then. -/
theorem decodeHotNews_written_feedsName (ho : InOrder old)
    (hobj : ∃ fields, old = .obj fields) {h h' : HotNews} (hd : decodeHotNews old = some h)
    (hd' : decodeHotNews (written version (feedsNamePatch base names) old) = some h') :
    h' = { h with
      metadata := { h.metadata with resourceVersion := some version }
      spec := { h.spec with feedsName := names } } := by
  obtain ⟨v, hv, hvo, hs⟩ := field?_spec_of_decodeHotNews ho hobj hd
  obtain ⟨hm', hs', hstatus'⟩ := (decodeHotNews_written_feedsName_iff ho hobj hd hv).1 hd'
  obtain ⟨m', s', st'⟩ := h'
  cases hm'
  cases hstatus'
  have hspec : s' = { h.spec with feedsName := names } :=
    HotNewsSpec.decode_mergePatch hvo hs hs'
  rw [hspec]

/-- A query whose specification is an object can be read after its feed names were written. -/
theorem exists_decodeHotNews_written_feedsName (ho : InOrder old)
    (hobj : ∃ fields, old = .obj fields) {h : HotNews} (hd : decodeHotNews old = some h)
    {fields : JsonFields} (hspec : old.field? "spec" = some (.obj fields)) :
    ∃ h', decodeHotNews (written version (feedsNamePatch base names) old) = some h' := by
  obtain ⟨v, hv, hvo, hs⟩ := field?_spec_of_decodeHotNews ho hobj hd
  cases hspec.symm.trans hv
  exact ⟨⟨_, _, _⟩, (decodeHotNews_written_feedsName_iff ho hobj hd hv).2
    ⟨rfl, HotNewsSpec.decode_mergePatch_obj hvo hs, rfl⟩⟩

end

/-! ## Statuses -/

/-- A status whose written form reads as it was written, whatever it is laid over. -/
structure ReadsBack {Status : Type} (decode : Decoder Status) (encode : Status → Json)
    (s : Status) : Prop where
  inOrder : InOrder (encode s)
  obj : ∃ fields, encode s = .obj fields
  merged : ∀ {old}, InOrder old → decode (old.mergePatch (encode s)) = some s

section

variable {Spec Status : Type} {spec : Decoder Spec} {status : Decoder Status}
  {encode : Status → Json} {s : Status} {version : String} {old : Json} (ho : InOrder old)
  (hs : ReadsBack status encode s)
include ho hs

theorem nullable_field?_written_status :
    nullable status ((written version (Store.statusPart (ofFields [("status", encode s)]))
      old).field? "status") = some (some s) := by
  obtain ⟨fields, hobj⟩ := hs.obj
  have hread := hs.merged (ho.field "status")
  have hne : ((old.field? "status").getD .null).mergePatch (encode s) ≠ .null := by
    rw [hobj, mergePatch_obj]
    simp
  unfold written
  rw [Store.field?_withVersion _ _ (by decide), field?_mergePatch_statusPart, if_pos rfl,
    mergedField_some (by simp [hobj]), nullable_some, decodeNullable_of_ne_null _ hne]
  unfold field at hread
  rw [hread]
  rfl

/-- An object whose status was written. -/
theorem CustomObject.decode_written_status (hobj : ∃ fields, old = .obj fields)
    {o : CustomObject Spec Status} (hd : CustomObject.decode spec status old = some o) :
    CustomObject.decode spec status
        (written version (Store.statusPart (ofFields [("status", encode s)])) old) =
      some { o with
        metadata := { o.metadata with resourceVersion := some version }
        status := some s } := by
  have hpart := inOrder_statusPart hs.inOrder
  obtain ⟨hm, hspec, -⟩ := (CustomObject.decode_eq_some_iff ho hobj).1 hd
  refine (CustomObject.decode_eq_some_iff (inOrder_written version hpart ho)
    (written_obj _ _ _)).2 ⟨?_, ?_, nullable_field?_written_status ho hs⟩
  · exact metadataOf_written_status ho hm hs.inOrder
  · unfold written
    rw [Store.field?_withVersion _ _ (by decide), field?_mergePatch_statusPart,
      if_neg (by decide)]
    exact hspec

end

/-- Fields that no merge can change are found again after a merge. -/
theorem field?_mergePatch_ofFields {fields : JsonFields}
    (hflat : ∀ f ∈ fields, f.2 ≠ .null ∧ ∀ target : Json, target.mergePatch f.2 = f.2)
    (old : Json) {name : String} {v : Json} (hv : (ofFields fields).field? name = some v) :
    (old.mergePatch (ofFields fields)).field? name = some v := by
  unfold ofFields at hv ⊢
  rw [field?_obj, lookup_sortFields] at hv
  obtain ⟨hnull, hmerge⟩ := hflat _ (List.mem_reverse.1 (mem_of_lookup hv))
  rw [field?_mergePatch (ascending_sortFields _), lookup_sortFields, hv, mergedField_some hnull]
  exact congrArg some (hmerge _)

theorem inOrder_hotNewsStatus (s : HotNewsStatus) : InOrder s.toJson := by
  refine inOrder_ofFields ?_
  simp only [List.mem_cons, List.not_mem_nil, or_false, forall_eq_or_imp, forall_eq]
  exact ⟨.num _, inOrder_ofStrings _, inOrder_conditions _, .str _⟩

theorem HotNewsStatus.readsBack {s : HotNewsStatus} (hs : s.InRange) :
    ReadsBack HotNewsStatus.decode HotNewsStatus.toJson s where
  inOrder := inOrder_hotNewsStatus s
  obj := ⟨_, rfl⟩
  merged {old} ho := by
    have hordered := ho.mergePatch (inOrder_hotNewsStatus s)
    have hlookup (name : String) (v : Json) (hv : s.toJson.field? name = some v) :
        (old.mergePatch s.toJson).field? name = some v :=
      field?_mergePatch_ofFields (by simp [ofInt, ofStrings]) old hv
    obtain ⟨fields, hobj⟩ : ∃ fields, old.mergePatch s.toJson = .obj fields :=
      ⟨_, mergePatch_obj _ _⟩
    rw [hobj] at hordered hlookup ⊢
    exact (decode_obj_eq_some_iff hordered.ascending).2 (reads_of_written hs hlookup)

theorem FeedStatus.readsBack (s : FeedStatus) :
    ReadsBack FeedStatus.decode FeedStatus.toJson s where
  inOrder := inOrder_feedStatus s
  obj := ⟨_, rfl⟩
  merged {old} ho := by
    have hordered := ho.mergePatch (inOrder_feedStatus s)
    have hconditions : (old.mergePatch s.toJson).field? "conditions" =
        some (.arr (s.conditions.map Condition.toJson)) :=
      field?_mergePatch_ofFields (by simp) old (lookup_sortFields _ _)
    obtain ⟨fields, hobj⟩ : ∃ fields, old.mergePatch s.toJson = .obj fields :=
      ⟨_, mergePatch_obj _ _⟩
    rw [hobj] at hordered hconditions ⊢
    rw [field?_obj] at hconditions
    rw [decode_obj_eq_some_iff hordered.ascending, hconditions, defaulted_some,
      Condition.decodeList_toJson]

/-- A query whose status was written. -/
theorem decodeHotNews_written_status {version : String} {old : Json} (ho : InOrder old)
    (hobj : ∃ fields, old = .obj fields) {h : HotNews} (hd : decodeHotNews old = some h)
    {s : HotNewsStatus} (hs : s.InRange) :
    decodeHotNews (written version (Store.statusPart (ofFields [("status", s.toJson)])) old) =
      some { h with
        metadata := { h.metadata with resourceVersion := some version }
        status := some s } :=
  CustomObject.decode_written_status ho (HotNewsStatus.readsBack hs) hobj hd

end Newsdesk
