import Newsdesk.Proofs.Json.Records
import Newsdesk.Resource.Object

/-!
# Reading resources by look-ups

What a decoder of this library takes from an object depends on the look-ups of a few names alone.
For each type these look-ups are listed by a structure (`Metadata.Reads`, `HotNewsSpec.Reads`, …),
and reading succeeds with a value exactly when the structure holds of it (`decode_eq_some_iff`).
What is written reads back as the same value.
-/

namespace Newsdesk

open Json

/-! ## Owner references -/

namespace OwnerReference

/-- What is written as an owner reference reads back. -/
theorem decode_toJson (r : OwnerReference) : OwnerReference.decode r.toJson = some r := by
  unfold toJson ofOptionalFields ofFields decode
  simp (disch := simp) only [apiText_eq, apiField_eq, lookup_optionalFields]
  obtain ⟨apiVersion, kind, name, uid, block, controller⟩ := r
  cases block <;> cases controller <;> simp [List.lookup_cons, decodeNullable]

theorem decodeList_toJson (refs : List OwnerReference) :
    decodeList OwnerReference.decode (.arr (refs.map toJson)) = some refs :=
  decodeList_map decode_toJson refs

end OwnerReference

/-! ## Metadata -/

namespace Metadata

/-- The look-ups from which metadata are read. -/
structure Reads (l : String → Option Json) (m : Metadata) : Prop where
  name : nullable decodeString (l "name") = some m.name
  generateName : nullable decodeString (l "generateName") = some m.generateName
  ns : nullable decodeString (l "namespace") = some m.ns
  uid : nullable decodeString (l "uid") = some m.uid
  resourceVersion : nullable decodeString (l "resourceVersion") = some m.resourceVersion
  generation : nullable decodeInt64 (l "generation") = some m.generation
  creationTimestamp :
    nullable decodeTimestamp (l "creationTimestamp") = some m.creationTimestamp
  deletionTimestamp :
    nullable decodeTimestamp (l "deletionTimestamp") = some m.deletionTimestamp
  deletionGracePeriodSeconds :
    nullable decodeInt64 (l "deletionGracePeriodSeconds") = some m.deletionGracePeriodSeconds
  finalizers : nullable decodeStrings (l "finalizers") = some m.finalizers
  ownerReferences :
    nullable (decodeList OwnerReference.decode) (l "ownerReferences") = some m.ownerReferences
  labels : nullable (decodeMap decodeString) (l "labels") = some m.labels
  annotations : nullable (decodeMap decodeString) (l "annotations") = some m.annotations
  selfLink : nullable decodeString (l "selfLink") = some m.selfLink

theorem decode_obj_eq_some_iff {fields : JsonFields} (h : Ascending fields) {m : Metadata} :
    decode (.obj fields) = some m ↔ Reads (fun name => fields.lookup name) m := by
  unfold decode
  simp only [apiField_eq h]
  constructor
  · intro hd
    obtain ⟨_, h1, hd⟩ := Option.bind_eq_some_iff.1 hd
    obtain ⟨_, h2, hd⟩ := Option.bind_eq_some_iff.1 hd
    obtain ⟨_, h3, hd⟩ := Option.bind_eq_some_iff.1 hd
    obtain ⟨_, h4, hd⟩ := Option.bind_eq_some_iff.1 hd
    obtain ⟨_, h5, hd⟩ := Option.bind_eq_some_iff.1 hd
    obtain ⟨_, h6, hd⟩ := Option.bind_eq_some_iff.1 hd
    obtain ⟨_, h7, hd⟩ := Option.bind_eq_some_iff.1 hd
    obtain ⟨_, h8, hd⟩ := Option.bind_eq_some_iff.1 hd
    obtain ⟨_, h9, hd⟩ := Option.bind_eq_some_iff.1 hd
    obtain ⟨_, h10, hd⟩ := Option.bind_eq_some_iff.1 hd
    obtain ⟨_, h11, hd⟩ := Option.bind_eq_some_iff.1 hd
    obtain ⟨_, h12, hd⟩ := Option.bind_eq_some_iff.1 hd
    obtain ⟨_, h13, hd⟩ := Option.bind_eq_some_iff.1 hd
    obtain ⟨_, h14, hd⟩ := Option.bind_eq_some_iff.1 hd
    cases hd
    exact ⟨h1, h2, h3, h4, h5, h6, h7, h8, h9, h10, h11, h12, h13, h14⟩
  · intro ⟨h1, h2, h3, h4, h5, h6, h7, h8, h9, h10, h11, h12, h13, h14⟩
    rw [h1, h2, h3, h4, h5, h6, h7, h8, h9, h10, h11, h12, h13, h14]
    rfl

end Metadata

/-- Metadata are read from objects only. -/
theorem Metadata.decode_eq_some_iff {x : Json} (h : InOrder x) {m : Metadata} :
    Metadata.decode x = some m ↔ (∃ fields, x = .obj fields) ∧ Metadata.Reads (x.field? ·) m := by
  cases h with
  | obj h hs =>
    rw [decode_obj_eq_some_iff h]
    exact ⟨fun hr => ⟨⟨_, rfl⟩, hr⟩, And.right⟩
  | _ =>
    refine ⟨fun hd => ?_, fun hr => ?_⟩
    · simp [Metadata.decode] at hd
    · obtain ⟨⟨_, hx⟩, _⟩ := hr
      cases hx

/-- The fields of metadata that the operator writes, and the version that every write sets. -/
def writtenMetadata : List String := ["finalizers", "ownerReferences", "resourceVersion"]

/-- Metadata of which only written fields have changed. -/
theorem Metadata.Reads.update {l new : String → Option Json} {m : Metadata} (h : Reads l m)
    (hl : ∀ name, name ∉ writtenMetadata → new name = l name)
    {finalizers : Option (List String)} {ownerReferences : Option (List OwnerReference)}
    {resourceVersion : Option String}
    (hf : nullable decodeStrings (new "finalizers") = some finalizers)
    (ho : nullable (decodeList OwnerReference.decode) (new "ownerReferences") =
      some ownerReferences)
    (hv : nullable decodeString (new "resourceVersion") = some resourceVersion) :
    Reads new { m with finalizers, ownerReferences, resourceVersion } where
  name := hl "name" (by decide) ▸ h.name
  generateName := hl "generateName" (by decide) ▸ h.generateName
  ns := hl "namespace" (by decide) ▸ h.ns
  uid := hl "uid" (by decide) ▸ h.uid
  resourceVersion := hv
  generation := hl "generation" (by decide) ▸ h.generation
  creationTimestamp := hl "creationTimestamp" (by decide) ▸ h.creationTimestamp
  deletionTimestamp := hl "deletionTimestamp" (by decide) ▸ h.deletionTimestamp
  deletionGracePeriodSeconds :=
    hl "deletionGracePeriodSeconds" (by decide) ▸ h.deletionGracePeriodSeconds
  finalizers := hf
  ownerReferences := ho
  labels := hl "labels" (by decide) ▸ h.labels
  annotations := hl "annotations" (by decide) ▸ h.annotations
  selfLink := hl "selfLink" (by decide) ▸ h.selfLink

/-! ## Conditions and statuses -/

theorem Condition.decode_toJson (c : Condition) : Condition.decode c.toJson = some c := by
  unfold Condition.toJson ofFields Condition.decode Condition.reader
  simp only [decodeRecord, bind_named (requiredField_named (ascending_sortFields _) _ _),
    bind_named (defaultField_named (ascending_sortFields _) _ _ _), pure_named, lookup_sortFields]
  obtain ⟨kind, success, reason, message, lastUpdatedName, lastUpdateTime⟩ := c
  have hkind : ConditionKind.decode (.str kind.name) = some kind := ConditionKind.ofName?_name kind
  simp [List.lookup_cons, hkind]

theorem Condition.decodeList_toJson (cs : List Condition) :
    decodeList Condition.decode (.arr (cs.map Condition.toJson)) = some cs :=
  decodeList_map Condition.decode_toJson cs

/-- The status of a feed is read from its conditions. -/
theorem FeedStatus.decode_obj_eq_some_iff {fields : JsonFields} (h : Ascending fields)
    {s : FeedStatus} : decode (.obj fields) = some s ↔
      defaulted (decodeList Condition.decode) [] (fields.lookup "conditions") =
        some s.conditions := by
  unfold decode
  simp only [decodeRecord, bind_named (defaultField_named h _ _ _), pure_named,
    Option.map_eq_some_iff, Option.bind_eq_some_iff, Option.some.injEq]
  constructor
  · rintro ⟨_, ⟨_, h1, rfl⟩, rfl⟩
    exact h1
  · intro h1
    exact ⟨_, ⟨_, h1, rfl⟩, rfl⟩

namespace HotNewsStatus

/-- The look-ups from which the status of a query is read. -/
structure Reads (l : String → Option Json) (s : HotNewsStatus) : Prop where
  articlesCount : defaulted decodeInt32 0 (l "articlesCount") = some s.articlesCount
  newsLink : defaulted decodeString "" (l "newsLink") = some s.newsLink
  articlesTitles : defaulted decodeStrings [] (l "articlesTitles") = some s.articlesTitles
  conditions : defaulted (decodeList Condition.decode) [] (l "conditions") = some s.conditions

theorem decode_obj_eq_some_iff {fields : JsonFields} (h : Ascending fields) {s : HotNewsStatus} :
    decode (.obj fields) = some s ↔ Reads (fun name => fields.lookup name) s := by
  unfold decode
  simp only [decodeRecord, bind_named (defaultField_named h _ _ _), pure_named,
    Option.map_eq_some_iff, Option.bind_eq_some_iff, Option.some.injEq]
  constructor
  · rintro ⟨_, ⟨_, h1, _, h2, _, h3, _, h4, rfl⟩, rfl⟩
    exact ⟨h1, h2, h3, h4⟩
  · rintro ⟨h1, h2, h3, h4⟩
    exact ⟨_, ⟨_, h1, _, h2, _, h3, _, h4, rfl⟩, rfl⟩

/-- The number of articles is one that a status can show. -/
def InRange (s : HotNewsStatus) : Prop :=
  -0x80000000 ≤ s.articlesCount ∧ s.articlesCount ≤ 0x7FFFFFFF

/-- A status that was read can be shown again. -/
theorem inRange_of_decode {x : Json} {s : HotNewsStatus}
    (h : decode x = some s) : s.InRange := by
  obtain ⟨_, _, -, h⟩ := decodeRecord_eq_some h
  obtain ⟨count, _, hcount, h⟩ := bind_eq_some_reader h
  obtain ⟨_, _, -, h⟩ := bind_eq_some_reader h
  obtain ⟨_, _, -, h⟩ := bind_eq_some_reader h
  obtain ⟨_, _, -, h⟩ := bind_eq_some_reader h
  cases h
  rcases defaultField_eq_some hcount with rfl | ⟨v, hv⟩
  · simp [InRange]
  · exact decodeInt_range hv

/-- A value whose fields are those of a written status, whatever others it has, reads as it. -/
theorem reads_of_written {l : String → Option Json} {s : HotNewsStatus} (hs : s.InRange)
    (hl : ∀ name v, s.toJson.field? name = some v → l name = some v) : Reads l s := by
  have hfield (name : String) : s.toJson.field? name =
      [("newsLink", Json.str s.newsLink), ("conditions", .arr (s.conditions.map Condition.toJson)),
        ("articlesTitles", ofStrings s.articlesTitles),
        ("articlesCount", ofInt s.articlesCount)].lookup name := lookup_sortFields _ name
  constructor
  · rw [hl "articlesCount" (ofInt s.articlesCount) (by rw [hfield]; rfl), defaulted_some,
      decodeInt32_ofInt hs]
  · rw [hl "newsLink" (.str s.newsLink) (by rw [hfield]; rfl), defaulted_some, decodeString_str]
  · rw [hl "articlesTitles" (ofStrings s.articlesTitles) (by rw [hfield]; rfl), defaulted_some,
      decodeStrings_ofStrings]
  · rw [hl "conditions" (.arr (s.conditions.map Condition.toJson)) (by rw [hfield]; rfl),
      defaulted_some, Condition.decodeList_toJson]

end HotNewsStatus

/-! ## Specifications of queries -/

theorem SummaryConfig.decode_toJson {s : SummaryConfig}
    (h : -0x80000000 ≤ s.titlesCount ∧ s.titlesCount ≤ 0x7FFFFFFF) :
    SummaryConfig.decode s.toJson = some s := by
  unfold SummaryConfig.toJson ofFields SummaryConfig.decode
  simp only [decodeRecord, bind_named (defaultField_named (ascending_sortFields _) _ _ _),
    pure_named, lookup_sortFields]
  simp [decodeInt32_ofInt h]

theorem SummaryConfig.range_of_decode {x : Json} {s : SummaryConfig}
    (h : SummaryConfig.decode x = some s) :
    -0x80000000 ≤ s.titlesCount ∧ s.titlesCount ≤ 0x7FFFFFFF := by
  obtain ⟨_, _, -, h⟩ := decodeRecord_eq_some h
  obtain ⟨count, _, hcount, h⟩ := bind_eq_some_reader h
  cases h
  rcases defaultField_eq_some hcount with rfl | ⟨v, hv⟩
  · decide
  · exact decodeInt_range hv

/-- In whatever form a query is given, its number of titles has 32 bits. -/
theorem HotNewsSpec.range_of_decode {x : Json} {spec : HotNewsSpec}
    (h : HotNewsSpec.decode x = some spec) :
    -0x80000000 ≤ spec.summaryConfig.titlesCount ∧
      spec.summaryConfig.titlesCount ≤ 0x7FFFFFFF := by
  obtain ⟨_, _, -, h⟩ := decodeRecord_eq_some h
  obtain ⟨_, _, -, h⟩ := bind_eq_some_reader h
  obtain ⟨_, _, -, h⟩ := bind_eq_some_reader h
  obtain ⟨_, _, -, h⟩ := bind_eq_some_reader h
  obtain ⟨_, _, -, h⟩ := bind_eq_some_reader h
  obtain ⟨_, _, -, h⟩ := bind_eq_some_reader h
  obtain ⟨summary, _, hsummary, h⟩ := bind_eq_some_reader h
  cases h
  rcases defaultField_eq_some hsummary with rfl | ⟨v, hv⟩
  · simp
  · exact SummaryConfig.range_of_decode hv

namespace HotNewsSpec

/-- The look-ups from which a query is read. -/
structure Reads (l : String → Option Json) (s : HotNewsSpec) : Prop where
  keywords : required decodeStrings (l "keywords") = some s.keywords
  dateStart : nullable decodeString (l "dateStart") = some s.dateStart
  dateEnd : nullable decodeString (l "dateEnd") = some s.dateEnd
  feedsName : defaulted decodeStrings [] (l "feedsName") = some s.feedsName
  feedGroups : defaulted decodeStrings [] (l "feedGroups") = some s.feedGroups
  summaryConfig :
    defaulted SummaryConfig.decode ⟨0⟩ (l "summaryConfig") = some s.summaryConfig

theorem decode_obj_eq_some_iff {fields : JsonFields} (h : Ascending fields) {s : HotNewsSpec} :
    decode (.obj fields) = some s ↔ Reads (fun name => fields.lookup name) s := by
  unfold decode
  simp only [decodeRecord, bind_named (requiredField_named h _ _),
    bind_named (nullableField_named h _ _), bind_named (defaultField_named h _ _ _), pure_named,
    Option.map_eq_some_iff, Option.bind_eq_some_iff, Option.some.injEq]
  constructor
  · rintro ⟨_, ⟨_, h1, _, h2, _, h3, _, h4, _, h5, _, h6, rfl⟩, rfl⟩
    exact ⟨h1, h2, h3, h4, h5, h6⟩
  · rintro ⟨h1, h2, h3, h4, h5, h6⟩
    exact ⟨_, ⟨_, h1, _, h2, _, h3, _, h4, _, h5, _, h6, rfl⟩, rfl⟩

/-- Only the feed names have changed. -/
theorem Reads.setFeedsName {l new : String → Option Json} {s : HotNewsSpec} (h : Reads l s)
    (hl : ∀ name, name ≠ "feedsName" → new name = l name) {feedsName : List String}
    (hf : defaulted decodeStrings [] (new "feedsName") = some feedsName) :
    Reads new { s with feedsName } where
  keywords := hl "keywords" (by decide) ▸ h.keywords
  dateStart := hl "dateStart" (by decide) ▸ h.dateStart
  dateEnd := hl "dateEnd" (by decide) ▸ h.dateEnd
  feedsName := hf
  feedGroups := hl "feedGroups" (by decide) ▸ h.feedGroups
  summaryConfig := hl "summaryConfig" (by decide) ▸ h.summaryConfig

end HotNewsSpec

/-! ## Custom objects -/

/-- A custom object is read from the look-ups of its three parts. -/
theorem CustomObject.decode_obj_eq_some_iff {Spec Status : Type} {spec : Decoder Spec}
    {status : Decoder Status} {fields : JsonFields} (h : Ascending fields)
    {o : CustomObject Spec Status} :
    CustomObject.decode spec status (.obj fields) = some o ↔
      required Metadata.decode (fields.lookup "metadata") = some o.metadata ∧
        required spec (fields.lookup "spec") = some o.spec ∧
        nullable status (fields.lookup "status") = some o.status := by
  unfold CustomObject.decode
  simp only [decodeRecord, bind_named (requiredField_named h _ _),
    bind_named (optionalField_named h _ _), pure_named, Option.map_eq_some_iff,
    Option.bind_eq_some_iff, Option.some.injEq]
  constructor
  · rintro ⟨_, ⟨_, h1, _, h2, _, h3, rfl⟩, rfl⟩
    exact ⟨h1, h2, h3⟩
  · rintro ⟨h1, h2, h3⟩
    exact ⟨_, ⟨_, h1, _, h2, _, h3, rfl⟩, rfl⟩

end Newsdesk
