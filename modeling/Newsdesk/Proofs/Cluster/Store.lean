import Newsdesk.Proofs.Cluster.Written

/-!
# The store, key by key

What an accepted write does to every key of the store, and what a list of a collection shows. In
a well-formed store every key occurs once, and objects are stored under their names.
-/

namespace Newsdesk

open Json

/-- The metadata of an object name its key. -/
structure NamedBy (key : ObjectKey) (x : Json) : Prop where
  name : (x.field "metadata").field? "name" = some (.str key.name)
  ns : (x.field "metadata").field? "namespace" = some (.str key.ns)

theorem NamedBy.of_metadataOf {key : ObjectKey} {x : Json} (h : NamedBy key x) (ho : InOrder x)
    {m : Metadata} (hm : metadataOf x = some m) :
    m.name = some key.name ∧ m.ns = some key.ns := by
  have hr := ((metadataOf_eq_some_iff ho).1 hm).2
  have hname := hr.name
  have hns := hr.ns
  rw [h.name, nullable_some] at hname
  rw [h.ns, nullable_some] at hns
  exact ⟨(Option.some.inj hname).symm, (Option.some.inj hns).symm⟩

/-- An object that is named has metadata, and is an object. -/
theorem NamedBy.obj {key : ObjectKey} {x : Json} (h : NamedBy key x) :
    ∃ fields, x = .obj fields := by
  cases x with
  | obj fields => exact ⟨fields, rfl⟩
  | _ => cases h.name

/-- Nothing asks for the deletion of an object. -/
def Kept (x : Json) : Prop := (x.field "metadata").field "deletionTimestamp" = .null

theorem Kept.isReleased {x : Json} (h : Kept x) : Store.isReleased x = false := by
  unfold Store.isReleased
  simp [show (x.field "metadata").field "deletionTimestamp" = .null from h]

theorem kept_of_active {x : Json} (ho : InOrder x) {m : Metadata} (hm : metadataOf x = some m)
    (hactive : m.isDeleting = false) : Kept x := by
  have hr := ((metadataOf_eq_some_iff ho).1 hm).2.deletionTimestamp
  have hnone : m.deletionTimestamp = none := by simpa [Metadata.isDeleting] using hactive
  rw [hnone] at hr
  unfold Kept Json.field at *
  cases hl : ((x.field? "metadata").getD .null).field? "deletionTimestamp" with
  | none => rfl
  | some v => cases v <;> simp_all [decodeNullable]

/-- An object whose deletion is not requested stays. -/
theorem isReleased_of_active {x : Json} (ho : InOrder x) {m : Metadata}
    (hm : metadataOf x = some m) (hactive : m.isDeleting = false) : Store.isReleased x = false :=
  (kept_of_active ho hm hactive).isReleased

namespace Store

/-- A store as an API server keeps it. -/
structure WellFormed (s : Store) : Prop where
  distinct : (s.objects.map Prod.fst).Nodup
  inOrder : ∀ {key x}, s.find? key = some x → InOrder x
  named : ∀ {key x}, s.find? key = some x → NamedBy key x

/-! ## Writes -/

theorem find?_remove (key other : ObjectKey) (s : Store) :
    (s.remove key).find? other = if other = key then none else s.find? other := by
  unfold remove find?
  rw [lookup_filter_key (fun k => decide (k ≠ key))]
  by_cases h : other = key <;> simp [h]

/-- An accepted write replaces the object of its key, or takes it away when nothing holds up its
deletion any more. -/
theorem find?_accept (key other : ObjectKey) (object : Json) (s : Store) :
    (s.accept key object).2.find? other =
      if other = key then
        if isReleased (withVersion s.nextVersion object) then none
        else some (withVersion s.nextVersion object)
      else s.find? other := by
  unfold accept
  dsimp only
  split
  · rw [find?_remove]
    split <;> simp [*, find?]
  · by_cases ho : other = key
    · subst ho
      rw [find?_put_self, if_pos rfl]
    · rw [find?_put_ne ho, if_neg ho]
      rfl

/-! ## Lists -/

theorem inCollection_accept {key : ObjectKey} {collection : Collection}
    (h : key.collection ≠ collection) (object : Json) (s : Store) :
    (s.accept key object).2.inCollection collection = s.inCollection collection := by
  have hput (new : Json) (entries : List (ObjectKey × Json)) :
      (putEntry key new entries).filter (fun e => e.1.collection = collection) =
        entries.filter fun e => e.1.collection = collection := by
    induction entries with
    | nil => simp [putEntry, h]
    | cons e rest ih =>
      obtain ⟨k, old⟩ := e
      by_cases hk : k = key
      · subst hk
        simp [putEntry, h]
      · simp only [putEntry, hk, if_false, List.filter_cons, ih]
  unfold accept
  dsimp only
  split
  · simp only [inCollection, remove, List.filter_filter]
    refine List.filter_congr fun e _ => ?_
    by_cases he : e.1 = key
    · simp [he, h]
    · simp [he]
  · exact hput _ _

/-- A write to another collection does not change a list. -/
theorem select_accept {key : ObjectKey} {collection : Collection}
    (h : key.collection ≠ collection) (object : Json) (ns name : Option String) (s : Store) :
    (s.accept key object).2.select collection ns name = s.select collection ns name := by
  unfold select
  rw [inCollection_accept h]

theorem find?_eq_some_iff {s : Store} (h : (s.objects.map Prod.fst).Nodup) {key : ObjectKey}
    {x : Json} : s.find? key = some x ↔ (key, x) ∈ s.objects := lookup_eq_some_iff_mem h

/-- Whether a store is well-formed can be seen from its entries one by one. -/
theorem wellFormed_of_forall {s : Store} (hd : (s.objects.map Prod.fst).Nodup)
    (hall : ∀ e ∈ s.objects, canonical e.2 = e.2 ∧
      (e.2.field "metadata").field? "name" = some (.str e.1.name) ∧
      (e.2.field "metadata").field? "namespace" = some (.str e.1.ns)) : s.WellFormed := by
  refine ⟨hd, fun {key x} hx => ?_, fun {key x} hx => ?_⟩
  · obtain ⟨h, -⟩ := hall (key, x) ((find?_eq_some_iff hd).1 hx)
    change canonical x = x at h
    exact h ▸ inOrder_canonical _
  · obtain ⟨-, hname, hns⟩ := hall (key, x) ((find?_eq_some_iff hd).1 hx)
    exact ⟨hname, hns⟩

/-- The entries of a collection in one namespace. -/
def entriesIn (collection : Collection) (ns : String) (s : Store) : List (ObjectKey × Json) :=
  s.objects.filter fun e => e.1.collection = collection && e.1.ns = ns

theorem select_namespace (collection : Collection) (ns : String) (s : Store) :
    s.select collection (some ns) none = (s.entriesIn collection ns).map Prod.snd := by
  unfold select inCollection entriesIn
  rw [List.filter_filter]
  congr 1
  refine List.filter_congr fun e _ => ?_
  simp [Bool.and_comm, eq_comm]

theorem mem_entriesIn {collection : Collection} {ns : String} {s : Store}
    (h : (s.objects.map Prod.fst).Nodup) {key : ObjectKey} {x : Json} :
    (key, x) ∈ s.entriesIn collection ns ↔
      s.find? key = some x ∧ key.collection = collection ∧ key.ns = ns := by
  rw [find?_eq_some_iff h]
  simp [entriesIn]

/-- In a namespace no two objects of a collection have one name. -/
theorem nodup_names_entriesIn {s : Store} (h : (s.objects.map Prod.fst).Nodup)
    (collection : Collection) (ns : String) :
    ((s.entriesIn collection ns).map fun e => e.1.name).Nodup := by
  have hkeys : ((s.entriesIn collection ns).map Prod.fst).Nodup :=
    (List.filter_sublist.map _).nodup h
  unfold List.Nodup at hkeys ⊢
  rw [List.pairwise_map] at hkeys ⊢
  refine hkeys.imp_of_mem fun {a b} ha hb hne he => hne ?_
  obtain ⟨-, ha₁, ha₂⟩ := (mem_entriesIn h).1 ha
  obtain ⟨-, hb₁, hb₂⟩ := (mem_entriesIn h).1 hb
  obtain ⟨⟨c₁, n₁, own₁⟩, x₁⟩ := a
  obtain ⟨⟨c₂, n₂, own₂⟩, x₂⟩ := b
  simp_all

/-- A feed is stored under its name. -/
theorem WellFormed.displayName {s : Store} (h : s.WellFormed) {key : ObjectKey} {x : Json}
    (hx : s.find? key = some x) {f : Feed} (hd : decodeFeed x = some f) :
    f.metadata.displayName = key.name := by
  have ho := h.inOrder hx
  have hn := h.named hx
  have hm := ((CustomObject.decode_eq_some_iff ho hn.obj).1 hd).1
  simp [Metadata.displayName, (hn.of_metadataOf ho hm).1]

end Store

end Newsdesk
