import Newsdesk.Proofs.Json.Fields

/-!
# Merging field by field

A merge patch acts on each field alone: a field that it does not name stays, one that it sets to
null goes, and any other is merged in depth (`field?_mergePatch`). The order of fields is kept.
-/

namespace Newsdesk.Json

/-- What a merge patch leaves of a field, by its value in the patch. -/
def mergedField (before : Option Json) : Option Json → Option Json
  | none => before
  | some .null => none
  | some v => some (mergePatch (before.getD .null) v)

@[simp] theorem mergedField_none (before : Option Json) : mergedField before none = before := rfl

theorem mergedField_some {v : Json} (h : v ≠ .null) (before : Option Json) :
    mergedField before (some v) = some (mergePatch (before.getD .null) v) := by
  cases v <;> first | exact absurd rfl h | rfl

theorem mergeFields_cons (old : JsonFields) (name : String) (value : Json)
    (rest : List (String × Json)) :
    mergeFields old ((name, value) :: rest) =
      mergeFields
        (match mergedField (old.lookup name) (some value) with
        | some v => setField name v old
        | none => dropField name old) rest := by
  cases value <;> simp only [mergeFields, mergedField]

theorem lookup_mergeFields_of_not_mem {name : String} {patch : JsonFields}
    (h : patch.lookup name = none) (old : JsonFields) :
    (mergeFields old patch).lookup name = old.lookup name := by
  induction patch generalizing old with
  | nil => rfl
  | cons f rest ih =>
    obtain ⟨n, v⟩ := f
    by_cases hn : name = n
    · subst hn
      simp at h
    · simp only [List.lookup_cons, beq_eq_false_iff_ne.2 hn] at h
      rw [mergeFields_cons, ih h]
      split
      · rw [lookup_setField_ne hn]
      · rw [lookup_dropField, if_neg hn]

/-- Merging acts on each field alone. -/
theorem lookup_mergeFields {patch : JsonFields} (h : Ascending patch) (name : String)
    (old : JsonFields) :
    (mergeFields old patch).lookup name = mergedField (old.lookup name) (patch.lookup name) := by
  induction patch generalizing old with
  | nil => rfl
  | cons f rest ih =>
    obtain ⟨n, v⟩ := f
    rw [mergeFields_cons]
    by_cases hn : name = n
    · subst hn
      rw [lookup_mergeFields_of_not_mem (lookup_eq_none_of_lt h.head_lt)]
      simp only [List.lookup_cons, beq_self_eq_true]
      split
      · rename_i hm
        rw [lookup_setField_self, hm]
      · rename_i hm
        rw [lookup_dropField, if_pos rfl, hm]
    · rw [ih h.tail]
      simp only [List.lookup_cons, beq_eq_false_iff_ne.2 hn]
      split
      · rw [lookup_setField_ne hn]
      · rw [lookup_dropField, if_neg hn]

/-! ## Whole values -/

/-- The fields that a patch is merged with: none when the value is no object. -/
def fieldsOf : Json → JsonFields
  | .obj fields => fields
  | _ => []

theorem lookup_fieldsOf (x : Json) (name : String) : (fieldsOf x).lookup name = x.field? name := by
  cases x <;> rfl

theorem mergePatch_obj (target : Json) (patch : JsonFields) :
    target.mergePatch (.obj patch) = .obj (mergeFields (fieldsOf target) patch) := by
  cases target <;> simp only [mergePatch, fieldsOf]

@[simp] theorem mergePatch_arr (target : Json) (items : List Json) :
    target.mergePatch (.arr items) = .arr items := by
  cases target <;> simp only [mergePatch]

@[simp] theorem mergePatch_str (target : Json) (s : String) :
    target.mergePatch (.str s) = .str s := by
  cases target <;> simp only [mergePatch]

@[simp] theorem mergePatch_num (target : Json) (n : JsonNumber) :
    target.mergePatch (.num n) = .num n := by
  cases target <;> simp only [mergePatch]

/-- A merge patch acts on each field alone. -/
theorem field?_mergePatch {patch : JsonFields} (h : Ascending patch) (target : Json)
    (name : String) :
    (target.mergePatch (.obj patch)).field? name =
      mergedField (target.field? name) (patch.lookup name) := by
  rw [mergePatch_obj]
  simp only [field?, lookup_mergeFields h, lookup_fieldsOf]

/-! ## Order -/

mutual

/-- Merging values in order gives a value in order. -/
theorem InOrder.mergePatch {target : Json} (ht : InOrder target) :
    ∀ {patch : Json}, InOrder patch → InOrder (target.mergePatch patch)
  | .null, _ => by simpa only [Json.mergePatch] using InOrder.null
  | .bool b, _ => by simpa only [Json.mergePatch] using InOrder.bool b
  | .num n, _ => by simpa only [Json.mergePatch] using InOrder.num n
  | .str s, _ => by simpa only [Json.mergePatch] using InOrder.str s
  | .arr items, h => by simpa only [Json.mergePatch] using h
  | .obj patch, h => by
    rw [mergePatch_obj]
    have hf : InOrder (.obj (fieldsOf target)) := by
      cases target <;> first | exact ht | exact inOrder_empty
    exact hf.mergeFields fun f hm => h.mem hm

theorem InOrder.mergeFields {old : JsonFields} (ho : InOrder (.obj old)) :
    ∀ {patch : List (String × Json)}, (∀ f ∈ patch, InOrder f.2) →
      InOrder (.obj (Json.mergeFields old patch))
  | [], _ => by simpa only [Json.mergeFields] using ho
  | (name, value) :: rest, h => by
    have hvalue : InOrder value := h (name, value) List.mem_cons_self
    have hrest : ∀ f ∈ rest, InOrder f.2 := fun f hf => h f (List.mem_cons_of_mem _ hf)
    have hbefore : InOrder ((old.lookup name).getD .null) := by
      cases hl : old.lookup name with
      | none => exact .null
      | some v => exact ho.lookup hl
    have hmerged : InOrder (((old.lookup name).getD .null).mergePatch value) :=
      hbefore.mergePatch hvalue
    by_cases hn : value = .null
    · subst hn
      simpa only [Json.mergeFields] using (ho.dropField name).mergeFields hrest
    · rw [mergeFields_cons, mergedField_some hn]
      exact (ho.setField name hmerged).mergeFields hrest

end

end Newsdesk.Json
