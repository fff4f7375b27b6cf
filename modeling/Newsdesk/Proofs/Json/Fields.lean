import Newsdesk.Json.Decode
import Newsdesk.Json.MergePatch
import Newsdesk.Proofs.Association

/-!
# Fields in order

The fields of an object stand in the order of their names (`Ascending`), and a value is in order
(`InOrder`) when this holds at every depth. Setting, dropping and merging fields keep the order,
and what they do shows in look-ups alone: ascending fields with the same look-ups are equal
(`Ascending.ext`). Hence a record is read from an object by look-ups.
-/

namespace Newsdesk.Json

/-! ## Look-ups -/

theorem lookup_setField_self (name : String) (value : Json) (fields : JsonFields) :
    (setField name value fields).lookup name = some value := by
  induction fields with
  | nil => simp [setField]
  | cons f rest ih =>
    obtain ⟨n, v⟩ := f
    unfold setField
    split
    · simp
    · split
      · simp
      · rename_i hne _
        simpa [List.lookup_cons, beq_eq_false_iff_ne.2 hne] using ih

theorem lookup_setField_ne {name other : String} (h : other ≠ name) (value : Json)
    (fields : JsonFields) : (setField name value fields).lookup other = fields.lookup other := by
  induction fields with
  | nil => simp [setField, List.lookup_cons, beq_eq_false_iff_ne.2 h]
  | cons f rest ih =>
    obtain ⟨n, v⟩ := f
    unfold setField
    split
    · rename_i hn
      subst hn
      simp [List.lookup_cons, beq_eq_false_iff_ne.2 h]
    · split
      · simp [List.lookup_cons, beq_eq_false_iff_ne.2 h]
      · simp only [List.lookup_cons, ih]

/-- Setting a field changes the look-up of its name only. -/
theorem lookup_setField (name other : String) (value : Json) (fields : JsonFields) :
    (setField name value fields).lookup other =
      if other = name then some value else fields.lookup other := by
  split
  · rename_i h
    rw [h, lookup_setField_self]
  · rename_i h
    rw [lookup_setField_ne h]

/-- Dropping a field changes the look-up of its name only. -/
theorem lookup_dropField (name other : String) (fields : JsonFields) :
    (dropField name fields).lookup other = if other = name then none else fields.lookup other := by
  unfold dropField
  rw [lookup_filter_key (fun n => decide (n ≠ name))]
  by_cases h : other = name <;> simp [h]

/-! ## Ascending fields -/

/-- The fields stand in the order of their names, each name once. -/
def Ascending (fields : JsonFields) : Prop := fields.Pairwise fun f g => f.1 < g.1

theorem Ascending.nodup_names {fields : JsonFields} (h : Ascending fields) :
    (fields.map Prod.fst).Nodup := by
  unfold List.Nodup
  rw [List.pairwise_map]
  refine h.imp fun {f g} hlt e => ?_
  rw [e] at hlt
  exact String.lt_irrefl _ hlt

theorem lookup_eq_none_of_lt {name : String} {fields : JsonFields}
    (h : ∀ f ∈ fields, name < f.1) : fields.lookup name = none := by
  cases hl : fields.lookup name with
  | none => rfl
  | some v => exact absurd (h _ (mem_of_lookup hl)) (String.lt_irrefl name)

theorem Ascending.nil : Ascending [] := List.Pairwise.nil

theorem Ascending.tail {f : String × Json} {rest : JsonFields} (h : Ascending (f :: rest)) :
    Ascending rest := (List.pairwise_cons.1 h).2

theorem Ascending.head_lt {f : String × Json} {rest : JsonFields} (h : Ascending (f :: rest)) :
    ∀ g ∈ rest, f.1 < g.1 := (List.pairwise_cons.1 h).1

/-- In ascending fields the look-up of a name finds the only field of that name. -/
theorem Ascending.lookup_of_mem {fields : JsonFields} (h : Ascending fields) {name : String}
    {value : Json} (hm : (name, value) ∈ fields) : fields.lookup name = some value := by
  induction fields with
  | nil => simp at hm
  | cons f rest ih =>
    obtain ⟨n, v⟩ := f
    rcases List.mem_cons.1 hm with same | hm
    · cases same
      simp
    · have hlt : n < name := h.head_lt _ hm
      have hne : name ≠ n := fun e => String.lt_irrefl name (e ▸ hlt)
      simpa [List.lookup_cons, beq_eq_false_iff_ne.2 hne] using ih h.tail hm

theorem name_lt_of_not_lt {a b : String} (h : ¬ a < b) (hne : a ≠ b) : b < a := by
  rcases Decidable.em (b < a) with hb | hb
  · exact hb
  · exact absurd (String.le_antisymm hb h) hne

theorem mem_setField {name : String} {value : Json} {fields : JsonFields} {f : String × Json}
    (h : f ∈ setField name value fields) : f = (name, value) ∨ f ∈ fields := by
  induction fields with
  | nil => simpa [setField] using h
  | cons g rest ih =>
    obtain ⟨n, v⟩ := g
    unfold setField at h
    split at h
    · rcases List.mem_cons.1 h with rfl | h
      · exact .inl rfl
      · exact .inr (List.mem_cons_of_mem _ h)
    · split at h
      · rcases List.mem_cons.1 h with rfl | h
        · exact .inl rfl
        · exact .inr h
      · rcases List.mem_cons.1 h with rfl | h
        · exact .inr List.mem_cons_self
        · rcases ih h with rfl | h
          · exact .inl rfl
          · exact .inr (List.mem_cons_of_mem _ h)

theorem Ascending.setField {fields : JsonFields} (h : Ascending fields) (name : String)
    (value : Json) : Ascending (setField name value fields) := by
  induction fields with
  | nil => simp [Ascending, Json.setField]
  | cons f rest ih =>
    obtain ⟨n, v⟩ := f
    have hrest := h.head_lt
    unfold Json.setField
    split
    · rename_i hn
      subst hn
      exact List.pairwise_cons.2 ⟨hrest, h.tail⟩
    · rename_i hne
      split
      · rename_i hlt
        refine List.pairwise_cons.2 ⟨fun g hg => ?_, h⟩
        rcases List.mem_cons.1 hg with rfl | hg
        · exact hlt
        · exact String.lt_trans hlt (hrest g hg)
      · rename_i hge
        refine List.pairwise_cons.2 ⟨fun g hg => ?_, ih h.tail⟩
        rcases mem_setField hg with rfl | hg
        · exact name_lt_of_not_lt hge hne
        · exact hrest g hg

theorem Ascending.dropField {fields : JsonFields} (h : Ascending fields) (name : String) :
    Ascending (dropField name fields) := List.Pairwise.filter _ h

theorem ascending_foldl_setField (fields : JsonFields) {acc : JsonFields} (h : Ascending acc) :
    Ascending (fields.foldl (fun acc f => setField f.1 f.2 acc) acc) := by
  induction fields generalizing acc with
  | nil => exact h
  | cons f rest ih => exact ih (h.setField f.1 f.2)

@[simp] theorem ascending_sortFields (fields : JsonFields) : Ascending (sortFields fields) :=
  ascending_foldl_setField fields .nil

/-- Ascending fields are known by their look-ups. -/
theorem Ascending.ext {xs ys : JsonFields} (hx : Ascending xs) (hy : Ascending ys)
    (h : ∀ name, xs.lookup name = ys.lookup name) : xs = ys := by
  induction xs generalizing ys with
  | nil =>
    cases ys with
    | nil => rfl
    | cons g ys =>
      obtain ⟨b, y⟩ := g
      simpa using h b
  | cons f xs ih =>
    obtain ⟨a, x⟩ := f
    cases ys with
    | nil => have := h a; simp at this
    | cons g ys =>
      obtain ⟨b, y⟩ := g
      have hax := h a
      have hby := h b
      simp only [List.lookup_cons, beq_self_eq_true] at hax hby
      -- the two heads are the least names, so neither can be below the other
      have hab : a = b := by
        by_cases hab : a = b
        · exact hab
        · rw [beq_eq_false_iff_ne.2 hab] at hax
          rw [beq_eq_false_iff_ne.2 (Ne.symm hab)] at hby
          have hba := hy.head_lt _ (mem_of_lookup hax.symm)
          have hab' := hx.head_lt _ (mem_of_lookup hby)
          exact absurd hab' (String.lt_asymm hba)
      subst hab
      rw [beq_self_eq_true] at hax
      obtain rfl : x = y := by simpa using hax
      rw [ih hx.tail hy.tail fun name => ?_]
      by_cases hn : name = a
      · subst hn
        rw [lookup_eq_none_of_lt hx.head_lt, lookup_eq_none_of_lt hy.head_lt]
      · simpa [List.lookup_cons, beq_eq_false_iff_ne.2 hn] using h name

/-- Setting a field to what it is changes nothing. -/
theorem Ascending.setField_eq_self {fields : JsonFields} (h : Ascending fields) {name : String}
    {value : Json} (hl : fields.lookup name = some value) :
    Json.setField name value fields = fields :=
  (h.setField name value).ext h fun other => by
    rw [lookup_setField]
    split
    · rename_i ho
      rw [ho, hl]
    · rfl

theorem Ascending.setField_setField {fields : JsonFields} (h : Ascending fields) (name : String)
    (a b : Json) :
    Json.setField name b (Json.setField name a fields) = Json.setField name b fields :=
  ((h.setField name a).setField name b).ext (h.setField name b) fun other => by
    simp only [lookup_setField]
    split <;> rfl

/-- In ascending fields at most one has a given name. -/
theorem Ascending.filter_name {fields : JsonFields} (h : Ascending fields) (name : String) :
    fields.filter (fun f => f.1 = name) = ((fields.lookup name).map (name, ·)).toList := by
  induction fields with
  | nil => rfl
  | cons f rest ih =>
    obtain ⟨n, v⟩ := f
    by_cases hn : n = name
    · subst hn
      have hnone := lookup_eq_none_of_lt h.head_lt
      rw [List.filter_cons_of_pos (by simp), ih h.tail, hnone]
      simp
    · rw [List.filter_cons_of_neg (by simpa using hn), ih h.tail]
      simp [List.lookup_cons, beq_eq_false_iff_ne.2 (Ne.symm hn)]

/-! ## Sorted fields -/

theorem lookup_foldl_setField (fields acc : JsonFields) (name : String) :
    (fields.foldl (fun acc f => setField f.1 f.2 acc) acc).lookup name =
      (fields.reverse.lookup name).or (acc.lookup name) := by
  induction fields generalizing acc with
  | nil => simp
  | cons f rest ih =>
    obtain ⟨n, v⟩ := f
    simp only [List.foldl_cons, List.reverse_cons, ih, lookup_setField, List.lookup_append]
    by_cases hn : name = n
    · simp [hn]
    · simp [hn, List.lookup_cons, beq_eq_false_iff_ne.2 hn]

/-- Of several fields with one name the last counts. -/
theorem lookup_sortFields (fields : JsonFields) (name : String) :
    (sortFields fields).lookup name = fields.reverse.lookup name := by
  simpa [sortFields] using lookup_foldl_setField fields [] name

theorem Ascending.lookup_reverse {fields : JsonFields} (h : Ascending fields) (name : String) :
    fields.reverse.lookup name = fields.lookup name := by
  induction fields with
  | nil => rfl
  | cons f rest ih =>
    obtain ⟨n, v⟩ := f
    rw [List.reverse_cons, List.lookup_append, ih h.tail]
    by_cases hn : name = n
    · subst hn
      simp [lookup_eq_none_of_lt h.head_lt]
    · simp [List.lookup_cons, beq_eq_false_iff_ne.2 hn]

/-- Ascending fields are sorted already. -/
theorem Ascending.sortFields_eq {fields : JsonFields} (h : Ascending fields) :
    sortFields fields = fields :=
  (ascending_sortFields fields).ext h fun name => by rw [lookup_sortFields, h.lookup_reverse]

/-! ## Values in order -/

/-- The fields of every object in a value are ascending. -/
inductive InOrder : Json → Prop
  | null : InOrder .null
  | bool (b : Bool) : InOrder (.bool b)
  | num (n : JsonNumber) : InOrder (.num n)
  | str (s : String) : InOrder (.str s)
  | arr {items : List Json} (h : ∀ x ∈ items, InOrder x) : InOrder (.arr items)
  | obj {fields : JsonFields} (h : Ascending fields) (hs : ∀ f ∈ fields, InOrder f.2) :
      InOrder (.obj fields)

attribute [simp] InOrder.null InOrder.bool InOrder.num InOrder.str

theorem InOrder.ascending {fields : JsonFields} (h : InOrder (.obj fields)) : Ascending fields := by
  cases h with
  | obj h _ => exact h

theorem InOrder.item {items : List Json} (h : InOrder (.arr items)) {x : Json} (hx : x ∈ items) :
    InOrder x := by
  cases h with
  | arr h => exact h x hx

theorem InOrder.mem {fields : JsonFields} (h : InOrder (.obj fields)) {f : String × Json}
    (hf : f ∈ fields) : InOrder f.2 := by
  cases h with
  | obj _ hs => exact hs f hf

theorem InOrder.lookup {fields : JsonFields} (h : InOrder (.obj fields)) {name : String}
    {value : Json} (hl : fields.lookup name = some value) : InOrder value :=
  h.mem (mem_of_lookup hl)

theorem InOrder.field {x : Json} (h : InOrder x) (name : String) : InOrder (x.field name) := by
  unfold Json.field
  cases hl : x.field? name with
  | none => exact .null
  | some v =>
    cases x with
    | obj fields => exact h.lookup hl
    | _ => cases hl

theorem InOrder.tail {f : String × Json} {rest : JsonFields} (h : InOrder (.obj (f :: rest))) :
    InOrder (.obj rest) := .obj h.ascending.tail fun _ hg => h.mem (List.mem_cons_of_mem _ hg)

theorem InOrder.setField {fields : JsonFields} (h : InOrder (.obj fields)) (name : String)
    {value : Json} (hv : InOrder value) : InOrder (.obj (setField name value fields)) := by
  refine .obj (h.ascending.setField name value) fun f hf => ?_
  rcases mem_setField hf with rfl | hf
  · exact hv
  · exact h.mem hf

theorem InOrder.dropField {fields : JsonFields} (h : InOrder (.obj fields)) (name : String) :
    InOrder (.obj (dropField name fields)) :=
  .obj (h.ascending.dropField name) fun _ hf => h.mem (List.mem_filter.1 hf).1

theorem inOrder_empty : InOrder (.obj []) := .obj .nil (by simp)

theorem inOrder_foldl_setField {fields acc : JsonFields} (h : InOrder (.obj acc))
    (hs : ∀ f ∈ fields, InOrder f.2) :
    InOrder (.obj (fields.foldl (fun acc f => Json.setField f.1 f.2 acc) acc)) := by
  induction fields generalizing acc with
  | nil => exact h
  | cons f rest ih =>
    exact ih (h.setField f.1 (hs f List.mem_cons_self))
      fun g hg => hs g (List.mem_cons_of_mem _ hg)

/-- An object made of fields whose values are in order is in order. -/
theorem inOrder_ofFields {fields : JsonFields} (hs : ∀ f ∈ fields, InOrder f.2) :
    InOrder (ofFields fields) := inOrder_foldl_setField inOrder_empty hs

theorem inOrder_ofOptionalFields {fields : List (String × Option Json)}
    (hs : ∀ f ∈ fields, ∀ v, f.2 = some v → InOrder v) : InOrder (ofOptionalFields fields) := by
  refine inOrder_ofFields fun f hf => ?_
  obtain ⟨⟨name, value⟩, hm, hv⟩ := List.mem_filterMap.1 hf
  obtain ⟨v, hvalue, rfl⟩ := Option.map_eq_some_iff.1 hv
  exact hs _ hm v hvalue

theorem inOrder_ofStrings (xs : List String) : InOrder (ofStrings xs) := by
  refine .arr fun x hx => ?_
  obtain ⟨s, _, rfl⟩ := List.mem_map.1 hx
  exact .str s

mutual

/-- The canonical form of a value is in order. -/
theorem inOrder_canonical : ∀ x : Json, InOrder (canonical x)
  | .null => .null
  | .bool b => .bool b
  | .num n => .num n
  | .str s => .str s
  | .arr xs => .arr (inOrder_canonicalItems xs)
  | .obj xs => inOrder_canonicalFields xs inOrder_empty

theorem inOrder_canonicalItems : ∀ xs : List Json, ∀ y ∈ canonicalItems xs, InOrder y
  | [], y, h => by simp [canonicalItems] at h
  | x :: xs, y, h => by
    rcases List.mem_cons.1 (by simpa only [canonicalItems] using h) with rfl | h
    · exact inOrder_canonical x
    · exact inOrder_canonicalItems xs y h

theorem inOrder_canonicalFields : ∀ (xs : List (String × Json)) {acc : JsonFields},
    InOrder (.obj acc) → InOrder (.obj (canonicalFields xs acc))
  | [], _, h => h
  | (n, x) :: xs, acc, h => by
    simpa only [canonicalFields] using
      inOrder_canonicalFields xs (h.setField n (inOrder_canonical x))

end

end Newsdesk.Json
