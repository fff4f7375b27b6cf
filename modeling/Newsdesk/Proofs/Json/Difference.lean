import Newsdesk.Json.Patch
import Newsdesk.Proofs.Json.Fields

/-!
# Differences of values

Applied to the one value, the difference of two gives the other (`apply_diff`). The proof follows
the difference: what happens below a field or an item is done there and nowhere else (`below`), so
an object is brought to its new form field by field and an array item by item.
-/

namespace Newsdesk.Patch

open Json

/-! ## Patches below a place -/

/-- The patch that does below a place what another does to a whole value. -/
def below (place : List PathStep) (patch : Patch) : Patch :=
  patch.map fun op => ⟨place ++ op.path, op.action⟩

@[simp] theorem below_nil (place : List PathStep) : below place [] = [] := rfl

@[simp] theorem below_cons (place : List PathStep) (op : PatchOp) (rest : Patch) :
    below place (op :: rest) = ⟨place ++ op.path, op.action⟩ :: below place rest := rfl

@[simp] theorem below_append (place : List PathStep) (first second : Patch) :
    below place (first ++ second) = below place first ++ below place second := List.map_append

mutual

/-- Below a place the difference is the same. -/
theorem diffAt_append (place path : List PathStep) (old : Json) :
    ∀ new : Json, diffAt (place ++ path) old new = below place (diffAt path old new)
  | .obj newFields => by
    cases old with
    | obj oldFields =>
      simp only [diffAt, below_append, diffFields_append place path oldFields newFields]
      simp [below]
    | _ => simp [diffAt]
  | .arr newItems => by
    cases old with
    | arr oldItems => simp only [diffAt, diffItems_append place path oldItems 0 newItems]
    | _ => simp [diffAt]
  | .null | .bool _ | .num _ | .str _ => by
    simp only [diffAt]
    split <;> simp

theorem diffFields_append (place path : List PathStep) (old : JsonFields) :
    ∀ new : List (String × Json),
      diffFields (place ++ path) old new = below place (diffFields path old new)
  | [] => by simp [diffFields]
  | (name, value) :: rest => by
    simp only [diffFields, below_append, diffFields_append place path old rest]
    split
    · rename_i before _
      rw [List.append_assoc, diffAt_append place (path ++ [PathStep.key name]) before value]
    · simp

theorem diffItems_append (place path : List PathStep) (old : List Json) (position : Nat) :
    ∀ new : List Json,
      diffItems (place ++ path) old position new = below place (diffItems path old position new)
  | [] => by simp [diffItems, below]
  | value :: rest => by
    cases old with
    | nil =>
      simp only [diffItems, below_cons, List.append_assoc,
        diffItems_append place path [] (position + 1) rest]
    | cons before old =>
      simp only [diffItems, below_append, List.append_assoc,
        diffAt_append place (path ++ [.index position]) before value,
        diffItems_append place path old (position + 1) rest]

end

theorem diffAt_eq_below (path : List PathStep) (old new : Json) :
    diffAt path old new = below path (diff old new) := by
  unfold diff
  simpa using diffAt_append path [] old new

/-! ## Applying a patch below a place -/

theorem apply_nil (value : Json) : apply [] value = some value := rfl

theorem apply_cons (op : PatchOp) (rest : Patch) (value : Json) :
    apply (op :: rest) value = (edit op.action op.path value).bind (apply rest) := rfl

theorem apply_append (first second : Patch) (value : Json) :
    apply (first ++ second) value = (apply first value).bind (apply second) :=
  List.foldlM_append

/-- At the whole value a difference can only replace. An added item is put in front of another, so
below an item this matters. -/
def Rooted (patch : Patch) : Prop :=
  ∀ op ∈ patch, op.path = [] → ∃ value, op.action = .replace value

theorem edit_key {action : PatchAction} {path : List PathStep} {name : String} {before after : Json}
    {fields : JsonFields} (hl : fields.lookup name = some before)
    (h : edit action path before = some after) :
    edit action (.key name :: path) (.obj fields) = some (.obj (setField name after fields)) := by
  cases path with
  | nil => cases action <;> cases h <;> simp [edit, editField, hl]
  | cons step rest => simp [edit, hl, h]

theorem edit_index {action : PatchAction} {path : List PathStep} {position : Nat}
    {before after : Json} {items : List Json} (hl : items[position]? = some before)
    (hroot : path = [] → ∃ value, action = .replace value)
    (h : edit action path before = some after) :
    edit action (.index position :: path) (.arr items) =
      some (.arr (items.set position after)) := by
  cases path with
  | nil =>
    obtain ⟨value, rfl⟩ := hroot rfl
    cases h
    have hlt : position < items.length := (List.getElem?_eq_some_iff.1 hl).1
    simp [edit, editItem, hlt]
  | cons step rest => simp [edit, hl, h]

/-- What a patch does to a field does not depend on the rest of the object. -/
theorem apply_below_key {patch : Patch} {name : String} {before after : Json}
    {fields : JsonFields} (hf : Ascending fields) (hl : fields.lookup name = some before)
    (h : apply patch before = some after) :
    apply (below [.key name] patch) (.obj fields) = some (.obj (setField name after fields)) := by
  induction patch generalizing before fields with
  | nil =>
    cases h
    rw [hf.setField_eq_self hl]
    rfl
  | cons op rest ih =>
    rw [apply_cons, Option.bind_eq_some_iff] at h
    obtain ⟨between, hop, h⟩ := h
    rw [below_cons, apply_cons]
    change (edit op.action (.key name :: op.path) _).bind _ = _
    rw [edit_key hl hop, Option.bind_some,
      ih (hf.setField name between) (lookup_setField_self name between fields) h,
      hf.setField_setField]

theorem apply_below_index {patch : Patch} {position : Nat} {before after : Json}
    {items : List Json} (hp : Rooted patch) (hl : items[position]? = some before)
    (h : apply patch before = some after) :
    apply (below [.index position] patch) (.arr items) =
      some (.arr (items.set position after)) := by
  induction patch generalizing before items with
  | nil =>
    cases h
    obtain ⟨hlt, rfl⟩ := List.getElem?_eq_some_iff.1 hl
    rw [List.set_getElem_self]
    rfl
  | cons op rest ih =>
    rw [apply_cons, Option.bind_eq_some_iff] at h
    obtain ⟨between, hop, h⟩ := h
    have hlt : position < items.length := (List.getElem?_eq_some_iff.1 hl).1
    rw [below_cons, apply_cons]
    change (edit op.action (.index position :: op.path) _).bind _ = _
    rw [edit_index hl (hp op List.mem_cons_self) hop, Option.bind_some,
      ih (fun op ho => hp op (List.mem_cons_of_mem _ ho)) (by simp [hlt]) h, List.set_set]

/-! ## Where differences act -/

theorem rooted_below {place : List PathStep} (h : place ≠ []) (patch : Patch) :
    Rooted (below place patch) := by
  intro op hop hpath
  obtain ⟨inner, -, rfl⟩ := List.mem_map.1 hop
  exact absurd (List.append_eq_nil_iff.1 hpath).1 h

theorem Rooted.append {first second : Patch} (h : Rooted first) (h' : Rooted second) :
    Rooted (first ++ second) := fun op hop =>
  (List.mem_append.1 hop).elim (h op) (h' op)

theorem rooted_diffFields (old new : JsonFields) : Rooted (diffFields [] old new) := by
  induction new with
  | nil => simp [Rooted, diffFields]
  | cons f rest ih =>
    obtain ⟨name, value⟩ := f
    unfold diffFields
    refine .append ?_ ih
    split
    · rw [diffAt_eq_below]
      exact rooted_below (by simp) _
    · simp [Rooted]

theorem rooted_diffItems (old new : List Json) (position : Nat) :
    Rooted (diffItems [] old position new) := by
  induction new generalizing old position with
  | nil => simp [Rooted, diffItems]
  | cons value rest ih =>
    cases old with
    | nil =>
      rw [diffItems]
      have hadd : Rooted [⟨[.index position], .add value⟩] := by simp [Rooted]
      exact hadd.append (ih [] (position + 1))
    | cons before old =>
      rw [diffItems, diffAt_eq_below]
      exact .append (rooted_below (by simp) _) (ih old (position + 1))

/-- At the whole value the difference of two values replaces if it does anything. -/
theorem rooted_diff (old new : Json) : Rooted (diff old new) := by
  unfold diff
  cases new with
  | obj newFields =>
    cases old with
    | obj oldFields =>
      rw [diffAt]
      refine .append (rooted_diffFields oldFields newFields) fun op hop hpath => ?_
      obtain ⟨f, -, rfl⟩ := List.mem_map.1 hop
      cases hpath
    | _ => simp [diffAt, Rooted]
  | arr newItems =>
    cases old with
    | arr oldItems =>
      rw [diffAt]
      exact rooted_diffItems oldItems newItems 0
    | _ => simp [diffAt, Rooted]
  | _ =>
    simp only [diffAt]
    split <;> simp [Rooted]

/-! ## Applying differences -/

/-- Removes fields that are there, one after the other. -/
theorem apply_removeFields {names : List String} {fields : JsonFields} (hd : names.Nodup)
    (hm : ∀ name ∈ names, (fields.lookup name).isSome) :
    apply (names.map fun name => ⟨[.key name], .remove⟩) (.obj fields) =
      some (.obj (fields.filter fun f => !names.contains f.1)) := by
  induction names generalizing fields with
  | nil =>
    rw [List.filter_eq_self.2 (by simp)]
    rfl
  | cons name rest ih =>
    rw [List.nodup_cons] at hd
    have hthere : (fields.lookup name).isSome := hm name List.mem_cons_self
    rw [List.map_cons, apply_cons]
    simp only [edit, editField, hthere, if_true, Option.bind_some]
    rw [ih hd.2 fun other ho => ?_]
    · rw [dropField, List.filter_filter]
      congr 3
      funext f
      simp [Bool.and_comm]
    · have hne : other ≠ name := fun e => hd.1 (e ▸ ho)
      rw [lookup_dropField, if_neg hne]
      exact hm other (List.mem_cons_of_mem _ ho)

/-- Removes the items that are left over, each at the place where the first one was. -/
theorem apply_removeItems (done old : List Json) :
    apply (old.map fun _ => ⟨[.index done.length], .remove⟩) (.arr (done ++ old)) =
      some (.arr done) := by
  induction old with
  | nil => simp [apply_nil]
  | cons before old ih =>
    have hlt : done.length < (done ++ before :: old).length := by simp
    have herase : (done ++ before :: old).eraseIdx done.length = done ++ old := by
      simp [List.eraseIdx_append_of_length_le]
    rw [List.map_cons, apply_cons]
    simp only [edit, editItem, hlt, if_true, Option.bind_some, herase]
    exact ih

/-- The names that an object loses. -/
def removedNames (old new : JsonFields) : List String :=
  (old.filter fun f => (new.lookup f.1).isNone).map Prod.fst

theorem mem_removedNames {old new : JsonFields} {name : String} :
    name ∈ removedNames old new ↔ (old.lookup name).isSome ∧ new.lookup name = none := by
  simp only [removedNames, List.mem_map, List.mem_filter, Option.isNone_iff_eq_none]
  constructor
  · rintro ⟨⟨_, value⟩, ⟨hm, hnone⟩, rfl⟩
    exact ⟨isSome_lookup_of_mem hm, hnone⟩
  · rintro ⟨hsome, hnone⟩
    obtain ⟨value, hl⟩ := Option.isSome_iff_exists.1 hsome
    exact ⟨(name, value), ⟨mem_of_lookup hl, hnone⟩, rfl⟩

/-- An object that has got its new fields and has lost the others is the new one. -/
theorem filter_foldl_setField {old new : JsonFields} (ho : Ascending old) (hn : Ascending new) :
    ((new.foldl (fun acc f => setField f.1 f.2 acc) old).filter fun f =>
      !(removedNames old new).contains f.1) = new := by
  refine Ascending.ext (List.Pairwise.filter _ (ascending_foldl_setField new ho)) hn fun name => ?_
  rw [lookup_filter_key (fun name => !(removedNames old new).contains name),
    lookup_foldl_setField, hn.lookup_reverse]
  cases hnew : new.lookup name with
  | some value =>
    have hnot : name ∉ removedNames old new := fun h => by simp [(mem_removedNames.1 h).2] at hnew
    simp [hnot]
  | none =>
    cases hold : old.lookup name with
    | none => simp
    | some value =>
      have hmem : name ∈ removedNames old new := mem_removedNames.2 ⟨by simp [hold], hnew⟩
      simp [hmem]

theorem nodup_removedNames {old : JsonFields} (h : Ascending old) (new : JsonFields) :
    (removedNames old new).Nodup :=
  (List.filter_sublist.map Prod.fst).nodup h.nodup_names

/-- Removes the fields that the new object does not have. -/
theorem apply_remove {old new : JsonFields} (ho : Ascending old) (hn : Ascending new) :
    apply ((old.filter fun f => (new.lookup f.1).isNone).map fun f => ⟨[] ++ [.key f.1], .remove⟩)
      (.obj (new.foldl (fun acc f => setField f.1 f.2 acc) old)) = some (.obj new) := by
  have hthere : ∀ name ∈ removedNames old new,
      ((new.foldl (fun acc f => setField f.1 f.2 acc) old).lookup name).isSome := by
    intro name hm
    obtain ⟨hsome, hnone⟩ := mem_removedNames.1 hm
    rw [lookup_foldl_setField, hn.lookup_reverse, hnone]
    exact hsome
  have h := apply_removeFields (nodup_removedNames ho new) hthere
  rw [filter_foldl_setField ho hn, removedNames, List.map_map] at h
  exact h

mutual

/-- The difference of two values turns the one into the other. -/
theorem apply_diff {old : Json} (ho : InOrder old) :
    ∀ {new : Json}, InOrder new → apply (diff old new) old = some new
  | .obj newFields, hn => by
    cases old with
    | obj oldFields =>
      rw [diff, diffAt, apply_append, apply_diffFields ho newFields hn ho.ascending fun _ _ => rfl,
        Option.bind_some]
      exact apply_remove ho.ascending hn.ascending
    | _ => simp [diff, diffAt, apply, edit]
  | .arr newItems, hn => by
    cases old with
    | arr oldItems =>
      rw [diff, diffAt]
      exact apply_diffItems [] (fun _ => ho.item) newItems fun _ => hn.item
    | _ => simp [diff, diffAt, apply, edit]
  | .null, _ | .bool _, _ | .num _, _ | .str _, _ => by
    simp only [diff, diffAt]
    split
    · rename_i h
      exact congrArg some h
    · rfl

/-- Brings the fields of an object to their new values, one after the other. -/
theorem apply_diffFields {old : JsonFields} (ho : InOrder (.obj old)) :
    ∀ (new : List (String × Json)), InOrder (.obj new) → ∀ {fields : JsonFields},
      Ascending fields → (∀ f ∈ new, fields.lookup f.1 = old.lookup f.1) →
      apply (diffFields [] old new) (.obj fields) =
        some (.obj (new.foldl (fun acc f => setField f.1 f.2 acc) fields))
  | [], _, _, _, _ => by simp [diffFields, apply_nil]
  | (name, value) :: rest, hn, fields, hf, hl => by
    have hvalue : InOrder value := hn.mem (f := (name, value)) List.mem_cons_self
    -- the other names are not touched by this one
    have hrest : ∀ f ∈ rest, (setField name value fields).lookup f.1 = old.lookup f.1 := by
      intro f hm
      have hne : f.1 ≠ name := fun e => String.lt_irrefl name (e ▸ hn.ascending.head_lt f hm)
      rw [lookup_setField_ne hne]
      exact hl f (List.mem_cons_of_mem _ hm)
    have ih := apply_diffFields ho rest hn.tail (hf.setField name value) hrest
    rw [diffFields, apply_append, List.foldl_cons, ← ih]
    split
    · rename_i before hold
      have hbefore : fields.lookup name = some before :=
        (hl (name, value) List.mem_cons_self).trans hold
      have hchange := apply_diff (ho.lookup hold) hvalue
      rw [diffAt_eq_below, List.nil_append, apply_below_key hf hbefore hchange, Option.bind_some]
    · rfl

/-- Brings the items of an array to their new values, those in front being done. -/
theorem apply_diffItems (done : List Json) {old : List Json} (ho : ∀ x ∈ old, InOrder x) :
    ∀ (new : List Json), (∀ x ∈ new, InOrder x) →
      apply (diffItems [] old done.length new) (.arr (done ++ old)) = some (.arr (done ++ new))
  | [], _ => by
    rw [diffItems, List.append_nil]
    exact apply_removeItems done old
  | value :: rest, hn => by
    have hvalue : InOrder value := hn value List.mem_cons_self
    have hrest : ∀ x ∈ rest, InOrder x := fun x hx => hn x (List.mem_cons_of_mem _ hx)
    cases old with
    | nil =>
      have ih := apply_diffItems (done ++ [value]) ho rest hrest
      rw [diffItems, apply_cons]
      simpa [edit, editItem] using ih
    | cons before old =>
      have ih := apply_diffItems (done ++ [value])
        (fun x hx => ho x (List.mem_cons_of_mem _ hx)) rest hrest
      have hbefore : (done ++ before :: old)[done.length]? = some before := by simp
      have hchange := apply_diff (ho before List.mem_cons_self) hvalue
      rw [diffItems, apply_append, diffAt_eq_below, List.nil_append,
        apply_below_index (rooted_diff before value) hbefore hchange, Option.bind_some]
      simpa using ih

end

/-! ## Empty differences -/

mutual

theorem diff_self : ∀ {x : Json}, InOrder x → diff x x = []
  | .obj fields, h => by
    rw [diff, diffAt, diffFields_self fields h fields fun f hf => h.ascending.lookup_of_mem hf,
      List.filter_eq_nil_iff.2 fun f hf => ?_]
    · rfl
    · simpa using isSome_lookup_of_mem hf
  | .arr items, h => by
    rw [diff, diffAt, diffItems_self 0 items fun _ => h.item]
  | .null, _ | .bool _, _ | .num _, _ | .str _, _ => by simp [diff, diffAt]

theorem diffFields_self (old : JsonFields) (ho : InOrder (.obj old)) :
    ∀ fields : List (String × Json), (∀ f ∈ fields, old.lookup f.1 = some f.2) →
      diffFields [] old fields = []
  | [], _ => by rw [diffFields]
  | (name, value) :: rest, h => by
    have hl : old.lookup name = some value := h (name, value) List.mem_cons_self
    rw [diffFields, diffFields_self old ho rest fun f hf => h f (List.mem_cons_of_mem _ hf), hl]
    simp only [diffAt_eq_below, diff_self (ho.lookup hl), below_nil, List.append_nil]

theorem diffItems_self (position : Nat) :
    ∀ items : List Json, (∀ x ∈ items, InOrder x) → diffItems [] items position items = []
  | [], _ => by rw [diffItems, List.map_nil]
  | value :: rest, h => by
    rw [diffItems, diffAt_eq_below, diff_self (h value List.mem_cons_self), below_nil,
      diffItems_self (position + 1) rest fun x hx => h x (List.mem_cons_of_mem _ hx),
      List.append_nil]

end

/-- Values without a difference are the same. -/
theorem diff_eq_nil_iff {old new : Json} (ho : InOrder old) (hn : InOrder new) :
    diff old new = [] ↔ old = new := by
  constructor
  · intro h
    have happly := apply_diff ho hn
    rw [h] at happly
    exact Option.some.inj happly
  · rintro rfl
    exact diff_self ho

end Newsdesk.Patch
