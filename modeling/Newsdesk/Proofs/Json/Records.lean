import Newsdesk.Proofs.Json.Fields
import Newsdesk.Resource.Metadata

/-!
# Reading records by look-ups

A record in an object with ascending fields is read by look-ups: each field of it is required,
has a default, or may be null (`required`, `defaulted`, `nullable`). What is written by
`ofOptionalFields` is found again under its name (`lookup_optionalFields`).
-/

namespace Newsdesk.Json

section

variable {α β : Type}

/-! ## The kinds of fields -/

/-- What a look-up means for a field that must be there. -/
def required (decode : Decoder α) (found : Option Json) : Option α := found.bind decode

/-- What a look-up means for a field with a default. -/
def defaulted (decode : Decoder α) (default : α) : Option Json → Option α
  | some v => decode v
  | none => some default

/-- What a look-up means for a field that may be missing or null. -/
def nullable (decode : Decoder α) : Option Json → Option (Option α)
  | some v => decodeNullable decode v
  | none => some none

@[simp] theorem required_some (decode : Decoder α) (v : Json) :
    required decode (some v) = decode v := rfl

@[simp] theorem defaulted_some (decode : Decoder α) (default : α) (v : Json) :
    defaulted decode default (some v) = decode v := rfl

@[simp] theorem nullable_some (decode : Decoder α) (v : Json) :
    nullable decode (some v) = decodeNullable decode v := rfl

@[simp] theorem nullable_none (decode : Decoder α) : nullable decode none = some none := rfl

theorem decodeNullable_of_ne_null (decode : Decoder α) {v : Json} (h : v ≠ .null) :
    decodeNullable decode v = (decode v).map some := by
  cases v <;> first | exact absurd rfl h | rfl

/-! ## Fields of an object -/

variable {fields : JsonFields}

theorem nextField_named (h : Ascending fields) (name : String) :
    nextField name (.named fields) = some (fields.lookup name, .named fields) := by
  simp only [nextField, h.filter_name]
  cases fields.lookup name <;> rfl

theorem requiredField_named (h : Ascending fields) (name : String) (decode : Decoder α) :
    requiredField name decode (.named fields) =
      (required decode (fields.lookup name)).map (·, .named fields) := by
  unfold requiredField
  change (nextField name (.named fields)).bind _ = _
  rw [nextField_named h]
  cases fields.lookup name with
  | none => rfl
  | some v =>
    change (decode v).bind _ = _
    rw [required_some]
    cases decode v <;> rfl

theorem defaultField_named (h : Ascending fields) (name : String) (decode : Decoder α)
    (default : α) :
    defaultField name decode default (.named fields) =
      (defaulted decode default (fields.lookup name)).map (·, .named fields) := by
  unfold defaultField
  change (nextField name (.named fields)).bind _ = _
  rw [nextField_named h]
  cases fields.lookup name with
  | none => rfl
  | some v =>
    change (decode v).bind _ = _
    rw [defaulted_some]
    cases decode v <;> rfl

theorem nullableField_named (h : Ascending fields) (name : String) (decode : Decoder α) :
    nullableField name decode (.named fields) =
      (nullable decode (fields.lookup name)).map (·, .named fields) := by
  unfold nullableField
  change (nextField name (.named fields)).bind _ = _
  rw [nextField_named h]
  cases fields.lookup name with
  | none => rfl
  | some v =>
    change (decodeNullable decode v).bind _ = _
    rw [nullable_some]
    cases decodeNullable decode v <;> rfl

theorem optionalField_named (h : Ascending fields) (name : String) (decode : Decoder α) :
    optionalField name decode (.named fields) =
      (nullable decode (fields.lookup name)).map (·, .named fields) :=
  nullableField_named h name decode

/-- A reader that leaves the source as it is hands its value on. -/
theorem bind_named {x : RecordReader α} {found : Option α}
    (hx : x (.named fields) = found.map (·, .named fields)) (f : α → RecordReader β) :
    (x >>= f) (.named fields) = found.bind fun a => f a (.named fields) := by
  change (x (.named fields)).bind _ = _
  rw [hx]
  cases found <;> rfl

theorem pure_named (a : α) : (pure a : RecordReader α) (.named fields) = some (a, .named fields) :=
  rfl

/-- A field of an API object is read like one that may be null. -/
theorem apiField_eq (h : Ascending fields) (name : String) (decode : Decoder α) :
    apiField name decode fields = nullable decode (fields.lookup name) := by
  unfold apiField
  rw [h.filter_name]
  cases fields.lookup name <;> rfl

theorem apiText_eq (h : Ascending fields) (name : String) :
    apiText name fields = (nullable decodeString (fields.lookup name)).map (·.getD "") := by
  unfold apiText
  rw [apiField_eq h]

end

/-! ## Records in any form -/

theorem bind_eq_some_reader {α β : Type} {x : RecordReader α} {f : α → RecordReader β}
    {source rest : RecordSource} {b : β} (h : (x >>= f) source = some (b, rest)) :
    ∃ a between, x source = some (a, between) ∧ f a between = some (b, rest) := by
  change (x source).bind (fun r => f r.1 r.2) = _ at h
  obtain ⟨⟨a, between⟩, hx, h⟩ := Option.bind_eq_some_iff.1 h
  exact ⟨a, between, hx, h⟩

theorem defaultField_eq_some {α : Type} {name : String} {decode : Decoder α} {default a : α}
    {source rest : RecordSource} (h : defaultField name decode default source = some (a, rest)) :
    a = default ∨ ∃ v, decode v = some a := by
  unfold defaultField at h
  change (nextField name source).bind _ = _ at h
  obtain ⟨⟨found, next⟩, -, h⟩ := Option.bind_eq_some_iff.1 h
  cases found with
  | none =>
    cases h
    exact .inl rfl
  | some v =>
    obtain ⟨b, hb, h⟩ := Option.bind_eq_some_iff.1 h
    cases h
    exact .inr ⟨v, hb⟩

/-- The value that the fields of a record are read from. -/
def RecordSource.value : RecordSource → Json
  | .named fields => .obj fields
  | .listed items => .arr items

theorem decodeRecord_eq_some {α : Type} {reader : RecordReader α} {x : Json} {a : α}
    (h : decodeRecord reader x = some a) :
    ∃ source rest, source.value = x ∧ reader source = some (a, rest) := by
  cases x with
  | obj fields =>
    obtain ⟨⟨b, rest⟩, hr, rfl⟩ := Option.map_eq_some_iff.1 h
    exact ⟨.named fields, rest, rfl, hr⟩
  | arr items =>
    unfold decodeRecord at h
    dsimp only at h
    split at h
    · rename_i hr
      cases h
      exact ⟨.listed items, _, rfl, hr⟩
    · cases h
  | _ => cases h

theorem decodeInt_range {least greatest n : Int} {v : Json}
    (h : decodeInt least greatest v = some n) : least ≤ n ∧ n ≤ greatest := by
  unfold decodeInt at h
  split at h
  · split at h
    · rename_i hn
      cases h
      exact hn
    · cases h
  · cases h

/-! ## Written fields -/

theorem lookup_filterMap_reverse (name : String) {fields : List (String × Option Json)}
    (h : (fields.map Prod.fst).Nodup) :
    ((fields.filterMap fun (n, v) => v.map (n, ·)).reverse).lookup name =
      (fields.lookup name).join := by
  induction fields with
  | nil => rfl
  | cons f rest ih =>
    obtain ⟨n, v⟩ := f
    simp only [List.map_cons, List.nodup_cons] at h
    have hn : rest.lookup n = none := by
      rw [List.lookup_eq_none_iff]
      intro f hf
      have hne : n ≠ f.1 := fun e => h.1 (e ▸ List.mem_map_of_mem hf)
      simpa using hne
    cases v with
    | none =>
      rw [List.filterMap_cons_none rfl, ih h.2]
      by_cases e : name = n
      · subst e
        simp [hn]
      · simp [List.lookup_cons, beq_eq_false_iff_ne.2 e]
    | some v =>
      simp only [List.filterMap_cons, Option.map_some]
      rw [List.reverse_cons, List.lookup_append, ih h.2]
      by_cases e : name = n
      · subst e
        simp [hn]
      · simp [List.lookup_cons, beq_eq_false_iff_ne.2 e]

/-- A field that is written is found under its name, and one that is left out is not. -/
theorem lookup_optionalFields (name : String) {fields : List (String × Option Json)}
    (h : (fields.map Prod.fst).Nodup) :
    (sortFields (fields.filterMap fun (n, v) => v.map (n, ·))).lookup name =
      (fields.lookup name).join := by
  rw [lookup_sortFields, lookup_filterMap_reverse name h]

/-! ## Lists -/

theorem decodeList_map {α : Type} {decode : Decoder α} {encode : α → Json}
    (h : ∀ a, decode (encode a) = some a) (xs : List α) :
    decodeList decode (.arr (xs.map encode)) = some xs := by
  induction xs with
  | nil => rfl
  | cons x xs ih =>
    simp only [decodeList, List.map_cons, List.mapM_cons] at ih ⊢
    simp [h, ih]

@[simp] theorem decodeString_str (s : String) : decodeString (.str s) = some s := rfl

@[simp] theorem decodeBool_bool (b : Bool) : decodeBool (.bool b) = some b := rfl

@[simp] theorem decodeStrings_ofStrings (xs : List String) :
    decodeStrings (ofStrings xs) = some xs := decodeList_map decodeString_str xs

theorem decodeInt32_ofInt {n : Int} (h : -0x80000000 ≤ n ∧ n ≤ 0x7FFFFFFF) :
    decodeInt32 (ofInt n) = some n := by
  simp [decodeInt32, ofInt, decodeInt, h]

end Newsdesk.Json
