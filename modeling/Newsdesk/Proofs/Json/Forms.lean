import Mathlib.Data.List.Forall2
import Mathlib.Data.List.Nodup
import Newsdesk.Proofs.Json.Records

/-!
# Forms of a record

A record is accepted in more forms than the one that is written. An object may have fields that
are not of the record and may leave out those that have a default, and an array lists all fields
in the order of their declaration. `RecordForm` says, field by field, which values are forms of a
record. A reader that takes the fields one after the other (`Takes`) reads every form alike.
-/

namespace Newsdesk.Json

/-! ## Forms -/

/-- A field of a record: the values that may stand for it, and whether an object may leave it
out. -/
structure FieldForm where
  name : String
  stands : Json → Prop
  omissible : Prop

namespace FieldForm

def required (name : String) (stands : Json → Prop) : FieldForm := ⟨name, stands, False⟩

/-- A field that may be left out when it has its default. -/
def defaulted (name : String) (stands : Json → Prop) (isDefault : Prop) : FieldForm :=
  ⟨name, stands, isDefault⟩

/-- A text that may be missing: then it is null or left out. -/
def nullableText (name : String) (text : Option String) : FieldForm :=
  ⟨name, fun v => v = (text.map Json.str).getD .null, text = none⟩

/-- A field is among the members of an object: once with a value that stands for it, or not at
all if it may be left out. -/
def IsIn (members : JsonFields) (f : FieldForm) : Prop :=
  (∃ v, members.filter (fun m => m.1 = f.name) = [(f.name, v)] ∧ f.stands v) ∨
    members.filter (fun m => m.1 = f.name) = [] ∧ f.omissible

end FieldForm

/-- The forms of a record: objects with its fields among others, and arrays of all its fields. -/
def RecordForm (fields : List FieldForm) : Json → Prop
  | .obj members => ∀ f ∈ fields, f.IsIn members
  | .arr items => List.Forall₂ FieldForm.stands fields items
  | _ => False

/-- The forms of a list: arrays of forms of its elements. -/
def ListForm {α : Type} (form : α → Json → Prop) (xs : List α) : Json → Prop
  | .arr items => List.Forall₂ form xs items
  | _ => False

/-! ## Forms of an object -/

section

variable {fields : List FieldForm} {f : FieldForm} {members before after : JsonFields}
  {name : String} {v w : Json}

theorem FieldForm.isIn_of_lookup (h : Ascending members)
    (hf : (members.lookup f.name).elim f.omissible f.stands) : f.IsIn members := by
  unfold FieldForm.IsIn
  rw [h.filter_name]
  cases hl : members.lookup f.name with
  | none =>
    rw [hl] at hf
    exact .inr ⟨rfl, hf⟩
  | some v =>
    rw [hl] at hf
    exact .inl ⟨v, rfl, hf⟩

/-- What is written with some fields left out is a form if the written values stand for their
fields and the others may be left out. -/
theorem recordForm_ofOptionalFields {written : List (String × Option Json)}
    (hn : (written.map Prod.fst).Nodup)
    (h : ∀ f ∈ fields, ((written.lookup f.name).join).elim f.omissible f.stands) :
    RecordForm fields (ofOptionalFields written) := by
  intro f hf
  refine FieldForm.isIn_of_lookup (ascending_sortFields _) ?_
  rw [lookup_optionalFields f.name hn]
  exact h f hf

/-- What is written with all fields is a form if the values stand for them. -/
theorem recordForm_ofFields {written : JsonFields}
    (h : ∀ f ∈ fields, (written.reverse.lookup f.name).elim f.omissible f.stands) :
    RecordForm fields (ofFields written) := by
  intro f hf
  refine FieldForm.isIn_of_lookup (ascending_sortFields _) ?_
  rw [lookup_sortFields]
  exact h f hf

theorem FieldForm.isIn_insert (hne : name ≠ f.name) :
    f.IsIn (before ++ (name, v) :: after) ↔ f.IsIn (before ++ after) := by
  unfold FieldForm.IsIn
  rw [List.filter_append, List.filter_append, List.filter_cons_of_neg (by simpa using hne)]

/-- A form stays one with a field that is not of the record. -/
theorem RecordForm.insert (h : RecordForm fields (.obj (before ++ after)))
    (hname : name ∉ fields.map FieldForm.name) :
    RecordForm fields (.obj (before ++ (name, v) :: after)) := fun f hf =>
  (FieldForm.isIn_insert fun he => hname (List.mem_map.2 ⟨f, hf, he.symm⟩)).2 (h f hf)

/-- A form stays one with another value that stands for a field. -/
theorem RecordForm.replace (hn : (fields.map FieldForm.name).Nodup)
    (h : RecordForm fields (.obj (before ++ (f.name, v) :: after))) (hf : f ∈ fields)
    (hw : f.stands w) : RecordForm fields (.obj (before ++ (f.name, w) :: after)) := by
  intro g hg
  by_cases he : g.name = f.name
  · cases List.inj_on_of_nodup_map hn hg hf he
    -- the replaced member is the only one of its name
    have hothers : before.filter (fun m => m.1 = f.name) = [] ∧
        after.filter (fun m => m.1 = f.name) = [] := by
      rcases h f hf with ⟨u, hu, -⟩ | ⟨hu, -⟩
      all_goals
        rw [List.filter_append, List.filter_cons_of_pos (by simp)] at hu
        have hlength := congrArg List.length hu
        simp only [List.length_append, List.length_cons, List.length_nil] at hlength
      · exact ⟨List.eq_nil_of_length_eq_zero (by omega),
          List.eq_nil_of_length_eq_zero (by omega)⟩
      · omega
    refine .inl ⟨w, ?_, hw⟩
    rw [List.filter_append, List.filter_cons_of_pos (by simp), hothers.1, hothers.2]
    rfl
  · rw [FieldForm.isIn_insert (Ne.symm he)]
    exact (FieldForm.isIn_insert (Ne.symm he)).1 (h g hg)

end

/-! ## Reading forms -/

namespace RecordSource

def Gives (fields : List FieldForm) : RecordSource → Prop
  | .named members => ∀ f ∈ fields, f.IsIn members
  | .listed items => List.Forall₂ FieldForm.stands fields items

def drop (n : Nat) : RecordSource → RecordSource
  | .named members => .named members
  | .listed items => .listed (items.drop n)

theorem drop_drop (m n : Nat) (source : RecordSource) :
    (source.drop m).drop n = source.drop (m + n) := by
  cases source with
  | named members => rfl
  | listed items => rw [drop, drop, drop, List.drop_drop]

variable {source : RecordSource} {f : FieldForm} {rest : List FieldForm}

theorem Gives.tail (h : source.Gives (f :: rest)) : (source.drop 1).Gives rest := by
  cases source with
  | named members => exact fun g hg => h g (List.mem_cons_of_mem _ hg)
  | listed items =>
    cases h with
    | cons _ hrest => exact hrest

theorem Gives.nextField (h : source.Gives (f :: rest)) :
    (∃ v, nextField f.name source = some (some v, source.drop 1) ∧ f.stands v) ∨
      nextField f.name source = some (none, source.drop 1) ∧ f.omissible := by
  cases source with
  | named members =>
    rcases h f List.mem_cons_self with ⟨v, hv, hstands⟩ | ⟨hnone, homissible⟩
    · exact .inl ⟨v, by simp only [Json.nextField, hv, drop], hstands⟩
    · exact .inr ⟨by simp only [Json.nextField, hnone, drop], homissible⟩
  | listed items =>
    cases h with
    | cons hstands _ => exact .inl ⟨_, rfl, hstands⟩

end RecordSource

section

variable {α β : Type} {f : FieldForm} {rest fields : List FieldForm} {decode : Decoder α}
  {k : α → RecordReader β} {a default : α} {b : β}

/-- A reader takes its value from every source that gives certain fields, and nothing more. -/
def Takes (fields : List FieldForm) (reader : RecordReader α) (a : α) : Prop :=
  ∀ source : RecordSource, source.Gives fields →
    reader source = some (a, source.drop fields.length)

theorem takes_pure (a : α) : Takes [] (pure a) a := fun source _ => by
  cases source <;> rfl

/-- A reader that takes one field and then the others. -/
theorem Takes.bind {x : RecordReader α} (hx : ∀ source : RecordSource,
      source.Gives (f :: rest) → x source = some (a, source.drop 1))
    (hk : Takes rest (k a) b) : Takes (f :: rest) (x >>= k) b := fun source h => by
  change (x source).bind (fun r => k r.1 r.2) = _
  rw [hx source h, Option.bind_some, hk _ h.tail, RecordSource.drop_drop, Nat.add_comm]
  rfl

theorem Takes.required (hread : ∀ v, f.stands v → decode v = some a) (hthere : ¬ f.omissible)
    (hk : Takes rest (k a) b) : Takes (f :: rest) (requiredField f.name decode >>= k) b := by
  refine .bind (fun source h => ?_) hk
  change (nextField f.name source).bind _ = _
  rcases h.nextField with ⟨v, hv, hstands⟩ | ⟨-, homissible⟩
  · rw [hv]
    change (decode v).bind _ = _
    rw [hread v hstands]
    rfl
  · -- a source that leaves the field out is no form
    exact absurd homissible hthere

theorem Takes.defaulted (hread : ∀ v, f.stands v → decode v = some a)
    (hdefault : f.omissible → a = default) (hk : Takes rest (k a) b) :
    Takes (f :: rest) (defaultField f.name decode default >>= k) b := by
  refine .bind (fun source h => ?_) hk
  change (nextField f.name source).bind _ = _
  rcases h.nextField with ⟨v, hv, hstands⟩ | ⟨hnone, homissible⟩
  · rw [hv]
    change (decode v).bind _ = _
    rw [hread v hstands]
    rfl
  · rw [hnone, hdefault homissible]
    rfl

theorem Takes.nullableText {name : String} {text : Option String}
    {k : Option String → RecordReader β} (hk : Takes rest (k text) b) :
    Takes (.nullableText name text :: rest) (nullableField name decodeString >>= k) b := by
  refine .bind (fun source h => ?_) hk
  change (nextField name source).bind _ = _
  rcases h.nextField with ⟨v, hv, rfl⟩ | ⟨hnone, rfl⟩
  · rw [show nextField name source = _ from hv]
    cases text <;> rfl
  · rw [show nextField name source = _ from hnone]
    rfl

/-- A record is read from each of its forms. -/
theorem decodeRecord_of_form {reader : RecordReader α} (h : Takes fields reader a) {v : Json}
    (hv : RecordForm fields v) : decodeRecord reader v = some a := by
  cases v with
  | obj members =>
    rw [decodeRecord, h (.named members) hv]
    rfl
  | arr items =>
    have hrest : (RecordSource.listed items).drop fields.length = .listed [] := by
      rw [RecordSource.drop, hv.length_eq, List.drop_length]
    rw [decodeRecord, h (.listed items) hv, hrest]
  | _ => exact hv.elim

theorem decodeList_of_form {form : α → Json → Prop} {xs : List α} {v : Json}
    (hv : ListForm form xs v) (h : ∀ {a v}, form a v → decode v = some a) :
    decodeList decode v = some xs := by
  cases v with
  | arr items =>
    change items.mapM decode = some xs
    change List.Forall₂ form xs items at hv
    induction hv with
    | nil => rfl
    | cons ha _ ih => rw [List.mapM_cons, h ha, ih]; rfl
  | _ => exact hv.elim

theorem listForm_map {form : α → Json → Prop} {toJson : α → Json} (h : ∀ a, form a (toJson a))
    (xs : List α) : ListForm form xs (.arr (xs.map toJson)) := by
  change List.Forall₂ form xs (xs.map toJson)
  exact List.forall₂_map_right_iff.2 (List.forall₂_same.2 fun a _ => h a)

end

end Newsdesk.Json
