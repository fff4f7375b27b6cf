import Newsdesk.Number.Binary64

/-!
# JSON values

Objects of the API server travel as JSON. A value keeps the difference between a number written
as an integer and one written with a fraction or an exponent. The fields of an object stand in
the order of their names, each name once; `Json.ofFields` brings any list of fields into that
form.
-/

namespace Newsdesk

open Number

/-- A number: an integer, or a float when it was written as one or fits no 64 bits. -/
inductive JsonNumber where
  | int (value : Int)
  | float (value : Binary64)
deriving DecidableEq, Repr, Inhabited

/-- A JSON value. -/
inductive Json where
  | null
  | bool (value : Bool)
  | num (value : JsonNumber)
  | str (value : String)
  | arr (items : List Json)
  | obj (fields : List (String × Json))
deriving Repr, Inhabited

/-- The fields of a JSON object. -/
abbrev JsonFields := List (String × Json)

namespace Json

/-! ## Equality -/

mutual

/-- Whether two values are the same. -/
def same : Json → Json → Bool
  | .null, .null => true
  | .bool a, .bool b => a == b
  | .num a, .num b => decide (a = b)
  | .str a, .str b => decide (a = b)
  | .arr xs, .arr ys => sameItems xs ys
  | .obj xs, .obj ys => sameFields xs ys
  | _, _ => false

/-- Whether two lists of values are the same. -/
def sameItems : List Json → List Json → Bool
  | [], [] => true
  | x :: xs, y :: ys => same x y && sameItems xs ys
  | _, _ => false

/-- Whether two lists of fields are the same. -/
def sameFields : List (String × Json) → List (String × Json) → Bool
  | [], [] => true
  | (a, x) :: xs, (b, y) :: ys => decide (a = b) && same x y && sameFields xs ys
  | _, _ => false

end

mutual

theorem eq_of_same : ∀ {x y : Json}, same x y = true → x = y
  | .null, y, h => by cases y <;> simp_all [same]
  | .bool _, y, h => by cases y <;> simp_all [same]
  | .num _, y, h => by cases y <;> simp_all [same]
  | .str _, y, h => by cases y <;> simp_all [same]
  | .arr xs, y, h => by
    cases y <;> simp only [same, Bool.false_eq_true] at h
    exact congrArg _ (eq_of_sameItems h)
  | .obj xs, y, h => by
    cases y <;> simp only [same, Bool.false_eq_true] at h
    exact congrArg _ (eq_of_sameFields h)

theorem eq_of_sameItems : ∀ {xs ys : List Json}, sameItems xs ys = true → xs = ys
  | [], ys, h => by cases ys <;> simp_all [sameItems]
  | x :: xs, ys, h => by
    cases ys with
    | nil => simp [sameItems] at h
    | cons y ys =>
      simp only [sameItems, Bool.and_eq_true] at h
      rw [eq_of_same h.1, eq_of_sameItems h.2]

theorem eq_of_sameFields :
    ∀ {xs ys : List (String × Json)}, sameFields xs ys = true → xs = ys
  | [], ys, h => by cases ys <;> simp_all [sameFields]
  | (a, x) :: xs, ys, h => by
    cases ys with
    | nil => simp [sameFields] at h
    | cons y ys =>
      obtain ⟨b, y⟩ := y
      simp only [sameFields, Bool.and_eq_true, decide_eq_true_eq] at h
      rw [h.1.1, eq_of_same h.1.2, eq_of_sameFields h.2]

end

mutual

theorem same_refl : ∀ x : Json, same x x = true
  | .null => rfl
  | .bool b => by simp [same]
  | .num n => by simp [same]
  | .str s => by simp [same]
  | .arr xs => by simpa [same] using sameItems_refl xs
  | .obj xs => by simpa [same] using sameFields_refl xs

theorem sameItems_refl : ∀ xs : List Json, sameItems xs xs = true
  | [] => rfl
  | x :: xs => by simp [sameItems, same_refl x, sameItems_refl xs]

theorem sameFields_refl : ∀ xs : List (String × Json), sameFields xs xs = true
  | [] => rfl
  | (a, x) :: xs => by simp [sameFields, same_refl x, sameFields_refl xs]

end

instance : DecidableEq Json := fun x y =>
  if h : same x y = true then isTrue (eq_of_same h)
  else isFalse fun e => h (e ▸ same_refl x)

/-! ## Fields -/

/-- Sets a field, at its place in the order of names. -/
def setField (name : String) (value : Json) : JsonFields → JsonFields
  | [] => [(name, value)]
  | (n, v) :: rest =>
    if name = n then (name, value) :: rest
    else if name < n then (name, value) :: (n, v) :: rest
    else (n, v) :: setField name value rest

/-- Drops a field. -/
def dropField (name : String) (fields : JsonFields) : JsonFields :=
  fields.filter fun f => f.1 ≠ name

/-- The fields in the order of their names; of several with one name the last counts. -/
def sortFields (fields : JsonFields) : JsonFields :=
  fields.foldl (fun acc f => setField f.1 f.2 acc) []

/-- An object with the given fields. -/
def ofFields (fields : JsonFields) : Json := .obj (sortFields fields)

/-- A field of an object; `none` when there is none or the value is no object. -/
def field? (name : String) : Json → Option Json
  | .obj fields => fields.lookup name
  | _ => none

/-- A field of an object, where a missing one counts as null. -/
def field (name : String) (value : Json) : Json := (value.field? name).getD .null

/-- The text of a string value. -/
def text? : Json → Option String
  | .str s => some s
  | _ => none

/-- An integer as a value. -/
def ofInt (n : Int) : Json := .num (.int n)

/-- A natural number as a value. -/
def ofNat (n : Nat) : Json := .num (.int n)

/-- A list of strings as a value. -/
def ofStrings (xs : List String) : Json := .arr (xs.map .str)

mutual

/-- The value with the fields of every object in order, each name once. -/
def canonical : Json → Json
  | .arr xs => .arr (canonicalItems xs)
  | .obj xs => .obj (canonicalFields xs [])
  | x => x

/-- The items of an array in canonical form. -/
def canonicalItems : List Json → List Json
  | [] => []
  | x :: xs => canonical x :: canonicalItems xs

/-- Adds fields in canonical form to fields that are in order. -/
def canonicalFields : List (String × Json) → JsonFields → JsonFields
  | [], acc => acc
  | (n, x) :: xs, acc => canonicalFields xs (setField n (canonical x) acc)

end

end Json

end Newsdesk
