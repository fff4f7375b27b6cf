import Newsdesk.Json.Basic

/-!
# JSON patches

A patch is a list of operations, each at a place in a value: it adds, removes or replaces what
is there. The difference of two values is the patch that turns one into the other, field by
field in the order of names and item by item from the front.
-/

namespace Newsdesk

open Json

/-- A step into a value. -/
inductive PathStep where
  | key (name : String)
  | index (position : Nat)
deriving DecidableEq, Repr

/-- What happens at a place. -/
inductive PatchAction where
  | add (value : Json)
  | remove
  | replace (value : Json)
deriving DecidableEq, Repr

/-- One operation of a patch. -/
structure PatchOp where
  path : List PathStep
  action : PatchAction
deriving DecidableEq, Repr

/-- A patch. -/
abbrev Patch := List PatchOp

namespace Patch

/-! ## Difference -/

mutual

/-- The operations below `path` that turn `old` into the given value. -/
def diffAt (path : List PathStep) (old : Json) : Json → Patch
  | .obj newFields =>
    match old with
    | .obj oldFields =>
      diffFields path oldFields newFields ++
        ((oldFields.filter fun f => (newFields.lookup f.1).isNone).map fun f =>
          ⟨path ++ [.key f.1], .remove⟩)
    | _ => [⟨path, .replace (.obj newFields)⟩]
  | .arr newItems =>
    match old with
    | .arr oldItems => diffItems path oldItems 0 newItems
    | _ => [⟨path, .replace (.arr newItems)⟩]
  | new => if old = new then [] else [⟨path, .replace new⟩]

/-- The operations for the fields of an object. -/
def diffFields (path : List PathStep) (old : JsonFields) : List (String × Json) → Patch
  | [] => []
  | (name, value) :: rest =>
    (match old.lookup name with
    | some before => diffAt (path ++ [.key name]) before value
    | none => [⟨path ++ [.key name], .add value⟩]) ++ diffFields path old rest

/-- The operations for the items of an array from a position on. -/
def diffItems (path : List PathStep) (old : List Json) (position : Nat) : List Json → Patch
  | [] => old.map fun _ => ⟨path ++ [.index position], .remove⟩
  | value :: rest =>
    match old with
    | before :: old =>
      diffAt (path ++ [.index position]) before value ++ diffItems path old (position + 1) rest
    | [] => ⟨path ++ [.index position], .add value⟩ :: diffItems path [] (position + 1) rest

end

/-- The patch that turns one value into another. -/
def diff (old new : Json) : Patch := diffAt [] old new

/-! ## Application -/

/-- Does something to a field of an object. -/
def editField (name : String) (action : PatchAction) (fields : JsonFields) : Option Json :=
  match action with
  | .add value => some (.obj (setField name value fields))
  | .replace value =>
    if (fields.lookup name).isSome then some (.obj (setField name value fields)) else none
  | .remove => if (fields.lookup name).isSome then some (.obj (dropField name fields)) else none

/-- Does something to an item of an array. -/
def editItem (position : Nat) (action : PatchAction) (items : List Json) : Option Json :=
  match action with
  | .add value =>
    if position ≤ items.length then some (.arr (items.take position ++ value :: items.drop position))
    else none
  | .replace value =>
    if position < items.length then some (.arr (items.set position value)) else none
  | .remove => if position < items.length then some (.arr (items.eraseIdx position)) else none

/-- Does something at a place; `none` when there is no such place. -/
def edit (action : PatchAction) : List PathStep → Json → Option Json
  | [], _ =>
    match action with
    | .add value => some value
    | .replace value => some value
    | .remove => none
  | [.key name], .obj fields => editField name action fields
  | [.index position], .arr items => editItem position action items
  | .key name :: step :: rest, .obj fields => do
    let child ← edit action (step :: rest) (← fields.lookup name)
    return .obj (setField name child fields)
  | .index position :: step :: rest, .arr items => do
    let child ← edit action (step :: rest) (← items[position]?)
    return .arr (items.set position child)
  | _, _ => none

/-- Applies the operations of a patch in order. -/
def apply (patch : Patch) (value : Json) : Option Json :=
  patch.foldlM (fun value op => edit op.action op.path value) value

/-! ## Writing -/

/-- The text of a step. -/
def stepText : PathStep → List Char
  | .key name =>
    '/' :: name.toList.flatMap fun c =>
      if c = '~' then ['~', '0'] else if c = '/' then ['~', '1'] else [c]
  | .index position => '/' :: Nat.toDigits 10 position

/-- The text of a path. -/
def pathText (path : List PathStep) : String := String.ofList (path.flatMap stepText)

/-- The written form of an operation. -/
def opToJson (op : PatchOp) : Json :=
  let path := ("path", Json.str (pathText op.path))
  match op.action with
  | .add value => ofFields [("op", .str "add"), path, ("value", value)]
  | .remove => ofFields [("op", .str "remove"), path]
  | .replace value => ofFields [("op", .str "replace"), path, ("value", value)]

/-- The written form of a patch. -/
def toJson (patch : Patch) : Json := .arr (patch.map opToJson)

end Patch

end Newsdesk
