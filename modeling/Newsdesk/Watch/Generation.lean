import Newsdesk.Resource.Metadata

/-!
# Changes of generation

A watch reports objects as they are listed, written and deleted. Only a new generation is worth
a reconcile, since writes of the operator itself do not make one. The filter remembers the last
generation of each object it has seen; a new listing forgets those that are not in it.
-/

namespace Newsdesk

/-- What a watch reports. -/
inductive WatchEvent (α : Type) where
  | apply (object : α)
  | initApply (object : α)
  | delete (object : α)
  | init
  | initDone
deriving Repr

/-- The key of an object: its unique identifier, or its namespace and name. -/
def Metadata.watchKey (m : Metadata) : String :=
  match m.uid with
  | some uid => uid
  | none => m.nsName ++ "/" ++ m.name.getD ""

/-- The generations seen, by key, and the keys of the listing in progress. -/
structure GenerationFilter where
  seen : List (String × Option Int)
  relisted : Option (List String)
deriving Repr

namespace GenerationFilter

/-- A filter that has seen nothing. -/
def empty : GenerationFilter := ⟨[], none⟩

/-- Keeps the entries of other keys. -/
def forget (key : String) (seen : List (String × Option Int)) : List (String × Option Int) :=
  seen.filter fun e => e.1 ≠ key

/-- An object is there with a generation: whether that is new, and the filter after it. -/
def observe (key : String) (generation : Option Int) (f : GenerationFilter) :
    Bool × GenerationFilter :=
  let fresh := f.seen.lookup key ≠ some generation
  (fresh, ⟨(key, generation) :: forget key f.seen, f.relisted.map (key :: ·)⟩)

/-- Whether an event is worth a reconcile, and the filter after it. -/
def accept {α : Type} (metadata : α → Metadata) (event : WatchEvent α) (f : GenerationFilter) :
    Option α × GenerationFilter :=
  match event with
  | .apply object | .initApply object =>
    let m := metadata object
    let (fresh, f) := f.observe m.watchKey m.generation
    (if fresh then some object else none, f)
  | .delete object =>
    let key := (metadata object).watchKey
    (if (f.seen.lookup key).isSome then some object else none, ⟨forget key f.seen, f.relisted⟩)
  | .init => (none, ⟨f.seen, some []⟩)
  | .initDone =>
    match f.relisted with
    | some keys => (none, ⟨f.seen.filter fun e => keys.contains e.1, none⟩)
    | none => (none, f)

/-- How many objects are remembered. -/
def tracked (f : GenerationFilter) : Nat := f.seen.length

/-- What passes of a stream of events and errors; errors always pass. -/
def stream {α ε : Type} (metadata : α → Metadata) :
    GenerationFilter → List (Except ε (WatchEvent α)) → List (Except ε α)
  | _, [] => []
  | f, .error e :: rest => .error e :: stream metadata f rest
  | f, .ok event :: rest =>
    match f.accept metadata event with
    | (some object, f) => .ok object :: stream metadata f rest
    | (none, f) => stream metadata f rest

end GenerationFilter

end Newsdesk
