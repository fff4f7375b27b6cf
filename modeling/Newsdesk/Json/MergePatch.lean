import Newsdesk.Json.Basic

/-!
# JSON merge patches

A merge patch is a value laid over another: its fields replace those of the same name, objects
are merged in depth, and null takes a field away.
-/

namespace Newsdesk.Json

mutual

/-- Lays a patch over a value. -/
def mergePatch (target : Json) : Json → Json
  | .obj fields =>
    match target with
    | .obj old => .obj (mergeFields old fields)
    | _ => .obj (mergeFields [] fields)
  | patch => patch

/-- Lays the fields of a patch over those of an object. -/
def mergeFields (old : JsonFields) : List (String × Json) → JsonFields
  | [] => old
  | (name, value) :: rest =>
    match value with
    | .null => mergeFields (dropField name old) rest
    | value => mergeFields (setField name (mergePatch ((old.lookup name).getD .null) value) old) rest

end

end Newsdesk.Json
