import Newsdesk.Failure.Basic
import Newsdesk.Http.Exchange
import Newsdesk.Resource.Object

/-!
# Requests to the API server

An object is addressed by its collection, its namespace and its name. It is read alone or in a
list, and written by a merge patch to the whole object or to its status. A name that is empty
or cannot stand in a path is refused before anything is sent.
-/

namespace Newsdesk

open Json

/-- A request to the API server. -/
inductive ApiRequest where
  | list (collection : Collection) (ns : Option String) (name : Option String)
  | get (collection : Collection) (ns name : String)
  | patch (collection : Collection) (ns name : String) (body : Json)
  | patchStatus (collection : Collection) (ns name : String) (body : Json)
deriving Repr

namespace ApiRequest

/-- The path of a collection, in one namespace or over all. -/
def collectionPath (collection : Collection) (ns : Option String) : String :=
  match ns with
  | some ns => collection.root ++ "namespaces/" ++ ns ++ "/" ++ collection.name
  | none => collection.root ++ collection.name

/-- The path of an object. -/
def objectPath (collection : Collection) (ns name : String) : String :=
  collectionPath collection (some ns) ++ "/" ++ name

/-- The path of a request. -/
def path : ApiRequest → String
  | .list collection ns _ => collectionPath collection ns
  | .get collection ns name => objectPath collection ns name
  | .patch collection ns name _ => objectPath collection ns name
  | .patchStatus collection ns name _ => objectPath collection ns name ++ "/status"

/-- The verb of a request. -/
def verb : ApiRequest → String
  | .list .. => "LIST"
  | .get .. => "GET"
  | .patch .. => "PATCH"
  | .patchStatus .. => "PATCH"

/-- The body of a request. -/
def body? : ApiRequest → Option Json
  | .patch _ _ _ body => some body
  | .patchStatus _ _ _ body => some body
  | _ => none

/-- Whether a request reads nothing but changes an object. -/
def isWrite : ApiRequest → Bool
  | .patch .. => true
  | .patchStatus .. => true
  | _ => false

/-- The name of the object that a request addresses. -/
def name? : ApiRequest → Option String
  | .list .. => none
  | .get _ _ name => some name
  | .patch _ _ name _ => some name
  | .patchStatus _ _ name _ => some name

/-- The name to which a list is limited. -/
def selected? : ApiRequest → Option String
  | .list _ _ name => name
  | _ => none

/-- Whether a character may stand in a path. -/
def isPathChar (c : Char) : Bool :=
  let n := c.toNat
  n = 0x21 || n = 0x22 || (0x24 ≤ n && n ≤ 0x3B) || n = 0x3D || (0x40 ≤ n && n ≤ 0x5F) ||
    (0x61 ≤ n && n ≤ 0x7E) || 0x7F ≤ n

/-- Why a request cannot be sent. -/
def invalid? (r : ApiRequest) : Option ApiError :=
  if r.name? = some "" then some .emptyName
  else if r.path.toList.all isPathChar then none
  else some .invalidPath

end ApiRequest

/-! ## Replies -/

namespace ApiError

/-- The status object of a refused request: the body, or what its text says. -/
def statusOf (code : Nat) (body : Body) : ApiStatus :=
  match body.json?.bind ApiStatus.decode with
  | some status => status
  | none => ⟨some .failure, code, body.raw, "Failed to parse error data"⟩

end ApiError

/-- What a reply of the API server means for a decoder of its body. -/
def Reply.decode {α : Type} (decoder : Decoder α) : Reply → Except ApiError α
  | .answered code body =>
    if isFailureStatus code then .error (.refused (ApiError.statusOf code body))
    else
      match body.json?.bind decoder with
      | some a => .ok a
      | none => .error .undecodable
  | .dropped => .error .dropped
  | .unanswered => .error .unanswered

/-- Objects as the API server lists them, with the version of the whole list; an empty one is
none. -/
structure Listing (α : Type) where
  objects : List α
  version : Option String
deriving Repr

/-- Reads a listing; a null list of objects is empty. -/
def decodeListing {α : Type} (decoder : Decoder α) : Decoder (Listing α)
  | .obj fields => do
    let items ← fields.lookup "items"
    let objects := (← decodeNullable (decodeList decoder) items).getD []
    let version ← match fields.lookup "metadata" with
      | none => pure none
      | some (.obj metadata) =>
        decodeNullable decodeString ((metadata.lookup "resourceVersion").getD .null)
      | some _ => none
    return ⟨objects, version.filter (· ≠ "")⟩
  | _ => none

/-- Reads the objects of a listing. -/
def decodeObjects {α : Type} (decoder : Decoder α) : Decoder (List α) := fun value =>
  (decodeListing decoder value).map Listing.objects

end Newsdesk
