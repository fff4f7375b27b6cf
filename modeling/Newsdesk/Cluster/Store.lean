import Newsdesk.Api.Request
import Newsdesk.Json.MergePatch

/-!
# The object store

What the API server keeps: objects as JSON values, each under its collection, its namespace and
its name, in the order in which they came. Every accepted write gives its object a version that
no object has had before. A patch that names another version than the stored one is a conflict
and changes nothing, and an object whose deletion is requested goes with its last finalizer.
-/

namespace Newsdesk

open Json

/-- The place of an object in the store. -/
structure ObjectKey where
  collection : Collection
  ns : String
  name : String
deriving DecidableEq, Repr

/-- The key under which an object is stored; what its metadata lacks is empty. -/
def ObjectKey.of (collection : Collection) (object : Json) : ObjectKey :=
  let text (name : String) : String := ((object.field "metadata").field name).text?.getD ""
  ⟨collection, text "namespace", text "name"⟩

/-- The stored objects, and how many writes have been accepted. -/
structure Store where
  objects : List (ObjectKey × Json)
  writes : Nat
deriving Repr

namespace Store

/-- A store without objects. -/
def empty : Store := ⟨[], 0⟩

/-- The object under a key. -/
def find? (key : ObjectKey) (s : Store) : Option Json := s.objects.lookup key

/-- The entries with an object under a key: in the place of the one that is there, or at the
end. -/
def putEntry (key : ObjectKey) (object : Json) :
    List (ObjectKey × Json) → List (ObjectKey × Json)
  | [] => [(key, object)]
  | (k, old) :: rest =>
    if k = key then (k, object) :: rest else (k, old) :: putEntry key object rest

/-- Stores an object under a key. -/
def put (key : ObjectKey) (object : Json) (s : Store) : Store :=
  { s with objects := putEntry key object s.objects }

/-- Takes an object away. -/
def remove (key : ObjectKey) (s : Store) : Store :=
  { s with objects := s.objects.filter fun e => e.1 ≠ key }

/-- The objects of a collection in the order of the store. -/
def inCollection (collection : Collection) (s : Store) : List (ObjectKey × Json) :=
  s.objects.filter fun e => e.1.collection = collection

/-- The objects of a collection, of one namespace or all, and of one name or all. -/
def select (collection : Collection) (ns name : Option String) (s : Store) : List Json :=
  ((s.inCollection collection).filter fun e =>
    ns.all (· = e.1.ns) && name.all (· = e.1.name)).map Prod.snd

/-! ## Versions -/

/-- The version of a stored object; null when it has none. -/
def versionOf (object : Json) : Json := (object.field "metadata").field "resourceVersion"

/-- The version that the next accepted write gives. -/
def nextVersion (s : Store) : String := toString (1001 + s.writes)

/-- The object with a version. -/
def withVersion (version : String) (object : Json) : Json :=
  object.mergePatch (.obj [("metadata", .obj [("resourceVersion", .str version)])])

/-- Whether a patch was made from another version than the stored one. -/
def isStale (patch object : Json) : Bool :=
  let version := versionOf patch
  version ≠ .null && version ≠ versionOf object

/-- Whether nothing holds up the deletion of an object any more. -/
def isReleased (object : Json) : Bool :=
  let metadata := object.field "metadata"
  metadata.field "deletionTimestamp" ≠ .null &&
    (metadata.field "finalizers" = .null || metadata.field "finalizers" = .arr [])

/-! ## Requests -/

/-- The refusal of a request. -/
def refusal (code : Nat) (message reason : String) : Reply :=
  .answered code (.value (ofFields [
    ("status", .str StatusOutcome.failure.name),
    ("message", .str message),
    ("reason", .str reason),
    ("code", ofNat code)]))

/-- The refusal of a request for an object that is not there. -/
def notFound (key : ObjectKey) : Reply :=
  refusal 404 (key.collection.name ++ " " ++ key.name ++ " not found") "NotFound"

/-- The refusal of a patch made from another version. -/
def conflict (key : ObjectKey) : Reply :=
  refusal 409 (key.collection.name ++ " " ++ key.name ++ " was modified") "Conflict"

/-- The reply that carries a value. -/
def found (value : Json) : Reply := .answered 200 (.value value)

/-- Accepts the new form of an object. -/
def accept (key : ObjectKey) (object : Json) (s : Store) : Reply × Store :=
  let object := withVersion s.nextVersion object
  let s := { s with writes := s.writes + 1 }
  (found object, if isReleased object then s.remove key else s.put key object)

/-- The part of a patch that counts for the status. -/
def statusPart (patch : Json) : Json := .obj [("status", patch.field "status")]

/-- The reply to a request and the store after it. -/
def answer (request : ApiRequest) (s : Store) : Reply × Store :=
  match request with
  | .list collection ns name =>
    (found (ofFields [
      ("apiVersion", .str "v1"),
      ("items", .arr (s.select collection ns name)),
      ("kind", .str "List"),
      ("metadata", .obj [("resourceVersion", .str (toString (1000 + s.writes)))])]), s)
  | .get collection ns name =>
    let key : ObjectKey := ⟨collection, ns, name⟩
    match s.find? key with
    | some object => (found object, s)
    | none => (notFound key, s)
  | .patch collection ns name patch =>
    let key : ObjectKey := ⟨collection, ns, name⟩
    match s.find? key with
    | some object =>
      if isStale patch object then (conflict key, s) else s.accept key (object.mergePatch patch)
    | none => (notFound key, s)
  | .patchStatus collection ns name patch =>
    let key : ObjectKey := ⟨collection, ns, name⟩
    match s.find? key with
    | some object => s.accept key (object.mergePatch (statusPart patch))
    | none => (notFound key, s)

/-! ## Laws -/

theorem find?_put_self (key : ObjectKey) (object : Json) (s : Store) :
    (s.put key object).find? key = some object := by
  obtain ⟨objects, writes⟩ := s
  simp only [put, find?]
  induction objects with
  | nil => simp [putEntry]
  | cons e rest ih =>
    obtain ⟨k, old⟩ := e
    by_cases h : k = key
    · simp [putEntry, h]
    · simpa [putEntry, h, List.lookup_cons, beq_eq_false_iff_ne.2 (Ne.symm h)] using ih

theorem find?_put_ne {key other : ObjectKey} (h : other ≠ key) (object : Json) (s : Store) :
    (s.put key object).find? other = s.find? other := by
  obtain ⟨objects, writes⟩ := s
  simp only [put, find?]
  induction objects with
  | nil => simp [putEntry, List.lookup_cons, beq_eq_false_iff_ne.2 h]
  | cons e rest ih =>
    obtain ⟨k, old⟩ := e
    by_cases hk : k = key
    · subst hk
      simp [putEntry, List.lookup_cons, beq_eq_false_iff_ne.2 h]
    · by_cases ho : other = k
      · subst ho; simp [putEntry, h]
      · simpa [putEntry, hk, List.lookup_cons, beq_eq_false_iff_ne.2 ho] using ih

end Store

end Newsdesk
