import Newsdesk.Calendar.Timestamp
import Newsdesk.Json.Decode

/-!
# Object metadata

Every object of the API server carries metadata: its name and namespace, a unique identifier, a
version that changes with every write, the finalizers that hold up its deletion and references
to the objects that own it. A field that is null counts as missing, and a missing field is not
written; an empty list is.
-/

namespace Newsdesk

open Json

/-- A reference from an object to one that owns it. -/
structure OwnerReference where
  apiVersion : String
  kind : String
  name : String
  uid : String
  blockOwnerDeletion : Option Bool
  controller : Option Bool
deriving DecidableEq, Repr

/-- The metadata of an object. -/
structure Metadata where
  name : Option String
  generateName : Option String
  ns : Option String
  uid : Option String
  resourceVersion : Option String
  generation : Option Int
  creationTimestamp : Option Timestamp
  deletionTimestamp : Option Timestamp
  deletionGracePeriodSeconds : Option Int
  finalizers : Option (List String)
  ownerReferences : Option (List OwnerReference)
  labels : Option (List (String × String))
  annotations : Option (List (String × String))
  selfLink : Option String
deriving DecidableEq, Repr

namespace Json

/-- The value of a field of an API object, where null counts as missing. Of several fields with
one name the last counts. -/
def apiField {α : Type} (name : String) (decode : Decoder α) (fields : JsonFields) :
    Option (Option α) :=
  match (fields.filter (fun f => f.1 = name)).getLast? with
  | some (_, v) => decodeNullable decode v
  | none => some none

/-- A string field of an API object; a missing one is empty. -/
def apiText (name : String) (fields : JsonFields) : Option String :=
  (apiField name decodeString fields).map (·.getD "")

/-- A point in time in its written form. -/
def decodeTimestamp : Decoder Timestamp
  | .str s => Timestamp.parse? s
  | _ => none

end Json

namespace OwnerReference

/-- Reads an owner reference from an object. -/
def decode : Decoder OwnerReference
  | .obj fields => do
    return {
      apiVersion := ← apiText "apiVersion" fields
      kind := ← apiText "kind" fields
      name := ← apiText "name" fields
      uid := ← apiText "uid" fields
      blockOwnerDeletion := ← apiField "blockOwnerDeletion" decodeBool fields
      controller := ← apiField "controller" decodeBool fields
    }
  | _ => none

/-- The written form of an owner reference. -/
def toJson (r : OwnerReference) : Json :=
  ofOptionalFields [
    ("apiVersion", some (.str r.apiVersion)),
    ("blockOwnerDeletion", r.blockOwnerDeletion.map .bool),
    ("controller", r.controller.map .bool),
    ("kind", some (.str r.kind)),
    ("name", some (.str r.name)),
    ("uid", some (.str r.uid))]

end OwnerReference

namespace Metadata

/-- Metadata without any field. -/
def empty : Metadata :=
  ⟨none, none, none, none, none, none, none, none, none, none, none, none, none, none⟩

/-- Reads metadata from an object. -/
def decode : Decoder Metadata
  | .obj fields => do
    return {
      name := ← apiField "name" decodeString fields
      generateName := ← apiField "generateName" decodeString fields
      ns := ← apiField "namespace" decodeString fields
      uid := ← apiField "uid" decodeString fields
      resourceVersion := ← apiField "resourceVersion" decodeString fields
      generation := ← apiField "generation" decodeInt64 fields
      creationTimestamp := ← apiField "creationTimestamp" decodeTimestamp fields
      deletionTimestamp := ← apiField "deletionTimestamp" decodeTimestamp fields
      deletionGracePeriodSeconds := ← apiField "deletionGracePeriodSeconds" decodeInt64 fields
      finalizers := ← apiField "finalizers" decodeStrings fields
      ownerReferences := ← apiField "ownerReferences" (decodeList OwnerReference.decode) fields
      labels := ← apiField "labels" (decodeMap decodeString) fields
      annotations := ← apiField "annotations" (decodeMap decodeString) fields
      selfLink := ← apiField "selfLink" decodeString fields
    }
  | _ => none

/-- A map of strings in its written form. -/
def textMap (entries : List (String × String)) : Json :=
  ofFields (entries.map fun e => (e.1, .str e.2))

/-- The written form of metadata. -/
def toJson (m : Metadata) : Json :=
  ofOptionalFields [
    ("annotations", m.annotations.map textMap),
    ("creationTimestamp", m.creationTimestamp.map fun t => .str t.text),
    ("deletionGracePeriodSeconds", m.deletionGracePeriodSeconds.map ofInt),
    ("deletionTimestamp", m.deletionTimestamp.map fun t => .str t.text),
    ("finalizers", m.finalizers.map ofStrings),
    ("generateName", m.generateName.map .str),
    ("generation", m.generation.map ofInt),
    ("labels", m.labels.map textMap),
    ("name", m.name.map .str),
    ("namespace", m.ns.map .str),
    ("ownerReferences", m.ownerReferences.map fun rs => .arr (rs.map OwnerReference.toJson)),
    ("resourceVersion", m.resourceVersion.map .str),
    ("selfLink", m.selfLink.map .str),
    ("uid", m.uid.map .str)]

/-- The name of an object: its name, or the name it is generated from, or nothing. -/
def displayName (m : Metadata) : String := (m.name.orElse fun _ => m.generateName).getD ""

/-- The namespace of an object; one without is in the empty namespace. -/
def nsName (m : Metadata) : String := m.ns.getD ""

/-- The references to the owners of an object. -/
def owners (m : Metadata) : List OwnerReference := m.ownerReferences.getD []

/-- Whether the deletion of an object has been requested. -/
def isDeleting (m : Metadata) : Bool := m.deletionTimestamp.isSome

/-- Whether a finalizer holds up the deletion of an object. -/
def hasFinalizer (m : Metadata) (finalizer : String) : Bool :=
  (m.finalizers.getD []).contains finalizer

end Metadata

end Newsdesk
