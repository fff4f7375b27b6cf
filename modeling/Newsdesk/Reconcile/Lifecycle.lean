import Newsdesk.Program.Calls

/-!
# Lifecycles

An object that is in use carries a finalizer. Once its deletion is requested, cleanup runs and
only then the finalizer goes. Patches of the finalizers name the version they were made from, so
that a write in between makes them fail.
-/

namespace Newsdesk

open Json

/-- Where an object stands. -/
inductive Lifecycle where
  | active
  | finalizing
  | gone
deriving DecidableEq, Repr

namespace Lifecycle

/-- The word for a state. -/
def name : Lifecycle → String
  | .active => "Active"
  | .finalizing => "Finalizing"
  | .gone => "Gone"

/-- The state of an object: active until its deletion is requested, then finalizing as long as
the finalizer is there. -/
def of (m : Metadata) (finalizer : String) : Lifecycle :=
  if ¬ m.isDeleting then .active else if m.hasFinalizer finalizer then .finalizing else .gone

end Lifecycle

/-- The finalizer of feeds. -/
def feedFinalizer : String := "feed.newsaggregator.io/finalizer"

/-- The finalizer of news queries. -/
def hotNewsFinalizer : String := "hotnews.newsaggregator.io/finalizer"

/-- A text, or null. -/
def nullableText : Option String → Json
  | some s => .str s
  | none => .null

/-- The patch that replaces a field of the metadata, made from a version. -/
def metadataPatch (version : Option String) (name : String) (value : Json) : Json :=
  ofFields [("metadata", ofFields [("resourceVersion", nullableText version), (name, value)])]

/-- The patch that replaces the finalizers. -/
def finalizersPatch (m : Metadata) (finalizers : List String) : Json :=
  metadataPatch m.resourceVersion "finalizers" (ofStrings finalizers)

section

variable {α : Type} [Resource α]

/-- Makes sure that an object has a finalizer, and returns what is stored. -/
def ensureFinalizer (object : α) (finalizer : String) : Program α :=
  let m := Resource.metadata object
  if m.hasFinalizer finalizer then return object
  else
    Program.patchObject m.nsName m.displayName
      (finalizersPatch m (m.finalizers.getD [] ++ [finalizer]))

/-- Takes a finalizer from an object. -/
def removeFinalizer (object : α) (finalizer : String) : Program Unit :=
  let m := Resource.metadata object
  if m.hasFinalizer finalizer then do
    let finalizers := (m.finalizers.getD []).filter (· ≠ finalizer)
    let _ : α ← Program.patchObject m.nsName m.displayName (finalizersPatch m finalizers)
  else return ()

/-- Runs the cleanup of an object whose deletion is requested and takes the finalizer from it. -/
def handleDeletion (object : α) (finalizer : String) (cleanup : Program Unit) : Program Unit :=
  if (Resource.metadata object).hasFinalizer finalizer then do
    cleanup
    removeFinalizer object finalizer
    Program.record (.deleted (Resource.collection α).kind)
  else return ()

end

end Newsdesk
