import Newsdesk.Resource.Object
import Newsdesk.Text.Blank

/-!
# Ownership

A news query owns the feeds it asks: each of them carries a reference to it. The plan compares
who should be owned with who is, and changes only the feeds for which the two differ.
References to other owners are kept as they are.
-/

namespace Newsdesk

open Text

/-- Whether a feed gains or loses an owner. -/
inductive OwnerAction where
  | add
  | remove
deriving DecidableEq, Repr

/-- The word for an action. -/
def OwnerAction.name : OwnerAction → String
  | .add => "Add"
  | .remove => "Remove"

/-- New owner references for a feed, and the version of it that they were made from. -/
structure OwnerChange where
  feed : String
  action : OwnerAction
  owners : List OwnerReference
  resourceVersion : Option String
deriving DecidableEq, Repr

/-- The reference to a news query; one without a unique identifier cannot own anything. -/
def ownerReference? (h : HotNews) : Option OwnerReference :=
  h.metadata.uid.map fun uid =>
    { apiVersion := apiGroupVersion
      kind := Collection.hotNews.kind
      name := h.metadata.displayName
      uid
      blockOwnerDeletion := some false
      controller := none }

/-- Whether a feed has an owner with a unique identifier. -/
def isOwnedBy (feed : Feed) (uid : String) : Bool :=
  feed.metadata.owners.any fun r => r.uid = uid

/-- Whether the name of a feed is one of the desired names, blanks around them aside. -/
def isWanted (desired : List String) (feed : Feed) : Bool :=
  desired.any fun d => trim d = trim feed.spec.name

/-- The references to other owners. -/
def otherOwners (uid : String) (refs : List OwnerReference) : List OwnerReference :=
  refs.filter fun r => r.uid ≠ uid

/-- The change that a feed needs, if it needs one. -/
def ownerChange? (owner : OwnerReference) (desired : List String) (feed : Feed) :
    Option OwnerChange :=
  let others := otherOwners owner.uid feed.metadata.owners
  let change (action : OwnerAction) (owners : List OwnerReference) : OwnerChange :=
    ⟨feed.metadata.displayName, action, owners, feed.metadata.resourceVersion⟩
  match isWanted desired feed, isOwnedBy feed owner.uid with
  | true, false => some (change .add (others ++ [owner]))
  | false, true => some (change .remove others)
  | _, _ => none

/-- The changes after which exactly the desired feeds have the owner. -/
def planOwnerChanges (feeds : List Feed) (owner : OwnerReference) (desired : List String) :
    List OwnerChange :=
  feeds.filterMap (ownerChange? owner desired)

/-- A feed after a change to its owners. -/
def Feed.withOwners (change : OwnerChange) (feed : Feed) : Feed :=
  { feed with metadata := { feed.metadata with ownerReferences := some change.owners } }

/-- Writes the changes to the feeds of their names, in order. -/
def applyOwnerChanges (changes : List OwnerChange) (feeds : List Feed) : List Feed :=
  changes.foldl
    (fun feeds change => feeds.map fun f =>
      if f.metadata.displayName = change.feed then Feed.withOwners change f else f)
    feeds

end Newsdesk
