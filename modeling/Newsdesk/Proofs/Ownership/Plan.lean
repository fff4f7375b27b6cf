import Newsdesk.Resource.Ownership

/-!
# Planned changes of owners

What a planned change (`ownerChange?`) does to the owners of a feed: whichever way it goes, the
references to others stay as they are, and afterwards the query owns the feed exactly if it is
wanted.
-/

namespace Newsdesk

open Text

section

variable {owner : OwnerReference} {uid : String} {refs : List OwnerReference}

/-- Whether some reference has a unique identifier. -/
def hasOwner (uid : String) (refs : List OwnerReference) : Prop := ∃ r ∈ refs, r.uid = uid

theorem isWanted_iff {names : List String} {f : Feed} :
    isWanted names f = true ↔ ∃ d ∈ names, trim d = trim f.spec.name := by
  simp [isWanted]

theorem isOwnedBy_iff {feed : Feed} :
    isOwnedBy feed uid = true ↔ hasOwner uid feed.metadata.owners := by
  simp [isOwnedBy, hasOwner]

@[simp] theorem otherOwners_append (uid : String) (refs more : List OwnerReference) :
    otherOwners uid (refs ++ more) = otherOwners uid refs ++ otherOwners uid more :=
  List.filter_append ..

@[simp] theorem otherOwners_otherOwners (uid : String) (refs : List OwnerReference) :
    otherOwners uid (otherOwners uid refs) = otherOwners uid refs := by
  simp [otherOwners, List.filter_filter]

@[simp] theorem otherOwners_self (owner : OwnerReference) : otherOwners owner.uid [owner] = [] := by
  simp [otherOwners]

theorem not_hasOwner_otherOwners (uid : String) (refs : List OwnerReference) :
    ¬ hasOwner uid (otherOwners uid refs) := by
  rintro ⟨r, hr, rfl⟩
  simp [otherOwners] at hr

/-- An owner is among the others of everyone else. -/
theorem hasOwner_otherOwners {other : String} (h : uid ≠ other) :
    hasOwner uid (otherOwners other refs) ↔ hasOwner uid refs := by
  refine exists_congr fun r => ?_
  simp only [otherOwners, List.mem_filter, decide_eq_true_eq]
  constructor
  · rintro ⟨⟨hr, -⟩, rfl⟩
    exact ⟨hr, rfl⟩
  · rintro ⟨hr, rfl⟩
    exact ⟨⟨hr, h⟩, rfl⟩

variable {desired : List String} {feed : Feed} {change : OwnerChange}

/-- A change is made from a feed as it was listed, and adds or removes one owner. -/
theorem ownerChange?_cases (h : ownerChange? owner desired feed = some change) :
    change.feed = feed.metadata.displayName ∧
      change.resourceVersion = feed.metadata.resourceVersion ∧
      ((isWanted desired feed = true ∧ isOwnedBy feed owner.uid = false ∧
          change.owners = otherOwners owner.uid feed.metadata.owners ++ [owner]) ∨
        (isWanted desired feed = false ∧ isOwnedBy feed owner.uid = true ∧
          change.owners = otherOwners owner.uid feed.metadata.owners)) := by
  unfold ownerChange? at h
  cases hw : isWanted desired feed <;> cases ho : isOwnedBy feed owner.uid <;> rw [hw, ho] at h
  · cases h
  · cases h
    exact ⟨rfl, rfl, .inr ⟨rfl, rfl, rfl⟩⟩
  · cases h
    exact ⟨rfl, rfl, .inl ⟨rfl, rfl, rfl⟩⟩
  · cases h

/-- A feed needs no change exactly if it is owned as it is wanted. -/
theorem ownerChange?_eq_none_iff :
    ownerChange? owner desired feed = none ↔
      isWanted desired feed = isOwnedBy feed owner.uid := by
  unfold ownerChange?
  cases isWanted desired feed <;> cases isOwnedBy feed owner.uid <;> simp

/-- A change keeps the references to others, in their order. -/
theorem otherOwners_of_ownerChange? (h : ownerChange? owner desired feed = some change) :
    otherOwners owner.uid change.owners = otherOwners owner.uid feed.metadata.owners := by
  obtain ⟨-, -, ⟨-, -, ho⟩ | ⟨-, -, ho⟩⟩ := ownerChange?_cases h <;> simp [ho]

/-- After a change the query owns the feed exactly if it is wanted. -/
theorem hasOwner_of_ownerChange? (h : ownerChange? owner desired feed = some change) :
    hasOwner owner.uid change.owners ↔ isWanted desired feed = true := by
  obtain ⟨-, -, ⟨hw, -, ho⟩ | ⟨hw, -, ho⟩⟩ := ownerChange?_cases h
  · simp only [ho, hw, iff_true]
    exact ⟨owner, by simp, rfl⟩
  · simpa [ho, hw] using not_hasOwner_otherOwners owner.uid feed.metadata.owners

@[simp] theorem isWanted_nil (feed : Feed) : isWanted [] feed = false := rfl

end

end Newsdesk
