import Mathlib.Data.List.DropRight
import Newsdesk.Query.Groups
import Newsdesk.Query.Summary

/-!
# Lists of names

Names are trimmed wherever they come from. Trimming a name again changes nothing, so the pieces of
a list (`splitNames`) and the entries of a query that are not blank (`nonblank`) are what they will
be compared as. A text that is cut at a separator is the pieces joined by it again, and pieces
without the separator come back when they are joined and cut.
-/

namespace Newsdesk

namespace Text

/-! ## Trimming -/

theorem trimList_eq_rdropWhile (cs : List Char) :
    trimList cs = (cs.dropWhile isBlank).rdropWhile isBlank := rfl

theorem trimList_trimList (cs : List Char) : trimList (trimList cs) = trimList cs := by
  have hprefix : trimList cs <+: cs.dropWhile isBlank := List.rdropWhile_prefix isBlank _
  -- what is left starts as the text without the blanks in front, so there are none to drop
  have hfront : (trimList cs).dropWhile isBlank = trimList cs := by
    refine List.dropWhile_eq_self_iff.2 fun hl => ?_
    obtain ⟨rest, hrest⟩ := hprefix
    have hne : 0 < (cs.dropWhile isBlank).length := by
      rw [← hrest, List.length_append]
      omega
    have hhead := List.dropWhile_get_zero_not (p := isBlank) cs hne
    simpa only [← hrest, List.get_eq_getElem, List.getElem_append_left hl] using hhead
  rw [trimList_eq_rdropWhile (trimList cs), hfront]
  exact List.rdropWhile_idempotent isBlank _

theorem trim_trim (s : String) : trim (trim s) = trim s := by
  rw [trim, trim, String.toList_ofList, trimList_trimList]

theorem trim_eq_empty_iff {s : String} : trim s = "" ↔ trimList s.toList = [] :=
  String.ofList_eq_empty_iff

theorem trimList_subset (cs : List Char) : trimList cs ⊆ cs :=
  List.Subset.trans (List.rdropWhile_prefix isBlank _).subset (List.dropWhile_suffix isBlank).subset

/-! ## Cutting and joining -/

theorem splitAt_eq_splitOn (sep : Char) (cs : List Char) : splitAt sep cs = cs.splitOn sep := by
  induction cs with
  | nil => rfl
  | cons c rest ih =>
    rw [List.splitOn_cons_eq_if_modifyHead, splitAt, ih]
    by_cases h : c = sep
    · simp [h]
    · cases hrest : rest.splitOn sep with
      | nil => exact absurd hrest (List.splitOn_ne_nil sep rest)
      | cons piece pieces => simp [h]

/-- Texts that are joined by a separator and cut at it fall into the pieces of each of them. -/
theorem splitAt_intercalate_flatMap {sep : Char} {texts : List (List Char)} (hne : texts ≠ []) :
    splitAt sep ([sep].intercalate texts) = texts.flatMap (splitAt sep) := by
  simp only [funext (splitAt_eq_splitOn sep)]
  induction texts with
  | nil => exact absurd rfl hne
  | cons text rest ih =>
    cases rest with
    | nil => simp
    | cons next rest =>
      rw [List.intercalate_cons_cons, List.append_assoc, List.singleton_append,
        List.splitOn_append_cons_self, ih (List.cons_ne_nil _ _)]
      exact List.flatMap_cons.symm

/-- No piece contains the character that the text was cut at. -/
theorem not_mem_of_mem_splitAt {sep : Char} {cs piece : List Char} (h : piece ∈ splitAt sep cs) :
    sep ∉ piece := by
  induction cs generalizing piece with
  | nil => simp_all [splitAt]
  | cons c rest ih =>
    unfold splitAt at h
    split at h
    · rcases List.mem_cons.1 h with rfl | h
      · exact List.not_mem_nil
      · exact ih h
    · rename_i hc
      split at h
      · rename_i hrest
        exact absurd hrest (splitAt_ne_nil sep rest)
      · rename_i first others hrest
        rcases List.mem_cons.1 h with rfl | h
        · have hfirst : sep ∉ first := ih (hrest ▸ List.mem_cons_self)
          simp only [List.mem_cons, not_or]
          exact ⟨fun he => hc he.symm, hfirst⟩
        · exact ih (hrest ▸ List.mem_cons_of_mem _ h)

/-- A piece of a text has no other characters than the text. -/
theorem subset_of_mem_splitAt {sep : Char} {cs piece : List Char} (h : piece ∈ splitAt sep cs) :
    piece ⊆ cs := by
  induction cs generalizing piece with
  | nil => simp_all [splitAt]
  | cons c rest ih =>
    unfold splitAt at h
    split at h
    · rcases List.mem_cons.1 h with rfl | h
      · exact List.nil_subset _
      · exact List.subset_cons_of_subset c (ih h)
    · split at h
      · rename_i hrest
        exact absurd hrest (splitAt_ne_nil sep rest)
      · rename_i first others hrest
        rcases List.mem_cons.1 h with rfl | h
        · exact List.cons_subset_cons c (ih (hrest ▸ List.mem_cons_self))
        · exact List.subset_cons_of_subset c (ih (hrest ▸ List.mem_cons_of_mem _ h))

end Text

open Text

/-! ## Names -/

theorem mem_splitNames {value name : String} : name ∈ splitNames value ↔
    ∃ piece ∈ splitAt listSeparator value.toList, trimList piece ≠ [] ∧
      String.ofList (trimList piece) = name := by
  simp only [splitNames, List.mem_map, List.mem_filter, decide_eq_true_eq]
  constructor
  · rintro ⟨_, ⟨⟨piece, hp, rfl⟩, hne⟩, rfl⟩
    exact ⟨piece, hp, hne, rfl⟩
  · rintro ⟨piece, hp, hne, rfl⟩
    exact ⟨_, ⟨⟨piece, hp, rfl⟩, hne⟩, rfl⟩

theorem trim_of_mem_splitNames {value name : String} (h : name ∈ splitNames value) :
    trim name = name := by
  obtain ⟨piece, -, -, rfl⟩ := mem_splitNames.1 h
  rw [trim, String.toList_ofList, trimList_trimList]

theorem not_mem_of_mem_splitNames {value name : String} (h : name ∈ splitNames value) :
    listSeparator ∉ name.toList := by
  obtain ⟨piece, hpiece, -, rfl⟩ := mem_splitNames.1 h
  rw [String.toList_ofList]
  exact fun hm => not_mem_of_mem_splitAt hpiece (trimList_subset piece hm)

theorem mem_nonblank {entries : List String} {name : String} : name ∈ nonblank entries ↔
    ∃ e ∈ entries, trim e = name ∧ name ≠ "" := by
  simp only [nonblank, List.mem_map, List.mem_filter, decide_eq_true_eq, trim]
  constructor
  · rintro ⟨_, ⟨⟨e, he, rfl⟩, hne⟩, rfl⟩
    exact ⟨e, he, rfl, by simpa [String.ofList_eq_empty_iff] using hne⟩
  · rintro ⟨e, he, rfl, hne⟩
    exact ⟨_, ⟨⟨e, he, rfl⟩, by simpa [String.ofList_eq_empty_iff] using hne⟩, rfl⟩

end Newsdesk
