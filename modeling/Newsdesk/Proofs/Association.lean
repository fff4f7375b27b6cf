/-!
# Association lists

A store, the fields of an object and the memory of a filter are lists of entries that are looked up
by their keys. What is found is an entry, picking entries by their keys picks what is found, and
where no key occurs twice every entry is found.
-/

namespace Newsdesk

variable {κ β : Type} [DecidableEq κ] {key : κ} {value : β} {entries : List (κ × β)}

theorem mem_of_lookup (h : entries.lookup key = some value) : (key, value) ∈ entries := by
  induction entries with
  | nil => simp at h
  | cons e rest ih =>
    obtain ⟨k, v⟩ := e
    by_cases hk : key = k
    · subst hk
      simp only [List.lookup_cons, beq_self_eq_true, Option.some.injEq] at h
      simp [h]
    · simp only [List.lookup_cons, beq_eq_false_iff_ne.2 hk] at h
      exact List.mem_cons_of_mem _ (ih h)

theorem isSome_lookup_of_mem {e : κ × β} (h : e ∈ entries) : (entries.lookup e.1).isSome := by
  induction entries with
  | nil => cases h
  | cons first rest ih =>
    obtain ⟨k, v⟩ := first
    by_cases hk : e.1 = k
    · simp [hk]
    · rcases List.mem_cons.1 h with rfl | h
      · exact absurd rfl hk
      · simpa [List.lookup_cons, beq_eq_false_iff_ne.2 hk] using ih h

/-- Entries that are picked by their keys are found if their keys are picked. -/
theorem lookup_filter_key (p : κ → Bool) (key : κ) (entries : List (κ × β)) :
    (entries.filter fun e => p e.1).lookup key = if p key then entries.lookup key else none := by
  induction entries with
  | nil => simp
  | cons e rest ih =>
    obtain ⟨k, v⟩ := e
    by_cases hk : key = k
    · subst hk
      cases hp : p key <;> simp [hp, ih]
    · cases hp : p k <;> simp [hp, ih, List.lookup_cons, beq_eq_false_iff_ne.2 hk]

/-- Where no key occurs twice, every entry is found. -/
theorem lookup_eq_some_iff_mem (h : (entries.map Prod.fst).Nodup) :
    entries.lookup key = some value ↔ (key, value) ∈ entries := by
  refine ⟨mem_of_lookup, fun hm => ?_⟩
  induction entries with
  | nil => cases hm
  | cons e rest ih =>
    obtain ⟨k, v⟩ := e
    rw [List.map_cons, List.nodup_cons] at h
    rcases List.mem_cons.1 hm with he | hm
    · cases he
      simp
    · have hk : key ≠ k := fun he => h.1 (List.mem_map.2 ⟨_, hm, he⟩)
      simpa [List.lookup_cons, beq_eq_false_iff_ne.2 hk] using ih h.2 hm

end Newsdesk
