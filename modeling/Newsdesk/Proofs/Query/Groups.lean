import Newsdesk.Proofs.Text.Names

/-!
# What groups resolve to

Groups that can be resolved stand for exactly the names that the config map lists for them
(`Grouped`), and each of these names is known.
-/

namespace Newsdesk

open Text

variable {group n : String} {groups known resolved names result : List String}
  {data : List (String × String)}

/-- A name that the config map lists for one of the groups. -/
def Grouped (groups : List String) (data : List (String × String)) (n : String) : Prop :=
  ∃ group ∈ groups, ∃ value, data.lookup (trim group) = some value ∧ n ∈ splitNames value

theorem trim_of_grouped (h : Grouped groups data n) : trim n = n := by
  obtain ⟨-, -, value, -, hn⟩ := h
  exact trim_of_mem_splitNames hn

theorem mem_addOnce {name : String} : n ∈ addOnce name resolved ↔ n ∈ resolved ∨ n = name := by
  unfold addOnce
  split
  · rename_i h
    rw [List.contains_eq_mem, decide_eq_true_eq] at h
    exact ⟨.inl, fun hn => hn.elim id fun he => he ▸ h⟩
  · rw [List.mem_append, List.mem_singleton]

theorem addGroup_eq_ok (h : addGroup group known resolved names = .ok result) :
    (∀ n ∈ names, n ∈ known) ∧ ∀ n, n ∈ result ↔ n ∈ resolved ∨ n ∈ names := by
  induction names generalizing resolved with
  | nil =>
    cases h
    simp
  | cons name rest ih =>
    unfold addGroup at h
    split at h
    · rename_i hknown
      rw [List.contains_eq_mem, decide_eq_true_eq] at hknown
      obtain ⟨hall, hmem⟩ := ih h
      refine ⟨List.forall_mem_cons.2 ⟨hknown, hall⟩, fun n => ?_⟩
      rw [hmem n, mem_addOnce, List.mem_cons, or_assoc]
    · cases h

theorem resolveGroupsFrom_eq_ok (h : resolveGroupsFrom data known resolved groups = .ok result) :
    (∀ n, Grouped groups data n → n ∈ known) ∧
      ∀ n, n ∈ result ↔ n ∈ resolved ∨ Grouped groups data n := by
  have hcons (group : String) (rest : List String) (n : String) : Grouped (group :: rest) data n ↔
      (∃ value, data.lookup (trim group) = some value ∧ n ∈ splitNames value) ∨
        Grouped rest data n := by
    simp only [Grouped, List.mem_cons, exists_eq_or_imp]
  induction groups generalizing resolved with
  | nil =>
    cases h
    simp [Grouped]
  | cons group rest ih =>
    unfold resolveGroupsFrom at h
    split at h
    · -- a group that is not defined adds nothing
      rename_i hnone
      obtain ⟨hknown, hmem⟩ := ih h
      have hskip (n : String) : Grouped (group :: rest) data n ↔ Grouped rest data n := by
        simp [hcons, hnone]
      exact ⟨fun n hn => hknown n ((hskip n).1 hn), fun n => by rw [hmem n, hskip n]⟩
    · rename_i value hvalue
      have hfirst (n : String) : Grouped (group :: rest) data n ↔
          n ∈ splitNames value ∨ Grouped rest data n := by
        simp [hcons, hvalue]
      split at h
      · rename_i between hadd
        obtain ⟨hnames, hadded⟩ := addGroup_eq_ok hadd
        obtain ⟨hknown, hmem⟩ := ih h
        refine ⟨fun n hn => ?_, fun n => ?_⟩
        · rcases (hfirst n).1 hn with hn | hn
          · exact hnames n hn
          · exact hknown n hn
        · rw [hmem n, hadded n, hfirst n, or_assoc]
      · cases h

/-- Groups stand for the names that are listed for them. -/
theorem mem_resolveGroups (h : resolveGroups groups data known = .ok names) :
    n ∈ names ↔ Grouped groups data n := by
  obtain ⟨-, hmem⟩ := resolveGroupsFrom_eq_ok h
  simpa using hmem n

/-- Every name that groups are resolved to is known, and as it will be compared. -/
theorem known_of_resolveGroups (h : resolveGroups groups data known = .ok names) (hn : n ∈ names) :
    n ∈ known ∧ trim n = n := by
  have hgrouped := (mem_resolveGroups h).1 hn
  exact ⟨(resolveGroupsFrom_eq_ok h).1 n hgrouped, trim_of_grouped hgrouped⟩

/-- Groups that are not defined stand for nothing. -/
theorem resolveGroups_of_undefined (h : ∀ group ∈ groups, data.lookup (trim group) = none) :
    resolveGroups groups data known = .ok [] := by
  suffices ∀ resolved, resolveGroupsFrom data known resolved groups = .ok resolved from this []
  intro resolved
  induction groups with
  | nil => rfl
  | cons group rest ih =>
    obtain ⟨hgroup, hrest⟩ := List.forall_mem_cons.1 h
    unfold resolveGroupsFrom
    rw [hgroup]
    exact ih hrest

/-! ## Other known names -/

theorem addGroup_congr {known' : List String} (h : addGroup group known resolved names = .ok result)
    (hk : ∀ n ∈ names, n ∈ known') : addGroup group known' resolved names = .ok result := by
  induction names generalizing resolved with
  | nil => exact h
  | cons name rest ih =>
    obtain ⟨hname, hrest⟩ := List.forall_mem_cons.1 hk
    unfold addGroup at h ⊢
    split at h
    · rw [if_pos (by rw [List.contains_eq_mem, decide_eq_true_eq]; exact hname)]
      exact ih h hrest
    · cases h

theorem resolveGroupsFrom_congr {known' : List String}
    (h : resolveGroupsFrom data known resolved groups = .ok result)
    (hk : ∀ n, Grouped groups data n → n ∈ known') :
    resolveGroupsFrom data known' resolved groups = .ok result := by
  induction groups generalizing resolved with
  | nil => exact h
  | cons group rest ih =>
    have hrest (n : String) (hn : Grouped rest data n) : n ∈ known' := by
      obtain ⟨group, hgroup, hvalue⟩ := hn
      exact hk n ⟨group, List.mem_cons_of_mem _ hgroup, hvalue⟩
    unfold resolveGroupsFrom at h ⊢
    split at h
    · exact ih h hrest
    · rename_i value hvalue
      split at h
      · rename_i between hadd
        have hnames (n : String) (hn : n ∈ splitNames value) : n ∈ known' :=
          hk n ⟨group, List.mem_cons_self, value, hvalue, hn⟩
        rw [addGroup_congr hadd hnames]
        exact ih h hrest
      · cases h

/-- Groups resolve to the same names as long as these are known. -/
theorem resolveGroups_congr {known' : List String} (h : resolveGroups groups data known = .ok names)
    (hk : ∀ n ∈ names, n ∈ known') : resolveGroups groups data known' = .ok names :=
  resolveGroupsFrom_congr h fun n hn => hk n ((mem_resolveGroups h).2 hn)

end Newsdesk
