import Newsdesk.Proofs.Query.Groups

/-!
# What groups list

The config map lists names for the groups of a query (`listedNames`), one group after the other.
Resolving the groups reads this list to its end or to the first unknown name: without unknown names
the result is the list without its repetitions, and else the error names the first unknown name and
the group that lists it (`resolveGroups_follows_list`). The invariant of both loops is that what
has been resolved so far is what has been read so far, without its repetitions.
-/

namespace Newsdesk

open Text

variable {group name value : String} {groups known names : List String}
  {data data' : List (String × String)}

/-- The names in a value: the texts between its separators, trimmed, without empty ones. -/
def valueNames (value : String) : List String :=
  let pieces := value.toList.splitOn listSeparator
  (pieces.map fun piece => trim (String.ofList piece)).filter (· ≠ "")

/-- The names that a config map lists for groups, each with its group as the query spells it. -/
def listedNames (groups : List String) (data : List (String × String)) : List (String × String) :=
  groups.flatMap fun group =>
    match data.lookup (trim group) with
    | some value => (valueNames value).map fun name => (group, name)
    | none => []

theorem splitNames_eq_valueNames (value : String) : splitNames value = valueNames value := by
  unfold splitNames valueNames
  rw [splitAt_eq_splitOn]
  induction value.toList.splitOn listSeparator with
  | nil => rfl
  | cons piece rest ih =>
    have htrim : trim (String.ofList piece) = String.ofList (trimList piece) := by
      rw [trim, String.toList_ofList]
    have hempty : String.ofList (trimList piece) = "" ↔ trimList piece = [] :=
      String.ofList_eq_empty_iff
    by_cases h : trimList piece = []
    · simpa [htrim, hempty, h] using ih
    · simpa [htrim, hempty, h] using ih

/-! ## Reading the list -/

/-- A name that is added to the names read so far is one more name that has been read. -/
theorem addOnce_eraseDups (name : String) (read : List String) :
    addOnce name read.eraseDups = (read ++ [name]).eraseDups := by
  unfold addOnce
  rw [List.eraseDups_append]
  by_cases h : name ∈ read
  · have hnone : [name].removeAll read = [] := by simp [List.removeAll, h]
    simp [h, hnone]
  · have hnew : [name].removeAll read = [name] := by simp [List.removeAll, h]
    simp [h, hnew, List.eraseDups_cons]

/-- One group is read to its end or to its first unknown name. -/
theorem addGroup_eraseDups (group : String) (known names read : List String) :
    addGroup group known read.eraseDups names =
      match names.find? (fun name => name ∉ known) with
      | none => .ok (read ++ names).eraseDups
      | some name => .error (.unknownFeed group name) := by
  induction names generalizing read with
  | nil => rw [List.append_nil]; rfl
  | cons name rest ih =>
    unfold addGroup
    rw [List.find?_cons]
    by_cases h : name ∈ known
    · rw [addOnce_eraseDups, ih]
      simp [h]
    · simp [h]

/-- All groups are read to the end of their list or to its first unknown name. -/
theorem resolveGroupsFrom_eraseDups (data : List (String × String)) (known groups : List String)
    (read : List String) :
    resolveGroupsFrom data known read.eraseDups groups =
      match (listedNames groups data).find? (fun entry => entry.2 ∉ known) with
      | none => .ok (read ++ (listedNames groups data).map Prod.snd).eraseDups
      | some (group, name) => .error (.unknownFeed group name) := by
  induction groups generalizing read with
  | nil =>
    rw [show listedNames [] data = [] from rfl, List.map_nil, List.append_nil]
    rfl
  | cons group rest ih =>
    have hlist : listedNames (group :: rest) data =
        (match data.lookup (trim group) with
          | some value => (valueNames value).map fun name => (group, name)
          | none => []) ++ listedNames rest data := List.flatMap_cons
    unfold resolveGroupsFrom
    rw [hlist]
    cases data.lookup (trim group) with
    | none => exact ih read
    | some value =>
      have hown : ((valueNames value).map fun name => (group, name)).find?
          (fun entry => entry.2 ∉ known) =
          ((valueNames value).find? fun name => name ∉ known).map fun name => (group, name) :=
        List.find?_map
      have hsnd : ((valueNames value).map fun name => (group, name)).map Prod.snd =
          valueNames value := by
        rw [List.map_map]
        exact List.map_id _
      simp only [addGroup_eraseDups, splitNames_eq_valueNames, List.find?_append, hown,
        List.map_append, hsnd]
      cases (valueNames value).find? fun name => name ∉ known with
      | none =>
        simp only [ih, Option.map_none, Option.none_or, List.append_assoc]
      | some name => rfl

/-- Resolving reads the list to its end or to its first unknown name. -/
theorem resolveGroups_eq_find? (groups : List String) (data : List (String × String))
    (known : List String) :
    resolveGroups groups data known =
      match (listedNames groups data).find? (fun entry => entry.2 ∉ known) with
      | none => .ok ((listedNames groups data).map Prod.snd).eraseDups
      | some (group, name) => .error (.unknownFeed group name) :=
  resolveGroupsFrom_eraseDups data known groups []

/-! ## What is read -/

theorem nodup_eraseDups (xs : List String) : xs.eraseDups.Nodup := by
  induction h : xs.length using Nat.strong_induction_on generalizing xs with
  | _ n ih =>
    cases xs with
    | nil => simp
    | cons x rest =>
      have hshorter : (rest.filter fun y => !y == x).length < n := by
        rw [← h, List.length_cons]
        exact Nat.lt_succ_of_le (List.length_filter_le _ rest)
      rw [List.eraseDups_cons, List.nodup_cons, List.mem_eraseDups, List.mem_filter]
      exact ⟨by simp, ih _ hshorter _ rfl⟩

theorem mem_listedNames : (group, name) ∈ listedNames groups data ↔
    group ∈ groups ∧
      ∃ value, data.lookup (trim group) = some value ∧ name ∈ valueNames value := by
  unfold listedNames
  rw [List.mem_flatMap]
  constructor
  · rintro ⟨group', hgroup, hentry⟩
    split at hentry
    · rename_i value hvalue
      obtain ⟨name', hname, ⟨⟩⟩ := List.mem_map.1 hentry
      exact ⟨hgroup, value, hvalue, hname⟩
    · cases hentry
  · rintro ⟨hgroup, value, hvalue, hname⟩
    refine ⟨group, hgroup, ?_⟩
    rw [hvalue]
    exact List.mem_map_of_mem hname

/-- A listed name is trimmed and not empty, and contains no separator. -/
theorem shape_of_mem_valueNames (h : name ∈ valueNames value) :
    name ≠ "" ∧ trim name = name ∧ listSeparator ∉ name.toList := by
  have hsplit : name ∈ splitNames value := splitNames_eq_valueNames value ▸ h
  exact ⟨of_decide_eq_true (List.mem_filter.1 h).2, trim_of_mem_splitNames hsplit,
    not_mem_of_mem_splitNames hsplit⟩

/-- The list of groups depends on the values of their keys only. -/
theorem listedNames_congr
    (h : ∀ group ∈ groups, data'.lookup (trim group) = data.lookup (trim group)) :
    listedNames groups data' = listedNames groups data :=
  List.flatMap_congr fun group hgroup => by rw [h group hgroup]

theorem resolveGroups_eq_ok_iff : resolveGroups groups data known = .ok names ↔
    (∀ entry ∈ listedNames groups data, entry.2 ∈ known) ∧
      names = ((listedNames groups data).map Prod.snd).eraseDups := by
  rw [resolveGroups_eq_find?]
  cases hfind : (listedNames groups data).find? fun entry => entry.2 ∉ known with
  | none =>
    have hall : ∀ entry ∈ listedNames groups data, entry.2 ∈ known := fun entry hentry => by
      simpa using List.find?_eq_none.1 hfind entry hentry
    exact ⟨fun h => ⟨hall, (Except.ok.inj h).symm⟩, fun ⟨_, h⟩ => h ▸ rfl⟩
  | some entry =>
    have hunknown : entry.2 ∉ known := by simpa using List.find?_some hfind
    constructor
    · intro h
      cases h
    · rintro ⟨hall, -⟩
      exact absurd (hall entry (List.mem_of_find?_eq_some hfind)) hunknown

theorem resolveGroups_eq_error {before after : List (String × String)}
    (hlist : listedNames groups data = before ++ (group, name) :: after)
    (hbefore : ∀ entry ∈ before, entry.2 ∈ known) (hunknown : name ∉ known) :
    resolveGroups groups data known = .error (.unknownFeed group name) := by
  have hfind : (listedNames groups data).find? (fun entry => entry.2 ∉ known) =
      some (group, name) := by
    rw [List.find?_eq_some_iff_append]
    exact ⟨decide_eq_true hunknown, before, after, hlist, fun entry hentry => by
      simpa using hbefore entry hentry⟩
  rw [resolveGroups_eq_find?, hfind]

/-- Groups resolve to the names that are listed for them, each at its first occurrence, if all of
them are known; else the first unknown name is reported with the group that lists it. So a result
has no repetitions, only known names, and each as it will be compared; keys that no group names do
not count. -/
theorem resolveGroups_follows_list (groups : List String) (data : List (String × String))
    (known : List String) :
    ((∀ entry ∈ listedNames groups data, entry.2 ∈ known) →
      resolveGroups groups data known = .ok ((listedNames groups data).map Prod.snd).eraseDups) ∧
    (∀ before group name after, listedNames groups data = before ++ (group, name) :: after →
      (∀ entry ∈ before, entry.2 ∈ known) → name ∉ known →
        resolveGroups groups data known = .error (.unknownFeed group name)) ∧
    (∀ names, resolveGroups groups data known = .ok names → names.Nodup ∧ ∀ name ∈ names,
      name ∈ known ∧ name ≠ "" ∧ trim name = name ∧ listSeparator ∉ name.toList) ∧
    ∀ data', (∀ group ∈ groups, data'.lookup (trim group) = data.lookup (trim group)) →
      resolveGroups groups data' known = resolveGroups groups data known := by
  refine ⟨fun hknown => resolveGroups_eq_ok_iff.2 ⟨hknown, rfl⟩,
    fun before group name after hlist hbefore hunknown =>
      resolveGroups_eq_error hlist hbefore hunknown,
    fun names hnames => ?_, fun data' hsame => ?_⟩
  · obtain ⟨hknown, rfl⟩ := resolveGroups_eq_ok_iff.1 hnames
    refine ⟨nodup_eraseDups _, fun name hname => ?_⟩
    obtain ⟨⟨group, name'⟩, hentry, rfl⟩ := List.mem_map.1 (List.mem_eraseDups.1 hname)
    obtain ⟨-, value, -, hvalue⟩ := mem_listedNames.1 hentry
    exact ⟨hknown _ hentry, shape_of_mem_valueNames hvalue⟩
  · rw [resolveGroups_eq_find?, resolveGroups_eq_find?, listedNames_congr hsame]

namespace ListedGroups

/-- Repeated names, blanks of several kinds, an empty group and one that lists an unknown name. -/
def stored : List (String × String) :=
  [("daily", "bbc,\u2003fox ,bbc,,"), ("empty", " , "), ("late", "fox,gone,bbc,lost"),
    ("other", "x")]

end ListedGroups

open ListedGroups

/-- A group is named twice and another one with blanks around it. -/
theorem paddedGroups_follow_list :
    listedNames ["daily", "none", " daily\u00A0", "empty"] stored =
      [("daily", "bbc"), ("daily", "fox"), ("daily", "bbc"), (" daily\u00A0", "bbc"),
        (" daily\u00A0", "fox"), (" daily\u00A0", "bbc")] ∧
    resolveGroups ["daily", "none", " daily\u00A0", "empty"] stored ["fox", "bbc"] =
      .ok ["bbc", "fox"] ∧
    ["bbc", "fox"].Nodup ∧
    resolveGroups ["daily", "none", " daily\u00A0", "empty"] (stored.take 2) ["fox", "bbc"] =
      .ok ["bbc", "fox"] ∧
    resolveGroups ["daily", "late ", "late"] stored ["fox", "bbc"] =
      .error (.unknownFeed "late " "gone") := by
  have hlist : listedNames ["daily", "none", " daily\u00A0", "empty"] stored =
      [("daily", "bbc"), ("daily", "fox"), ("daily", "bbc"), (" daily\u00A0", "bbc"),
        (" daily\u00A0", "fox"), (" daily\u00A0", "bbc")] := by
    decide +kernel
  have hlate : listedNames ["daily", "late ", "late"] stored =
      [("daily", "bbc"), ("daily", "fox"), ("daily", "bbc"), ("late ", "fox")] ++
        ("late ", "gone") :: [("late ", "bbc"), ("late ", "lost"), ("late", "fox"),
          ("late", "gone"), ("late", "bbc"), ("late", "lost")] := by
    decide +kernel
  have hfollows (groups : List String) :=
    resolveGroups_follows_list groups stored ["fox", "bbc"]
  have hresolved : resolveGroups ["daily", "none", " daily\u00A0", "empty"] stored ["fox", "bbc"] =
      .ok ["bbc", "fox"] := by
    rw [(hfollows _).1 (by rw [hlist]; decide), hlist]
    rfl
  refine ⟨hlist, hresolved, ((hfollows _).2.2.1 _ hresolved).1, ?_, ?_⟩
  · rw [(hfollows _).2.2.2 (stored.take 2) (by decide +kernel), hresolved]
  · exact (hfollows _).2.1 _ _ _ _ hlate (by decide) (by decide)

end Newsdesk
