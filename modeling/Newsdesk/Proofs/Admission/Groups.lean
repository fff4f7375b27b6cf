import Newsdesk.Admission.GroupRules
import Newsdesk.Proofs.Admission.Answered
import Newsdesk.Proofs.Json.Records
import Newsdesk.Proofs.Query.Groups
import Newsdesk.Resource.Object

/-!
# Reviewed groups

The review of a config map collects what is wrong with every group of it, in the order of the keys.
Resolving groups stops at the first unknown name of the groups that a query asks for. Both read the
same lists of names (`unknownNames`): without violations no groups can fail to resolve, and a group
fails to resolve with the first name that the review reports for it (`GroupReview`).
-/

namespace Newsdesk

open Json Text

variable {group name value : String} {groups known names resolved : List String}
  {data : List (String × String)}

/-- The names that a list gives and no feed has. -/
def unknownNames (value : String) (known : List String) : List String :=
  (splitNames value).filter fun name => name ∉ known

/-- The field of a config map that holds a group. -/
def groupField (group : String) : String := "data." ++ group

def emptyGroupError (group : String) : FieldError :=
  ⟨groupField group, "feed group must list at least one Feed"⟩

def unknownFeedError (group name : String) : FieldError :=
  ⟨groupField group, missingFeedMessage name⟩

/-- How the review of a group and its resolution go together. -/
structure GroupReview (data : List (String × String)) (known : List String)
    (group value : String) : Prop where
  /-- The review reports the unknown names of the group in order and with repetitions. -/
  reported : (validateGroups data known).filter (fun e => e.field = groupField group) =
    (if splitNames value = [] then [emptyGroupError group] else []) ++
      (unknownNames value known).map (unknownFeedError group)
  /-- A group fails to resolve exactly if the review reports an unknown name for it. -/
  fails : trim group = group →
    ((∃ name, unknownFeedError group name ∈ validateGroups data known) ↔
      ∃ e, resolveGroups [group] data known = .error e)
  /-- It fails with the first of these names. -/
  first : trim group = group → ∀ e, resolveGroups [group] data known = .error e ↔
    ∃ name, ((validateGroups data known).filter fun e => e.field = groupField group).head? =
      some (unknownFeedError group name) ∧ e = .unknownFeed group name
  /-- A group stands for nothing exactly if the review reports that it lists nothing. -/
  empty : trim group = group →
    (emptyGroupError group ∈ validateGroups data known ↔ resolveGroups [group] data known = .ok [])

/-! ## Violations of one group -/

theorem groupField_inj {group' : String} : groupField group = groupField group' ↔ group = group' :=
  String.append_right_inj _

theorem missingFeedMessage_inj {name' : String} :
    missingFeedMessage name = missingFeedMessage name' ↔ name = name' := by
  unfold missingFeedMessage
  rw [String.append_left_inj, String.append_right_inj]

theorem unknownFeedError_ne_emptyGroupError :
    unknownFeedError group name ≠ emptyGroupError group := by
  intro h
  have hmessage := congrArg FieldError.message h
  simp only [unknownFeedError, emptyGroupError, missingFeedMessage] at hmessage
  -- one wording starts with a capital letter
  have hhead := congrArg (fun s => s.toList.head?) hmessage
  simp [String.toList_append] at hhead

theorem groupErrors_eq (known : List String) (group value : String) :
    groupErrors known group value =
      (if splitNames value = [] then [emptyGroupError group] else []) ++
        (unknownNames value known).map (unknownFeedError group) := by
  unfold groupErrors unknownNames
  cases hnames : splitNames value with
  | nil => rfl
  | cons first rest =>
    rw [if_neg (List.cons_ne_nil _ _), List.nil_append]
    simpa [unknownFeedError, groupField] using
      filterMap_unless (· ∈ known) (unknownFeedError group) (first :: rest)

theorem field_of_mem_groupErrors {e : FieldError} (h : e ∈ groupErrors known group value) :
    e.field = groupField group := by
  rw [groupErrors_eq, List.mem_append, List.mem_map] at h
  rcases h with h | ⟨name, -, rfl⟩
  · split at h
    · rw [List.mem_singleton.1 h]
      rfl
    · cases h
  · rfl

theorem emptyGroupError_mem : emptyGroupError group ∈ groupErrors known group value ↔
    splitNames value = [] := by
  rw [groupErrors_eq, List.mem_append, List.mem_map]
  constructor
  · rintro (h | ⟨name, -, h⟩)
    · by_contra hne
      rw [if_neg hne] at h
      cases h
    · exact absurd h unknownFeedError_ne_emptyGroupError
  · intro h
    rw [if_pos h]
    exact .inl (List.mem_singleton_self _)

theorem unknownFeedError_mem : unknownFeedError group name ∈ groupErrors known group value ↔
    name ∈ unknownNames value known := by
  rw [groupErrors_eq, List.mem_append, List.mem_map]
  constructor
  · rintro (h | ⟨name', hname, h⟩)
    · split at h
      · exact absurd (List.mem_singleton.1 h) unknownFeedError_ne_emptyGroupError
      · cases h
    · rwa [← missingFeedMessage_inj.1 (congrArg FieldError.message h)]
  · intro h
    exact .inr ⟨name, h, rfl⟩

theorem head?_groupErrors :
    (groupErrors known group value).head? = some (unknownFeedError group name) ↔
      (unknownNames value known).head? = some name := by
  rw [groupErrors_eq]
  split
  · rename_i hnone
    simp [hnone, unknownNames, unknownFeedError_ne_emptyGroupError.symm]
  · rw [List.nil_append, List.head?_map]
    cases unknownNames value known with
    | nil => simp
    | cons first rest => simp [unknownFeedError, missingFeedMessage_inj]

theorem groupErrors_eq_nil : groupErrors known group value = [] ↔
    splitNames value ≠ [] ∧ ∀ name ∈ splitNames value, name ∈ known := by
  rw [groupErrors_eq, List.append_eq_nil_iff, List.map_eq_nil_iff, unknownNames,
    List.filter_eq_nil_iff]
  refine and_congr ?_ (forall₂_congr fun name _ => by simp)
  split <;> simp_all

/-! ## Violations of a config map -/

theorem validateGroups_eq_nil : validateGroups data known = [] ↔
    ∀ entry ∈ data, splitNames entry.2 ≠ [] ∧ ∀ name ∈ splitNames entry.2, name ∈ known := by
  unfold validateGroups
  rw [List.flatMap_eq_nil_iff]
  exact forall₂_congr fun _ _ => groupErrors_eq_nil

theorem filter_groupErrors (known : List String) (group other value : String) :
    (groupErrors known other value).filter (fun e => e.field = groupField group) =
      if other = group then groupErrors known other value else [] := by
  split
  · rename_i h
    refine List.filter_eq_self.2 fun e he => decide_eq_true ?_
    rw [field_of_mem_groupErrors he, h]
  · rename_i h
    refine List.filter_eq_nil_iff.2 fun e he hfield => h ?_
    exact groupField_inj.1 ((field_of_mem_groupErrors he).symm.trans (of_decide_eq_true hfield))

/-- The violations of one field are those of the group that it holds. -/
theorem filter_validateGroups (hkeys : (data.map Prod.fst).Nodup) (hmem : (group, value) ∈ data) :
    (validateGroups data known).filter (fun e => e.field = groupField group) =
      groupErrors known group value := by
  have hfilter : (validateGroups data known).filter (fun e => e.field = groupField group) =
      data.flatMap fun entry =>
        if entry.1 = group then groupErrors known entry.1 entry.2 else [] := by
    rw [validateGroups, List.filter_flatMap]
    exact congrArg data.flatMap (funext fun entry => filter_groupErrors known group entry.1 entry.2)
  rw [hfilter]
  clear hfilter
  induction data with
  | nil => cases hmem
  | cons entry rest ih =>
    rw [List.map_cons, List.nodup_cons] at hkeys
    rw [List.flatMap_cons]
    rcases List.mem_cons.1 hmem with rfl | hrest
    · -- the other entries hold other groups
      rw [if_pos rfl, List.flatMap_eq_nil_iff.2, List.append_nil]
      intro other hother
      exact if_neg fun h => hkeys.1 (List.mem_map.2 ⟨other, hother, h⟩)
    · have hne : entry.1 ≠ group := by
        intro h
        exact hkeys.1 (h ▸ List.mem_map_of_mem hrest)
      rw [if_neg hne, List.nil_append]
      exact ih hkeys.2 hrest

theorem mem_validateGroups (hkeys : (data.map Prod.fst).Nodup) (hmem : (group, value) ∈ data)
    {e : FieldError} (hfield : e.field = groupField group) :
    e ∈ validateGroups data known ↔ e ∈ groupErrors known group value := by
  rw [← filter_validateGroups hkeys hmem, List.mem_filter, decide_eq_true hfield]
  exact (and_iff_left rfl).symm

/-! ## Resolving -/

theorem addGroup_eq_error_iff {e : QueryError} : addGroup group known resolved names = .error e ↔
    ∃ name, names.find? (fun name => name ∉ known) = some name ∧ e = .unknownFeed group name := by
  induction names generalizing resolved with
  | nil => simp [addGroup]
  | cons name rest ih =>
    unfold addGroup
    by_cases h : name ∈ known
    · simpa [h] using ih
    · simp [h, eq_comm]

theorem exists_addGroup_eq_ok (h : ∀ name ∈ names, name ∈ known) :
    ∃ result, addGroup group known resolved names = .ok result := by
  cases hadd : addGroup group known resolved names with
  | ok result => exact ⟨result, rfl⟩
  | error e =>
    obtain ⟨name, hname, -⟩ := addGroup_eq_error_iff.1 hadd
    have hunknown := List.find?_some hname
    exact absurd (h name (List.mem_of_find?_eq_some hname)) (of_decide_eq_true hunknown)

/-- Groups of which every name is known can be resolved. -/
theorem exists_resolveGroupsFrom_eq_ok (h : ∀ name, Grouped groups data name → name ∈ known) :
    ∃ result, resolveGroupsFrom data known resolved groups = .ok result := by
  induction groups generalizing resolved with
  | nil => exact ⟨resolved, rfl⟩
  | cons group rest ih =>
    have hrest (name : String) (hn : Grouped rest data name) : name ∈ known := by
      obtain ⟨g, hg, hvalue⟩ := hn
      exact h name ⟨g, List.mem_cons_of_mem _ hg, hvalue⟩
    unfold resolveGroupsFrom
    cases hlookup : data.lookup (trim group) with
    | none => exact ih hrest
    | some value =>
      have hvalue (name : String) (hn : name ∈ splitNames value) : name ∈ known :=
        h name ⟨group, List.mem_cons_self, value, hlookup, hn⟩
      obtain ⟨between, hadd⟩ :
          ∃ between, addGroup group known resolved (splitNames value) = .ok between :=
        exists_addGroup_eq_ok hvalue
      simp only [hadd]
      exact ih hrest

theorem resolveGroups_singleton (hlookup : data.lookup (trim group) = some value) :
    resolveGroups [group] data known = addGroup group known [] (splitNames value) := by
  unfold resolveGroups resolveGroupsFrom
  simp only [hlookup]
  cases addGroup group known [] (splitNames value) <;> rfl

theorem addGroup_eq_ok_nil_iff : addGroup group known [] names = .ok [] ↔ names = [] := by
  constructor
  · intro h
    obtain ⟨-, hmem⟩ := addGroup_eq_ok h
    refine List.eq_nil_iff_forall_not_mem.2 fun name hname => ?_
    exact List.not_mem_nil ((hmem name).2 (.inr hname))
  · rintro rfl
    rfl

/-! ## Keys -/

theorem map_fst_decodeMap {α : Type} {decode : Decoder α} {v : Json} {entries : List (String × α)}
    (h : decodeMap decode v = some entries) :
    ∃ fields, v = .obj fields ∧ entries.map Prod.fst = (sortFields fields).map Prod.fst := by
  unfold decodeMap at h
  split at h
  · rename_i fields
    refine ⟨fields, rfl, ?_⟩
    generalize sortFields fields = sorted at h ⊢
    induction sorted generalizing entries with
    | nil =>
      cases h
      rfl
    | cons field rest ih =>
      rw [List.mapM_cons] at h
      obtain ⟨entry, hentry, h⟩ := Option.bind_eq_some_iff.1 h
      obtain ⟨others, hothers, h⟩ := Option.bind_eq_some_iff.1 h
      obtain ⟨value, -, rfl⟩ := Option.map_eq_some_iff.1 hentry
      cases h
      rw [List.map_cons, List.map_cons, ih hothers]
  · cases h

/-- A config map that is read has every key once. -/
theorem ConfigMap.nodup_keys {v : Json} {map : ConfigMap} (h : ConfigMap.decode v = some map)
    (hdata : map.data = some data) : (data.map Prod.fst).Nodup := by
  unfold ConfigMap.decode at h
  split at h
  · obtain ⟨-, -, h⟩ := Option.bind_eq_some_iff.1 h
    obtain ⟨metadata, -, h⟩ := Option.bind_eq_some_iff.1 h
    obtain ⟨data', hread, h⟩ := Option.bind_eq_some_iff.1 h
    cases h
    cases hdata
    unfold apiField at hread
    split at hread
    · rename_i fields _ value _
      have hne : value ≠ .null := by
        rintro rfl
        cases hread
      rw [decodeNullable_of_ne_null _ hne] at hread
      obtain ⟨entries, hvalue, he⟩ := Option.map_eq_some_iff.1 hread
      cases he
      obtain ⟨sorted, -, hkeys⟩ := map_fst_decodeMap hvalue
      rw [hkeys]
      exact (ascending_sortFields sorted).nodup_names
    · cases hread
  · cases h

/-! ## Agreement -/

/-- Groups of a config map without violations resolve, to something if one of them is defined. -/
theorem resolveGroups_of_validateGroups_eq_nil (h : validateGroups data known = [])
    (groups : List String) : ∃ names, resolveGroups groups data known = .ok names ∧
      (names ≠ [] ↔ ∃ group ∈ groups, trim group ∈ data.map Prod.fst) := by
  have hvalid := validateGroups_eq_nil.1 h
  have hknown (name : String) (hn : Grouped groups data name) : name ∈ known := by
    obtain ⟨group, -, value, hlookup, hn⟩ := hn
    exact (hvalid _ (mem_of_lookup hlookup)).2 name hn
  obtain ⟨names, hnames⟩ : ∃ names, resolveGroups groups data known = .ok names :=
    exists_resolveGroupsFrom_eq_ok hknown
  refine ⟨names, hnames, ?_⟩
  constructor
  · intro hne
    obtain ⟨name, hname⟩ := List.exists_mem_of_ne_nil _ hne
    obtain ⟨group, hgroup, value, hlookup, -⟩ := (mem_resolveGroups hnames).1 hname
    exact ⟨group, hgroup, List.mem_map.2 ⟨_, mem_of_lookup hlookup, rfl⟩⟩
  · rintro ⟨group, hgroup, hkey⟩
    obtain ⟨entry, hentry, hkey⟩ := List.mem_map.1 hkey
    obtain ⟨value, hlookup⟩ := Option.isSome_iff_exists.1 (isSome_lookup_of_mem hentry)
    rw [hkey] at hlookup
    -- a group without violations lists at least one name
    have hne := (hvalid _ (mem_of_lookup hlookup)).1
    obtain ⟨name, hname⟩ := List.exists_mem_of_ne_nil _ hne
    exact List.ne_nil_of_mem ((mem_resolveGroups hnames).2 ⟨group, hgroup, value, hlookup, hname⟩)

theorem groupReview (hkeys : (data.map Prod.fst).Nodup) (known : List String)
    (hmem : (group, value) ∈ data) : GroupReview data known group value := by
  have hreported : (validateGroups data known).filter (fun e => e.field = groupField group) =
      groupErrors known group value := filter_validateGroups hkeys hmem
  have hlookup : data.lookup group = some value := (lookup_eq_some_iff_mem hkeys).2 hmem
  have hresolve (htrim : trim group = group) :
      resolveGroups [group] data known = addGroup group known [] (splitNames value) :=
    resolveGroups_singleton (htrim.symm ▸ hlookup)
  have hfirst (e : QueryError) : addGroup group known [] (splitNames value) = .error e ↔
      ∃ name, (unknownNames value known).head? = some name ∧ e = .unknownFeed group name := by
    rw [addGroup_eq_error_iff, unknownNames, List.head?_filter]
  refine {
    reported := hreported.trans (groupErrors_eq known group value)
    fails := fun htrim => ?_
    first := fun htrim e => ?_
    empty := fun htrim => ?_ }
  · have hmention (name : String) : unknownFeedError group name ∈ validateGroups data known ↔
        name ∈ unknownNames value known := by
      rw [mem_validateGroups hkeys hmem rfl, unknownFeedError_mem]
    rw [hresolve htrim, exists_congr hmention, exists_congr hfirst]
    cases unknownNames value known with
    | nil => simp
    | cons name rest => simp
  · rw [hresolve htrim, hfirst, hreported]
    exact exists_congr fun name => and_congr_left' head?_groupErrors.symm
  · rw [hresolve htrim, mem_validateGroups hkeys hmem rfl, emptyGroupError_mem,
      addGroup_eq_ok_nil_iff]

/-- The review of a config map and the resolution of groups agree: what is admitted can be resolved,
and what fails to resolve was reported. -/
theorem validateGroups_agrees (hkeys : (data.map Prod.fst).Nodup) (known : List String) :
    (validateGroups data known = [] → ∀ groups, ∃ names,
      resolveGroups groups data known = .ok names ∧
        (names ≠ [] ↔ ∃ group ∈ groups, trim group ∈ data.map Prod.fst)) ∧
      ∀ group value, (group, value) ∈ data → GroupReview data known group value := by
  refine ⟨fun hvalid groups => ?_, fun group value hmem => ?_⟩
  · exact resolveGroups_of_validateGroups_eq_nil hvalid groups
  · exact groupReview hkeys known hmem

namespace ReviewedGroups

/-- Repeated and unknown names, blanks of several kinds, and a key with a blank in it. -/
def stored : List (String × String) :=
  [("empty", " ,\u2003,"), ("mixed", "fox,\u00A0bbc ,gone,, fox"), ("world ", "bbc")]

end ReviewedGroups

open ReviewedGroups

theorem reviewedGroups_agree : (stored.map Prod.fst).Nodup ∧
    validateGroups stored ["bbc"] = [emptyGroupError "empty", unknownFeedError "mixed" "fox",
      unknownFeedError "mixed" "gone", unknownFeedError "mixed" "fox"] ∧
    resolveGroups ["mixed"] stored ["bbc"] = .error (.unknownFeed "mixed" "fox") ∧
    resolveGroups ["empty"] stored ["bbc"] = .ok [] ∧
    GroupReview stored ["bbc"] "world " "bbc" ∧
    ∃ names ≠ [],
      resolveGroups ["gone", " mixed"] stored.tail ["bbc", "fox", "gone"] = .ok names := by
  have hkeys : (stored.map Prod.fst).Nodup := by decide
  have hrest : (stored.tail.map Prod.fst).Nodup := by decide
  have herrors : validateGroups stored ["bbc"] = [emptyGroupError "empty",
      unknownFeedError "mixed" "fox", unknownFeedError "mixed" "gone",
      unknownFeedError "mixed" "fox"] := by
    decide +kernel
  have hvalid : validateGroups stored.tail ["bbc", "fox", "gone"] = [] := by decide +kernel
  obtain ⟨-, hgroups⟩ := validateGroups_agrees hkeys ["bbc"]
  have hmixed := hgroups "mixed" "fox,\u00A0bbc ,gone,, fox" (by decide)
  have hempty := hgroups "empty" " ,\u2003," (by decide)
  refine ⟨hkeys, herrors, ?_, ?_, hgroups "world " "bbc" (by decide), ?_⟩
  · refine (hmixed.first (by decide +kernel) _).2 ⟨"fox", ?_, rfl⟩
    rw [herrors]
    decide
  · refine (hempty.empty (by decide +kernel)).1 ?_
    rw [herrors]
    decide
  · obtain ⟨hadmitted, -⟩ := validateGroups_agrees hrest ["bbc", "fox", "gone"]
    obtain ⟨names, hnames, hne⟩ := hadmitted hvalid ["gone", " mixed"]
    exact ⟨names, hne.2 ⟨" mixed", by decide, by decide +kernel⟩, hnames⟩

end Newsdesk
