import Mathlib.Data.List.Forall2
import Mathlib.Data.List.Nodup
import Newsdesk.Proofs.Ownership.Plan

/-!
# Rounds of ownership changes

In a round the changes that a list of desired names asks for are planned and all of them written.
On feeds of different names a round is a change of each feed on its own (`ownerRound_eq_map`), and
what it leaves of the references to its owner (`settledReferences`) depends on those references and
the desired names only. So the plan of a round is exact and empty when it is made again, rounds
never touch the references to others, and the rounds of two owners can change places
(`ownerRounds_exact`).
-/

namespace Newsdesk

open Text

/-! ## One feed -/

section

variable {uid : String} {refs : List OwnerReference} {owner : OwnerReference}
  {desired : List String} {feed : Feed}

/-- The references to one owner. -/
def referencesTo (uid : String) (refs : List OwnerReference) : List OwnerReference :=
  refs.filter fun r => r.uid = uid

theorem hasOwner_iff_referencesTo : hasOwner uid refs ↔ referencesTo uid refs ≠ [] := by
  simp [hasOwner, referencesTo, List.filter_eq_nil_iff]

theorem isOwnedBy_eq_false_iff :
    isOwnedBy feed uid = false ↔ referencesTo uid feed.metadata.owners = [] := by
  simp [isOwnedBy, referencesTo, List.filter_eq_nil_iff]

@[simp] theorem referencesTo_append (uid : String) (refs more : List OwnerReference) :
    referencesTo uid (refs ++ more) = referencesTo uid refs ++ referencesTo uid more :=
  List.filter_append ..

@[simp] theorem referencesTo_self (owner : OwnerReference) :
    referencesTo owner.uid [owner] = [owner] := by
  simp [referencesTo]

@[simp] theorem referencesTo_otherOwners_self (uid : String) (refs : List OwnerReference) :
    referencesTo uid (otherOwners uid refs) = [] := by
  simp [referencesTo, otherOwners]

/-- The references to an owner are among the others of everyone else. -/
theorem referencesTo_otherOwners {other : String} (h : uid ≠ other) :
    referencesTo uid (otherOwners other refs) = referencesTo uid refs := by
  unfold referencesTo otherOwners
  rw [List.filter_filter]
  refine List.filter_congr fun r _ => ?_
  by_cases huid : r.uid = uid
  · simp [huid, h]
  · simp [huid]

/-- A feed after a round: with the change that it needs, if it needs one. -/
def Feed.afterRound (owner : OwnerReference) (desired : List String) (feed : Feed) : Feed :=
  match ownerChange? owner desired feed with
  | some change => feed.withOwners change
  | none => feed

/-- What a round leaves of the references to its owner. -/
def settledReferences (owner : OwnerReference) (wanted : Bool) (own : List OwnerReference) :
    List OwnerReference :=
  if wanted then if own = [] then [owner] else own else []

/-- Two feeds differ in their owner references at most. -/
def SameButOwners (f f' : Feed) : Prop :=
  f' = { f with metadata := { f.metadata with
    ownerReferences := f'.metadata.ownerReferences } }

theorem SameButOwners.trans {f g h : Feed} (hfg : SameButOwners f g) (hgh : SameButOwners g h) :
    SameButOwners f h := by
  unfold SameButOwners at *
  rw [hgh, hfg]

theorem SameButOwners.symm {f g : Feed} (h : SameButOwners f g) : SameButOwners g f := by
  unfold SameButOwners at *
  rw [h]

theorem sameButOwners_afterRound (owner : OwnerReference) (desired : List String) (feed : Feed) :
    SameButOwners feed (feed.afterRound owner desired) := by
  unfold SameButOwners Feed.afterRound
  cases ownerChange? owner desired feed <;> rfl

@[simp] theorem displayName_afterRound (owner : OwnerReference) (desired : List String)
    (feed : Feed) :
    (feed.afterRound owner desired).metadata.displayName = feed.metadata.displayName := by
  unfold Feed.afterRound
  cases ownerChange? owner desired feed <;> rfl

@[simp] theorem isWanted_afterRound (owner : OwnerReference) (desired names : List String)
    (feed : Feed) : isWanted names (feed.afterRound owner desired) = isWanted names feed := by
  unfold Feed.afterRound
  cases ownerChange? owner desired feed <;> rfl

@[simp] theorem otherOwners_afterRound (owner : OwnerReference) (desired : List String)
    (feed : Feed) : otherOwners owner.uid (feed.afterRound owner desired).metadata.owners =
      otherOwners owner.uid feed.metadata.owners := by
  unfold Feed.afterRound
  cases hchange : ownerChange? owner desired feed with
  | none => rfl
  | some change => exact otherOwners_of_ownerChange? hchange

theorem referencesTo_afterRound (owner : OwnerReference) (desired : List String) (feed : Feed) :
    referencesTo owner.uid (feed.afterRound owner desired).metadata.owners =
      settledReferences owner (isWanted desired feed)
        (referencesTo owner.uid feed.metadata.owners) := by
  unfold Feed.afterRound settledReferences
  cases hchange : ownerChange? owner desired feed with
  | none =>
    -- the feed is owned as it is wanted
    rw [ownerChange?_eq_none_iff.1 hchange]
    cases howned : isOwnedBy feed owner.uid with
    | false => exact isOwnedBy_eq_false_iff.1 howned
    | true =>
      have hsome : referencesTo owner.uid feed.metadata.owners ≠ [] :=
        hasOwner_iff_referencesTo.1 (isOwnedBy_iff.1 howned)
      rw [if_pos rfl, if_neg hsome]
  | some change =>
    change referencesTo owner.uid change.owners = _
    obtain ⟨-, -, ⟨hwanted, hfree, howners⟩ | ⟨hwanted, -, howners⟩⟩ := ownerChange?_cases hchange
    · rw [howners, hwanted, isOwnedBy_eq_false_iff.1 hfree]
      simp
    · rw [howners, hwanted]
      simp

/-- A round does not touch the references to others. -/
theorem referencesTo_afterRound_of_ne {other : String} (h : other ≠ owner.uid) :
    referencesTo other (feed.afterRound owner desired).metadata.owners =
      referencesTo other feed.metadata.owners := by
  rw [← referencesTo_otherOwners h, otherOwners_afterRound, referencesTo_otherOwners h]

theorem hasOwner_afterRound_iff :
    hasOwner owner.uid (feed.afterRound owner desired).metadata.owners ↔
      isWanted desired feed = true := by
  rw [hasOwner_iff_referencesTo, referencesTo_afterRound]
  unfold settledReferences
  cases isWanted desired feed with
  | false => simp
  | true =>
    by_cases hnone : referencesTo owner.uid feed.metadata.owners = [] <;> simp [hnone]

/-- After a round a feed needs no change. -/
theorem ownerChange?_afterRound (owner : OwnerReference) (desired : List String) (feed : Feed) :
    ownerChange? owner desired (feed.afterRound owner desired) = none := by
  rw [ownerChange?_eq_none_iff, isWanted_afterRound, Bool.eq_iff_iff, isOwnedBy_iff,
    hasOwner_afterRound_iff]

/-- How often a feed refers to an owner after a round. -/
theorem count_afterRound (owner : OwnerReference) (desired : List String) (feed : Feed)
    (r : OwnerReference) : (feed.afterRound owner desired).metadata.owners.count r =
      if r.uid = owner.uid then
        (settledReferences owner (isWanted desired feed)
          (referencesTo owner.uid feed.metadata.owners)).count r
      else feed.metadata.owners.count r := by
  have hown (refs : List OwnerReference) (h : r.uid = owner.uid) :
      (referencesTo owner.uid refs).count r = refs.count r :=
    List.count_filter (decide_eq_true h)
  have hothers (refs : List OwnerReference) (h : r.uid ≠ owner.uid) :
      (otherOwners owner.uid refs).count r = refs.count r :=
    List.count_filter (decide_eq_true h)
  split
  · rename_i h
    rw [← referencesTo_afterRound, hown _ h]
  · rename_i h
    rw [← hothers _ h, otherOwners_afterRound, hothers _ h]

/-- The rounds of two owners can change places. -/
theorem afterRound_perm {owner' : OwnerReference} (h : owner.uid ≠ owner'.uid)
    (desired desired' : List String) (feed : Feed) :
    ((feed.afterRound owner desired).afterRound owner' desired').metadata.owners.Perm
      ((feed.afterRound owner' desired').afterRound owner desired).metadata.owners := by
  rw [List.perm_iff_count]
  intro r
  rw [count_afterRound, count_afterRound owner desired, count_afterRound owner desired,
    count_afterRound owner' desired', isWanted_afterRound, isWanted_afterRound,
    referencesTo_afterRound_of_ne h, referencesTo_afterRound_of_ne h.symm]
  by_cases huid : r.uid = owner.uid
  · have hne : r.uid ≠ owner'.uid := huid ▸ h
    simp [huid, h]
  · simp [huid]

end

/-! ## All feeds -/

/-- The names under which feeds are stored are different. -/
def DistinctNames (feeds : List Feed) : Prop :=
  (feeds.map fun f => f.metadata.displayName).Nodup

/-- The feeds after a round: its changes are planned and all of them are written. -/
def ownerRound (owner : OwnerReference) (feeds : List Feed) (desired : List String) : List Feed :=
  applyOwnerChanges (planOwnerChanges feeds owner desired) feeds

/-- The feeds after rounds, one after the other. -/
def ownerRounds (owner : OwnerReference) (feeds : List Feed) (rounds : List (List String)) :
    List Feed :=
  rounds.foldl (ownerRound owner) feeds

section

variable {owner : OwnerReference} {desired : List String} {feeds : List Feed}

/-- A change is written to its feed and to no other. -/
theorem applyOwnerChanges_cons {change : OwnerChange} {f : Feed} {before after : List Feed}
    (hnames : DistinctNames (before ++ f :: after)) (hchange : change.feed = f.metadata.displayName)
    (changes : List OwnerChange) :
    applyOwnerChanges (change :: changes) (before ++ f :: after) =
      applyOwnerChanges changes (before ++ f.withOwners change :: after) := by
  have hother {g : Feed} (hg : g.metadata.displayName ≠ change.feed) :
      (if g.metadata.displayName = change.feed then g.withOwners change else g) = g := if_neg hg
  unfold DistinctNames at hnames
  rw [List.map_append, List.map_cons, List.nodup_middle, List.nodup_cons,
    ← List.map_append] at hnames
  have hfresh (g : Feed) (hg : g ∈ before ++ after) : g.metadata.displayName ≠ change.feed := by
    intro h
    exact hnames.1 (List.mem_map.2 ⟨g, hg, h.trans hchange⟩)
  have hbefore := List.map_congr_left fun g hg => hother (hfresh g (List.mem_append_left after hg))
  have hafter := List.map_congr_left fun g hg => hother (hfresh g (List.mem_append_right before hg))
  unfold applyOwnerChanges
  rw [List.foldl_cons, List.map_append, List.map_cons, hbefore, hafter, List.map_id', List.map_id',
    if_pos hchange.symm]

/-- The changes that are planned for the feeds at the end of a list are written to them. -/
theorem applyOwnerChanges_append {before after : List Feed}
    (hnames : DistinctNames (before ++ after)) (owner : OwnerReference) (desired : List String) :
    applyOwnerChanges (planOwnerChanges after owner desired) (before ++ after) =
      before ++ after.map (Feed.afterRound owner desired) := by
  induction after generalizing before with
  | nil => rfl
  | cons f rest ih =>
    have hmoved (f' : Feed) (hname : f'.metadata.displayName = f.metadata.displayName) :
        DistinctNames ((before ++ [f']) ++ rest) := by
      unfold DistinctNames at hnames ⊢
      rw [List.map_append, List.map_cons] at hnames
      rwa [List.append_assoc, List.singleton_append, List.map_append, List.map_cons, hname]
    unfold planOwnerChanges at ih ⊢
    rw [List.map_cons]
    cases hchange : ownerChange? owner desired f with
    | none =>
      have hkept : f.afterRound owner desired = f := by rw [Feed.afterRound, hchange]
      rw [List.filterMap_cons_none hchange, hkept]
      simpa using ih (hmoved f rfl)
    | some change =>
      have hwritten : f.afterRound owner desired = f.withOwners change := by
        rw [Feed.afterRound, hchange]
      rw [List.filterMap_cons_some hchange, hwritten,
        applyOwnerChanges_cons hnames (ownerChange?_cases hchange).1]
      simpa using ih (hmoved (f.withOwners change) rfl)

/-- On feeds of different names a round changes each feed on its own. -/
theorem ownerRound_eq_map (hnames : DistinctNames feeds) (owner : OwnerReference)
    (desired : List String) :
    ownerRound owner feeds desired = feeds.map (Feed.afterRound owner desired) :=
  @applyOwnerChanges_append [] feeds hnames owner desired

theorem DistinctNames.afterRound (hnames : DistinctNames feeds) (owner : OwnerReference)
    (desired : List String) : DistinctNames (feeds.map (Feed.afterRound owner desired)) := by
  unfold DistinctNames at hnames ⊢
  simpa [List.map_map, Function.comp_def] using hnames

/-- Rounds change each feed on its own, and of its owners those only whose rounds they are. -/
theorem exists_ownerRounds_eq_map (hnames : DistinctNames feeds) (owner : OwnerReference)
    (rounds : List (List String)) : ∃ after : Feed → Feed,
      ownerRounds owner feeds rounds = feeds.map after ∧ DistinctNames (feeds.map after) ∧
        ∀ f, SameButOwners f (after f) ∧
          otherOwners owner.uid (after f).metadata.owners =
            otherOwners owner.uid f.metadata.owners := by
  induction rounds generalizing feeds with
  | nil => exact ⟨id, by simp [ownerRounds], by simpa using hnames, fun f => ⟨rfl, rfl⟩⟩
  | cons desired rest ih =>
    obtain ⟨after, hafter, hdistinct, hframe⟩ := ih (hnames.afterRound owner desired)
    refine ⟨after ∘ Feed.afterRound owner desired, ?_, ?_, fun f => ?_⟩
    · rw [← List.map_map, ← hafter, ← ownerRound_eq_map hnames]
      rfl
    · rwa [← List.map_map]
    · obtain ⟨hsame, hothers⟩ := hframe (f.afterRound owner desired)
      exact ⟨(sameButOwners_afterRound owner desired f).trans hsame,
        hothers.trans (otherOwners_afterRound owner desired f)⟩

/-- A change is planned for a feed if it needs one. -/
theorem exists_planned_iff (hnames : DistinctNames feeds) {f : Feed} (hf : f ∈ feeds) :
    (∃ change ∈ planOwnerChanges feeds owner desired, change.feed = f.metadata.displayName) ↔
      ownerChange? owner desired f ≠ none := by
  simp only [planOwnerChanges, List.mem_filterMap, Option.ne_none_iff_exists']
  constructor
  · rintro ⟨change, ⟨g, hg, hchange⟩, hname⟩
    obtain rfl : g = f := List.inj_on_of_nodup_map hnames hg hf
      ((ownerChange?_cases hchange).1.symm.trans hname)
    exact ⟨change, hchange⟩
  · rintro ⟨change, hchange⟩
    exact ⟨change, ⟨f, hf, hchange⟩, (ownerChange?_cases hchange).1⟩

/-- What a round does to a feed, with the changes that were planned for it. -/
structure RoundEffect (owner : OwnerReference) (desired : List String) (changes : List OwnerChange)
    (f f' : Feed) : Prop where
  same : SameButOwners f f'
  owned : hasOwner owner.uid f'.metadata.owners ↔ ∃ d ∈ desired, trim d = trim f.spec.name
  planned : (∃ change ∈ changes, change.feed = f.metadata.displayName) ↔
    ¬ (hasOwner owner.uid f'.metadata.owners ↔ hasOwner owner.uid f.metadata.owners)
  others : otherOwners owner.uid f'.metadata.owners = otherOwners owner.uid f.metadata.owners
  /-- Repeated references are left to an owner that keeps the feed. -/
  kept : (hasOwner owner.uid f'.metadata.owners ↔ hasOwner owner.uid f.metadata.owners) → f' = f
  gained : ¬ hasOwner owner.uid f.metadata.owners → hasOwner owner.uid f'.metadata.owners →
    referencesTo owner.uid f'.metadata.owners = [owner]
  lost : hasOwner owner.uid f.metadata.owners → ¬ hasOwner owner.uid f'.metadata.owners →
    referencesTo owner.uid f'.metadata.owners = []

theorem roundEffect (hnames : DistinctNames feeds) {f : Feed} (hf : f ∈ feeds) :
    RoundEffect owner desired (planOwnerChanges feeds owner desired) f
      (f.afterRound owner desired) := by
  have hneeds : ownerChange? owner desired f = none ↔
      (hasOwner owner.uid (f.afterRound owner desired).metadata.owners ↔
        hasOwner owner.uid f.metadata.owners) := by
    rw [ownerChange?_eq_none_iff, Bool.eq_iff_iff, hasOwner_afterRound_iff, isOwnedBy_iff]
  exact {
    same := sameButOwners_afterRound owner desired f
    owned := hasOwner_afterRound_iff.trans isWanted_iff
    planned := by rw [exists_planned_iff hnames hf, Ne, hneeds]
    others := otherOwners_afterRound owner desired f
    kept := fun hkept => by rw [Feed.afterRound, hneeds.2 hkept]
    gained := fun hfree howned => by
      have hnone : referencesTo owner.uid f.metadata.owners = [] := by
        simpa [hasOwner_iff_referencesTo] using hfree
      rw [referencesTo_afterRound, hasOwner_afterRound_iff.1 howned, hnone]
      rfl
    lost := fun _ hlost => by simpa [hasOwner_iff_referencesTo] using hlost }

/-- Rounds of ownership changes converge and commute. After any rounds, the next one makes its owner
own exactly the desired feeds by changes of exactly the feeds for which this is new, and planning it
again gives nothing; the references to others are what they were at the start. The rounds of two
owners lead to the same references in either order. -/
theorem ownerRounds_exact {feeds : List Feed} (hnames : DistinctNames feeds) :
    (∀ (owner : OwnerReference) (rounds : List (List String)) (desired : List String),
      let before := ownerRounds owner feeds rounds
      let changes := planOwnerChanges before owner desired
      let after := applyOwnerChanges changes before
      List.Forall₂ (RoundEffect owner desired changes) before after ∧
        planOwnerChanges after owner desired = [] ∧
        List.Forall₂ (fun f f' => SameButOwners f f' ∧
          otherOwners owner.uid f'.metadata.owners = otherOwners owner.uid f.metadata.owners)
          feeds after) ∧
    ∀ (owner owner' : OwnerReference) (desired desired' : List String),
      owner.uid ≠ owner'.uid →
        List.Forall₂ (fun f f' => SameButOwners f f' ∧ f.metadata.owners.Perm f'.metadata.owners)
          (ownerRound owner' (ownerRound owner feeds desired) desired')
          (ownerRound owner (ownerRound owner' feeds desired') desired) := by
  refine ⟨fun owner rounds desired => ?_, fun owner owner' desired desired' hne => ?_⟩
  · obtain ⟨earlier, hearlier, hdistinct, hframe⟩ := exists_ownerRounds_eq_map hnames owner rounds
    intro before changes after
    have hbefore : before = feeds.map earlier := hearlier
    have hnames' : DistinctNames before := hbefore ▸ hdistinct
    have hafter : after = before.map (Feed.afterRound owner desired) :=
      ownerRound_eq_map hnames' owner desired
    refine ⟨?_, ?_, ?_⟩
    · rw [hafter, List.forall₂_map_right_iff, List.forall₂_same]
      exact fun f hf => roundEffect hnames' hf
    · rw [hafter, planOwnerChanges, List.filterMap_map, List.filterMap_eq_nil_iff]
      exact fun f _ => ownerChange?_afterRound owner desired f
    · rw [hafter, hbefore, List.map_map, List.forall₂_map_right_iff, List.forall₂_same]
      intro f _
      obtain ⟨hsame, hothers⟩ := hframe f
      exact ⟨hsame.trans (sameButOwners_afterRound owner desired _),
        (otherOwners_afterRound owner desired _).trans hothers⟩
  · rw [ownerRound_eq_map hnames, ownerRound_eq_map hnames,
      ownerRound_eq_map (hnames.afterRound owner desired),
      ownerRound_eq_map (hnames.afterRound owner' desired'), List.map_map, List.map_map,
      List.forall₂_map_left_iff, List.forall₂_map_right_iff, List.forall₂_same]
    intro f _
    have hsame (first second : OwnerReference) (names names' : List String) :
        SameButOwners f ((f.afterRound first names).afterRound second names') :=
      (sameButOwners_afterRound first names f).trans (sameButOwners_afterRound second names' _)
    exact ⟨(hsame owner owner' desired desired').symm.trans (hsame owner' owner desired' desired),
      afterRound_perm hne desired desired' f⟩

end

namespace SharedShelf

def reference (uid : String) : OwnerReference :=
  ⟨apiGroupVersion, Collection.hotNews.kind, "query-" ++ uid, uid, some false, none⟩

def feed (own name : String) (owners : List String) : Feed :=
  ⟨{ Metadata.empty with name := some own, ownerReferences := some (owners.map reference) },
    ⟨name, "http://feeds.example/" ++ own⟩, none⟩

/-- A feed with repeated references, one with a foreign reference only and one without any. -/
def feeds : List Feed :=
  [feed "a" "\u2003bbc" ["u", "w", "u"], feed "b" "fox " ["w"], feed "c" "sky" []]

end SharedShelf

open SharedShelf

/-- One query goes from one feed to another, and a second query takes two of them. -/
theorem sharedShelf_exact : DistinctNames feeds ∧ (reference "u").uid ≠ (reference "v").uid ∧
    ((planOwnerChanges (ownerRounds (reference "u") feeds [["bbc"]]) (reference "u")
      [" fox", "gone"]).map fun c => (c.feed, c.action)) = [("a", .remove), ("b", .add)] ∧
    ((ownerRounds (reference "u") feeds [["bbc"], [" fox", "gone"]]).map fun f =>
      f.metadata.owners.map OwnerReference.uid) = [["w"], ["w", "u"], []] ∧
    planOwnerChanges (ownerRounds (reference "u") feeds [["bbc"], [" fox", "gone"]])
      (reference "u") [" fox", "gone"] = [] ∧
    List.Forall₂ (fun f f' => SameButOwners f f' ∧ f.metadata.owners.Perm f'.metadata.owners)
      (ownerRound (reference "v") (ownerRound (reference "u") feeds ["sky", "fox"]) ["bbc", "sky"])
      (ownerRound (reference "u") (ownerRound (reference "v") feeds ["bbc", "sky"])
        ["sky", "fox"]) := by
  have hnames : DistinctNames feeds := by
    unfold DistinctNames
    decide
  have hne : (reference "u").uid ≠ (reference "v").uid := by decide
  obtain ⟨hrounds, htwo⟩ := ownerRounds_exact hnames
  obtain ⟨-, hagain, -⟩ := hrounds (reference "u") [["bbc"]] [" fox", "gone"]
  exact ⟨hnames, hne, by decide +kernel, by decide +kernel, hagain, htwo _ _ _ _ hne⟩

end Newsdesk
