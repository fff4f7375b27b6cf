import Mathlib.Data.List.Basic
import Mathlib.Data.List.Induction
import Newsdesk.Proofs.Resource.Reported

/-!
# Transitions

Outcomes are recorded one after the other in a list with at most one condition of each kind. A kind
keeps its place in the list, and a new one comes at the end. What is found of a kind is the outcome
since which the last one has held without a break (`HeldSince`), so its time is that of the last
transition, however often the same outcome has been recorded after it.

The conditions that are there at first count as outcomes before all others, because recording them
one after the other in an empty list leaves the same list (`upsertAll_nil`). An outcome that is the
same as the one on record is dropped and another takes its place. So what is on record follows the
history of its kind by one rule (`renewed`), and the invariant of a run is about the outcome that
began the last stretch of its history, not about the last outcome.
-/

namespace Newsdesk

namespace Condition

variable {a b c first last new : Condition} {kind : ConditionKind} {changed : Bool}
  {before after conditions history initial : List Condition}

/-! ## One outcome -/

theorem Reports.exists_mem (h : Reports conditions new) : ∃ c ∈ conditions, c.kind = new.kind := by
  obtain ⟨c, hc, -⟩ := h
  exact ⟨c, List.mem_of_find?_eq_some hc, by simpa using List.find?_some hc⟩

/-- What recording an outcome does to a list of conditions, and whether it changes the list. -/
inductive Upserts (new : Condition) : List Condition → List Condition → Bool → Prop
  | kept {conditions : List Condition} :
      Reports conditions new → Upserts new conditions conditions false
  | replaced (front back : List Condition) {c : Condition} :
      (∀ b ∈ front, b.kind ≠ new.kind) → c.kind = new.kind → c.sameOutcome new = false →
      Upserts new (front ++ c :: back) (front ++ new :: back) true
  | added {conditions : List Condition} :
      (∀ c ∈ conditions, c.kind ≠ new.kind) → Upserts new conditions (conditions ++ [new]) true

theorem Upserts.cons (h : Upserts new before after changed) (hkind : b.kind ≠ new.kind) :
    Upserts new (b :: before) (b :: after) changed := by
  cases h with
  | kept hreports =>
    obtain ⟨c, hc, hsame⟩ := hreports
    exact .kept ⟨c, by simpa [find?, hkind] using hc, hsame⟩
  | replaced front back hfront hc hother =>
    exact .replaced (b :: front) back (List.forall_mem_cons.2 ⟨hkind, hfront⟩) hc hother
  | added hnone => exact .added (List.forall_mem_cons.2 ⟨hkind, hnone⟩)

theorem upserts (new : Condition) (conditions : List Condition) :
    Upserts new conditions (upsert new conditions).1 (upsert new conditions).2 := by
  induction conditions with
  | nil => exact .added nofun
  | cons c rest ih =>
    unfold upsert
    by_cases hkind : c.kind = new.kind
    · rw [if_pos hkind]
      by_cases hsame : c.sameOutcome new = true
      · rw [if_pos hsame]
        exact .kept ⟨c, by simp [find?, hkind], hsame⟩
      · rw [if_neg hsame]
        exact .replaced [] rest nofun hkind (by simpa using hsame)
    · rw [if_neg hkind]
      exact ih.cons hkind

/-- Kinds keep their places, and a new kind comes at the end. -/
theorem Upserts.map_kind (h : Upserts new before after changed) :
    after.map (·.kind) = if new.kind ∈ before.map (·.kind) then before.map (·.kind)
      else before.map (·.kind) ++ [new.kind] := by
  cases h with
  | kept hreports => rw [if_pos (List.mem_map.2 hreports.exists_mem)]
  | replaced _ _ _ hc _ =>
    rw [if_pos (by simp [hc])]
    simp [hc]
  | added hnone =>
    rw [if_neg (by simpa using hnone), List.map_append]
    rfl

/-- Conditions of other kinds stay where they are. -/
theorem Upserts.getElem?_of_ne (h : Upserts new before after changed) (hc : c.kind ≠ new.kind)
    (i : Nat) : after[i]? = some c ↔ before[i]? = some c := by
  have hne : new ≠ c := fun heq => hc (heq ▸ rfl)
  cases h with
  | kept _ => rfl
  | @replaced _ _ old _ hold _ =>
    have hne' : old ≠ c := fun heq => hc (heq ▸ hold)
    simp only [List.getElem?_append, List.getElem?_cons]
    split
    · rfl
    · split
      · simp [hne, hne']
      · rfl
  | added _ =>
    rw [List.getElem?_append]
    split
    · rfl
    · rename_i hlength
      simp [hlength, hne, List.getElem?_singleton]

/-- The list is said to have changed exactly if it has. -/
theorem Upserts.changed_iff (h : Upserts new before after changed) :
    changed = true ↔ after ≠ before := by
  cases h with
  | kept _ => simp
  | @replaced _ _ old _ _ hother =>
    have hne : new ≠ old := by
      rintro rfl
      rw [sameOutcome_self] at hother
      cases hother
    simp [hne]
  | added _ => simp

theorem Upserts.eq_concat (h : Upserts new before after changed)
    (hnone : ∀ c ∈ before, c.kind ≠ new.kind) : after = before ++ [new] := by
  cases h with
  | kept hreports =>
    obtain ⟨c, hc, hkind⟩ := hreports.exists_mem
    exact absurd hkind (hnone c hc)
  | replaced _ _ _ hc _ => exact absurd hc (hnone _ (by simp))
  | added _ => rfl

/-! ## What is found -/

theorem find?_eq_head? (kind : ConditionKind) (conditions : List Condition) :
    find? kind conditions = (conditions.filter (·.kind = kind)).head? :=
  List.head?_filter.symm

theorem find?_upsert_of_ne (h : new.kind ≠ kind) (conditions : List Condition) :
    find? kind (upsert new conditions).1 = find? kind conditions := by
  rw [find?_eq_head?, filter_upsert h, ← find?_eq_head?]

/-- What is on record after an outcome, by what was found of its kind before. -/
def renewed (new : Condition) : Option Condition → Condition
  | none => new
  | some c => if c.sameOutcome new then c else new

theorem find?_upsert_self (new : Condition) (conditions : List Condition) :
    find? new.kind (upsert new conditions).1 = some (renewed new (find? new.kind conditions)) := by
  rw [find?_eq_head?, filter_upsert_self, find?_eq_head?]
  cases conditions.filter (·.kind = new.kind) <;> rfl

theorem AtMostOnce.upsert (h : AtMostOnce conditions) (new : Condition) :
    AtMostOnce (upsert new conditions).1 := by
  intro kind
  by_cases hkind : new.kind = kind
  · subst hkind
    have honce := h new.kind
    rw [filter_upsert_self]
    cases hfilter : conditions.filter (·.kind = new.kind) with
    | nil => exact Nat.le_refl 1
    | cons c rest =>
      rw [hfilter] at honce
      exact honce
  · rw [filter_upsert hkind]
    exact h kind

theorem AtMostOnce.of_concat (h : AtMostOnce (conditions ++ [new])) :
    AtMostOnce conditions ∧ ∀ c ∈ conditions, c.kind ≠ new.kind := by
  refine ⟨fun kind => ?_, fun c hc hkind => ?_⟩
  · have hle := h kind
    rw [List.filter_append, List.length_append] at hle
    exact Nat.le_of_add_right_le hle
  · have hle := h new.kind
    have hpos : 0 < (conditions.filter (·.kind = new.kind)).length :=
      List.length_pos_of_mem (List.mem_filter.2 ⟨hc, by simpa using hkind⟩)
    have hself : [new].filter (·.kind = new.kind) = [new] := by simp
    rw [List.filter_append, List.length_append, hself, List.length_singleton] at hle
    omega

/-! ## Histories of a kind -/

/-- The last outcome of a history has held without a break since one of them: all after this one
are the same, and the one before it, if there is one, is another. -/
def HeldSince (history : List Condition) (first : Condition) : Prop :=
  ∃ front run, history = front ++ first :: run ∧
    (∀ c ∈ run, first.sameOutcome c = true) ∧
    ∀ c, front.getLast? = some c → c.sameOutcome first = false

theorem not_heldSince_nil : ¬ HeldSince [] first :=
  fun ⟨_, _, h, _⟩ => List.append_ne_nil_of_right_ne_nil _ (List.cons_ne_nil _ _) h.symm

theorem heldSince_concat : HeldSince (history ++ [new]) c ↔
    (HeldSince history c ∧ c.sameOutcome new = true) ∨
      (c = new ∧ ∀ last, history.getLast? = some last → last.sameOutcome new = false) := by
  constructor
  · rintro ⟨front, run, hhistory, hrun, hfront⟩
    -- The new outcome either is all there is of the run, or it comes at the end of an older one.
    rcases List.eq_nil_or_concat' run with rfl | ⟨init, x, rfl⟩
    · obtain ⟨rfl, hnew⟩ := List.append_inj' hhistory rfl
      cases hnew
      exact .inr ⟨rfl, hfront⟩
    · rw [← List.cons_append, ← List.append_assoc] at hhistory
      obtain ⟨rfl, hnew⟩ := List.append_inj' hhistory rfl
      cases hnew
      exact .inl ⟨⟨front, init, rfl, fun b hb => hrun b (List.mem_append_left _ hb), hfront⟩,
        hrun _ (List.mem_append_right _ List.mem_cons_self)⟩
  · rintro (⟨⟨front, run, rfl, hrun, hfront⟩, hnew⟩ | ⟨rfl, hlast⟩)
    · refine ⟨front, run ++ [new], by simp, fun b hb => ?_, hfront⟩
      rcases List.mem_append.1 hb with hb | hb
      · exact hrun b hb
      · rw [List.mem_singleton.1 hb]
        exact hnew
    · exact ⟨history, [], rfl, nofun, hlast⟩

theorem HeldSince.sameOutcome_last (h : HeldSince history first)
    (hlast : history.getLast? = some last) : first.sameOutcome last = true := by
  obtain ⟨front, rfl⟩ := List.getLast?_eq_some_iff.1 hlast
  rcases heldSince_concat.1 h with ⟨-, hsame⟩ | ⟨rfl, -⟩
  · exact hsame
  · exact sameOutcome_self first

theorem HeldSince.exists_last (h : HeldSince history first) :
    ∃ last, history.getLast? = some last := by
  rcases List.eq_nil_or_concat' history with rfl | ⟨front, last, rfl⟩
  · exact absurd h not_heldSince_nil
  · exact ⟨last, List.getLast?_concat⟩

theorem exists_heldSince (hlast : history.getLast? = some last) :
    ∃ first, HeldSince history first := by
  induction history using List.reverseRecOn generalizing last with
  | nil => cases hlast
  | append_singleton history new ih =>
    by_cases hsame : ∃ first, HeldSince history first ∧ first.sameOutcome new = true
    · obtain ⟨first, hfirst⟩ := hsame
      exact ⟨first, heldSince_concat.2 (.inl hfirst)⟩
    · refine ⟨new, heldSince_concat.2 (.inr ⟨rfl, fun before hbefore => ?_⟩)⟩
      obtain ⟨first, hfirst⟩ := ih hbefore
      by_contra hnew
      have hnew : before.sameOutcome new = true := by simpa using hnew
      exact hsame ⟨first, hfirst, sameOutcome_trans (hfirst.sameOutcome_last hbefore) hnew⟩

/-- One more outcome is a transition if it is not the one that has held. -/
theorem transition_iff :
    (∀ last, history.getLast? = some last → last.sameOutcome new = false) ↔
      ∀ first, HeldSince history first → first.sameOutcome new = false := by
  have hlike {first last} (hfirst : HeldSince history first)
      (hlast : history.getLast? = some last) : first.sameOutcome new = last.sameOutcome new := by
    have hsame := hfirst.sameOutcome_last hlast
    exact Bool.eq_iff_iff.2
      ⟨sameOutcome_trans (sameOutcome_symm hsame), sameOutcome_trans hsame⟩
  constructor
  · intro h first hfirst
    obtain ⟨last, hlast⟩ := hfirst.exists_last
    rw [hlike hfirst hlast]
    exact h last hlast
  · intro h last hlast
    obtain ⟨first, hfirst⟩ := exists_heldSince hlast
    rw [← hlike hfirst hlast]
    exact h first hfirst

/-- If what is found is what a history has held since, it is renewed by one more outcome. -/
theorem heldSince_concat_iff_renewed {found : Option Condition}
    (hfound : ∀ c, found = some c ↔ HeldSince history c) :
    HeldSince (history ++ [new]) c ↔ renewed new found = c := by
  rw [heldSince_concat, transition_iff]
  simp only [← hfound]
  cases found with
  | none => simp [renewed, @eq_comm _ new c]
  | some first =>
    by_cases hsame : first.sameOutcome new = true
    · simp only [renewed, if_pos hsame]
      constructor
      · rintro (⟨hfirst, -⟩ | ⟨-, hnew⟩)
        · exact Option.some.inj hfirst
        · exact absurd hsame (by simp [hnew first rfl])
      · rintro rfl
        exact .inl ⟨rfl, hsame⟩
    · simp only [renewed, if_neg hsame]
      constructor
      · rintro (⟨hfirst, hc⟩ | ⟨rfl, -⟩)
        · cases hfirst
          exact absurd hc hsame
        · rfl
      · rintro rfl
        refine .inr ⟨rfl, fun c hc => ?_⟩
        cases hc
        simpa using hsame

/-! ## Runs -/

/-- The conditions after outcomes have been recorded one after the other. -/
def upsertAll (conditions outcomes : List Condition) : List Condition :=
  outcomes.foldl (fun conditions new => (upsert new conditions).1) conditions

theorem upsertAll_concat (conditions outcomes : List Condition) (new : Condition) :
    upsertAll conditions (outcomes ++ [new]) = (upsert new (upsertAll conditions outcomes)).1 :=
  List.foldl_concat ..

/-- The conditions that are there at first are those that recording them would leave. -/
theorem upsertAll_nil (h : AtMostOnce conditions) : upsertAll [] conditions = conditions := by
  induction conditions using List.reverseRecOn with
  | nil => rfl
  | append_singleton conditions new ih =>
    obtain ⟨honce, hnone⟩ := h.of_concat
    rw [upsertAll_concat, ih honce, (upserts new conditions).eq_concat hnone]

theorem upsertAll_eq (h : AtMostOnce initial) (outcomes : List Condition) :
    upsertAll initial outcomes = upsertAll [] (initial ++ outcomes) := by
  unfold upsertAll
  rw [List.foldl_append]
  exact congrArg (upsertAll · outcomes) (upsertAll_nil h).symm

theorem atMostOnce_upsertAll (h : AtMostOnce initial) (outcomes : List Condition) :
    AtMostOnce (upsertAll initial outcomes) := by
  induction outcomes using List.reverseRecOn with
  | nil => exact h
  | append_singleton outcomes new ih =>
    rw [upsertAll_concat]
    exact ih.upsert new

/-- The kinds of all outcomes are there, in the order of their first appearance. -/
theorem map_kind_upsertAll_nil (outcomes : List Condition) :
    (upsertAll [] outcomes).map (·.kind) = (outcomes.map (·.kind)).eraseDups := by
  induction outcomes using List.reverseRecOn with
  | nil => rfl
  | append_singleton outcomes new ih =>
    rw [upsertAll_concat, (upserts new _).map_kind, ih, List.map_append, List.eraseDups_append]
    by_cases h : new.kind ∈ outcomes.map (·.kind)
    · have hnone : [new.kind].removeAll (outcomes.map (·.kind)) = [] := by
        simpa [List.removeAll] using h
      rw [if_pos (List.mem_eraseDups.2 h)]
      simp [hnone]
    · have hnew : [new.kind].removeAll (outcomes.map (·.kind)) = [new.kind] := by
        simpa [List.removeAll] using h
      rw [if_neg (mt List.mem_eraseDups.1 h)]
      simp [hnew, List.eraseDups_cons]

/-- What is found of a kind is what its history has held since. -/
theorem find?_upsertAll_nil (kind : ConditionKind) (outcomes : List Condition) (c : Condition) :
    find? kind (upsertAll [] outcomes) = some c ↔
      HeldSince (outcomes.filter (·.kind = kind)) c := by
  induction outcomes using List.reverseRecOn generalizing c with
  | nil => exact iff_of_false nofun not_heldSince_nil
  | append_singleton outcomes new ih =>
    rw [upsertAll_concat, List.filter_append]
    by_cases hkind : new.kind = kind
    · subst hkind
      have hself : [new].filter (·.kind = new.kind) = [new] := by simp
      rw [hself, heldSince_concat_iff_renewed ih, find?_upsert_self, Option.some.injEq]
    · have hnone : [new].filter (·.kind = kind) = [] := by simp [hkind]
      rw [hnone, List.append_nil, find?_upsert_of_ne hkind]
      exact ih c

/-- What a list of conditions tells of the outcomes recorded in an initial one. Kinds that were
there at first keep their places and the others follow in the order of their first outcome. What is
found of a kind, its time included, is the earliest outcome since which the latest has held. -/
structure TracksRun (initial outcomes conditions : List Condition) : Prop where
  once : AtMostOnce conditions
  kinds : conditions.map (·.kind) = initial.map (·.kind) ++
    ((outcomes.map (·.kind)).removeAll (initial.map (·.kind))).eraseDups
  latest : ∀ kind last, (outcomes.filter (·.kind = kind)).getLast? = some last →
    ∃ c, find? kind conditions = some c ∧ c.sameOutcome last = true
  since : ∀ kind c, find? kind conditions = some c ↔
    HeldSince ((initial ++ outcomes).filter (·.kind = kind)) c

/-- An outcome concerns the condition of its kind only: no kind changes its place, no condition of
another kind is touched, and the answer tells whether anything has changed. -/
structure ConcernsKind (new : Condition) (before after : List Condition) (changed : Bool) :
    Prop where
  places : before.map (·.kind) <+: after.map (·.kind)
  others : ∀ (i : Nat) (c : Condition), c.kind ≠ new.kind →
    (after[i]? = some c ↔ before[i]? = some c)
  told : changed = true ↔ after ≠ before

theorem Upserts.concernsKind (h : Upserts new before after changed) :
    ConcernsKind new before after changed where
  places := by
    rw [h.map_kind]
    split
    · exact List.prefix_refl _
    · exact List.prefix_append ..
  others i _ hc := h.getElem?_of_ne hc i
  told := h.changed_iff

theorem tracksRun_upsertAll (h : AtMostOnce initial) (outcomes : List Condition) :
    TracksRun initial outcomes (upsertAll initial outcomes) where
  once := atMostOnce_upsertAll h outcomes
  kinds := by
    have hinitial : (initial.map (·.kind)).eraseDups = initial.map (·.kind) := by
      rw [← map_kind_upsertAll_nil, upsertAll_nil h]
    rw [upsertAll_eq h, map_kind_upsertAll_nil, List.map_append, List.eraseDups_append, hinitial]
  latest kind last hlast := by
    have hhistory : ((initial ++ outcomes).filter (·.kind = kind)).getLast? = some last := by
      rw [List.filter_append, List.getLast?_append, hlast]
      rfl
    obtain ⟨c, hc⟩ := exists_heldSince hhistory
    rw [upsertAll_eq h]
    exact ⟨c, (find?_upsertAll_nil kind _ c).2 hc, hc.sameOutcome_last hhistory⟩
  since kind c := by
    rw [upsertAll_eq h]
    exact find?_upsertAll_nil kind _ c

end Condition

open Condition

/-- However many outcomes have been recorded in a list with at most one condition of each kind, the
list tracks them all, and one more concerns its kind only. -/
theorem conditions_track_outcomes {initial : List Condition} (h : AtMostOnce initial)
    (outcomes : List Condition) (new : Condition) :
    TracksRun initial outcomes (upsertAll initial outcomes) ∧
      ConcernsKind new (upsertAll initial outcomes) (upsert new (upsertAll initial outcomes)).1
        (upsert new (upsertAll initial outcomes)).2 :=
  ⟨tracksRun_upsertAll h outcomes, (upserts new _).concernsKind⟩

namespace FlappingFeed

def registered (now : String) : Condition :=
  ⟨.added, true, "SourceRegistered", "source registered with the news aggregator", "bbc", now⟩

def refused (now : String) : Condition :=
  ⟨.added, false, "AggregatorUnreachable", "connection refused", "bbc", now⟩

def kept (now : String) : Condition :=
  ⟨.deleted, false, "InternalError", "slow", "bbc", now⟩

def initial : List Condition := [registered "t0"]

def outcomes : List Condition :=
  [registered "t1", refused "t2", kept "t3", registered "t4", kept "t5", registered "t6"]

end FlappingFeed

open FlappingFeed in
/-- A feed that is registered again after a failure is so since then, and not since it was
registered at first. The same outcome once more changes nothing, and another does. -/
theorem flappingFeed_tracked :
    AtMostOnce initial ∧ TracksRun initial outcomes (upsertAll initial outcomes) ∧
      find? .added (upsertAll initial outcomes) = some (registered "t4") ∧
      find? .deleted (upsertAll initial outcomes) = some (kept "t3") ∧
      (upsert (registered "t7") (upsertAll initial outcomes)).2 = false ∧
      (upsert (refused "t7") (upsertAll initial outcomes)).2 = true := by
  have honce : AtMostOnce initial := by
    intro kind
    cases kind <;> decide
  obtain ⟨htracks, hagain⟩ := conditions_track_outcomes honce outcomes (registered "t7")
  obtain ⟨-, hother⟩ := conditions_track_outcomes honce outcomes (refused "t7")
  refine ⟨honce, htracks, (htracks.since _ _).2 ?_, (htracks.since _ _).2 ?_, ?_, ?_⟩
  · refine ⟨[registered "t0", registered "t1", refused "t2"], [registered "t6"], rfl, by decide, ?_⟩
    rintro c ⟨⟩
    decide
  · exact ⟨[], [kept "t5"], rfl, by decide, nofun⟩
  · exact Bool.eq_false_iff.2 (mt hagain.told.1 (by decide))
  · exact hother.told.2 (by decide)

end Newsdesk
