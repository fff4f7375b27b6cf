import Newsdesk.Reconcile.Status

/-!
# Outcomes that are reported

A list of conditions reports an outcome if the first condition of its kind does. Recording an
outcome has it reported, and recording one that is reported changes nothing, whatever the time is.
So the status after an attempt is the one on record when the attempt ends as the last one did.
-/

namespace Newsdesk

namespace Condition

variable {a b c new : Condition} {conditions : List Condition}

theorem sameOutcome_iff :
    a.sameOutcome b = true ↔ a = { b with lastUpdateTime := a.lastUpdateTime } := by
  obtain ⟨kind, success, reason, message, name, time⟩ := a
  simp [sameOutcome]

theorem sameOutcome_self (c : Condition) : c.sameOutcome c = true := sameOutcome_iff.2 rfl

theorem sameOutcome_symm (h : a.sameOutcome b = true) : b.sameOutcome a = true := by
  rw [sameOutcome_iff] at h ⊢
  rw [h]

theorem sameOutcome_trans (hab : a.sameOutcome b = true) (hbc : b.sameOutcome c = true) :
    a.sameOutcome c = true := by
  rw [sameOutcome_iff] at hab hbc ⊢
  rw [hab, hbc]

/-- There is at most one condition of each kind. -/
def AtMostOnce (conditions : List Condition) : Prop :=
  ∀ kind, (conditions.filter (·.kind = kind)).length ≤ 1

/-- The first condition of the kind of an outcome reports this outcome. -/
def Reports (conditions : List Condition) (outcome : Condition) : Prop :=
  ∃ c, find? outcome.kind conditions = some c ∧ c.sameOutcome outcome = true

theorem Reports.of_sameOutcome (h : Reports conditions a) (hab : a.sameOutcome b = true) :
    Reports conditions b := by
  obtain ⟨c, hc, hsame⟩ := h
  have hkind : a.kind = b.kind := by rw [sameOutcome_iff.1 hab]
  exact ⟨c, hkind ▸ hc, sameOutcome_trans hsame hab⟩

theorem reports_upsert (new : Condition) (conditions : List Condition) :
    Reports (upsert new conditions).1 new := by
  have hself := sameOutcome_self new
  induction conditions with
  | nil => exact ⟨new, by simp [upsert, find?], hself⟩
  | cons c rest ih =>
    obtain ⟨found, hfound, hsame⟩ := ih
    unfold upsert
    split
    · rename_i hkind
      split
      · rename_i hc
        exact ⟨c, by simp [find?, hkind], hc⟩
      · exact ⟨new, by simp [find?], hself⟩
    · rename_i hkind
      exact ⟨found, by simpa [find?, hkind] using hfound, hsame⟩

/-- Recording an outcome leaves the conditions of other kinds. -/
theorem filter_upsert {kind : ConditionKind} (h : new.kind ≠ kind) (conditions : List Condition) :
    (upsert new conditions).1.filter (·.kind = kind) = conditions.filter (·.kind = kind) := by
  induction conditions with
  | nil => simp [upsert, h]
  | cons c rest ih =>
    unfold upsert
    by_cases hkind : c.kind = new.kind
    · rw [if_pos hkind]
      split
      · rfl
      · simp [h, hkind]
    · rw [if_neg hkind]
      simp only [List.filter_cons, ih]

/-- An outcome that is reported is not recorded again. -/
theorem Reports.upsert_eq (h : Reports conditions new) :
    (upsert new conditions).1 = conditions := by
  induction conditions with
  | nil =>
    obtain ⟨c, hc, -⟩ := h
    cases hc
  | cons first rest ih =>
    obtain ⟨c, hc, hsame⟩ := h
    unfold upsert
    by_cases hkind : first.kind = new.kind
    · have hfirst : first = c := by simpa [find?, hkind] using hc
      rw [if_pos hkind, if_pos (hfirst ▸ hsame)]
    · rw [if_neg hkind]
      exact congrArg (first :: ·) (ih ⟨c, by simpa [find?, hkind] using hc, hsame⟩)

/-- Of the conditions of its kind, recording an outcome concerns the first one. -/
theorem filter_upsert_self (new : Condition) (conditions : List Condition) :
    (upsert new conditions).1.filter (·.kind = new.kind) =
      match conditions.filter (·.kind = new.kind) with
      | [] => [new]
      | c :: rest => (if c.sameOutcome new then c else new) :: rest := by
  induction conditions with
  | nil => simp [upsert]
  | cons c rest ih =>
    unfold upsert
    by_cases hkind : c.kind = new.kind
    · rw [if_pos hkind]
      split <;> simp [*]
    · rw [if_neg hkind]
      simpa [hkind] using ih

/-- The time since which an outcome is shown, by the condition that was found before: that of the
condition if it tells the outcome, and else the present. -/
inductive ShownSince (outcome : String → Condition) (now : String) :
    Option Condition → String → Prop
  | before (time : String) : ShownSince outcome now (some (outcome time)) time
  | now {found : Option Condition} (new : ∀ time, found ≠ some (outcome time)) :
    ShownSince outcome now found now

/-- An outcome that has been recorded is shown first of its kind, the other conditions of the kind
after it. -/
theorem exists_shownSince (new : Condition) (conditions : List Condition) :
    ∃ time, ShownSince (fun time => { new with lastUpdateTime := time }) new.lastUpdateTime
        (conditions.find? (·.kind = new.kind)) time ∧
      (upsert new conditions).1.filter (·.kind = new.kind) =
        { new with lastUpdateTime := time } :: (conditions.filter (·.kind = new.kind)).tail := by
  rw [filter_upsert_self, ← List.head?_filter]
  cases conditions.filter (·.kind = new.kind) with
  | nil => exact ⟨_, .now nofun, rfl⟩
  | cons c rest =>
    by_cases hsame : c.sameOutcome new = true
    · obtain ⟨time, rfl⟩ : ∃ time, c = { new with lastUpdateTime := time } :=
        ⟨_, sameOutcome_iff.1 hsame⟩
      exact ⟨time, .before time, by simp only [hsame, if_true, List.tail_cons]⟩
    · refine ⟨new.lastUpdateTime, .now fun time heq => hsame ?_, ?_⟩
      · rw [Option.some.inj heq]
        exact sameOutcome_iff.2 rfl
      · simp only [hsame, Bool.false_eq_true, if_false, List.tail_cons]

end Condition

/-! ## Outcomes of attempts -/

/-- Two failures that a status shows in one way. -/
def Failure.Alike (f f' : Failure) : Prop := f.full = f'.full ∧ f.reason = f'.reason

theorem sameOutcome_failureCondition {f f' : Failure} (h : f.Alike f') (kind : ConditionKind)
    (name now now' : String) :
    (failureCondition kind f name now).sameOutcome (failureCondition kind f' name now') = true := by
  rw [Condition.sameOutcome_iff]
  simp [failureCondition, h.1, h.2]

/-- Two outcomes that a status shows in one way. -/
def AlikeOutcomes {α : Type} : Except Failure α → Except Failure α → Prop
  | .ok a, .ok b => a = b
  | .error f, .error f' => f.Alike f'
  | _, _ => False

theorem AlikeOutcomes.refl {α : Type} (outcome : Except Failure α) :
    AlikeOutcomes outcome outcome := by
  cases outcome with
  | ok a => rfl
  | error f => exact ⟨rfl, rfl⟩

section

variable {outcome outcome' : Except Failure Unit} {f f' : Feed} {kind : ConditionKind}
  {now now' : String}

/-- A feed whose status is that of an attempt keeps it when the next one ends in the same way. -/
theorem feedStatusAfter_again (h : AlikeOutcomes outcome outcome') (hspec : f'.spec = f.spec)
    (hstatus : f'.status = some (feedStatusAfter f kind outcome now)) :
    f'.status = some (feedStatusAfter f' kind outcome' now') := by
  have hsame : (feedCondition f kind outcome now).sameOutcome
      (feedCondition f' kind outcome' now') = true := by
    cases outcome <;> cases outcome' <;> simp only [feedCondition, hspec]
    · exact sameOutcome_failureCondition h kind _ _ _
    · cases h
    · cases h
    · exact Condition.sameOutcome_iff.2 rfl
  have hreports := (Condition.reports_upsert (feedCondition f kind outcome now)
    (f.status.getD ⟨[]⟩).conditions).of_sameOutcome hsame
  have hconditions := hreports.upsert_eq
  unfold feedStatusAfter at hstatus ⊢
  simp only [hstatus, Option.getD_some, hconditions]

end

section

variable {outcome outcome' : Except Failure NewsSummary} {h h' : HotNews} {now now' : String}

/-- A query whose status is that of a run keeps it when the next one ends in the same way. -/
theorem hotNewsStatusAfter_again (ha : AlikeOutcomes outcome outcome')
    (hname : h'.metadata.displayName = h.metadata.displayName)
    (hstatus : h'.status = some (hotNewsStatusAfter h outcome now)) :
    h'.status = some (hotNewsStatusAfter h' outcome' now') := by
  have hsame : (hotNewsCondition h.metadata.displayName outcome now).sameOutcome
      (hotNewsCondition h'.metadata.displayName outcome' now') = true := by
    rw [hname]
    cases outcome <;> cases outcome'
    · exact sameOutcome_failureCondition ha _ _ _ _
    · cases ha
    · cases ha
    · cases ha
      exact Condition.sameOutcome_iff.2 rfl
  have hreports := (Condition.reports_upsert _
    (h.status.getD .empty).conditions).of_sameOutcome hsame
  have hconditions := hreports.upsert_eq
  cases outcome <;> cases outcome'
  case error.error =>
    unfold hotNewsStatusAfter at hstatus ⊢
    simp only [hstatus, Option.getD_some, hconditions]
  case ok.ok =>
    cases ha
    unfold hotNewsStatusAfter at hstatus ⊢
    simp only [hstatus, Option.getD_some, hconditions]
  all_goals cases ha

end

end Newsdesk
