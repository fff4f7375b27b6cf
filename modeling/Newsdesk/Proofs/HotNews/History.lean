import Newsdesk.Proofs.Resource.Reported

/-!
# The status of a query over its history

Outcomes are recorded one after the other, each in the status that the one before has left
(`Recorded`). Whatever their times are, the status shows the articles of the last success and tells
the last outcome in its only condition about fetching news, and it keeps all other conditions
(`HotNewsStatus.Follows`). It is written again unless it shows already what is to be recorded
(`Repeats`).

A failure leaves the articles alone and a success replaces them, so the invariant over a history is
about the last success in it, not about the last outcome.
-/

namespace Newsdesk

/-! ## Conditions about an outcome -/

/-- The condition tells how fetching news for the query of a name has ended; of a failure it tells
what was being done, the outermost first, and then the causes. -/
def Condition.Tells (c : Condition) (name : String) : Except Failure NewsSummary → Prop
  | .ok summary => c.success = true ∧ c.reason = "NewsFetched" ∧
      c.message = "fetched " ++ toString summary.articlesCount ++ " articles" ∧
      c.lastUpdatedName = name
  | .error f => c.success = false ∧ c.reason = f.reason.name ∧
      c.message = ": ".intercalate (f.context ++ f.cause.chain) ∧ c.lastUpdatedName = name

section

variable {c : Condition} {name now : String} {outcome : Except Failure NewsSummary}

theorem hotNewsCondition_kind (name : String) (outcome : Except Failure NewsSummary)
    (now : String) : (hotNewsCondition name outcome now).kind = .added := by
  cases outcome <;> rfl

theorem tells_hotNewsCondition (name : String) (outcome : Except Failure NewsSummary)
    (now : String) : (hotNewsCondition name outcome now).Tells name outcome := by
  cases outcome <;> exact ⟨rfl, rfl, rfl, rfl⟩

/-- A condition reports an outcome if it tells it. The time does not count. -/
theorem sameOutcome_hotNewsCondition_iff (hkind : c.kind = .added) :
    c.sameOutcome (hotNewsCondition name outcome now) = true ↔ c.Tells name outcome := by
  rw [Condition.sameOutcome_iff]
  obtain ⟨kind, success, reason, message, lastName, time⟩ := c
  obtain rfl : kind = .added := hkind
  cases outcome <;>
    simp [hotNewsCondition, failureCondition, Condition.Tells, Reason.name, Failure.full,
      Failure.chain]

end

/-! ## Histories -/

/-- From an initial status the outcomes of a query of a fixed name have been recorded, at any
times. Everything else about the query may have changed in between. -/
inductive Recorded (name : String) (initial : Option HotNewsStatus) :
    List (Except Failure NewsSummary) → Option HotNewsStatus → Prop
  | start : Recorded name initial [] initial
  | step {history : List (Except Failure NewsSummary)} {h : HotNews}
      (outcome : Except Failure NewsSummary) (now : String) :
      Recorded name initial history h.status → h.metadata.displayName = name →
      Recorded name initial (history ++ [outcome]) (some (hotNewsStatusAfter h outcome now))

/-- The summary of the last success in a history. -/
def lastSummary (history : List (Except Failure NewsSummary)) : Option NewsSummary :=
  (history.filterMap Except.toOption).getLast?

theorem lastSummary_ok (history : List (Except Failure NewsSummary)) (summary : NewsSummary) :
    lastSummary (history ++ [.ok summary]) = some summary := by
  simp [lastSummary, Except.toOption]

theorem lastSummary_error (history : List (Except Failure NewsSummary)) (f : Failure) :
    lastSummary (history ++ [.error f]) = lastSummary history := by
  simp [lastSummary, Except.toOption]

/-! ## What a status shows -/

namespace HotNewsStatus

/-- The status shows the articles of a summary. -/
def Shows (status : HotNewsStatus) (summary : NewsSummary) : Prop :=
  status.articlesCount = summary.articlesCount ∧ status.newsLink = summary.newsLink ∧
    status.articlesTitles = summary.articlesTitles

/-- Two statuses show the same articles. -/
def SameArticles (status status' : HotNewsStatus) : Prop :=
  status.articlesCount = status'.articlesCount ∧ status.newsLink = status'.newsLink ∧
    status.articlesTitles = status'.articlesTitles

/-- What a status that was `initial` shows after a history of outcomes. -/
structure Follows (name : String) (initial : HotNewsStatus)
    (history : List (Except Failure NewsSummary)) (status : HotNewsStatus) : Prop where
  fetched : ∀ summary, lastSummary history = some summary → status.Shows summary
  unfetched : lastSummary history = none → status.SameArticles initial
  others : status.conditions.filter (·.kind ≠ .added) =
    initial.conditions.filter (·.kind ≠ .added)
  told : ∀ last, history.getLast? = some last →
    ∃ c, status.conditions.filter (·.kind = .added) = [c] ∧ c.Tells name last

end HotNewsStatus

/-! ## One outcome -/

section

variable {name : String} {h : HotNews}

theorem conditions_hotNewsStatusAfter (h : HotNews) (outcome : Except Failure NewsSummary)
    (now : String) : (hotNewsStatusAfter h outcome now).conditions =
      (Condition.upsert (hotNewsCondition h.metadata.displayName outcome now)
        (h.status.getD .empty).conditions).1 := by
  cases outcome <;> rfl

/-- After an outcome has been recorded the first condition about fetching tells it. -/
theorem told_hotNewsStatusAfter (hname : h.metadata.displayName = name)
    (outcome : Except Failure NewsSummary) (now : String)
    (honce : ((h.status.getD .empty).conditions.filter (·.kind = .added)).length ≤ 1) :
    ∃ c, (hotNewsStatusAfter h outcome now).conditions.filter (·.kind = .added) = [c] ∧
      c.Tells name outcome := by
  have hkind := hotNewsCondition_kind h.metadata.displayName outcome now
  have htells := tells_hotNewsCondition h.metadata.displayName outcome now
  have hfilter := Condition.filter_upsert_self
    (hotNewsCondition h.metadata.displayName outcome now) (h.status.getD .empty).conditions
  rw [hkind] at hfilter
  rw [conditions_hotNewsStatusAfter, hfilter, ← hname]
  cases hbefore : (h.status.getD .empty).conditions.filter (·.kind = .added) with
  | nil => exact ⟨_, rfl, htells⟩
  | cons c rest =>
    rw [hbefore] at honce
    obtain rfl : rest = [] := List.length_eq_zero_iff.1 (by simpa using honce)
    have hadded : c.kind = .added := by
      have hmem : c ∈ (h.status.getD .empty).conditions.filter (·.kind = .added) := by
        rw [hbefore]
        exact List.mem_cons_self
      simpa using (List.mem_filter.1 hmem).2
    refine ⟨_, rfl, ?_⟩
    split
    · rename_i hsame
      exact (sameOutcome_hotNewsCondition_iff hadded).1 hsame
    · exact htells

theorem others_hotNewsStatusAfter (h : HotNews) (outcome : Except Failure NewsSummary)
    (now : String) : (hotNewsStatusAfter h outcome now).conditions.filter (·.kind ≠ .added) =
      (h.status.getD .empty).conditions.filter (·.kind ≠ .added) := by
  have hdeleted (conditions : List Condition) : conditions.filter (·.kind ≠ .added) =
      conditions.filter (·.kind = .deleted) :=
    List.filter_congr fun c _ => by cases hc : c.kind <;> simp
  have hkind := hotNewsCondition_kind h.metadata.displayName outcome now
  rw [hdeleted, hdeleted, conditions_hotNewsStatusAfter]
  exact Condition.filter_upsert (by rw [hkind]; exact nofun) _

/-- What is recorded follows a history of one more outcome. -/
theorem HotNewsStatus.Follows.step {initial : HotNewsStatus}
    {history : List (Except Failure NewsSummary)} (hname : h.metadata.displayName = name)
    (hfollows : Follows name initial history (h.status.getD .empty))
    (honce : ((h.status.getD .empty).conditions.filter (·.kind = .added)).length ≤ 1)
    (outcome : Except Failure NewsSummary) (now : String) :
    Follows name initial (history ++ [outcome]) (hotNewsStatusAfter h outcome now) where
  fetched summary hlast := by
    cases outcome with
    | ok fetched =>
      rw [lastSummary_ok] at hlast
      cases hlast
      exact ⟨rfl, rfl, rfl⟩
    | error f => exact hfollows.fetched summary (lastSummary_error history f ▸ hlast)
  unfetched hlast := by
    cases outcome with
    | ok fetched =>
      rw [lastSummary_ok] at hlast
      cases hlast
    | error f => exact hfollows.unfetched (lastSummary_error history f ▸ hlast)
  others := (others_hotNewsStatusAfter h outcome now).trans hfollows.others
  told last hlast := by
    rw [List.getLast?_concat] at hlast
    cases hlast
    exact told_hotNewsStatusAfter hname outcome now honce

/-- A status that is there shows already what an outcome would have it show. -/
def Repeats (name : String) (status : Option HotNewsStatus)
    (outcome : Except Failure NewsSummary) : Prop :=
  ∃ s c, status = some s ∧ s.conditions.filter (·.kind = .added) = [c] ∧ c.Tells name outcome ∧
    ∀ summary, outcome = .ok summary → s.Shows summary

/-- Recording an outcome leaves the status as it is exactly if the status shows it already. -/
theorem status_eq_iff_repeats (hname : h.metadata.displayName = name)
    (honce : ((h.status.getD .empty).conditions.filter (·.kind = .added)).length ≤ 1)
    (outcome : Except Failure NewsSummary) (now : String) :
    h.status = some (hotNewsStatusAfter h outcome now) ↔ Repeats name h.status outcome := by
  constructor
  · intro hsame
    obtain ⟨c, hadded, htells⟩ := told_hotNewsStatusAfter hname outcome now honce
    refine ⟨_, c, hsame, hadded, htells, fun summary houtcome => ?_⟩
    rw [houtcome]
    exact ⟨rfl, rfl, rfl⟩
  · rintro ⟨s, c, hstatus, hadded, htells, hshows⟩
    have hmem : c ∈ s.conditions.filter (·.kind = .added) := by
      rw [hadded]
      exact List.mem_cons_self
    have hkind : c.kind = .added := by simpa using (List.mem_filter.1 hmem).2
    have hreports : Condition.Reports s.conditions (hotNewsCondition name outcome now) := by
      refine ⟨c, ?_, (sameOutcome_hotNewsCondition_iff hkind).2 htells⟩
      rw [hotNewsCondition_kind, Condition.find?, ← List.head?_filter, hadded]
      rfl
    have hconditions := hreports.upsert_eq
    unfold hotNewsStatusAfter
    simp only [hname, hstatus, Option.getD_some]
    cases outcome with
    | ok summary =>
      obtain ⟨hcount, hlink, htitles⟩ := hshows summary rfl
      simp only [hconditions, ← hcount, ← hlink, ← htitles]
    | error f => simp only [hconditions]

end

/-- A status is not written exactly if it is the one on record. -/
theorem updateStatus_eq_pure_iff {α S : Type} [Resource α] [DecidableEq S] {object : α}
    {current : Option S} {status : S} {encode : S → Json} :
    updateStatus object current status encode = pure () ↔ current = some status := by
  unfold updateStatus
  split
  · rename_i hsame
    exact iff_of_true rfl hsame
  · rename_i hother
    refine iff_of_false (fun hpure => ?_) hother
    -- What is not done at once has been sent or has been refused.
    unfold Program.patchObjectStatus Program.callApi Program.askApi at hpure
    dsimp only at hpure
    cases hinvalid : (ApiRequest.patchStatus (Resource.collection α)
        (Resource.metadata object).nsName (Resource.metadata object).displayName
        (Json.ofFields [("status", encode status)])).invalid? <;>
      rw [hinvalid] at hpure <;> cases hpure

/-! ## Whole histories -/

/-- After any history the status shows it. -/
theorem Recorded.follows {name : String} {initial status : Option HotNewsStatus}
    {history : List (Except Failure NewsSummary)} (hrec : Recorded name initial history status)
    (honce : ∀ s, initial = some s → Condition.AtMostOnce s.conditions) :
    HotNewsStatus.Follows name (initial.getD .empty) history (status.getD .empty) ∧
      ((status.getD .empty).conditions.filter (·.kind = .added)).length ≤ 1 := by
  induction hrec with
  | start =>
    refine ⟨⟨nofun, fun _ => ⟨rfl, rfl, rfl⟩, rfl, nofun⟩, ?_⟩
    cases hinitial : initial with
    | none => exact Nat.zero_le 1
    | some s => exact honce s hinitial .added
  | step outcome now _ hname ih =>
    obtain ⟨hfollows, hlength⟩ := ih
    have hnext := hfollows.step hname hlength outcome now
    obtain ⟨c, hadded, -⟩ := hnext.told outcome List.getLast?_concat
    exact ⟨hnext, Nat.le_of_eq (congrArg List.length hadded)⟩

/-- However the status of a query has come about, recording one more outcome leaves a status that
shows the history with it, and the status is written unless it shows the outcome already. -/
theorem status_follows_history {name : String} {initial : Option HotNewsStatus}
    {history : List (Except Failure NewsSummary)} {h : HotNews}
    (hrec : Recorded name initial history h.status) (hname : h.metadata.displayName = name)
    (honce : ∀ s, initial = some s → Condition.AtMostOnce s.conditions)
    (outcome : Except Failure NewsSummary) (now : String) :
    HotNewsStatus.Follows name (initial.getD .empty) (history ++ [outcome])
        (hotNewsStatusAfter h outcome now) ∧
      (h.status = some (hotNewsStatusAfter h outcome now) ↔ Repeats name h.status outcome) ∧
      (updateStatus h h.status (hotNewsStatusAfter h outcome now) HotNewsStatus.toJson = pure () ↔
        Repeats name h.status outcome) := by
  obtain ⟨hfollows, hlength⟩ := hrec.follows honce
  have hrepeats := status_eq_iff_repeats hname hlength outcome now
  exact ⟨hfollows.step hname hlength outcome now, hrepeats,
    updateStatus_eq_pure_iff.trans hrepeats⟩

namespace MixedHistory

def initial : HotNewsStatus :=
  ⟨2, "/news?sources=cnn", ["Storm", "Rain"],
    [⟨.deleted, false, "InternalError", "slow", "top", "t0"⟩,
      ⟨.added, true, "NewsFetched", "fetched 2 articles", "top", "t0"⟩]⟩

def summary : NewsSummary := ⟨["cnn"], "/news?sources=cnn", 2, ["Rain", "Sun"]⟩

def failure : Failure := .ofCause (.query .noFeedsResolved)

def query (status : HotNewsStatus) : HotNews :=
  ⟨{ Metadata.empty with name := some "top" }, ⟨[], none, none, ["cnn"], [], ⟨2⟩⟩, some status⟩

def succeeded : HotNews := query (hotNewsStatusAfter (query initial) (.ok summary) "t1")

def failed : HotNews := query (hotNewsStatusAfter succeeded (.error failure) "t2")

end MixedHistory

open MixedHistory in
/-- A success with as many articles of other titles is written, and so is the failure after it. The
same failure once more is not. -/
theorem mixedHistory_followed :
    Recorded "top" (some initial) [.ok summary, .error failure] failed.status ∧
      Condition.AtMostOnce initial.conditions ∧
      ¬ Repeats "top" (some initial) (.ok summary) ∧
      ¬ Repeats "top" succeeded.status (.error failure) ∧
      HotNewsStatus.Follows "top" initial [.ok summary, .error failure, .error failure]
        (hotNewsStatusAfter failed (.error failure) "t3") ∧
      Repeats "top" failed.status (.error failure) ∧
      updateStatus failed failed.status (hotNewsStatusAfter failed (.error failure) "t3")
        HotNewsStatus.toJson = pure () := by
  have honce : ∀ s, some initial = some s → Condition.AtMostOnce s.conditions := by
    rintro s ⟨⟩ kind
    cases kind <;> decide
  have hstart : Recorded "top" (some initial) [] (query initial).status := .start
  have hsucceeded : Recorded "top" (some initial) [.ok summary] succeeded.status :=
    .step (.ok summary) "t1" hstart rfl
  have hfailed : Recorded "top" (some initial) [.ok summary, .error failure] failed.status :=
    .step (.error failure) "t2" hsucceeded rfl
  have hfirst := status_follows_history hstart rfl honce (.ok summary) "t1"
  have hsecond := status_follows_history hsucceeded rfl honce (.error failure) "t2"
  have hthird := status_follows_history hfailed rfl honce (.error failure) "t3"
  have hsame : failed.status = some (hotNewsStatusAfter failed (.error failure) "t3") := by
    decide +kernel
  have hrepeats := hthird.2.1.1 hsame
  exact ⟨hfailed, honce initial rfl, mt hfirst.2.1.2 (by decide +kernel),
    mt hsecond.2.1.2 (by decide +kernel), hthird.1, hrepeats, hthird.2.2.2 hrepeats⟩

end Newsdesk
