import Newsdesk.Proofs.Admission.Updates

/-!
# Reviews of changed queries

A query that is not stored as it is already is held against the feeds of its namespace. It is
admitted if and only if the feeds can be listed and it is in order itself: its dates, its keywords
and the names of its feeds. A denial states everything that is wrong and nothing else, in one order
(`changedQuery_judged`): first the dates, then the keywords, then one error for each name that no
listed feed has. A list that fails takes the place of the names only.

What is stored decides whether a query is changed, not the operation. So a creation that comes with
the same query as the old object is not held against the feeds (`sameQuery_created`).
-/

namespace Newsdesk

open Text

/-! ## Queries in order -/

namespace HotNewsSpec

/-- A query has no dates, or two that name days, the first before the second. -/
def DatesInOrder (spec : HotNewsSpec) : Prop :=
  spec.dateStart = none ∧ spec.dateEnd = none ∨
    ∃ start stop first last, spec.dateStart = some start ∧ spec.dateEnd = some stop ∧
      Date.parse? start = some first ∧ Date.parse? stop = some last ∧ Date.Before first last

/-- Some keyword of a query is not blank. -/
def HasKeyword (spec : HotNewsSpec) : Prop := ∃ k ∈ spec.keywords, trim k ≠ ""

instance (spec : HotNewsSpec) : Decidable spec.HasKeyword :=
  inferInstanceAs (Decidable (∃ k ∈ spec.keywords, trim k ≠ ""))

/-- Every feed of a query has the name of one of the feeds, apart from blanks. -/
def NamesFound (spec : HotNewsSpec) (feeds : List Feed) : Prop :=
  ∀ name ∈ spec.feedsName, ∃ f ∈ feeds, trim f.spec.name = trim name

end HotNewsSpec

/-! ## Violations of the dates -/

def loneDateError : FieldError :=
  ⟨"spec.dateStart", "dateStart and dateEnd must be set together"⟩

def unreadableError (field value : String) : FieldError :=
  ⟨field, "'" ++ value ++ "' is not a date in YYYY-MM-DD format"⟩

/-- One error for each of two texts that is no date. -/
def unreadableErrors (start stop : String) : List FieldError :=
  ([("spec.dateStart", start), ("spec.dateEnd", stop)].filter fun d =>
    Date.parse? d.2 = none).map fun d => unreadableError d.1 d.2

/-- What there is to say about the dates of a query. -/
inductive DateViolations : Option String → Option String → List FieldError → Prop
  | absent : DateViolations none none []
  | startAlone {start : String} : DateViolations (some start) none [loneDateError]
  | stopAlone {stop : String} : DateViolations none (some stop) [loneDateError]
  | unreadable {start stop : String} (h : Date.parse? start = none ∨ Date.parse? stop = none) :
    DateViolations (some start) (some stop) (unreadableErrors start stop)
  | disordered {start stop : String} {first last : Date} (hstart : Date.parse? start = some first)
    (hstop : Date.parse? stop = some last) (h : ¬ Date.Before first last) :
    DateViolations (some start) (some stop) [orderError first last]
  | ordered {start stop : String} {first last : Date} (hstart : Date.parse? start = some first)
    (hstop : Date.parse? stop = some last) (h : Date.Before first last) :
    DateViolations (some start) (some stop) []

theorem readDate_eq (field value : String) : readDate field value =
    match Date.parse? value with
    | some date => .ok date
    | none => .error (unreadableError field value) := rfl

theorem dateViolations_validateDates (spec : HotNewsSpec) :
    DateViolations spec.dateStart spec.dateEnd (validateDates spec) := by
  unfold validateDates
  cases spec.dateStart with
  | none =>
    cases spec.dateEnd with
    | none => exact .absent
    | some stop => exact .stopAlone
  | some start =>
    cases spec.dateEnd with
    | none => exact .startAlone
    | some stop =>
      simp only [readDate_eq]
      cases hstart : Date.parse? start with
      | none =>
        have hwrong : DateViolations (some start) (some stop) _ := .unreadable (.inl hstart)
        cases hstop : Date.parse? stop <;> simpa [unreadableErrors, hstart, hstop] using hwrong
      | some first =>
        cases hstop : Date.parse? stop with
        | none =>
          have hwrong : DateViolations (some start) (some stop) _ := .unreadable (.inr hstop)
          simpa [unreadableErrors, hstart, hstop] using hwrong
        | some last =>
          by_cases hbefore : Date.Before first last
          · simpa [hbefore] using DateViolations.ordered hstart hstop hbefore
          · simpa [hbefore] using DateViolations.disordered hstart hstop hbefore

namespace DateViolations

variable {start stop : Option String} {errors errors' : List FieldError}

/-- The dates leave no choice of what to say about them. -/
theorem unique (h : DateViolations start stop errors) (h' : DateViolations start stop errors') :
    errors = errors' := by
  cases h <;> cases h' <;> simp_all

theorem eq_nil_iff {spec : HotNewsSpec} (h : DateViolations spec.dateStart spec.dateEnd errors) :
    errors = [] ↔ spec.DatesInOrder := by
  unfold HotNewsSpec.DatesInOrder
  generalize spec.dateStart = start, spec.dateEnd = stop at h
  cases h with
  | absent => simp
  | startAlone => simp
  | stopAlone => simp
  | @unreadable start stop hnone =>
    have hsome : unreadableErrors start stop ≠ [] := by
      rcases hnone with hnone | hnone <;> simp [unreadableErrors, hnone]
    refine iff_of_false hsome ?_
    rintro (⟨⟨⟩, -⟩ | ⟨_, _, first, last, ⟨⟩, ⟨⟩, hfirst, hlast, -⟩)
    rw [hfirst, hlast] at hnone
    exact hnone.elim (fun h => nomatch h) fun h => nomatch h
  | disordered hstart hstop hbefore => simp [hstart, hstop, hbefore]
  | ordered hstart hstop hbefore => simp [hstart, hstop, hbefore]

end DateViolations

/-! ## Other violations -/

namespace HotNewsSpec

variable {spec : HotNewsSpec}

/-- What there is to say about the keywords of a query. -/
def keywordViolations (spec : HotNewsSpec) : List FieldError :=
  if spec.HasKeyword then [] else [⟨"spec.keywords", "at least one keyword is required"⟩]

/-- What there is to say about the feeds of a query once a list of feeds has ended: one error for
each name that was not found, in order and with repetitions, or the failure of the list. -/
def nameViolations (ns : String) (spec : HotNewsSpec) :
    Except ApiError (List Feed) → List FieldError
  | .ok feeds =>
    (spec.feedsName.filter fun name => ∀ f ∈ feeds, trim f.spec.name ≠ trim name).map fun name =>
      ⟨"spec.feedsName", missingFeedMessage (trim name)⟩
  | .error e => [⟨"spec.feedsName", lookupFailure ns e⟩]

theorem keywordErrors_eq (spec : HotNewsSpec) :
    keywordErrors spec.keywords = spec.keywordViolations := by
  have hblank : (spec.keywords.all fun k => (trimList k.toList).isEmpty) = true ↔
      ¬ spec.HasKeyword := by
    simp [HasKeyword, trim_eq_empty_iff]
  by_cases h : spec.HasKeyword <;> simp [keywordErrors, keywordViolations, hblank, h]

theorem keywordViolations_eq_nil_iff : spec.keywordViolations = [] ↔ spec.HasKeyword := by
  by_cases h : spec.HasKeyword <;> simp [keywordViolations, h]

theorem feedsNameErrors_eq (ns : String) (spec : HotNewsSpec) (feeds : List Feed) :
    feedsNameErrors spec.feedsName (trimmedNames feeds) = spec.nameViolations ns (.ok feeds) := by
  have hknown (name : String) : trim name ∈ trimmedNames feeds ↔
      ∃ f ∈ feeds, trim f.spec.name = trim name := List.mem_map
  have herrors := filterMap_unless (fun name => trim name ∈ trimmedNames feeds)
    (fun name => ⟨"spec.feedsName", missingFeedMessage (trim name)⟩) spec.feedsName
  unfold feedsNameErrors nameViolations
  simpa [hknown] using herrors

theorem nameViolations_eq_nil_iff {ns : String} {listed : Except ApiError (List Feed)} :
    spec.nameViolations ns listed = [] ↔ ∃ feeds, listed = .ok feeds ∧ spec.NamesFound feeds := by
  cases listed with
  | ok feeds => simp [nameViolations, NamesFound]
  | error e => simp [nameViolations]

/-! ## All violations -/

theorem ownErrors_eq (spec : HotNewsSpec) :
    spec.ownErrors = validateDates spec ++ spec.keywordViolations := by
  rw [ownErrors, keywordErrors_eq]

/-- There is nothing to say about a query in order whose feeds were found, and about no other. -/
theorem violations_eq_nil_iff {ns : String} {listed : Except ApiError (List Feed)} :
    spec.ownErrors ++ spec.nameViolations ns listed = [] ↔ ∃ feeds, listed = .ok feeds ∧
      spec.DatesInOrder ∧ spec.HasKeyword ∧ spec.NamesFound feeds := by
  have hdates := (dateViolations_validateDates spec).eq_nil_iff
  rw [ownErrors_eq, List.append_eq_nil_iff, List.append_eq_nil_iff, hdates,
    keywordViolations_eq_nil_iff, nameViolations_eq_nil_iff]
  constructor
  · rintro ⟨⟨hdates, hkeyword⟩, feeds, hlisted, hfound⟩
    exact ⟨feeds, hlisted, hdates, hkeyword, hfound⟩
  · rintro ⟨feeds, hlisted, hdates, hkeyword, hfound⟩
    exact ⟨⟨hdates, hkeyword⟩, feeds, hlisted, hfound⟩

end HotNewsSpec

/-! ## Reviews -/

/-- A review of a query that is to be stored, is not on its way out and is not stored as it is
already. -/
structure ChangesQuery (review : AdmissionReview HotNews) (request : AdmissionRequest HotNews)
    (h : HotNews) : Prop extends Stores review request h where
  remains : request.operation = .update → h.metadata.isDeleting = false
  changed : ∀ old, request.oldObject = some old → old.spec ≠ h.spec

/-- How a query is judged once the list of the feeds of its namespace has ended. -/
structure Judged (review : AdmissionReview HotNews) (request : AdmissionRequest HotNews)
    (ns : String) (spec : HotNewsSpec) (listed : Except ApiError (List Feed))
    (r : AdmissionResponse) : Prop where
  admitted_iff : r.allowed = true ↔ ∃ feeds, listed = .ok feeds ∧
    spec.DatesInOrder ∧ spec.HasKeyword ∧ spec.NamesFound feeds
  admitted : r.allowed = true → r = .allow review request
  /-- A denial states all violations and only these. Whether the list has failed shows in those of
  the names alone. -/
  denied : r.allowed = false → ∃ dates, DateViolations spec.dateStart spec.dateEnd dates ∧
    r = (AdmissionResponse.allow review request).deny ("; ".intercalate
      ((dates ++ spec.keywordViolations ++ spec.nameViolations ns listed).map FieldError.text)) ∧
    ∀ e ∈ dates ++ spec.keywordViolations, e.field ≠ "spec.feedsName"

section

variable {σ : Type} {env : Environment σ} {s s' : σ} {ns : String}
  {listed : Except ApiError (List Feed)}

theorem run_hotNewsErrors {old : Option HotNews} {h : HotNews}
    (hchanged : ∀ o, old = some o → o.spec ≠ h.spec)
    (hlist : (Program.tryListObjects Feed ns).run env s = (.ok listed, s')) :
    (hotNewsErrors ns old h).run env s =
      (.ok (h.spec.ownErrors ++ h.spec.nameViolations ns listed), s') := by
  have hother : ¬ old.any (fun o => o.spec = h.spec) = true := by
    cases old with
    | none => exact Bool.false_ne_true
    | some o => simpa using hchanged o rfl
  unfold hotNewsErrors
  rw [if_neg hother]
  refine Program.run_bind_eq_ok.2 ⟨_, s', run_searchFeeds hlist, ?_⟩
  cases listed with
  | ok feeds =>
    rw [← HotNewsSpec.feedsNameErrors_eq]
    rfl
  | error e => rfl

variable {review : AdmissionReview HotNews} {request : AdmissionRequest HotNews} {h : HotNews}

theorem run_reviewHotNews (hreview : ChangesQuery review request h) (r : AdmissionResponse)
    (hlist : (Program.tryListObjects Feed (h.metadata.orNamespace request.ns).nsName).run env s =
      (.ok listed, s')) :
    (reviewHotNews request r).run env s = (.ok (r.verdict (h.spec.ownErrors ++
      h.spec.nameViolations (h.metadata.orNamespace request.ns).nsName listed) []), s') := by
  have hfinal : ¬ isFinalUpdate request.operation h.metadata = true := by
    unfold isFinalUpdate
    intro hboth
    obtain ⟨hupdate, hdeleting⟩ := Bool.and_eq_true_iff.1 hboth
    rw [hreview.remains (of_decide_eq_true hupdate)] at hdeleting
    cases hdeleting
  unfold reviewHotNews
  simp only [hreview.object_eq, if_neg hfinal, if_pos hreview.stores]
  exact Program.run_bind_eq_ok.2 ⟨_, s', run_hotNewsErrors hreview.changed hlist, rfl⟩

theorem judged_verdict (review : AdmissionReview HotNews) (request : AdmissionRequest HotNews)
    (ns : String) (spec : HotNewsSpec) (listed : Except ApiError (List Feed)) :
    Judged review request ns spec listed ((AdmissionResponse.allow review request).verdict
      (spec.ownErrors ++ spec.nameViolations ns listed) []) := by
  have hdates := dateViolations_validateDates spec
  have hown := spec.ownErrors_eq
  have hallowed := AdmissionResponse.allowed_verdict_iff
    (r := AdmissionResponse.allow review request) rfl
    (spec.ownErrors ++ spec.nameViolations ns listed)
  refine ⟨hallowed.trans HotNewsSpec.violations_eq_nil_iff, fun hyes => ?_,
    fun hno => ⟨validateDates spec, hdates, ?_, ?_⟩⟩
  · rw [hallowed.1 hyes, AdmissionResponse.verdict_nil]
  · have hwrong : spec.ownErrors ++ spec.nameViolations ns listed ≠ [] := fun h =>
      Bool.eq_false_iff.1 hno (hallowed.2 h)
    rw [AdmissionResponse.verdict_of_ne_nil hwrong, hown]
    rfl
  · exact hown ▸ fun e => HotNewsSpec.field_of_mem_ownErrors

end

/-- A query that is created or changed is judged by one list of the feeds of its namespace, and the
review ends however the list does. -/
theorem changedQuery_judged {review : AdmissionReview HotNews}
    {request : AdmissionRequest HotNews} {h : HotNews} (hreview : ChangesQuery review request h)
    {σ : Type} (env : Environment σ) (s : σ) : ∃ listed s' r,
      (Program.tryListObjects Feed (h.metadata.orNamespace request.ns).nsName).run env s =
        (.ok listed, s') ∧
      (answerReview Webhook.validateHotNews.name review reviewHotNews).run env s =
        (.ok r, env.note (.reviewed Webhook.validateHotNews.name r.outcomeName) s') ∧
      Judged review request (h.metadata.orNamespace request.ns).nsName h.spec listed r := by
  obtain ⟨listed, s', hlist⟩ := exists_run_tryListObjects Feed env s
    (h.metadata.orNamespace request.ns).nsName
  have hrespond := run_reviewHotNews hreview (.allow review request) hlist
  exact ⟨listed, s', _, hlist, run_answerReview hreview.request_eq _ hrespond,
    judged_verdict review request _ h.spec listed⟩

namespace LateEdition

def feed : Feed :=
  ⟨{ Metadata.empty with name := some "bbc", ns := some "news" },
    ⟨" bbc", "https://feeds.example/rss"⟩, none⟩

/-- A query in no namespace of its own: its days are one day, its keyword is blank, and a feed that
does not exist is named twice. -/
def query : HotNews :=
  ⟨{ Metadata.empty with name := some "late" },
    ⟨[" "], some "2024-05-01", some "2024-5-1 ", ["cnn ", "bbc\u2003", "cnn"], [], ⟨5⟩⟩, none⟩

/-- A query for a feed. -/
def bbcQuery : HotNews :=
  ⟨{ Metadata.empty with name := some "top", ns := some "news" },
    ⟨["election"], none, none, ["bbc"], [], ⟨5⟩⟩, none⟩

def request (object : HotNews) (old : Option HotNews) : AdmissionRequest HotNews :=
  ⟨"r", some "news", .create, some object, old⟩

def review (object : HotNews) (old : Option HotNews) : AdmissionReview HotNews :=
  ⟨"admission.k8s.io/v1", "AdmissionReview", some (request object old)⟩

def environment : Environment Cluster := Cluster.environment fun _ => "now"

def cluster (faults : Script) : Cluster :=
  .start ⟨[(⟨.feeds, "news", "bbc"⟩, feedToJson feed)], 0⟩ faults []

/-- What a denial of the query says before it comes to the feeds. -/
def ownMessage : String :=
  "spec.dateStart: dateStart 2024-05-01 must be before dateEnd 2024-05-01; " ++
    "spec.keywords: at least one keyword is required; "

theorem changes : ChangesQuery (review query none) (request query none) query where
  request_eq := rfl
  stores := rfl
  object_eq := rfl
  remains := by decide
  changed old hold := by cases hold

theorem denied_of_judged {listed : Except ApiError (List Feed)} {r : AdmissionResponse}
    (h : Judged (review query none) (request query none) "news" query.spec listed r) :
    r.allowed = false ∧ r.message = "; ".intercalate ((validateDates query.spec ++
      query.spec.keywordViolations ++ query.spec.nameViolations "news" listed).map
        FieldError.text) := by
  have hno : r.allowed = false := by
    refine Bool.eq_false_iff.2 fun hyes => ?_
    obtain ⟨-, -, -, hkeyword, -⟩ := h.admitted_iff.1 hyes
    revert hkeyword
    decide +kernel
  obtain ⟨dates, hdates, rfl, -⟩ := h.denied hno
  rw [hdates.unique (dateViolations_validateDates query.spec)]
  exact ⟨rfl, rfl⟩

end LateEdition

open LateEdition

/-- A query with faults of every kind is denied with all of them, whether the list of the feeds
succeeds or not. -/
theorem lateEdition_denied :
    ChangesQuery (review query none) (request query none) query ∧
    (∃ r s, (answerReview Webhook.validateHotNews.name (review query none) reviewHotNews).run
      environment (cluster []) = (.ok r, s) ∧ r.allowed = false ∧
        r.message = ownMessage ++ "spec.feedsName: Feed 'cnn' does not exist in this namespace; " ++
          "spec.feedsName: Feed 'cnn' does not exist in this namespace") ∧
    ∃ r s, (answerReview Webhook.validateHotNews.name (review query none) reviewHotNews).run
      environment (cluster [⟨some "LIST", none, .dropped, none⟩]) = (.ok r, s) ∧
        r.allowed = false ∧ r.message = ownMessage ++
          "spec.feedsName: failed to list Feed in news: ServiceError: connection dropped" := by
  refine ⟨changes, ?_, ?_⟩
  · obtain ⟨listed, s', r, hlist, hanswer, hjudged⟩ :=
      changedQuery_judged changes environment (cluster [])
    have hfound : (Program.tryListObjects Feed "news").run environment (cluster []) =
        (.ok (.ok [feed]), _) := Program.eq_ok_of_toOption (by decide +kernel)
    obtain ⟨⟨⟩, -⟩ := Prod.mk.inj (hlist.symm.trans hfound)
    obtain ⟨hdenied, hmessage⟩ := denied_of_judged hjudged
    exact ⟨r, _, hanswer, hdenied, hmessage.trans (by decide +kernel)⟩
  · obtain ⟨listed, s', r, hlist, hanswer, hjudged⟩ :=
      changedQuery_judged changes environment (cluster [⟨some "LIST", none, .dropped, none⟩])
    have hfailed : (Program.tryListObjects Feed "news").run environment
        (cluster [⟨some "LIST", none, .dropped, none⟩]) = (.ok (.error .dropped), _) :=
      Program.eq_ok_of_toOption (by decide +kernel)
    obtain ⟨⟨⟩, -⟩ := Prod.mk.inj (hlist.symm.trans hfailed)
    obtain ⟨hdenied, hmessage⟩ := denied_of_judged hjudged
    exact ⟨r, _, hanswer, hdenied, hmessage.trans (by decide +kernel)⟩

/-- A creation that comes with the same query as the old object is admitted although its feed does
not exist. -/
theorem sameQuery_created : ¬ ∀ {review : AdmissionReview HotNews}
    {request : AdmissionRequest HotNews} {h : HotNews} {σ : Type} {env : Environment σ}
    {s s' s'' : σ} {listed : Except ApiError (List Feed)} {r : AdmissionResponse},
    review.request = some request → request.operation = .create → request.object = some h →
    (Program.tryListObjects Feed (h.metadata.orNamespace request.ns).nsName).run env s =
      (.ok listed, s') →
    (answerReview Webhook.validateHotNews.name review reviewHotNews).run env s = (.ok r, s'') →
    (r.allowed = true ↔ ∃ feeds, listed = .ok feeds ∧
      h.spec.DatesInOrder ∧ h.spec.HasKeyword ∧ h.spec.NamesFound feeds) := by
  intro hall
  have hlist : (Program.tryListObjects Feed "news").run environment (.start ⟨[], 0⟩ [] []) =
      (.ok (.ok []), _) := Program.eq_ok_of_toOption (by decide +kernel)
  have hanswer : (answerReview Webhook.validateHotNews.name (review bbcQuery (some bbcQuery))
      reviewHotNews).run environment (.start ⟨[], 0⟩ [] []) =
        (.ok (.allow (review bbcQuery (some bbcQuery)) (request bbcQuery (some bbcQuery))), _) :=
    Program.eq_ok_of_toOption (by decide +kernel)
  have hadmitted := hall (h := bbcQuery) rfl rfl rfl hlist hanswer
  obtain ⟨feeds, hfeeds, -, -, hfound⟩ := hadmitted.1 rfl
  cases hfeeds
  obtain ⟨f, hf, -⟩ := hfound "bbc" (List.mem_singleton_self _)
  cases hf

end Newsdesk
