import Newsdesk.Proofs.Admission.Answered
import Newsdesk.Proofs.Admission.Resolved

/-!
# Updates that leave a query as it is

The operator adds and takes finalizers after the feeds of a query may have gone, and these writes
are reviewed as well. A query that is not changed is held against the feeds that it names itself,
so only its dates and keywords count, and a query that is being deleted is not held against
anything. Both reviews are answered alone (`unchangedQuery_answered`), so no feed can hold up such a
write.
-/

namespace Newsdesk

open Text

namespace HotNewsSpec

/-- What is wrong with a query apart from the feeds that it names. -/
def ownErrors (spec : HotNewsSpec) : List FieldError :=
  validateDates spec ++ keywordErrors spec.keywords

/-- A query that is held against the feeds that it names itself names only known ones. -/
theorem validateSpec_self (spec : HotNewsSpec) :
    validateSpec spec (spec.feedsName.map trim) = spec.ownErrors := by
  have hnames : feedsNameErrors spec.feedsName (spec.feedsName.map trim) = [] :=
    feedsNameErrors_eq_nil_iff.2 fun name => List.mem_map_of_mem
  rw [validateSpec, hnames, List.append_nil]
  rfl

/-- A query that was valid once has valid dates and a keyword. -/
theorem ownErrors_of_valid {spec : HotNewsSpec} {known : List String}
    (h : validateSpec spec known = []) : spec.ownErrors = [] := by
  obtain ⟨hdates, hkeywords, -⟩ := validateSpec_eq_nil_iff.1 h
  rw [ownErrors, hdates, hkeywords, List.append_nil]

theorem field_of_readDate {field value : String} {e : FieldError}
    (h : readDate field value = .error e) : e.field = field := by
  unfold readDate at h
  split at h
  · cases h
  · cases h
    rfl

theorem field_of_mem_validateDates {spec : HotNewsSpec} {e : FieldError}
    (h : e ∈ validateDates spec) : e.field = "spec.dateStart" ∨ e.field = "spec.dateEnd" := by
  unfold validateDates at h
  split at h
  · cases h
  · split at h
    · split at h
      · cases h
      · exact .inl (congrArg FieldError.field (List.mem_singleton.1 h))
    · rename_i hstart _
      rw [List.mem_singleton.1 h]
      exact .inl (field_of_readDate hstart)
    · rename_i hstop
      rw [List.mem_singleton.1 h]
      exact .inr (field_of_readDate hstop)
    · rename_i hstart hstop
      rcases List.mem_pair.1 h with rfl | rfl
      · exact .inl (field_of_readDate hstart)
      · exact .inr (field_of_readDate hstop)
  · exact .inl (congrArg FieldError.field (List.mem_singleton.1 h))

/-- No error of a query itself is about its feeds. -/
theorem field_of_mem_ownErrors {spec : HotNewsSpec} {e : FieldError} (h : e ∈ spec.ownErrors) :
    e.field ≠ "spec.feedsName" := by
  rcases List.mem_append.1 h with h | h
  · rcases field_of_mem_validateDates h with hfield | hfield <;> rw [hfield] <;> decide
  · unfold keywordErrors at h
    split at h
    · rw [List.mem_singleton.1 h]
      decide
    · cases h

end HotNewsSpec

/-! ## Reviews -/

/-- A review of an update that leaves the specification of a query as it is. -/
structure LeavesSpec (review : AdmissionReview HotNews) (request : AdmissionRequest HotNews)
    (h : HotNews) : Prop extends Updates review request h where
  old : ∃ o, request.oldObject = some o ∧ o.spec = h.spec

/-- The response to an update that leaves the specification of a query as it is. -/
def unchangedResponse (review : AdmissionReview HotNews) (request : AdmissionRequest HotNews)
    (h : HotNews) : AdmissionResponse :=
  if h.metadata.isDeleting then .allow review request
  else (AdmissionResponse.allow review request).verdict h.spec.ownErrors []

section

variable {review : AdmissionReview HotNews} {request : AdmissionRequest HotNews} {h : HotNews}

theorem unchangedResponse_of_valid {known : List String} (hvalid : validateSpec h.spec known = []) :
    unchangedResponse review request h = .allow review request := by
  rw [unchangedResponse, HotNewsSpec.ownErrors_of_valid hvalid, AdmissionResponse.verdict_nil,
    ite_self]

theorem unchangedResponse_of_active (hactive : h.metadata.isDeleting = false) :
    unchangedResponse review request h =
      (AdmissionResponse.allow review request).verdict h.spec.ownErrors [] := by
  rw [unchangedResponse, hactive, if_neg Bool.false_ne_true]

theorem unchangedResponse_denied_iff (hactive : h.metadata.isDeleting = false) :
    (unchangedResponse review request h).allowed = false ↔ h.spec.ownErrors ≠ [] := by
  rw [unchangedResponse_of_active hactive, ← Bool.not_eq_true,
    AdmissionResponse.allowed_verdict_iff rfl]

/-- A denial states all errors of the query itself. -/
theorem unchangedResponse_of_denied
    (hdenied : (unchangedResponse review request h).allowed = false) :
    unchangedResponse review request h =
      (AdmissionResponse.allow review request).deny (FieldError.aggregate h.spec.ownErrors) := by
  cases hactive : h.metadata.isDeleting with
  | true =>
    rw [unchangedResponse, hactive, if_pos rfl] at hdenied
    cases hdenied
  | false =>
    have hwrong := (unchangedResponse_denied_iff hactive).1 hdenied
    rw [unchangedResponse_of_active hactive, AdmissionResponse.verdict_of_ne_nil hwrong]

end

/-- A query that is stored as it is asks for no list of feeds. -/
theorem hotNewsErrors_of_same {old h : HotNews} (hspec : old.spec = h.spec) (ns : String) :
    hotNewsErrors ns (some old) h = pure h.spec.ownErrors := by
  unfold hotNewsErrors
  rw [if_pos (by simp [hspec]), HotNewsSpec.validateSpec_self]

theorem reviewHotNews_of_leavesSpec {review : AdmissionReview HotNews}
    {request : AdmissionRequest HotNews} {h : HotNews} (hreview : LeavesSpec review request h) :
    reviewHotNews request (.allow review request) = pure (unchangedResponse review request h) := by
  obtain ⟨o, hold, hspec⟩ := hreview.old
  unfold reviewHotNews unchangedResponse isFinalUpdate
  simp only [hreview.object_eq, hreview.update, hold, hotNewsErrors_of_same hspec]
  cases h.metadata.isDeleting with
  | true => rfl
  | false => rfl

theorem reviewHotNews_of_deleting {review : AdmissionReview HotNews}
    {request : AdmissionRequest HotNews} {h : HotNews} (hreview : Updates review request h)
    (hdeleting : h.metadata.isDeleting = true) (r : AdmissionResponse) :
    reviewHotNews request r = pure r := by
  unfold reviewHotNews isFinalUpdate
  simp only [hreview.object_eq, hreview.update, hdeleting]
  rfl

theorem reviewDefaults_of_deleting {review : AdmissionReview RawObject}
    {request : AdmissionRequest RawObject} {object : RawObject}
    (hreview : Updates review request object) (hdeleting : object.metadata.isDeleting = true)
    (r : AdmissionResponse) : reviewDefaults request r = pure r := by
  unfold reviewDefaults isFinalUpdate
  simp only [hreview.object_eq, hreview.update, hdeleting]
  rfl

/-- No feed can hold up an update that leaves a query as it is. Such an update is answered alone: it
is admitted if the query was valid once, and denied for its own errors only, unless the query is
being deleted. An update of a query that is being deleted is admitted by both webhooks as it is,
whatever its specification. -/
theorem unchangedQuery_answered :
    (∀ {review : AdmissionReview HotNews} {request : AdmissionRequest HotNews} {h : HotNews},
      LeavesSpec review request h → ∃ r,
        (answerReview Webhook.validateHotNews.name review reviewHotNews).AnswersAlone
          .validateHotNews r ∧
        (∀ known, validateSpec h.spec known = [] → r = .allow review request) ∧
        (h.metadata.isDeleting = false → (r.allowed = false ↔ h.spec.ownErrors ≠ [])) ∧
        (r.allowed = false →
          r = (AdmissionResponse.allow review request).deny
            (FieldError.aggregate h.spec.ownErrors) ∧
          ∀ e ∈ h.spec.ownErrors, e.field ≠ "spec.feedsName")) ∧
    (∀ {review : AdmissionReview HotNews} {request : AdmissionRequest HotNews} {h : HotNews},
      Updates review request h → h.metadata.isDeleting = true →
        (answerReview Webhook.validateHotNews.name review reviewHotNews).AnswersAlone
          .validateHotNews (.allow review request)) ∧
    (∀ {review : AdmissionReview RawObject} {request : AdmissionRequest RawObject}
      {object : RawObject}, Updates review request object →
        object.metadata.isDeleting = true →
          (answerReview Webhook.mutateHotNews.name review reviewDefaults).AnswersAlone
            .mutateHotNews (.allow review request)) := by
  refine ⟨fun {review request h} hreview => ?_, fun {review request h} hreview hdeleting => ?_,
    fun {review request object} hreview hdeleting => ?_⟩
  · refine ⟨unchangedResponse review request h, ?_,
      fun known hvalid => unchangedResponse_of_valid hvalid, unchangedResponse_denied_iff,
      fun hdenied => ⟨unchangedResponse_of_denied hdenied,
        fun e => HotNewsSpec.field_of_mem_ownErrors⟩⟩
    exact answersAlone_of_pure hreview.request_eq _ (reviewHotNews_of_leavesSpec hreview)
  · exact answersAlone_of_pure hreview.request_eq _ (reviewHotNews_of_deleting hreview hdeleting _)
  · exact answersAlone_of_pure hreview.request_eq _ (reviewDefaults_of_deleting hreview hdeleting _)

namespace GoneFeed

/-- A query for a feed; its release is awaited once its deletion was requested. -/
def query (deleted : Option Timestamp) : HotNews :=
  ⟨{ Metadata.empty with name := some "morning", ns := some "news", deletionTimestamp := deleted },
    ⟨["election"], none, none, ["bbc\u2003"], [], ⟨5⟩⟩, none⟩

def request {α : Type} (object : α) : AdmissionRequest α :=
  ⟨"r1", some "news", .update, some object, some object⟩

def review {α : Type} (object : α) : AdmissionReview α :=
  ⟨"admission.k8s.io/v1", "AdmissionReview", some (request object)⟩

def raw : RawObject := ⟨(query (some ⟨0⟩)).metadata, hotNewsToJson (query (some ⟨0⟩))⟩

theorem updates {α : Type} (object : α) : Updates (review object) (request object) object :=
  ⟨rfl, rfl, rfl⟩

end GoneFeed

open GoneFeed

/-- The finalizer of a query is added after its feed has gone, and taken away again. -/
theorem goneFeed_answered :
    (validateSpec (query none).spec ["bbc"] = [] ∧ validateSpec (query none).spec [] ≠ []) ∧
    LeavesSpec (review (query none)) (request (query none)) (query none) ∧
    (∀ c c', ((answerReview Webhook.validateHotNews.name (review (query none))
      reviewHotNews).run (Cluster.environment fun _ => "now") c).1 =
        ((answerReview Webhook.validateHotNews.name (review (query none))
          reviewHotNews).run (Cluster.environment fun _ => "now") c').1) ∧
    (answerReview Webhook.validateHotNews.name (review (query none)) reviewHotNews).AnswersAlone
      .validateHotNews (.allow (review (query none)) (request (query none))) ∧
    (answerReview Webhook.validateHotNews.name (review (query (some ⟨0⟩)))
      reviewHotNews).AnswersAlone
      .validateHotNews (.allow (review (query (some ⟨0⟩))) (request (query (some ⟨0⟩)))) ∧
    (answerReview Webhook.mutateHotNews.name (review raw) reviewDefaults).AnswersAlone
      .mutateHotNews (.allow (review raw) (request raw)) := by
  obtain ⟨hunchanged, hdeleting, hdefaults⟩ := unchangedQuery_answered
  have hleaves : LeavesSpec (review (query none)) (request (query none)) (query none) :=
    { updates (query none) with old := ⟨_, rfl, rfl⟩ }
  have hvalid : validateSpec (query none).spec ["bbc"] = [] := by decide +kernel
  obtain ⟨r, halone, hallow, -⟩ := hunchanged hleaves
  rw [hallow _ hvalid] at halone
  exact ⟨⟨hvalid, by decide +kernel⟩, hleaves, fun c c' => (halone.in_clusters _ c c').1, halone,
    hdeleting (updates _) rfl, hdefaults (updates raw) rfl⟩

end Newsdesk
