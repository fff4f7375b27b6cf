import Newsdesk.Admission.Webhook
import Newsdesk.Cluster.Basic
import Newsdesk.Proofs.Program.Outcome

/-!
# How reviews are answered

A webhook answers a review that has a request by its rules and then counts the response. Some
reviews are answered alone (`Program.AnswersAlone`): the response is known from the review, so it is
the same in any two clusters, and nothing is asked for it. Others need the feeds of a namespace, and
these come with one list or not at all (`run_searchFeeds`).
-/

namespace Newsdesk

open Text

/-- A review of an object that is to be created or updated. -/
structure Stores {α : Type} (review : AdmissionReview α) (request : AdmissionRequest α)
    (object : α) : Prop where
  request_eq : review.request = some request
  stores : request.operation.stores = true
  object_eq : request.object = some object

/-- A review of an object that is to be updated. -/
structure Updates {α : Type} (review : AdmissionReview α) (request : AdmissionRequest α)
    (object : α) : Prop where
  request_eq : review.request = some request
  update : request.operation = .update
  object_eq : request.object = some object

/-- The program answers with a response whatever answers it, and does nothing else but count it. -/
def Program.AnswersAlone (p : Program AdmissionResponse) (webhook : Webhook)
    (r : AdmissionResponse) : Prop :=
  ∀ {σ : Type} (env : Environment σ) (s : σ),
    p.run env s = (.ok r, env.note (.reviewed webhook.name r.outcomeName) s)

section

variable {α : Type} {review : AdmissionReview α} {request : AdmissionRequest α}
  {respond : AdmissionRequest α → AdmissionResponse → Program AdmissionResponse}
  {r : AdmissionResponse} (hrequest : review.request = some request)
include hrequest

/-- A review is answered as the rules respond to its request. -/
theorem answerReview_eq (webhook : String) : answerReview webhook review respond =
    respond request (.allow review request) >>= countResponse webhook := by
  have hfound : requestOf webhook review = pure (.ok request) := by
    unfold requestOf
    rw [hrequest]
  unfold answerReview
  rw [hfound]
  rfl

theorem run_answerReview {σ : Type} {env : Environment σ} {s s' : σ} (webhook : String)
    (h : (respond request (.allow review request)).run env s = (.ok r, s')) :
    (answerReview webhook review respond).run env s =
      (.ok r, env.note (.reviewed webhook r.outcomeName) s') := by
  rw [answerReview_eq hrequest]
  exact Program.run_bind_eq_ok.2 ⟨r, s', h, rfl⟩

theorem answersAlone_of_pure (webhook : Webhook)
    (h : respond request (.allow review request) = pure r) :
    (answerReview webhook.name review respond).AnswersAlone webhook r := by
  intro σ env s
  exact run_answerReview hrequest webhook.name (h ▸ Program.run_pure_eq_ok.2 ⟨rfl, rfl⟩)

end

namespace Program.AnswersAlone

variable {p : Program AdmissionResponse} {webhook : Webhook} {r : AdmissionResponse}

/-- The answer is the same in any two clusters, and no request is sent for it. -/
theorem in_clusters (h : p.AnswersAlone webhook r) (timeText : Nat → String) (c c' : Cluster) :
    (p.run (Cluster.environment timeText) c).1 = (p.run (Cluster.environment timeText) c').1 ∧
      (p.run (Cluster.environment timeText) c).2.log = c.log := by
  rw [h (Cluster.environment timeText) c, h (Cluster.environment timeText) c']
  exact ⟨rfl, rfl⟩

end Program.AnswersAlone

/-! ## Searching a namespace -/

/-- The wording for a list of feeds that has failed. -/
def lookupFailure (ns : String) : ApiError → String
  | .unanswered => "timed out after 10s listing Feed in " ++ ns
  | e => "failed to list Feed in " ++ ns ++ ": " ++ e.message

section

variable {σ : Type} {env : Environment σ} {s s' : σ} {ns : String}

/-- A list of objects ends well or with an error of the API server. -/
theorem exists_run_tryListObjects (α : Type) [Resource α] (env : Environment σ) (s : σ)
    (ns : String) :
    ∃ listed s', (Program.tryListObjects α ns).run env s = (.ok listed, s') := by
  unfold Program.tryListObjects
  rw [Program.run_callApi]
  split <;> exact ⟨_, _, rfl⟩

/-- A namespace is searched with one list. -/
theorem run_searchFeeds {listed : Except ApiError (List Feed)}
    (h : (Program.tryListObjects Feed ns).run env s = (.ok listed, s')) :
    (searchFeeds ns).run env s = (.ok (listed.mapError (lookupFailure ns)), s') := by
  unfold searchFeeds
  refine Program.run_bind_eq_ok.2 ⟨listed, s', h, ?_⟩
  cases listed with
  | ok feeds => rfl
  | error e => cases e <;> rfl

end

/-! ## Violations -/

/-- One violation for each entry that is not known, in order and with repetitions. -/
theorem filterMap_unless {α : Type} (known : α → Prop) [DecidablePred known]
    (violation : α → FieldError) (entries : List α) :
    (entries.filterMap fun a => if known a then none else some (violation a)) =
      (entries.filter fun a => ¬ known a).map violation := by
  induction entries with
  | nil => rfl
  | cons a rest ih => by_cases h : known a <;> simpa [h] using ih

/-- The feed names of a query are no violation if all of them are known, apart from blanks. -/
theorem feedsNameErrors_eq_nil_iff {names known : List String} :
    feedsNameErrors names known = [] ↔ ∀ name ∈ names, trim name ∈ known := by
  unfold feedsNameErrors
  rw [List.filterMap_eq_nil_iff]
  refine forall₂_congr fun name _ => ?_
  by_cases h : trim name ∈ known <;> simp [h]

/-! ## Responses -/

namespace AdmissionResponse

theorem verdict_nil (r : AdmissionResponse) : r.verdict [] [] = r := rfl

theorem verdict_of_ne_nil {errors : List FieldError} (h : errors ≠ []) (r : AdmissionResponse)
    (warnings : List String) : r.verdict errors warnings = r.deny (FieldError.aggregate errors) :=
  if_neg h

/-- An object is admitted if nothing is wrong with it, and only then. -/
theorem allowed_verdict_iff {r : AdmissionResponse} (hr : r.allowed = true)
    (errors : List FieldError) : (r.verdict errors []).allowed = true ↔ errors = [] := by
  by_cases h : errors = []
  · rw [h, verdict_nil]
    simp [hr]
  · rw [verdict_of_ne_nil h]
    simp [deny, h]

end AdmissionResponse

end Newsdesk
