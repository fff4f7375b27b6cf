import Mathlib.Data.List.Forall2
import Newsdesk.Admission.Router
import Newsdesk.Proofs.Admission.Answered
import Newsdesk.Proofs.Json.Records
import Newsdesk.Proofs.Program.Traced

/-!
# Reviews are counted

Requests to the web server that bring reviews to the webhooks are answered one after the other, in
any environment: whatever is stored, and whether feeds can be listed or not. Each review is counted
once, in one series, by the flag of the response that is sent for it (`Answered`).

All webhooks answer through `answerReview`, so what is shown of each is how it responds to a request
(`Responds`): it counts nothing by itself, it keeps the identifier of the request, it denies without
a patch, and it has nothing to say where no object is stored.
-/

namespace Newsdesk

open Json

/-! ## What a review is about -/

/-- What every webhook looks at in a request. -/
structure RequestHead where
  uid : String
  operation : Operation
  hasObject : Bool
deriving DecidableEq

/-- The request stores no object. -/
def RequestHead.Idle (head : RequestHead) : Prop :=
  head.operation ≠ .create ∧ head.operation ≠ .update ∨ head.hasObject = false

/-- What every webhook looks at in a request with an object of its own kind. -/
def AdmissionRequest.head {α : Type} (request : AdmissionRequest α) : RequestHead :=
  ⟨request.uid, request.operation, request.object.isSome⟩

/-- The request of a review, if it has one; `none` when the value is no review for the webhook. -/
def Webhook.head? (webhook : Webhook) (body : Json) : Option (Option RequestHead) :=
  match webhook with
  | .validateFeed =>
    (AdmissionReview.decode decodeFeed body).map fun review => review.request.map (·.head)
  | .mutateHotNews =>
    (AdmissionReview.decode RawObject.decode body).map fun review => review.request.map (·.head)
  | .validateHotNews =>
    (AdmissionReview.decode decodeHotNews body).map fun review => review.request.map (·.head)
  | .validateConfigMap =>
    (AdmissionReview.decode ConfigMap.decode body).map fun review => review.request.map (·.head)

theorem AdmissionRequest.stores_eq_false {α : Type} {request : AdmissionRequest α} {object : α}
    (h : request.head.Idle) (hobject : request.object = some object) :
    request.operation.stores = false := by
  rcases h with ⟨hcreate, hupdate⟩ | hnone
  · change request.operation ≠ .create at hcreate
    change request.operation ≠ .update at hupdate
    cases hoperation : request.operation <;> first | rfl | contradiction
  · change request.object.isSome = false at hnone
    simp [hobject] at hnone

/-! ## Responses to a request -/

namespace AdmissionResponse

/-- A response to the request with an identifier. It has no patch if it denies. -/
structure Fits (uid : String) (r : AdmissionResponse) : Prop where
  uid_eq : r.uid = uid
  unpatched : r.allowed = false → r.patch = []

variable {r : AdmissionResponse}

theorem fits_self (hpatch : r.patch = []) : r.Fits r.uid := ⟨rfl, fun _ => hpatch⟩

theorem fits_deny (hpatch : r.patch = []) (message : String) : (r.deny message).Fits r.uid :=
  ⟨rfl, fun _ => hpatch⟩

theorem Fits.withWarnings {uid : String} (h : r.Fits uid) (warnings : List String) :
    (r.withWarnings warnings).Fits uid := by
  unfold AdmissionResponse.withWarnings
  split
  · exact h
  · exact ⟨h.uid_eq, h.unpatched⟩

theorem fits_verdict (hpatch : r.patch = []) (errors : List FieldError)
    (warnings : List String) : (r.verdict errors warnings).Fits r.uid := by
  unfold verdict
  split
  · exact (fits_self hpatch).withWarnings warnings
  · exact fits_deny hpatch _

end AdmissionResponse

open AdmissionResponse Program

/-- How a webhook responds to requests, given the response that admits. -/
structure Responds {α : Type}
    (respond : AdmissionRequest α → AdmissionResponse → Program AdmissionResponse) : Prop where
  yields : ∀ request {r}, r.allowed = true → r.patch = [] →
    (respond request r).Yields (·.Fits r.uid)
  idle : ∀ request r, request.head.Idle → respond request r = pure r

/-! ## The webhooks -/

theorem yields_searchFeeds (ns : String) : (searchFeeds ns).Yields fun _ => True := by
  refine (yields_callApi _ _).bind fun listed _ => ?_
  cases listed with
  | ok feeds => exact .done trivial
  | error e => cases e <;> exact .done trivial

theorem yields_feedErrors (feed : Feed) : (feedErrors feed).Yields fun _ => True := by
  unfold feedErrors
  dsimp only
  split
  · exact .done trivial
  · exact (yields_searchFeeds _).bind fun outcome _ => by cases outcome <;> exact .done trivial

theorem responds_reviewFeed : Responds reviewFeed where
  yields request r _ hpatch := by
    unfold reviewFeed
    split
    · split
      · exact (yields_feedErrors _).bind fun errors _ => .done (fits_verdict hpatch errors [])
      · exact .done (fits_self hpatch)
    · exact .done (fits_self hpatch)
  idle request r hidle := by
    unfold reviewFeed
    split
    · rename_i hobject
      rw [AdmissionRequest.stores_eq_false hidle hobject]
      rfl
    · rfl

theorem yields_defaultFeeds (ns : String) (spec : HotNewsSpec) :
    (defaultFeeds ns spec).Yields fun _ => True := by
  unfold defaultFeeds
  split
  · exact (yields_searchFeeds ns).bind fun outcome _ => by cases outcome <;> exact .done trivial
  · exact .done trivial

/-- Only what is admitted gets a patch. -/
theorem yields_applyDefaults (ns : String) (object : Json) {r : AdmissionResponse}
    (hallowed : r.allowed = true) (hpatch : r.patch = []) :
    (applyDefaults ns object r).Yields (·.Fits r.uid) := by
  unfold applyDefaults
  split
  · exact .done (fits_deny hpatch _)
  · rename_i spec _
    refine (yields_defaultFeeds ns spec).bind fun outcome _ => ?_
    cases outcome with
    | error message => exact .done (fits_deny hpatch message)
    | ok feeds =>
      have hfits : { r with patch := defaultsPatch object spec feeds }.Fits r.uid :=
        ⟨rfl, fun hdenied => by simp [hallowed] at hdenied⟩
      exact .done (hfits.withWarnings _)

theorem responds_reviewDefaults : Responds reviewDefaults where
  yields request r hallowed hpatch := by
    unfold reviewDefaults
    split
    · split
      · exact .done (fits_self hpatch)
      · split
        · exact yields_applyDefaults _ _ hallowed hpatch
        · exact .done (fits_self hpatch)
    · exact .done (fits_self hpatch)
  idle request r hidle := by
    unfold reviewDefaults
    split
    · rename_i hobject
      rw [AdmissionRequest.stores_eq_false hidle hobject]
      split <;> rfl
    · rfl

theorem yields_hotNewsErrors (ns : String) (old : Option HotNews) (h : HotNews) :
    (hotNewsErrors ns old h).Yields fun _ => True := by
  unfold hotNewsErrors
  split
  · exact .done trivial
  · exact (yields_searchFeeds ns).bind fun outcome _ => by cases outcome <;> exact .done trivial

theorem responds_reviewHotNews : Responds reviewHotNews where
  yields request r _ hpatch := by
    unfold reviewHotNews
    split
    · split
      · exact .done (fits_self hpatch)
      · split
        · exact (yields_hotNewsErrors _ _ _).bind fun errors _ =>
            .done (fits_verdict hpatch errors [])
        · exact .done (fits_self hpatch)
    · exact .done (fits_self hpatch)
  idle request r hidle := by
    unfold reviewHotNews
    split
    · rename_i hobject
      rw [AdmissionRequest.stores_eq_false hidle hobject]
      split <;> rfl
    · rfl

theorem yields_configMapErrors (map : ConfigMap) : (configMapErrors map).Yields fun _ => True :=
  (yields_searchFeeds _).bind fun outcome _ => by cases outcome <;> exact .done trivial

theorem responds_reviewConfigMap (settings : Settings) : Responds (reviewConfigMap settings) where
  yields request r _ hpatch := by
    unfold reviewConfigMap
    split
    · dsimp only
      split
      · exact (yields_configMapErrors _).bind fun errors _ => .done (fits_verdict hpatch errors [])
      · exact .done (fits_self hpatch)
    · exact .done (fits_self hpatch)
  idle request r hidle := by
    unfold reviewConfigMap
    split
    · rename_i hobject
      rw [AdmissionRequest.stores_eq_false hidle hobject]
      exact if_neg fun h => Bool.false_ne_true h.1
    · rfl

/-! ## One review -/

/-- The word under which a review is counted, by the flag of the response to it. -/
def outcomeOf (head : Option RequestHead) (allowed : Bool) : String :=
  match head with
  | none => "invalid"
  | some _ => if allowed then "allowed" else "denied"

/-- A review has been answered with a response and counted. -/
structure Answered (webhook : Webhook) (head : Option RequestHead) (before after : Trace)
    (r : AdmissionResponse) : Prop where
  counted : after.counted =
    before.counted ++ [.reviewed webhook.name (outcomeOf head r.allowed)]
  once : ∀ series : Series, series.count after.counted = series.count before.counted +
    if series = ⟨.reviews, [outcomeOf head r.allowed, webhook.name]⟩ then 1 else 0
  flag : r.responseJson.field? "allowed" = some (.bool r.allowed)
  uid : ∀ request, head = some request →
    r.responseJson.field? "uid" = some (.str request.uid)
  unpatched : r.allowed = false →
    r.responseJson.field? "patch" = none ∧ r.responseJson.field? "patchType" = none
  idle : ∀ request, head = some request → request.Idle →
    r.allowed = true ∧ after.sent = before.sent

section

variable {σ : Type} {webhook : Webhook} {head : Option RequestHead}

/-- One more event counts for its own series. -/
theorem Series.count_concat (series : Series) (events : List Event) (e : Event) :
    series.count (events ++ [e]) = series.count events + if series = e.series then 1 else 0 := by
  rw [Series.count_append]
  unfold Series.count
  rw [List.countP_singleton]
  simp [eq_comm]

theorem field?_responseJson (r : AdmissionResponse) (name : String) :
    r.responseJson.field? name = (List.lookup name [
      ("allowed", some (.bool r.allowed)),
      ("patch", if r.patch = [] then none else some r.patch.toJson),
      ("patchType", if r.patch = [] then none else some (.str "JSONPatch")),
      ("status", some (ofOptionalFields [
        ("message", nonemptyText r.message),
        ("reason", nonemptyText r.reason),
        ("status", r.outcome.map fun o => .str o.name)])),
      ("uid", some (.str r.uid)),
      ("warnings", if r.warnings = [] then none else some (ofStrings r.warnings))]).join :=
  lookup_optionalFields name (by simp)

/-- A response that has been counted by its flag answers the review. -/
theorem answered_of_counted {before after : Trace} {r : AdmissionResponse}
    (hcounted : after.counted =
      before.counted ++ [.reviewed webhook.name (outcomeOf head r.allowed)])
    (huid : ∀ request, head = some request → r.uid = request.uid)
    (hpatch : r.allowed = false → r.patch = [])
    (hidle : ∀ request, head = some request → request.Idle →
      r.allowed = true ∧ after.sent = before.sent) :
    Answered webhook head before after r where
  counted := hcounted
  once series := by
    rw [hcounted, Series.count_concat]
    rfl
  flag := field?_responseJson r "allowed"
  uid request hrequest := by
    rw [← huid request hrequest]
    exact field?_responseJson r "uid"
  unpatched hdenied := by
    constructor <;> simp [field?_responseJson, List.lookup_cons, hpatch hdenied]
  idle := hidle

/-- A webhook answers every review in any environment. -/
theorem Responds.exists_run_answerReview {α : Type}
    {respond : AdmissionRequest α → AdmissionResponse → Program AdmissionResponse}
    (h : Responds respond) (webhook : Webhook) (review : AdmissionReview α)
    (env : Environment σ) (s : σ) (t : Trace) :
    ∃ r s' t', (answerReview webhook.name review respond).run env.traced (s, t) =
        (.ok r, s', t') ∧ Answered webhook (review.request.map (·.head)) t t' r := by
  cases hrequest : review.request with
  | none =>
    have hrun : (answerReview webhook.name review respond).run env.traced (s, t) =
        (.ok .invalid, env.note (.reviewed webhook.name "invalid") s,
          ⟨t.sent, t.counted ++ [.reviewed webhook.name "invalid"]⟩) := by
      unfold answerReview requestOf
      rw [hrequest]
      rfl
    exact ⟨_, _, _, hrun, answered_of_counted rfl nofun (fun _ => rfl) nofun⟩
  | some request =>
    obtain ⟨r, s', sent, hrun, hfits⟩ :=
      (h.yields request (r := .allow review request) rfl rfl).run_traced env s t
    have hanswer := run_answerReview hrequest webhook.name hrun
    refine ⟨_, _, _, hanswer, answered_of_counted rfl ?_ hfits.unpatched ?_⟩
    · rintro _ ⟨⟩
      exact hfits.uid_eq
    · rintro _ ⟨⟩ hidle
      obtain ⟨rfl, hstate⟩ :=
        Program.run_pure_eq_ok.1 ((h.idle request _ hidle) ▸ hrun)
      exact ⟨rfl, (congrArg (fun state => state.2.sent) hstate).symm⟩

/-- A program that answers a review, in whatever environment it runs. -/
def Program.Answers (program : Program AdmissionResponse) (webhook : Webhook)
    (head : Option RequestHead) : Prop :=
  ∀ {σ : Type} (env : Environment σ) (s : σ) (t : Trace), ∃ r s' t',
    program.run env.traced (s, t) = (.ok r, s', t') ∧ Answered webhook head t t' r

theorem Responds.exists_answers {α : Type}
    {respond : AdmissionRequest α → AdmissionResponse → Program AdmissionResponse}
    (h : Responds respond) (webhook : Webhook) {decoded : Option (AdmissionReview α)}
    (hhead : decoded.map (fun review => review.request.map (·.head)) = some head) :
    ∃ program, decoded.map (fun review => answerReview webhook.name review respond) =
      some program ∧ program.Answers webhook head := by
  obtain ⟨review, rfl, rfl⟩ := Option.map_eq_some_iff.1 hhead
  exact ⟨_, rfl, h.exists_run_answerReview webhook review⟩

/-- What decodes as a review is answered. -/
theorem Webhook.exists_answer? {body : Json} (hhead : webhook.head? body = some head)
    (settings : Settings) :
    ∃ program, webhook.answer? settings body = some program ∧ program.Answers webhook head := by
  cases webhook with
  | validateFeed => exact responds_reviewFeed.exists_answers _ hhead
  | mutateHotNews => exact responds_reviewDefaults.exists_answers _ hhead
  | validateHotNews => exact responds_reviewHotNews.exists_answers _ hhead
  | validateConfigMap => exact (responds_reviewConfigMap settings).exists_answers _ hhead

end

/-! ## Reviews one after the other -/

/-- A request to the web server brings a review to a webhook. -/
structure WebRequest.Brings (request : WebRequest) (webhook : Webhook)
    (head : Option RequestHead) : Prop where
  posted : request.method = "POST"
  routed : request.route = "/" ++ webhook.name
  json : request.contentType.any MediaType.isJson = true
  decoded : ∃ body, request.body.front? = some (body, true) ∧ webhook.head? body = some head

/-- Answers requests one after the other. -/
def serveAll (settings : Settings) : List WebRequest → Program (List WebAnswer)
  | [] => return []
  | request :: rest => do
    let answer ← serve settings request
    return answer :: (← serveAll settings rest)

/-- The events by which reviews with these responses are counted. -/
def reviewEvents (reviews : List (Webhook × Option RequestHead))
    (responses : List AdmissionResponse) : List Event :=
  List.zipWith (fun review r => .reviewed review.1.name (outcomeOf review.2 r.allowed)) reviews
    responses

/-- The reviews have been answered one after the other, each as one review is. -/
inductive AnsweredAll : List (Webhook × Option RequestHead) → Trace → List AdmissionResponse →
    Trace → Prop
  | nil (t : Trace) : AnsweredAll [] t [] t
  | cons {webhook : Webhook} {head : Option RequestHead} {r : AdmissionResponse}
      {reviews : List (Webhook × Option RequestHead)} {rs : List AdmissionResponse}
      {t t' t'' : Trace} : Answered webhook head t t' r → AnsweredAll reviews t' rs t'' →
      AnsweredAll ((webhook, head) :: reviews) t (r :: rs) t''

section

variable {σ : Type}

theorem find?_webhook (webhook : Webhook) :
    (Webhook.all.find? fun w => "/" ++ w.name = "/" ++ webhook.name) = some webhook := by
  cases webhook <;> decide

/-- A request that brings a review is answered with the response to it. -/
theorem WebRequest.Brings.exists_run_serve {request : WebRequest} {webhook : Webhook}
    {head : Option RequestHead} (h : request.Brings webhook head) (settings : Settings)
    (env : Environment σ) (s : σ) (t : Trace) :
    ∃ r s' t', (serve settings request).run env.traced (s, t) = (.ok (.review r), s', t') ∧
      Answered webhook head t t' r := by
  obtain ⟨body, hfront, hhead⟩ := h.decoded
  obtain ⟨program, hprogram, hruns⟩ := webhook.exists_answer? hhead settings
  obtain ⟨r, s', t', hrun, hanswered⟩ := hruns env s t
  have hserve : serve settings request = program >>= fun r => pure (.review r) := by
    unfold serve answerWebhook
    rw [h.routed, find?_webhook]
    simp only [h.posted, h.json, hfront, hprogram, ne_eq, not_true_eq_false, if_false, if_true]
  refine ⟨r, s', t', ?_, hanswered⟩
  rw [hserve]
  exact Program.run_bind_eq_ok.2 ⟨r, _, hrun, rfl⟩

/-- What is counted while reviews are answered is one event for each, in their order. -/
theorem AnsweredAll.counted {reviews : List (Webhook × Option RequestHead)} {t t' : Trace}
    {responses : List AdmissionResponse} (h : AnsweredAll reviews t responses t') :
    t'.counted = t.counted ++ reviewEvents reviews responses := by
  induction h with
  | nil t => simp [reviewEvents]
  | cons hfirst _ ih => simp [reviewEvents, ih, hfirst.counted]

/-- Reviews that are brought one after the other are answered and counted one after the other. -/
theorem reviews_counted {requests : List WebRequest}
    {reviews : List (Webhook × Option RequestHead)}
    (hbrings : List.Forall₂ (fun request review => request.Brings review.1 review.2) requests
      reviews) (settings : Settings) (env : Environment σ) (s : σ) (t : Trace) :
    ∃ responses s' t',
      (serveAll settings requests).run env s = (.ok (responses.map .review), s') ∧
      (serveAll settings requests).run env.traced (s, t) =
        (.ok (responses.map .review), s', t') ∧
      AnsweredAll reviews t responses t' ∧
      t'.counted = t.counted ++ reviewEvents reviews responses := by
  have hall : ∃ responses s' t', (serveAll settings requests).run env.traced (s, t) =
      (.ok (responses.map .review), s', t') ∧ AnsweredAll reviews t responses t' := by
    induction hbrings generalizing s t with
    | nil => exact ⟨[], s, t, rfl, .nil t⟩
    | cons hfirst _ ih =>
      obtain ⟨r, s', t', hrun, hanswered⟩ := hfirst.exists_run_serve settings env s t
      obtain ⟨rs, s'', t'', hruns, hrest⟩ := ih s' t'
      refine ⟨r :: rs, s'', t'', ?_, .cons hanswered hrest⟩
      exact Program.run_bind_eq_ok.2 ⟨_, _, hrun,
        Program.run_bind_eq_ok.2 ⟨_, _, hruns, Program.run_pure_eq_ok.2 ⟨rfl, rfl⟩⟩⟩
  obtain ⟨responses, s', t', hrun, hanswered⟩ := hall
  exact ⟨responses, s', t', Program.run_of_run_traced hrun, hrun, hanswered, hanswered.counted⟩

end

namespace MixedReviews

def feed : Feed :=
  ⟨{ Metadata.empty with name := some "bbc", ns := some "news" }, ⟨"bbc", "feeds.example"⟩, none⟩

/-- A query without feeds. -/
def query : Json := ofFields [("spec", ofFields [("keywords", ofStrings ["election"])])]

def typeNamed (third : String) : Json :=
  ofFields [("group", .str ""), ("version", .str "v1"), (third, .str "")]

def requestFor (uid operation : String) (object : Json) : Json :=
  ofFields [("uid", .str uid), ("kind", typeNamed "kind"), ("resource", typeNamed "resource"),
    ("namespace", .str "news"), ("operation", .str operation), ("userInfo", .obj []),
    ("object", object)]

def posted (webhook : Webhook) (request : Json) : WebRequest where
  method := "POST"
  path := "/" ++ webhook.name ++ "?timeout=10s"
  contentType := some "application/json"
  body := .value (ofFields [("apiVersion", .str "admission.k8s.io/v1"),
    ("kind", .str "AdmissionReview"), ("request", request)])

def requests : List WebRequest := [
  posted .validateFeed (requestFor "a" "CREATE" (feedToJson feed)),
  posted .mutateHotNews (requestFor "b" "CREATE" query),
  posted .validateHotNews (requestFor "c" "DELETE" .null),
  posted .validateConfigMap .null]

def reviews : List (Webhook × Option RequestHead) := [
  (.validateFeed, some ⟨"a", .create, true⟩),
  (.mutateHotNews, some ⟨"b", .create, true⟩),
  (.validateHotNews, some ⟨"c", .delete, false⟩),
  (.validateConfigMap, none)]

/-- The first list of feeds fails. -/
def cluster : Cluster :=
  .start ⟨[(⟨.feeds, "news", "bbc"⟩, feedToJson feed)], 0⟩
    [⟨some "LIST", none, .dropped, some 1⟩] []

def environment : Environment Cluster := Cluster.environment fun _ => "now"

theorem brings : List.Forall₂ (fun request review => WebRequest.Brings request review.1 review.2)
    requests reviews := by
  refine .cons ?_ (.cons ?_ (.cons ?_ (.cons ?_ .nil))) <;>
    exact ⟨rfl, by decide +kernel, by decide +kernel, _, rfl, by decide +kernel⟩

end MixedReviews

open MixedReviews in
/-- One review for each webhook: a feed is denied, a query gets its defaults, a removal is admitted,
and a review without a request is invalid. -/
theorem mixedReviews_counted :
    List.Forall₂ (fun request review => WebRequest.Brings request review.1 review.2) requests
      reviews ∧
    ∃ responses s' t', (serveAll {} requests).run environment.traced (cluster, ⟨[], []⟩) =
        (.ok (responses.map .review), s', t') ∧
      AnsweredAll reviews ⟨[], []⟩ responses t' ∧
      t'.counted = [.reviewed "validate-feed" "denied", .reviewed "mutate-hotnews" "allowed",
        .reviewed "validate-hotnews" "allowed", .reviewed "validate-configmap" "invalid"] := by
  obtain ⟨responses, s', t', -, hrun, hanswered, -⟩ :=
    reviews_counted brings {} environment cluster ⟨[], []⟩
  have hcounted : ((serveAll {} requests).run environment.traced
      (cluster, ⟨[], []⟩)).2.2.counted = [.reviewed "validate-feed" "denied",
        .reviewed "mutate-hotnews" "allowed", .reviewed "validate-hotnews" "allowed",
        .reviewed "validate-configmap" "invalid"] := by
    decide +kernel
  rw [hrun] at hcounted
  exact ⟨brings, responses, s', t', hrun, hanswered, hcounted⟩

end Newsdesk
