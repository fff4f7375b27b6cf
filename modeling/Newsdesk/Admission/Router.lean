import Newsdesk.Admission.Webhook
import Newsdesk.Http.MediaType

/-!
# The web server

The webhooks take reviews by `POST` as JSON. The same server tells that it is alive and serves
the metrics. A request that fits no route, no method or no review is refused with a status.
-/

namespace Newsdesk

/-- A request to the web server. -/
structure WebRequest where
  method : String
  path : String
  contentType : Option String
  body : Body

/-- What the web server sends back. -/
inductive WebAnswer where
  | review (response : AdmissionResponse)
  | text (content : String)
  | metrics
  | refused (status : Nat)

namespace WebRequest

/-- The path without its query and fragment. -/
def route (r : WebRequest) : String :=
  String.ofList (r.path.toList.takeWhile fun c => c ≠ '?' ∧ c ≠ '#')

end WebRequest

/-- Answers a request to a webhook. The body is read from its front: what is no review is refused
as such even when its text is broken later on, and an array already at its bracket. -/
def answerWebhook (settings : Settings) (webhook : Webhook) (r : WebRequest) :
    Program WebAnswer :=
  if r.method ≠ "POST" then return .refused 405
  else if ¬ r.contentType.any MediaType.isJson then return .refused 415
  else
    match r.body.front? with
    | none => return .refused (if r.body.opensArray then 422 else 400)
    | some (body, complete) =>
      match webhook.answer? settings body with
      | none => return .refused 422
      | some program => if complete then do return .review (← program) else return .refused 400

/-- Answers a request that only reads. -/
def answerRead (r : WebRequest) (answer : WebAnswer) : WebAnswer :=
  if r.method = "GET" then answer
  else if r.method = "HEAD" then .text ""
  else .refused 405

/-- Answers a request. -/
def serve (settings : Settings) (r : WebRequest) : Program WebAnswer :=
  match Webhook.all.find? fun w => "/" ++ w.name = r.route with
  | some webhook => answerWebhook settings webhook r
  | none =>
    if r.route = "/metrics" then return answerRead r .metrics
    else if r.route = "/healthz" ∨ r.route = "/readyz" then return answerRead r (.text "ok")
    else return .refused 404

end Newsdesk
