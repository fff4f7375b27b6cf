import Newsdesk.Cluster.Basic
import Newsdesk.Program.Calls

/-!
# The conduct of programs

What a program may send depends on what it has been answered so far. `Program.Obeys rule post`
says of a program that, whatever comes back, it sends only what `rule` permits after the calls
made before, and that it ends as `post` says. The rule speaks of the calls of the program alone;
nothing is assumed of the servers, nor of what happens between two calls.

There is one law for each way to put programs together (`Obeys.bind`, `Obeys.attempt`,
`Obeys.within`) and one for each kind of call (`obeys_patchObject`, …).
-/

namespace Newsdesk

/-- What may be sent after some calls. -/
abbrev CallRule := List LogEntry → SentRequest → Prop

/-- How a program may end after some calls. -/
abbrev CallPost (α : Type) := Except Failure α → List LogEntry → Prop

namespace Program

/-- After the calls `log` the program sends only what the rule permits and ends as `post` says. -/
def Obeys {α : Type} (rule : CallRule) (post : CallPost α) : Program α → List LogEntry → Prop
  | .done value, log => post (.ok value) log
  | .fail failure, log => post (.error failure) log
  | .api request next, log =>
    rule log (.api request) ∧
      ∀ reply, (next reply).Obeys rule post (log ++ [⟨.api request, reply⟩])
  | .aggregator request next, log =>
    rule log (.aggregator request) ∧
      ∀ reply, (next reply).Obeys rule post (log ++ [⟨.aggregator request, reply⟩])
  | .now next, log => ∀ time, (next time).Obeys rule post log
  | .note _ next, log => next.Obeys rule post log

section

variable {α β : Type} {rule : CallRule}

theorem obeys_pure {post : CallPost α} {value : α} {log : List LogEntry} :
    (pure value : Program α).Obeys rule post log ↔ post (.ok value) log := Iff.rfl

theorem obeys_fail {post : CallPost α} {failure : Failure} {log : List LogEntry} :
    (fail failure : Program α).Obeys rule post log ↔ post (.error failure) log := Iff.rfl

theorem obeys_api {post : CallPost α} {request : ApiRequest} {next : Reply → Program α}
    {log : List LogEntry} :
    (api request next).Obeys rule post log ↔ rule log (.api request) ∧
      ∀ reply, (next reply).Obeys rule post (log ++ [⟨.api request, reply⟩]) := Iff.rfl

theorem obeys_aggregator {post : CallPost α} {request : AggregatorRequest}
    {next : Reply → Program α} {log : List LogEntry} :
    (aggregator request next).Obeys rule post log ↔ rule log (.aggregator request) ∧
      ∀ reply, (next reply).Obeys rule post (log ++ [⟨.aggregator request, reply⟩]) := Iff.rfl

theorem obeys_now {post : CallPost α} {next : String → Program α} {log : List LogEntry} :
    (now next).Obeys rule post log ↔ ∀ time, (next time).Obeys rule post log := Iff.rfl

theorem obeys_note {post : CallPost α} {event : Event} {next : Program α} {log : List LogEntry} :
    (note event next).Obeys rule post log ↔ next.Obeys rule post log := Iff.rfl

/-- A sequence obeys a rule if its parts do. -/
theorem Obeys.bind {post : CallPost β} {p : Program α} {f : α → Program β} {log : List LogEntry}
    (h : p.Obeys rule (fun outcome log =>
      match outcome with
      | .ok value => (f value).Obeys rule post log
      | .error failure => post (.error failure) log) log) :
    (p >>= f).Obeys rule post log := by
  change (p.bind f).Obeys rule post log
  induction p generalizing log with
  | done value => exact h
  | fail failure => exact h
  | api request next ih => exact ⟨h.1, fun reply => ih reply (h.2 reply)⟩
  | aggregator request next ih => exact ⟨h.1, fun reply => ih reply (h.2 reply)⟩
  | now next ih => exact fun time => ih time (h time)
  | note event next ih => exact ih h

/-- The outcome of an attempt is its value. -/
theorem Obeys.attempt {post : CallPost (Except Failure α)} {p : Program α} {log : List LogEntry}
    (h : p.Obeys rule (fun outcome log => post (.ok outcome) log) log) :
    p.attempt.Obeys rule post log := by
  induction p generalizing log with
  | done value => exact h
  | fail failure => exact h
  | api request next ih => exact ⟨h.1, fun reply => ih reply (h.2 reply)⟩
  | aggregator request next ih => exact ⟨h.1, fun reply => ih reply (h.2 reply)⟩
  | now next ih => exact fun time => ih time (h time)
  | note event next ih => exact ih h

/-- A context changes nothing but the failure. -/
theorem Obeys.within {post : CallPost α} {p : Program α} {doing : String} {log : List LogEntry}
    (h : p.Obeys rule (fun outcome log => post (outcome.mapError (Failure.within doing)) log) log) :
    (p.within doing).Obeys rule post log := by
  induction p generalizing log with
  | done value => exact h
  | fail failure => exact h
  | api request next ih => exact ⟨h.1, fun reply => ih reply (h.2 reply)⟩
  | aggregator request next ih => exact ⟨h.1, fun reply => ih reply (h.2 reply)⟩
  | now next ih => exact fun time => ih time (h time)
  | note event next ih => exact ih h

/-! ## Calls -/

theorem obeys_ofExcept {ε : Type} {cause : ε → Cause} {outcome : Except ε α} {post : CallPost α}
    {log : List LogEntry} (h : post (outcome.mapError fun e => .ofCause (cause e)) log) :
    (ofExcept cause outcome).Obeys rule post log := by
  cases outcome <;> exact h

/-- A call of the API server that is sent adds one entry; one that cannot be sent adds none. -/
theorem obeys_callApi {decoder : Decoder α} {request : ApiRequest}
    {post : CallPost (Except ApiError α)} {log : List LogEntry}
    (hinvalid : ∀ e, request.invalid? = some e → post (.ok (.error e)) log)
    (hrule : request.invalid? = none → rule log (.api request))
    (hreply : request.invalid? = none → ∀ reply,
      post (.ok (reply.decode decoder)) (log ++ [⟨.api request, reply⟩])) :
    (callApi decoder request).Obeys rule post log := by
  unfold callApi askApi
  refine Obeys.bind ?_
  cases h : request.invalid? with
  | some e => exact hinvalid e h
  | none => exact ⟨hrule h, fun reply => hreply h reply⟩

/-- Listing fails, or hands on what the reply reads as. -/
theorem obeys_listObjects [Resource α] {ns : String} {post : CallPost (List α)}
    {log : List LogEntry} (hfail : ∀ failure log, post (.error failure) log)
    (hrule : rule log (.api (.list (Resource.collection α) (some ns) none)))
    (hok : ∀ reply (objects : List α), reply.decode (decodeObjects Resource.decode) = .ok objects →
      post (.ok objects)
        (log ++ [⟨.api (.list (Resource.collection α) (some ns) none), reply⟩])) :
    (listObjects α ns).Obeys rule post log := by
  unfold listObjects tryListObjects
  refine Obeys.bind (obeys_callApi (fun e _ => obeys_ofExcept (hfail _ _)) (fun _ => hrule)
    fun _ reply => obeys_ofExcept ?_)
  cases h : reply.decode (decodeObjects (Resource.decode : Decoder α)) with
  | ok objects => exact hok reply objects h
  | error e => exact hfail _ _

/-- Looking up an object fails, finds none, or hands on what the reply reads as. -/
theorem obeys_getObject? [Resource α] {ns name : String} {post : CallPost (Option α)}
    {log : List LogEntry} (hfail : ∀ failure log, post (.error failure) log)
    (hnone : ∀ log, post (.ok none) log)
    (hrule : rule log (.api (.get (Resource.collection α) ns name)))
    (hok : ∀ reply (object : α),
      (ApiRequest.get (Resource.collection α) ns name).invalid? = none →
      reply.decode Resource.decode = .ok object →
      post (.ok (some object)) (log ++ [⟨.api (.get (Resource.collection α) ns name), reply⟩])) :
    (getObject? α ns name).Obeys rule post log := by
  have hend (e : ApiError) (log : List LogEntry) :
      Obeys rule post
        (if e.isAbsent then pure none else .fail (.ofCause (.api e)) : Program (Option α)) log := by
    split
    · exact hnone log
    · exact hfail _ log
  unfold getObject?
  refine Obeys.bind (obeys_callApi (fun e _ => hend e log) (fun _ => hrule) fun hvalid reply => ?_)
  cases h : reply.decode (Resource.decode : Decoder α) with
  | ok object => exact hok reply object hvalid h
  | error e => exact hend e _

/-- A patch fails, or hands on what the reply reads as. -/
theorem obeys_patchObject [Resource α] {ns name : String} {body : Json} {post : CallPost α}
    {log : List LogEntry} (hfail : ∀ failure log, post (.error failure) log)
    (hrule : rule log (.api (.patch (Resource.collection α) ns name body)))
    (hok : ∀ reply (object : α), reply.decode Resource.decode = .ok object →
      post (.ok object)
        (log ++ [⟨.api (.patch (Resource.collection α) ns name body), reply⟩])) :
    (patchObject ns name body : Program α).Obeys rule post log := by
  unfold patchObject
  refine Obeys.bind (obeys_callApi (fun e _ => obeys_ofExcept (hfail _ _)) (fun _ => hrule)
    fun _ reply => obeys_ofExcept ?_)
  cases h : reply.decode (Resource.decode : Decoder α) with
  | ok object => exact hok reply object h
  | error e => exact hfail _ _

/-- A patch of a status fails, or is done. -/
theorem obeys_patchObjectStatus [Resource α] {ns name : String} {body : Json}
    {post : CallPost Unit} {log : List LogEntry} (hfail : ∀ failure log, post (.error failure) log)
    (hrule : rule log (.api (.patchStatus (Resource.collection α) ns name body)))
    (hok : ∀ log, post (.ok ()) log) :
    (patchObjectStatus α ns name body).Obeys rule post log := by
  unfold patchObjectStatus
  refine Obeys.bind (obeys_callApi (fun e _ => Obeys.bind (obeys_ofExcept (hfail _ _)))
    (fun _ => hrule) fun _ reply => Obeys.bind (obeys_ofExcept ?_))
  cases reply.decode (Resource.decode : Decoder α) with
  | ok object => exact hok _
  | error e => exact hfail _ _

/-- A call of the aggregator fails, or hands on what its reply means. -/
theorem obeys_callAggregator {outcome : Reply → Except AggregatorError α}
    {request : AggregatorRequest} {post : CallPost α} {log : List LogEntry}
    (hfail : ∀ failure log, post (.error failure) log) (hrule : rule log (.aggregator request))
    (hok : ∀ reply value, outcome reply = .ok value →
      post (.ok value) (log ++ [⟨.aggregator request, reply⟩])) :
    (callAggregator outcome request).Obeys rule post log := by
  unfold callAggregator
  cases request.invalid? with
  | some e => exact hfail _ log
  | none =>
    refine ⟨hrule, fun reply => obeys_ofExcept ?_⟩
    cases h : outcome reply with
    | ok value => exact hok reply value h
    | error e => exact hfail _ _

/-! ## Runs -/

theorem Obeys.imp {rule' : CallRule} {post post' : CallPost α} {p : Program α}
    {log : List LogEntry} (h : p.Obeys rule post log)
    (hrule : ∀ {log request}, rule log request → rule' log request)
    (hpost : ∀ {outcome log}, post outcome log → post' outcome log) : p.Obeys rule' post' log := by
  induction p generalizing log with
  | done value => exact hpost h
  | fail failure => exact hpost h
  | api request next ih => exact ⟨hrule h.1, fun reply => ih reply (h.2 reply)⟩
  | aggregator request next ih => exact ⟨hrule h.1, fun reply => ih reply (h.2 reply)⟩
  | now next ih => exact fun time => ih time (h time)
  | note event next ih => exact ih h

/-- What is true of a state and kept by every call that a rule permits is true after a run of a
program that obeys the rule. -/
theorem Obeys.kept_by_run {σ : Type} {env : Environment σ} {kept : σ → Prop}
    (hapi : ∀ {log request s}, rule log (.api request) → kept s → kept (env.api request s).2)
    (haggregator : ∀ {log request s}, rule log (.aggregator request) → kept s →
      kept (env.aggregator request s).2)
    (hnow : ∀ {s}, kept s → kept (env.now s).2)
    (hnote : ∀ {event s}, kept s → kept (env.note event s)) {post : CallPost α} {p : Program α}
    {log : List LogEntry} (h : p.Obeys rule post log) {s : σ} (hs : kept s) :
    kept (p.run env s).2 := by
  induction p generalizing log s with
  | done value => exact hs
  | fail failure => exact hs
  | api request next ih => exact ih _ (h.2 _) (hapi h.1 hs)
  | aggregator request next ih => exact ih _ (h.2 _) (haggregator h.1 hs)
  | now next ih => exact ih _ (h _) (hnow hs)
  | note event next ih => exact ih h (hnote hs)

end

-- from here on only the laws say what it means to obey a rule
attribute [irreducible] Obeys

/-! ## Kinds of requests -/

/-- Whatever a program is answered, and however it ends, it sends only what is allowed. -/
def Sends {α : Type} (allowed : SentRequest → Prop) (p : Program α) : Prop :=
  ∀ log, p.Obeys (fun _ => allowed) (fun _ _ => True) log

section

variable {α β : Type} {allowed : SentRequest → Prop}

theorem sends_pure (value : α) : (pure value : Program α).Sends allowed :=
  fun _ => obeys_pure.2 trivial

theorem sends_fail (failure : Failure) : (fail failure : Program α).Sends allowed :=
  fun _ => obeys_fail.2 trivial

theorem sends_currentTime : currentTime.Sends allowed :=
  fun _ => obeys_now.2 fun _ => obeys_pure.2 trivial

theorem sends_record (event : Event) : (record event).Sends allowed :=
  fun _ => obeys_note.2 (obeys_pure.2 trivial)

theorem sends_ofExcept {ε : Type} (cause : ε → Cause) (outcome : Except ε α) :
    (ofExcept cause outcome).Sends allowed := fun _ => obeys_ofExcept trivial

theorem Sends.imp {allowed' : SentRequest → Prop} {p : Program α} (h : p.Sends allowed)
    (hall : ∀ {request}, allowed request → allowed' request) : p.Sends allowed' :=
  fun log => (h log).imp hall id

theorem Sends.bind {p : Program α} {f : α → Program β} (h : p.Sends allowed)
    (hf : ∀ value, (f value).Sends allowed) : (p >>= f).Sends allowed := by
  intro log
  refine Obeys.bind ((h log).imp id fun {outcome log} _ => ?_)
  cases outcome with
  | ok value => exact hf value log
  | error failure => trivial

theorem Sends.attempt {p : Program α} (h : p.Sends allowed) : p.attempt.Sends allowed :=
  fun log => Obeys.attempt (h log)

theorem Sends.within {p : Program α} (h : p.Sends allowed) (doing : String) :
    (p.within doing).Sends allowed := fun log => Obeys.within (h log)

theorem sends_listObjects [Resource α] {ns : String}
    (h : allowed (.api (.list (Resource.collection α) (some ns) none))) :
    (listObjects α ns).Sends allowed :=
  fun _ => obeys_listObjects (fun _ _ => trivial) h fun _ _ _ => trivial

theorem sends_getObject? [Resource α] {ns name : String}
    (h : allowed (.api (.get (Resource.collection α) ns name))) :
    (getObject? α ns name).Sends allowed :=
  fun _ => obeys_getObject? (fun _ _ => trivial) (fun _ => trivial) h fun _ _ _ _ => trivial

theorem sends_patchObject [Resource α] {ns name : String} {body : Json}
    (h : allowed (.api (.patch (Resource.collection α) ns name body))) :
    (patchObject ns name body : Program α).Sends allowed :=
  fun _ => obeys_patchObject (fun _ _ => trivial) h fun _ _ _ => trivial

theorem sends_patchObjectStatus [Resource α] {ns name : String} {body : Json}
    (h : allowed (.api (.patchStatus (Resource.collection α) ns name body))) :
    (patchObjectStatus α ns name body).Sends allowed :=
  fun _ => obeys_patchObjectStatus (fun _ _ => trivial) h fun _ => trivial

theorem sends_callAggregator {outcome : Reply → Except AggregatorError α}
    {request : AggregatorRequest} (h : allowed (.aggregator request)) :
    (callAggregator outcome request).Sends allowed :=
  fun _ => obeys_callAggregator (fun _ _ => trivial) h fun _ _ _ => trivial

end

end Program

end Newsdesk
