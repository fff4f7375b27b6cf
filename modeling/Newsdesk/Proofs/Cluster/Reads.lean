import Newsdesk.Proofs.Cluster.Quiet

/-!
# Reading again

What a look-up or a list shows depends on what is stored alone, and neither changes it. So a
program that reads the same objects again goes the same way, and sends no patch (`Cluster.Reads`).
-/

namespace Newsdesk

open Json

/-! ## Requests between two clusters -/

/-- From one cluster to another by allowed requests. -/
def Cluster.Adds (allowed : SentRequest → Prop) (c c' : Cluster) : Prop :=
  ∃ calls, c'.log = c.log ++ calls ∧ ∀ e ∈ calls, allowed e.request

section

variable {allowed : SentRequest → Prop} {c c' c'' : Cluster}

theorem Cluster.Adds.refl (allowed : SentRequest → Prop) (c : Cluster) : c.Adds allowed c :=
  ⟨[], by simp, by simp⟩

theorem Cluster.Adds.trans (h : c.Adds allowed c') (h' : c'.Adds allowed c'') :
    c.Adds allowed c'' := by
  obtain ⟨calls, hlog, hall⟩ := h
  obtain ⟨calls', hlog', hall'⟩ := h'
  refine ⟨calls ++ calls', by rw [hlog', hlog, List.append_assoc], fun e he => ?_⟩
  exact (List.mem_append.1 he).elim (hall e) (hall' e)

theorem Cluster.Adds.imp {allowed' : SentRequest → Prop} (h : c.Adds allowed c')
    (hall : ∀ request, allowed request → allowed' request) : c.Adds allowed' c' := by
  obtain ⟨calls, hlog, hcalls⟩ := h
  exact ⟨calls, hlog, fun e he => hall _ (hcalls e he)⟩

theorem Cluster.Adds.of_log_eq (h : c'.log = c.log) : c.Adds allowed c' :=
  ⟨[], by rw [h, List.append_nil], by simp⟩

theorem Cluster.Adds.of_log {request : SentRequest} {reply : Reply} (h : allowed request)
    (hlog : c'.log = c.log ++ [⟨request, reply⟩]) : c.Adds allowed c' :=
  ⟨_, hlog, fun e he => by rw [List.mem_singleton.1 he]; exact h⟩

end

/-- A request that patches an object. -/
def SentRequest.isPatch : SentRequest → Bool
  | .api request => request.isWrite
  | .aggregator _ => false

/-- A request that patches the status of an object. -/
def SentRequest.patchesStatus : SentRequest → Bool
  | .api (.patchStatus ..) => true
  | _ => false

/-- From one cluster to another by requests that patch nothing. -/
structure Cluster.Reads (c c' : Cluster) : Prop where
  store : c'.store = c.store
  faults : c'.faults = c.faults
  log : c.Adds (·.isPatch = false) c'

namespace Cluster

variable {c c' c'' : Cluster}

theorem Reads.refl (c : Cluster) : c.Reads c := ⟨rfl, rfl, .refl _ c⟩

theorem Reads.trans (h : c.Reads c') (h' : c'.Reads c'') : c.Reads c'' :=
  ⟨h'.store.trans h.store, h'.faults.trans h.faults, h.log.trans h'.log⟩

theorem reads_logged {request : SentRequest} (h : request.isPatch = false) (reply : Reply)
    (c : Cluster) : c.Reads (c.logged request reply) := ⟨rfl, rfl, .of_log h rfl⟩

/-- The aggregator that answers a request in one way, whatever else has happened. -/
def answering (answer : AggregatorRequest → Reply) (request : AggregatorRequest) (c : Cluster) :
    Reply × Cluster := (answer request, c.logged (.aggregator request) (answer request))

end Cluster

/-! ## Look-ups and lists -/

/-- What is answered to a look-up depends on the object alone. -/
theorem Store.answer_get_congr {collection : Collection} {ns name : String} {s s' : Store}
    (h : s'.find? ⟨collection, ns, name⟩ = s.find? ⟨collection, ns, name⟩) :
    (s'.answer (.get collection ns name)).1 = (s.answer (.get collection ns name)).1 := by
  unfold answer
  dsimp only
  rw [h]
  split <;> rfl

namespace Program

/-- What a look-up hands on. -/
def lookedUp {α : Type} : Except ApiError α → Except Failure (Option α)
  | .ok object => .ok (some object)
  | .error e => if e.isAbsent then .ok none else .error (.ofCause (.api e))

theorem lookedUp_eq_some {α : Type} {outcome : Except ApiError α} {object : α}
    (h : lookedUp outcome = .ok (some object)) : outcome = .ok object := by
  cases outcome with
  | ok a =>
    cases h
    rfl
  | error e =>
    unfold lookedUp at h
    dsimp only at h
    split at h <;> cases h

/-- The refusal of a request says why. -/
theorem decode_refusal {code : Nat} (hcode : code < 0x10000) (message reason : String) :
    ApiStatus.decode (ofFields [
      ("status", .str StatusOutcome.failure.name),
      ("message", .str message),
      ("reason", .str reason),
      ("code", ofNat code)]) = some ⟨some .failure, code, message, reason⟩ := by
  have hstatus : decodeName StatusOutcome.ofName? (.str StatusOutcome.failure.name) =
      some .failure := by decide
  have hread : decodeNat 16 (ofNat code) = some code := by
    simp [decodeNat, decodeInt, ofNat]
    omega
  have hsorted := ascending_sortFields
  unfold ofFields ApiStatus.decode
  simp only [decodeRecord, bind_named (defaultField_named (hsorted _) _ _ _),
    bind_named (optionalField_named (hsorted _) _ _),
    bind_named (nullableField_named (hsorted _) _ _), pure_named, lookup_sortFields]
  simp [List.lookup_cons, hstatus, hread, decodeNullable]

/-- An object that is not there is not found. -/
theorem lookedUp_notFound {α : Type} (decoder : Decoder α) (key : ObjectKey) :
    lookedUp ((Store.notFound key).decode decoder) = .ok none := by
  have hcode : 404 < 0x10000 := by decide
  have hstatus (message : String) := decode_refusal hcode message "NotFound"
  have hrefused : (Store.notFound key).decode decoder = .error (.refused (ApiError.statusOf 404
      (.value (ofFields [
        ("status", .str StatusOutcome.failure.name),
        ("message", .str (key.collection.name ++ " " ++ key.name ++ " not found")),
        ("reason", .str "NotFound"),
        ("code", ofNat 404)])))) := rfl
  rw [hrefused]
  unfold ApiError.statusOf
  simp only [Body.json?, Option.bind_some, hstatus]
  rfl

theorem run_getObject?_eq {α σ : Type} [Resource α] {env : Environment σ} {ns name : String}
    (s : σ) :
    (getObject? α ns name).run env s =
      match (ApiRequest.get (Resource.collection α) ns name).invalid? with
      | some e => (lookedUp (.error e), s)
      | none =>
        (lookedUp ((env.api (.get (Resource.collection α) ns name) s).1.decode Resource.decode),
          (env.api (.get (Resource.collection α) ns name) s).2) := by
  have hend (outcome : Except ApiError α) (t : σ) :
      (match outcome with
        | .ok object => pure (some object)
        | .error e => if e.isAbsent then pure none else .fail (.ofCause (.api e)) :
        Program (Option α)).run env t = (lookedUp outcome, t) := by
    cases outcome with
    | ok object => rfl
    | error e =>
      unfold lookedUp
      dsimp only
      split <;> rfl
  unfold getObject?
  change Program.run _ ((callApi _ _).bind _) s = _
  rw [run_bind, run_callApi]
  cases (ApiRequest.get (Resource.collection α) ns name).invalid? with
  | some e => exact hend (.error e) s
  | none => exact hend (Reply.decode _ _) _

section

variable {α : Type} [Resource α] {c c' : Cluster}
  {ask : AggregatorRequest → Cluster → Reply × Cluster} {timeText : Nat → String}
  {ns name : String}

/-- An object that was found can be addressed. -/
theorem valid_of_run_getObject? {object : α}
    (h : (getObject? α ns name).run (Cluster.environmentWith ask timeText) c =
      (.ok (some object), c')) :
    (ApiRequest.get (Resource.collection α) ns name).invalid? = none := by
  rw [run_getObject?_eq] at h
  cases hv : (ApiRequest.get (Resource.collection α) ns name).invalid? with
  | none => rfl
  | some e =>
    rw [hv] at h
    obtain ⟨hfound, -⟩ := Prod.mk.inj h
    cases lookedUp_eq_some hfound

variable (hf : c.faults = [])
include hf

/-- A look-up that is sent shows what is stored. -/
theorem run_getObject?_of_valid
    (h : (ApiRequest.get (Resource.collection α) ns name).invalid? = none) :
    (getObject? α ns name).run (Cluster.environmentWith ask timeText) c =
      (lookedUp ((c.store.answer (.get (Resource.collection α) ns name)).1.decode Resource.decode),
        c.logged (.api (.get (Resource.collection α) ns name))
          (c.store.answer (.get (Resource.collection α) ns name)).1) := by
  have hreply := Cluster.askApi_eq hf (.get (Resource.collection α) ns name)
  rw [Store.answer_get] at hreply
  rw [run_getObject?_eq, h]
  change (lookedUp ((c.askApi _).1.decode _), (c.askApi _).2) = _
  rw [hreply]

/-- What is stored is found. -/
theorem run_getObject?_of_stored {x : Json} {object : α}
    (hv : (ApiRequest.get (Resource.collection α) ns name).invalid? = none)
    (hx : c.store.find? ⟨Resource.collection α, ns, name⟩ = some x)
    (hd : Resource.decode x = some object) :
    (getObject? α ns name).run (Cluster.environmentWith ask timeText) c =
      (.ok (some object), c.logged (.api (.get (Resource.collection α) ns name))
        (c.store.answer (.get (Resource.collection α) ns name)).1) := by
  have hreply := Store.decode_answer_get.2 ⟨x, hx, hd⟩
  rw [run_getObject?_of_valid hf hv, hreply]
  rfl

/-- A look-up that is made again ends as before as long as the object is the same. -/
theorem run_getObject?_again {c₁ : Cluster} (hf₁ : c₁.faults = [])
    {found : Except Failure (Option α)}
    (hsame : c₁.store.find? ⟨Resource.collection α, ns, name⟩ =
      c.store.find? ⟨Resource.collection α, ns, name⟩)
    (h : (getObject? α ns name).run (Cluster.environmentWith ask timeText) c = (found, c')) :
    ∃ c₁', (getObject? α ns name).run (Cluster.environmentWith ask timeText) c₁ = (found, c₁') ∧
      c₁.Reads c₁' := by
  cases hv : (ApiRequest.get (Resource.collection α) ns name).invalid? with
  | some e =>
    rw [run_getObject?_eq, hv] at h ⊢
    obtain ⟨rfl, -⟩ := Prod.mk.inj h
    exact ⟨c₁, rfl, .refl c₁⟩
  | none =>
    rw [run_getObject?_of_valid hf hv, ← Store.answer_get_congr hsame] at h
    obtain ⟨rfl, -⟩ := Prod.mk.inj h
    exact ⟨_, run_getObject?_of_valid hf₁ hv, Cluster.reads_logged rfl _ c₁⟩

/-- Objects of which each can be read are listed. -/
theorem run_listObjects_of_stored {objects : List α}
    (hv : (ApiRequest.list (Resource.collection α) (some ns) none).invalid? = none)
    (hd : (c.store.select (Resource.collection α) (some ns) none).mapM Resource.decode =
      some objects) :
    ∃ c', (listObjects α ns).run (Cluster.environmentWith ask timeText) c = (.ok objects, c') ∧
      c.Reads c' := by
  have hreply := Cluster.askApi_eq hf (.list (Resource.collection α) (some ns) none)
  refine ⟨(c.askApi (.list (Resource.collection α) (some ns) none)).2,
    run_listObjects_eq_ok.2 ⟨hv, ?_, rfl⟩, ?_⟩
  · change (c.askApi _).1.decode _ = _
    rw [hreply]
    exact Store.decode_answer_list.2 hd
  · rw [hreply]
    exact Cluster.reads_logged rfl _ c

end

end Program

end Newsdesk
