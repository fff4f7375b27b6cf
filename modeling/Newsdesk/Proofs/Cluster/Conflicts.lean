import Newsdesk.Proofs.Cluster.Sparing

/-!
# Conflicts

A patch may name the version of the object that it was made from. It is a conflict if the object has
been written since: the store refuses exactly the patches that are not current
(`Store.answer_conflict_iff`). A program that never names a version meets no conflict.
-/

namespace Newsdesk

open Json

/-! ## Conflicts -/

/-- A patch that was refused since it was made from another version. -/
def LogEntry.IsConflict (e : LogEntry) : Prop :=
  e.request.isPatch = true ∧ ∃ body, e.reply = .answered 409 body

/-- From one cluster to another without a conflict. -/
def Cluster.Unconflicted (c c' : Cluster) : Prop :=
  ∃ calls, c'.log = c.log ++ calls ∧ ∀ e ∈ calls, ¬ e.IsConflict

/-- A request that was not made from another version than the stored one. -/
def ApiRequest.IsCurrent (s : Store) : ApiRequest → Prop
  | .patch collection ns name body =>
    ∀ x, s.find? ⟨collection, ns, name⟩ = some x → Store.isStale body x = false
  | _ => True

/-- Whether a request can name a version. -/
def SentRequest.isVersioned : SentRequest → Bool
  | .api (.patch ..) => true
  | _ => false

section

variable {c c' c'' : Cluster}

theorem Cluster.Unconflicted.of_log_eq (h : c'.log = c.log) : c.Unconflicted c' :=
  ⟨[], by rw [h, List.append_nil], by simp⟩

theorem Cluster.Unconflicted.of_log {e : LogEntry} (h : ¬ e.IsConflict)
    (hlog : c'.log = c.log ++ [e]) : c.Unconflicted c' :=
  ⟨[e], hlog, fun e' he => by rwa [List.mem_singleton.1 he]⟩

theorem Cluster.Unconflicted.trans (h : c.Unconflicted c') (h' : c'.Unconflicted c'') :
    c.Unconflicted c'' := by
  obtain ⟨calls, hlog, hall⟩ := h
  obtain ⟨calls', hlog', hall'⟩ := h'
  refine ⟨calls ++ calls', by rw [hlog', hlog, List.append_assoc], fun e he => ?_⟩
  exact (List.mem_append.1 he).elim (hall e) (hall' e)

end

/-- The store refuses a request as a conflict exactly if it was made from another version. -/
theorem Store.answer_conflict_iff {request : ApiRequest} {s : Store} :
    (∃ body, (s.answer request).1 = .answered 409 body) ↔ ¬ request.IsCurrent s := by
  cases request with
  | list => simp [answer, found, ApiRequest.IsCurrent]
  | get collection ns name =>
    cases hx : s.find? ⟨collection, ns, name⟩ <;>
      simp [answer, hx, found, notFound, refusal, ApiRequest.IsCurrent]
  | patchStatus collection ns name body =>
    cases hx : s.find? ⟨collection, ns, name⟩ <;>
      simp [answer, hx, accept, found, notFound, refusal, ApiRequest.IsCurrent]
  | patch collection ns name body =>
    cases hx : s.find? ⟨collection, ns, name⟩ with
    | none => simp [answer, hx, notFound, refusal, ApiRequest.IsCurrent]
    | some x =>
      cases hstale : isStale body x <;>
        simp [answer, hx, hstale, accept, found, conflict, refusal, ApiRequest.IsCurrent]

theorem ApiRequest.isCurrent_of_unversioned {request : ApiRequest} {s : Store}
    (h : SentRequest.isVersioned (.api request) = false) : request.IsCurrent s := by
  cases request with
  | patch => cases h
  | _ => trivial

theorem versionOf_of_metadataOf {x : Json} {m : Metadata} {v : String} (ho : InOrder x)
    (hm : metadataOf x = some m) (hv : m.resourceVersion = some v) :
    Store.versionOf x = .str v := by
  have hread := ((metadataOf_eq_some_iff ho).1 hm).2.resourceVersion
  rw [hv] at hread
  change ((x.field "metadata").field? "resourceVersion").getD .null = _
  cases hf : (x.field "metadata").field? "resourceVersion" with
  | none => simp [hf] at hread
  | some w => cases w <;> simp_all [decodeNullable, decodeString]

theorem versionOf_feedsNamePatch (h : HotNews) (names : List String) :
    Store.versionOf (feedsNamePatch h names) = nullableText h.metadata.resourceVersion := by
  have hmetadata : (feedsNamePatch h names).field "metadata" =
      .obj [("resourceVersion", nullableText h.metadata.resourceVersion)] := by
    unfold feedsNamePatch
    rw [ofFields, field, field?_obj, lookup_feedsNamePatch]
    rfl
  unfold Store.versionOf
  rw [hmetadata]
  rfl

/-- A patch that names the version with which its object is stored, or none if that has none. -/
theorem ApiRequest.isCurrent_patch {collection : Collection} {ns name : String} {body x : Json}
    {m : Metadata} {s : Store} (hx : s.find? ⟨collection, ns, name⟩ = some x) (ho : InOrder x)
    (hm : metadataOf x = some m)
    (hversion : Store.versionOf body = nullableText m.resourceVersion) :
    (ApiRequest.patch collection ns name body).IsCurrent s := by
  intro y hy
  cases hx.symm.trans hy
  cases hv : m.resourceVersion with
  | none => simp [Store.isStale, hversion, hv, nullableText]
  | some v => simp [Store.isStale, hversion, versionOf_of_metadataOf ho hm hv, hv, nullableText]

/-! ## Runs -/

section

variable {ask : AggregatorRequest → Cluster → Reply × Cluster} {timeText : Nat → String}
  {c c' : Cluster}

/-- A program that never names a version meets no conflict. -/
theorem Program.Sends.unconflicted {α : Type} {p : Program α}
    (h : p.Sends (·.isVersioned = false)) (hask : Cluster.IsOutside ask) (hf : c.faults = [])
    {outcome : Except Failure α}
    (hrun : p.run (Cluster.environmentWith ask timeText) c = (outcome, c')) :
    c.Unconflicted c' := by
  rw [← show (p.run _ c).2 = c' from congrArg Prod.snd hrun]
  let kept (c₁ : Cluster) : Prop := c₁.faults = [] ∧ c.Unconflicted c₁
  have hstart : kept c := ⟨hf, .of_log_eq rfl⟩
  suffices hkept : kept (p.run (Cluster.environmentWith ask timeText) c).2 from hkept.2
  refine (h c.log).kept_by_run ?_ ?_ ?_ ?_ hstart
  · intro _ request c₁ hrule hc₁
    refine ⟨(Cluster.follows_askApi hc₁.1 request).faults.trans hc₁.1, hc₁.2.trans ?_⟩
    refine .of_log (fun hconflict => ?_) (c₁.log_askApi request)
    obtain ⟨-, hreply⟩ := hconflict
    rw [Cluster.askApi_eq hc₁.1] at hreply
    exact Store.answer_conflict_iff.1 hreply (ApiRequest.isCurrent_of_unversioned hrule)
  · intro _ request c₁ _ hc₁
    refine ⟨(hask.faults request c₁).trans hc₁.1, hc₁.2.trans ?_⟩
    exact .of_log (by rintro ⟨⟨⟩, -⟩) (hask.log request c₁)
  · exact fun hc₁ => hc₁
  · exact fun hc₁ => hc₁

/-- A patch made from the stored version is no conflict. -/
theorem Program.unconflicted_of_run_patchObject {α : Type} [Resource α] {ns name : String}
    {body : Json} (hf : c.faults = [])
    (hcurrent : (ApiRequest.patch (Resource.collection α) ns name body).IsCurrent c.store)
    {outcome : Except Failure α}
    (hrun : (patchObject ns name body : Program α).run (Cluster.environmentWith ask timeText) c =
      (outcome, c')) : c.Unconflicted c' := by
  rcases log_patchObject hrun with hlog | hlog
  · exact .of_log_eq hlog
  · refine .of_log (fun hconflict => ?_) hlog
    obtain ⟨-, hreply⟩ := hconflict
    rw [Cluster.askApi_eq hf] at hreply
    exact Store.answer_conflict_iff.1 hreply hcurrent

end

end Newsdesk
