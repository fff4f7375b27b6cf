import Newsdesk.Cluster.Basic
import Newsdesk.Proofs.Cluster.Store
import Newsdesk.Proofs.Program.Outcome

/-!
# Calls in a cluster without faults

When nothing is scripted for the API server, the store answers every request, whatever the
aggregator does (`Cluster.environmentWith`). For each kind of call: what is known of the store
before and after if the call ended well.
-/

namespace Newsdesk

open Json

namespace Cluster

/-- The cluster as an environment with another aggregator than the scripted one. -/
def environmentWith (ask : AggregatorRequest → Cluster → Reply × Cluster)
    (timeText : Nat → String) : Environment Cluster :=
  { environment timeText with aggregator := ask }

/-- One cluster comes after another with some store; only the API server has been asked. -/
structure Follows (c : Cluster) (s : Store) (c' : Cluster) : Prop where
  store : c'.store = s
  faults : c'.faults = c.faults
  replies : c'.replies = c.replies
  readings : c'.readings = c.readings

theorem Follows.refl (c : Cluster) : c.Follows c.store c := ⟨rfl, rfl, rfl, rfl⟩

theorem Follows.self {c c' : Cluster} {s : Store} (h : c.Follows s c') : c.Follows c'.store c' :=
  ⟨rfl, h.faults, h.replies, h.readings⟩

theorem Follows.trans {c c₁ c₂ : Cluster} {s s' : Store} (h : c.Follows s c₁)
    (h' : c₁.Follows s' c₂) : c.Follows s' c₂ :=
  ⟨h'.store, h'.faults.trans h.faults, h'.replies.trans h.replies, h'.readings.trans h.readings⟩

section

variable {c : Cluster} (hf : c.faults = [])
include hf

theorem askApi_eq (request : ApiRequest) :
    c.askApi request = ((c.store.answer request).1,
      { c with store := (c.store.answer request).2 }.logged (.api request)
        (c.store.answer request).1) := by
  unfold askApi
  rw [hf]
  rfl

theorem follows_askApi (request : ApiRequest) :
    c.Follows (c.store.answer request).2 (c.askApi request).2 := by
  rw [askApi_eq hf]
  exact ⟨rfl, rfl, rfl, rfl⟩

end

end Cluster

/-! ## Replies of the store -/

namespace Store

theorem decode_found {α : Type} (decoder : Decoder α) (x : Json) :
    (found x).decode decoder =
      match decoder x with
      | some a => .ok a
      | none => .error .undecodable := rfl

theorem decode_found_eq_ok {α : Type} {decoder : Decoder α} {x : Json} {a : α} :
    (found x).decode decoder = .ok a ↔ decoder x = some a := by
  rw [decode_found]
  cases decoder x <;> simp

@[simp] theorem decode_notFound_ne_ok {α : Type} (decoder : Decoder α) (key : ObjectKey) (a : α) :
    (notFound key).decode decoder ≠ .ok a := nofun

@[simp] theorem decode_conflict_ne_ok {α : Type} (decoder : Decoder α) (key : ObjectKey) (a : α) :
    (conflict key).decode decoder ≠ .ok a := nofun

theorem decode_answer_get {α : Type} {decoder : Decoder α} {collection : Collection}
    {ns name : String} {s : Store} {a : α} :
    (s.answer (.get collection ns name)).1.decode decoder = .ok a ↔
      ∃ x, s.find? ⟨collection, ns, name⟩ = some x ∧ decoder x = some a := by
  unfold answer
  dsimp only
  cases s.find? ⟨collection, ns, name⟩ with
  | some x => simp [decode_found_eq_ok]
  | none => simp

theorem answer_get (collection : Collection) (ns name : String) (s : Store) :
    (s.answer (.get collection ns name)).2 = s := by
  unfold answer
  dsimp only
  split <;> rfl

theorem decode_answer_list {α : Type} {decoder : Decoder α} {collection : Collection}
    {ns name : Option String} {s : Store} {objects : List α} :
    (s.answer (.list collection ns name)).1.decode (decodeObjects decoder) = .ok objects ↔
      (s.select collection ns name).mapM decoder = some objects := by
  unfold answer
  dsimp only
  rw [decode_found_eq_ok]
  unfold decodeObjects decodeListing ofFields
  have hitems : decodeList decoder (.arr (s.select collection ns name)) =
      (s.select collection ns name).mapM decoder := rfl
  simp only [lookup_sortFields]
  cases hm : (s.select collection ns name).mapM decoder <;>
    simp [List.lookup_cons, hitems, hm, decodeNullable, decodeString]

/-- A patch that is answered with an object has been accepted. -/
theorem decode_answer_patch {α : Type} {decoder : Decoder α} {collection : Collection}
    {ns name : String} {body : Json} {s : Store} {a : α} :
    (s.answer (.patch collection ns name body)).1.decode decoder = .ok a ↔
      ∃ old, s.find? ⟨collection, ns, name⟩ = some old ∧ isStale body old = false ∧
        decoder (written s.nextVersion body old) = some a := by
  unfold answer
  dsimp only
  cases s.find? ⟨collection, ns, name⟩ with
  | none => simp
  | some old =>
    cases hstale : isStale body old with
    | true => simp [hstale]
    | false => simp [hstale, accept, decode_found_eq_ok, written]

theorem answer_patch {collection : Collection} {ns name : String} {body old : Json} {s : Store}
    (hold : s.find? ⟨collection, ns, name⟩ = some old) (hcurrent : isStale body old = false) :
    s.answer (.patch collection ns name body) =
      s.accept ⟨collection, ns, name⟩ (old.mergePatch body) := by
  simp [answer, hold, hcurrent]

theorem answer_patchStatus {collection : Collection} {ns name : String} {body old : Json}
    {s : Store} (hold : s.find? ⟨collection, ns, name⟩ = some old) :
    s.answer (.patchStatus collection ns name body) =
      s.accept ⟨collection, ns, name⟩ (old.mergePatch (statusPart body)) := by
  simp [answer, hold]

theorem decode_answer_patchStatus {α : Type} {decoder : Decoder α} {collection : Collection}
    {ns name : String} {body : Json} {s : Store} {a : α} :
    (s.answer (.patchStatus collection ns name body)).1.decode decoder = .ok a ↔
      ∃ old, s.find? ⟨collection, ns, name⟩ = some old ∧
        decoder (written s.nextVersion (statusPart body) old) = some a := by
  unfold answer
  dsimp only
  cases s.find? ⟨collection, ns, name⟩ with
  | none => simp
  | some old => simp [accept, decode_found_eq_ok, written]

end Store

/-! ## Calls -/

/-- A request that cannot be sent does not count as one for an object that is not there. -/
theorem ApiRequest.isAbsent_invalid? {request : ApiRequest} {e : ApiError}
    (h : request.invalid? = some e) : e.isAbsent = false := by
  unfold invalid? at h
  split at h
  · cases h
    rfl
  · split at h <;> cases h
    rfl

namespace Program

section

variable {α : Type} [Resource α] {c c' : Cluster}
  {ask : AggregatorRequest → Cluster → Reply × Cluster} {timeText : Nat → String}
  {ns name : String} (hf : c.faults = [])
include hf

/-- Looking up an object shows what is stored. -/
theorem run_getObject? {found : Option α}
    (h : (getObject? α ns name).run (Cluster.environmentWith ask timeText) c = (.ok found, c')) :
    found = (c.store.find? ⟨Resource.collection α, ns, name⟩).bind Resource.decode ∧
      c.Follows c.store c' := by
  have hend {e : ApiError} {c₁ : Cluster}
      (h : (if e.isAbsent then pure none else .fail (.ofCause (.api e)) :
        Program (Option α)).run (Cluster.environmentWith ask timeText) c₁ = (.ok found, c')) :
      e.isAbsent = true ∧ found = none ∧ c₁ = c' := by
    split at h
    · rename_i habsent
      obtain ⟨rfl, rfl⟩ := run_pure_eq_ok.1 h
      exact ⟨habsent, rfl, rfl⟩
    · exact absurd h not_run_fail_eq_ok
  unfold getObject? at h
  obtain ⟨outcome, c₁, hcall, h⟩ := run_bind_eq_ok.1 h
  rw [run_callApi] at hcall
  cases hv : (ApiRequest.get (Resource.collection α) ns name).invalid? with
  | some e =>
    rw [hv] at hcall
    obtain ⟨rfl, rfl⟩ : Except.error e = outcome ∧ c = c₁ := by simpa using hcall
    obtain ⟨habsent, -, -⟩ := hend h
    rw [ApiRequest.isAbsent_invalid? hv] at habsent
    cases habsent
  | none =>
    rw [hv] at hcall
    have hfollows := Cluster.follows_askApi hf (.get (Resource.collection α) ns name)
    change (Except.ok ((c.askApi _).1.decode _), (c.askApi _).2) = _ at hcall
    obtain ⟨hout, rfl⟩ := Prod.mk.inj hcall
    rw [Cluster.askApi_eq hf] at hout
    rw [Store.answer_get] at hfollows
    replace hout := Except.ok.inj hout
    cases outcome with
    | ok a =>
      obtain ⟨x, hx, ha⟩ := Store.decode_answer_get.1 hout
      obtain ⟨rfl, rfl⟩ := run_pure_eq_ok.1 h
      exact ⟨by rw [hx]; exact ha.symm, hfollows⟩
    | error e =>
      obtain ⟨habsent, rfl, rfl⟩ := hend h
      refine ⟨?_, hfollows⟩
      cases hx : c.store.find? ⟨Resource.collection α, ns, name⟩ with
      | none => rfl
      | some x =>
        -- what is stored cannot be read: then the call has not ended well
        simp only [Store.answer, hx, Store.decode_found] at hout
        cases hd : (Resource.decode : Decoder α) x with
        | some a => simp [hd] at hout
        | none =>
          simp only [hd, Except.error.injEq] at hout
          rw [← hout] at habsent
          cases habsent

theorem run_listObjects {objects : List α}
    (h : (listObjects α ns).run (Cluster.environmentWith ask timeText) c = (.ok objects, c')) :
    (c.store.select (Resource.collection α) (some ns) none).mapM Resource.decode = some objects ∧
      c.Follows c.store c' := by
  obtain ⟨-, hd, rfl⟩ := run_listObjects_eq_ok.1 h
  have hfollows := Cluster.follows_askApi hf (.list (Resource.collection α) (some ns) none)
  change (c.askApi _).1.decode _ = _ at hd
  rw [Cluster.askApi_eq hf] at hd
  exact ⟨Store.decode_answer_list.1 hd, hfollows⟩

/-- A patch that ended well has been accepted and is answered with what is stored. -/
theorem run_patchObject {body : Json} {a : α}
    (h : (patchObject ns name body : Program α).run (Cluster.environmentWith ask timeText) c =
      (.ok a, c')) :
    ∃ old, c.store.find? ⟨Resource.collection α, ns, name⟩ = some old ∧
      Resource.decode (written c.store.nextVersion body old) = some a ∧
      c.Follows (c.store.accept ⟨Resource.collection α, ns, name⟩ (old.mergePatch body)).2 c' := by
  obtain ⟨-, hd, rfl⟩ := run_patchObject_eq_ok.1 h
  have hfollows := Cluster.follows_askApi hf (.patch (Resource.collection α) ns name body)
  change (c.askApi _).1.decode _ = _ at hd
  rw [Cluster.askApi_eq hf] at hd
  obtain ⟨old, hold, hcurrent, hd⟩ := Store.decode_answer_patch.1 hd
  refine ⟨old, hold, hd, ?_⟩
  rwa [Store.answer_patch hold hcurrent] at hfollows

theorem run_patchObjectStatus {body : Json}
    (h : (patchObjectStatus α ns name body).run (Cluster.environmentWith ask timeText) c =
      (.ok (), c')) :
    ∃ old, c.store.find? ⟨Resource.collection α, ns, name⟩ = some old ∧
      c.Follows (c.store.accept ⟨Resource.collection α, ns, name⟩
        (old.mergePatch (Store.statusPart body))).2 c' := by
  obtain ⟨-, ⟨a, hd⟩, rfl⟩ := run_patchObjectStatus_eq_ok.1 h
  have hfollows := Cluster.follows_askApi hf (.patchStatus (Resource.collection α) ns name body)
  change (c.askApi _).1.decode _ = _ at hd
  rw [Cluster.askApi_eq hf] at hd
  obtain ⟨old, hold, hd⟩ := Store.decode_answer_patchStatus.1 hd
  refine ⟨old, hold, ?_⟩
  rwa [Store.answer_patchStatus hold] at hfollows

/-- A patch of the status of an object that can be read afterwards ends well. -/
theorem run_patchObjectStatus_of_stored {body old : Json} {a : α}
    (hvalid : (ApiRequest.patchStatus (Resource.collection α) ns name body).invalid? = none)
    (hold : c.store.find? ⟨Resource.collection α, ns, name⟩ = some old)
    (hd : Resource.decode (written c.store.nextVersion (Store.statusPart body) old) = some a) :
    ∃ c', (patchObjectStatus α ns name body).run (Cluster.environmentWith ask timeText) c =
        (.ok (), c') ∧
      c.Follows (c.store.accept ⟨Resource.collection α, ns, name⟩
        (old.mergePatch (Store.statusPart body))).2 c' := by
  have hfollows := Cluster.follows_askApi hf (.patchStatus (Resource.collection α) ns name body)
  rw [Store.answer_patchStatus hold] at hfollows
  refine ⟨_, run_patchObjectStatus_eq_ok.2 ⟨hvalid, ⟨a, ?_⟩, rfl⟩, hfollows⟩
  change (c.askApi _).1.decode _ = _
  rw [Cluster.askApi_eq hf]
  exact Store.decode_answer_patchStatus.2 ⟨old, hold, hd⟩

end

end Program

end Newsdesk
