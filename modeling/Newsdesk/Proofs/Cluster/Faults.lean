import Newsdesk.Proofs.Cluster.Quiet
import Newsdesk.Proofs.Program.Conduct

/-!
# Faults

A fault is a scripted reply that does not read as what was asked for (`Script.Faulty`): the call
fails, and nothing is stored. A program that gives up at the first call that is not answered
(`Program.Strict`) and yet ends well has met no fault, so it has run as in a cluster without faults.
-/

namespace Newsdesk

open Json

/-! ## Answers -/

/-- The objects of a collection. -/
def Collection.Object : Collection → Type
  | .feeds => Feed
  | .hotNews => HotNews
  | .configMaps => ConfigMap

/-- Reads an object of a collection. -/
def Collection.decode : (collection : Collection) → Decoder collection.Object
  | .feeds => decodeFeed
  | .hotNews => decodeHotNews
  | .configMaps => ConfigMap.decode

/-- Whether a reply answers a request: it reads as what was asked for. -/
def ApiRequest.isAnsweredBy (reply : Reply) : ApiRequest → Bool
  | .list collection _ _ => (reply.decode (decodeObjects collection.decode)).isOk
  | .get collection _ _ => (reply.decode collection.decode).isOk
  | .patch collection _ _ _ => (reply.decode collection.decode).isOk
  | .patchStatus collection _ _ _ => (reply.decode collection.decode).isOk

/-- A type of objects that are read as those of their collection. -/
class Collected (α : Type) [Resource α] : Prop where
  one : ∀ reply : Reply, (reply.decode (Resource.collection α).decode).isOk =
    (reply.decode (Resource.decode : Decoder α)).isOk
  many : ∀ reply : Reply, (reply.decode (decodeObjects (Resource.collection α).decode)).isOk =
    (reply.decode (decodeObjects (Resource.decode : Decoder α))).isOk

instance : Collected Feed := ⟨fun _ => rfl, fun _ => rfl⟩

instance : Collected HotNews := ⟨fun _ => rfl, fun _ => rfl⟩

instance : Collected ConfigMap := ⟨fun _ => rfl, fun _ => rfl⟩

/-! ## Faulty scripts -/

/-- A rule that answers no request that it fits. -/
def ScriptRule.IsFault (r : ScriptRule) : Prop :=
  ∀ request : ApiRequest, r.fits request.verb request.path = true →
    request.isAnsweredBy r.reply = false

/-- A script of faults. -/
def Script.Faulty (s : Script) : Prop := ∀ r ∈ s, r.IsFault

theorem ScriptRule.isFault_of_dropped {r : ScriptRule} (h : r.reply = .dropped) : r.IsFault := by
  intro request _
  rw [h]
  cases request <;> rfl

theorem ScriptRule.IsFault.spend {r : ScriptRule} (h : r.IsFault) : r.spend.IsFault := by
  intro request hfits
  refine h request ?_
  unfold fits ScriptRule.spend at *
  simp only [Bool.and_eq_true, decide_eq_true_eq] at hfits ⊢
  refine ⟨hfits.1, fun hused => hfits.2 ?_⟩
  rw [hused]
  rfl

theorem Script.Faulty.take {s s' : Script} (h : s.Faulty) {request : ApiRequest} {reply : Reply}
    (ht : s.take request.verb request.path = some (reply, s')) :
    request.isAnsweredBy reply = false ∧ s'.Faulty := by
  induction s generalizing s' with
  | nil => cases ht
  | cons r rest ih =>
    obtain ⟨hr, hrest⟩ := List.forall_mem_cons.1 h
    unfold Script.take at ht
    split at ht
    · rename_i hfits
      cases ht
      exact ⟨hr request hfits, List.forall_mem_cons.2 ⟨hr.spend, hrest⟩⟩
    · obtain ⟨⟨reply', rest'⟩, htake, he⟩ := Option.map_eq_some_iff.1 ht
      cases he
      obtain ⟨hreply, hrest'⟩ := ih hrest htake
      exact ⟨hreply, List.forall_mem_cons.2 ⟨hr, hrest'⟩⟩

/-- A call meets a fault and leaves what is stored, or is answered by the store. -/
theorem Cluster.askApi_of_faulty {c : Cluster} (hf : c.faults.Faulty) (request : ApiRequest) :
    (∃ reply faults, request.isAnsweredBy reply = false ∧ Script.Faulty faults ∧
        c.askApi request = (reply, { c with faults }.logged (.api request) reply)) ∨
      c.askApi request = ((c.store.answer request).1,
        { c with store := (c.store.answer request).2 }.logged (.api request)
          (c.store.answer request).1) := by
  unfold askApi
  cases ht : c.faults.take request.verb request.path with
  | some taken =>
    obtain ⟨reply, faults⟩ := taken
    obtain ⟨hreply, hfaults⟩ := hf.take ht
    exact .inl ⟨reply, faults, hreply, hfaults, rfl⟩
  | none => exact .inr rfl

namespace Program

section

variable {α β : Type}

/-- The program asks only the API server, and gives up at the first call that is not answered. -/
def Strict : Program α → Prop
  | .done _ => True
  | .fail _ => True
  | .api request next =>
    (∀ reply, request.isAnsweredBy reply = false → ∃ failure, next reply = .fail failure) ∧
      ∀ reply, (next reply).Strict
  | .aggregator _ _ => False
  | .now next => ∀ time, (next time).Strict
  | .note _ next => next.Strict

theorem strict_pure (value : α) : (pure value : Program α).Strict := trivial

theorem strict_ofExcept {ε : Type} (cause : ε → Cause) (outcome : Except ε α) :
    (ofExcept cause outcome).Strict := by
  cases outcome <;> trivial

theorem Strict.bind {p : Program α} {f : α → Program β} (h : p.Strict)
    (hf : ∀ value, (f value).Strict) : (p >>= f).Strict := by
  change (p.bind f).Strict
  induction p with
  | done value => exact hf value
  | fail failure => trivial
  | api request next ih =>
    refine ⟨fun reply hreply => ?_, fun reply => ih reply (h.2 reply)⟩
    obtain ⟨failure, hfail⟩ := h.1 reply hreply
    exact ⟨failure, congrArg (Program.bind · f) hfail⟩
  | aggregator request next ih => exact h
  | now next ih => exact fun time => ih time (h time)
  | note event next ih => exact ih h

theorem Strict.within {p : Program α} (h : p.Strict) (doing : String) :
    (p.within doing).Strict := by
  induction p with
  | done value => trivial
  | fail failure => trivial
  | api request next ih =>
    refine ⟨fun reply hreply => ?_, fun reply => ih reply (h.2 reply)⟩
    obtain ⟨failure, hfail⟩ := h.1 reply hreply
    exact ⟨failure.within doing, congrArg (Program.within doing) hfail⟩
  | aggregator request next ih => exact h
  | now next ih => exact fun time => ih time (h time)
  | note event next ih => exact ih h

/-- A call whose failure is passed on. -/
theorem strict_callApi_bind {decoder : Decoder α} {request : ApiRequest}
    {f : Except ApiError α → Program β}
    (hreads : ∀ reply, request.isAnsweredBy reply = (reply.decode decoder).isOk)
    (hfail : ∀ e, ∃ failure, f (.error e) = .fail failure) (hok : ∀ a, (f (.ok a)).Strict) :
    (callApi decoder request >>= f).Strict := by
  have hend (outcome : Except ApiError α) : (f outcome).Strict := by
    cases outcome with
    | ok a => exact hok a
    | error e =>
      obtain ⟨failure, he⟩ := hfail e
      rw [he]
      trivial
  unfold callApi askApi
  cases request.invalid? with
  | some e => exact hend (.error e)
  | none =>
    refine ⟨fun reply hreply => ?_, fun reply => hend (reply.decode decoder)⟩
    rw [hreads] at hreply
    change ∃ failure, f (reply.decode decoder) = .fail failure
    cases hd : reply.decode decoder with
    | ok a =>
      rw [hd] at hreply
      cases hreply
    | error e => exact hfail e

variable [Resource α] [Collected α]

theorem strict_listObjects (ns : String) : (listObjects α ns).Strict :=
  strict_callApi_bind Collected.many (fun _ => ⟨_, rfl⟩) fun _ => strict_ofExcept _ _

theorem strict_patchObject (ns name : String) (body : Json) :
    (patchObject ns name body : Program α).Strict :=
  strict_callApi_bind Collected.one (fun _ => ⟨_, rfl⟩) fun _ => strict_ofExcept _ _

end

/-- A strict program that ends well has met no fault. -/
theorem Strict.run_unfaulted {α : Type} {p : Program α} (h : p.Strict)
    {ask : AggregatorRequest → Cluster → Reply × Cluster} {timeText : Nat → String}
    {c c' : Cluster} {a : α} (hf : c.faults.Faulty)
    (hrun : p.run (Cluster.environmentWith ask timeText) c = (.ok a, c')) :
    c'.faults = c.faults ∧
      p.run (Cluster.environmentWith ask timeText) { c with faults := [] } =
        (.ok a, { c' with faults := [] }) := by
  induction p generalizing c with
  | done value =>
    cases hrun
    exact ⟨rfl, rfl⟩
  | fail failure => cases hrun
  | api request next ih =>
    change (next (c.askApi request).1).run _ (c.askApi request).2 = _ at hrun
    rcases Cluster.askApi_of_faulty hf request with ⟨reply, faults, hreply, -, hask⟩ | hask
    · -- the program would have given up here
      obtain ⟨failure, hfail⟩ := h.1 reply hreply
      rw [hask, hfail] at hrun
      cases hrun
    · have hsame := Cluster.askApi_eq (c := { c with faults := [] }) rfl request
      rw [hask] at hrun
      obtain ⟨hfaults, hrun'⟩ := ih _ (h.2 _) (c := { c with
        store := (c.store.answer request).2 }.logged (.api request) (c.store.answer request).1)
        hf hrun
      refine ⟨hfaults, ?_⟩
      change (next (Cluster.askApi request { c with faults := [] }).1).run _
        (Cluster.askApi request { c with faults := [] }).2 = _
      rw [hsame]
      exact hrun'
  | aggregator request next ih => exact h.elim
  | now next ih => exact ih _ (h _) (c := { c with readings := c.readings + 1 }) hf hrun
  | note event next ih => exact ih h (c := { c with events := c.events ++ [event] }) hf hrun

-- from here on only the laws say what it means to be strict
attribute [irreducible] Strict

/-- A look-up that found an object has met no fault. -/
theorem run_getObject?_eq_some {α : Type} [Resource α] [Collected α]
    {ask : AggregatorRequest → Cluster → Reply × Cluster} {timeText : Nat → String}
    {c c' : Cluster} {ns name : String} {a : α} (hf : c.faults.Faulty)
    (hrun : (getObject? α ns name).run (Cluster.environmentWith ask timeText) c =
      (.ok (some a), c')) :
    (∃ x, c.store.find? ⟨Resource.collection α, ns, name⟩ = some x ∧
      Resource.decode x = some a) ∧ c'.store = c.store ∧ c'.faults = c.faults := by
  unfold getObject? at hrun
  obtain ⟨outcome, c₁, hcall, hrun⟩ := run_bind_eq_ok.1 hrun
  obtain ⟨rfl, rfl⟩ : outcome = .ok a ∧ c₁ = c' := by
    cases outcome with
    | ok b =>
      obtain ⟨hb, rfl⟩ := run_pure_eq_ok.1 hrun
      cases hb
      exact ⟨rfl, rfl⟩
    | error e =>
      dsimp only at hrun
      split at hrun
      · cases (run_pure_eq_ok.1 hrun).1
      · exact absurd hrun not_run_fail_eq_ok
  obtain ⟨-, hd, rfl⟩ := run_callApi_eq_ok.1 hcall
  change (c.askApi _).1.decode _ = _ at hd
  change _ ∧ (c.askApi _).2.store = _ ∧ (c.askApi _).2.faults = _
  rcases Cluster.askApi_of_faulty hf (.get (Resource.collection α) ns name) with
    ⟨reply, _, hreply, -, hask⟩ | hask
  · rw [hask] at hd
    rw [ApiRequest.isAnsweredBy, Collected.one, hd] at hreply
    cases hreply
  · rw [hask] at hd ⊢
    exact ⟨Store.decode_answer_get.1 hd, Store.answer_get _ _ _ _, rfl⟩

end Program

/-! ## Strict parts of reconciles -/

theorem strict_writeOwnerChanges (ns : String) (changes : List OwnerChange) :
    (writeOwnerChanges ns changes).Strict := by
  induction changes with
  | nil => exact Program.strict_pure ()
  | cons change rest ih =>
    exact Program.Strict.bind ((Program.strict_patchObject (α := Feed) _ _ _).within _) fun _ => ih

theorem strict_listFeeds (ns : String) : (listFeeds ns).Strict :=
  (Program.strict_listObjects ns).within _

theorem strict_syncOwners (h : HotNews) (desired : List String) :
    (syncOwners h desired).Strict := by
  unfold syncOwners
  split
  · exact Program.strict_pure ()
  · exact Program.Strict.bind (strict_listFeeds _) fun feeds => strict_writeOwnerChanges _ _

theorem strict_ensureFinalizer {α : Type} [Resource α] [Collected α] (object : α)
    (finalizer : String) : (ensureFinalizer object finalizer).Strict := by
  unfold ensureFinalizer
  dsimp only
  split
  · exact Program.strict_pure object
  · exact Program.strict_patchObject _ _ _

end Newsdesk
