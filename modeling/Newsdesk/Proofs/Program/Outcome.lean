import Newsdesk.Program.Calls
import Newsdesk.Program.Run

/-!
# Successful runs

What is known of a run that ended with a value: each part of it has ended with one. So a run of a
whole program is taken apart into runs of its calls.
-/

namespace Newsdesk.Program

section

variable {α β σ : Type} {env : Environment σ} {s s' : σ}

/-- The value of a run decides it. -/
theorem eq_ok_of_toOption {outcome : Except Failure α × σ} {a : α}
    (h : outcome.1.toOption = some a) : outcome = (.ok a, outcome.2) := by
  obtain ⟨_ | _, _⟩ := outcome <;> cases h
  rfl

/-- The failure of a run, if it has failed. -/
def failure? : Except Failure α → Option Failure
  | .ok _ => none
  | .error failure => some failure

theorem eq_error_of_failure? {outcome : Except Failure α × σ} {failure : Failure}
    (h : failure? outcome.1 = some failure) : outcome = (.error failure, outcome.2) := by
  obtain ⟨_ | _, _⟩ := outcome <;> cases h
  rfl

theorem run_pure_eq_ok {a b : α} :
    (pure a : Program α).run env s = (.ok b, s') ↔ a = b ∧ s = s' := by
  change (Except.ok a, s) = (Except.ok b, s') ↔ _
  simp

theorem not_run_pure_eq_error {a : α} {failure : Failure} :
    ¬ (pure a : Program α).run env s = (.error failure, s') := by
  intro h
  cases congrArg Prod.fst h

theorem run_fail_eq_error {failure failure' : Failure} :
    (fail failure : Program α).run env s = (.error failure', s') ↔
      failure = failure' ∧ s = s' := by
  change (Except.error failure, s) = (Except.error failure', s') ↔ _
  simp

theorem not_run_fail_eq_ok {failure : Failure} {b : α} :
    ¬ (fail failure : Program α).run env s = (.ok b, s') := by
  intro h
  cases congrArg Prod.fst h

/-- A sequence ends well if both of its parts do. -/
theorem run_bind_eq_ok {p : Program α} {f : α → Program β} {b : β} :
    (p >>= f).run env s = (.ok b, s') ↔
      ∃ a s₁, p.run env s = (.ok a, s₁) ∧ (f a).run env s₁ = (.ok b, s') := by
  change (p.bind f).run env s = _ ↔ _
  rw [run_bind]
  cases hp : p.run env s with
  | mk outcome s₁ =>
    cases outcome with
    | ok a =>
      constructor
      · exact fun h => ⟨a, s₁, rfl, h⟩
      · rintro ⟨_, _, ⟨⟩, h⟩
        exact h
    | error failure =>
      constructor
      · exact fun h => by cases congrArg Prod.fst h
      · rintro ⟨_, _, ⟨⟩, _⟩

/-- A sequence fails if one of its parts does. -/
theorem run_bind_eq_error {p : Program α} {f : α → Program β} {failure : Failure} :
    (p >>= f).run env s = (.error failure, s') ↔ p.run env s = (.error failure, s') ∨
      ∃ a s₁, p.run env s = (.ok a, s₁) ∧ (f a).run env s₁ = (.error failure, s') := by
  change (p.bind f).run env s = _ ↔ _
  rw [run_bind]
  rcases p.run env s with ⟨_ | a, s₁⟩
  · simp
  · constructor
    · exact fun h => .inr ⟨a, s₁, rfl, h⟩
    · rintro (h | ⟨_, _, ⟨⟩, h⟩)
      · cases congrArg Prod.fst h
      · exact h

/-- A sequence ends where its first part fails, or as its second part does. -/
theorem run_bind_eq {p : Program α} {f : α → Program β} {outcome : Except Failure β}
    (h : (p >>= f).run env s = (outcome, s')) :
    (∃ failure, p.run env s = (.error failure, s')) ∨
      ∃ a s₁, p.run env s = (.ok a, s₁) ∧ (f a).run env s₁ = (outcome, s') := by
  cases outcome with
  | ok b => exact .inr (run_bind_eq_ok.1 h)
  | error failure => exact (run_bind_eq_error.1 h).imp_left fun hfail => ⟨failure, hfail⟩

/-- A program whose value is not used ends where the program does. -/
theorem exists_of_run_discarded {p : Program α} {b : β} {outcome : Except Failure β}
    (h : (p >>= fun _ => pure b).run env s = (outcome, s')) :
    ∃ inner, p.run env s = (inner, s') := by
  rcases run_bind_eq h with ⟨_, hfail⟩ | ⟨_, _, hrun, hend⟩
  · exact ⟨_, hfail⟩
  · obtain ⟨-, rfl⟩ := Prod.mk.inj hend
    exact ⟨_, hrun⟩

theorem exists_of_run_within {p : Program α} {doing : String} {outcome : Except Failure α}
    (h : (p.within doing).run env s = (outcome, s')) : ∃ inner, p.run env s = (inner, s') := by
  rw [run_within] at h
  exact ⟨_, Prod.ext rfl (Prod.mk.inj h).2⟩

theorem run_within_eq_ok {p : Program α} {doing : String} {a : α} :
    (p.within doing).run env s = (.ok a, s') ↔ p.run env s = (.ok a, s') := by
  rw [run_within]
  cases hp : p.run env s with
  | mk outcome s₁ =>
    cases outcome with
    | ok value => exact Iff.rfl
    | error failure =>
      constructor
      · exact fun h => by cases congrArg Prod.fst h
      · exact fun h => by cases congrArg Prod.fst h

theorem run_within_eq_error {p : Program α} {doing : String} {failure : Failure}
    (h : (p.within doing).run env s = (.error failure, s')) :
    ∃ inner, p.run env s = (.error inner, s') := by
  rw [run_within] at h
  obtain ⟨houtcome, hstate⟩ := Prod.mk.inj h
  cases hp : (p.run env s).1 with
  | ok value =>
    rw [hp] at houtcome
    cases houtcome
  | error inner => exact ⟨inner, Prod.ext hp hstate⟩

theorem run_attempt_eq_ok {p : Program α} {outcome : Except Failure α} :
    p.attempt.run env s = (.ok outcome, s') ↔ p.run env s = (outcome, s') := by
  rw [run_attempt]
  cases p.run env s
  simp

theorem not_run_attempt_eq_error {p : Program α} {failure : Failure} :
    ¬ p.attempt.run env s = (.error failure, s') := by
  rw [run_attempt]
  intro h
  cases congrArg Prod.fst h

theorem run_ofExcept_eq_ok {ε : Type} {cause : ε → Cause} {outcome : Except ε α} {a : α} :
    (ofExcept cause outcome).run env s = (.ok a, s') ↔ outcome = .ok a ∧ s = s' := by
  cases outcome <;> simp [ofExcept, run]

/-- A call of the API server that was sent, or could not be. -/
theorem run_callApi {decoder : Decoder α} {request : ApiRequest} :
    (callApi decoder request).run env s =
      match request.invalid? with
      | some e => (.ok (.error e), s)
      | none => (.ok ((env.api request s).1.decode decoder), (env.api request s).2) := by
  unfold callApi askApi
  cases request.invalid? <;> rfl

/-- A call whose reply could be read has been sent. -/
theorem run_callApi_eq_ok {decoder : Decoder α} {request : ApiRequest} {a : α} :
    (callApi decoder request).run env s = (.ok (.ok a), s') ↔
      request.invalid? = none ∧ (env.api request s).1.decode decoder = .ok a ∧
        (env.api request s).2 = s' := by
  rw [run_callApi]
  cases request.invalid? <;> simp

theorem run_listObjects_eq_ok [Resource α] {ns : String} {objects : List α} :
    (listObjects α ns).run env s = (.ok objects, s') ↔
      (ApiRequest.list (Resource.collection α) (some ns) none).invalid? = none ∧
        (env.api (.list (Resource.collection α) (some ns) none) s).1.decode
          (decodeObjects Resource.decode) = .ok objects ∧
        (env.api (.list (Resource.collection α) (some ns) none) s).2 = s' := by
  unfold listObjects tryListObjects
  rw [run_bind_eq_ok, ← run_callApi_eq_ok]
  constructor
  · rintro ⟨_, _, h, h'⟩
    obtain ⟨rfl, rfl⟩ := run_ofExcept_eq_ok.1 h'
    exact h
  · exact fun h => ⟨_, _, h, run_ofExcept_eq_ok.2 ⟨rfl, rfl⟩⟩

theorem run_patchObject_eq_ok [Resource α] {ns name : String} {body : Json} {a : α} :
    (patchObject ns name body : Program α).run env s = (.ok a, s') ↔
      (ApiRequest.patch (Resource.collection α) ns name body).invalid? = none ∧
        (env.api (.patch (Resource.collection α) ns name body) s).1.decode Resource.decode =
          .ok a ∧
        (env.api (.patch (Resource.collection α) ns name body) s).2 = s' := by
  unfold patchObject
  rw [run_bind_eq_ok, ← run_callApi_eq_ok]
  constructor
  · rintro ⟨_, _, h, h'⟩
    obtain ⟨rfl, rfl⟩ := run_ofExcept_eq_ok.1 h'
    exact h
  · exact fun h => ⟨_, _, h, run_ofExcept_eq_ok.2 ⟨rfl, rfl⟩⟩

/-- A patch is one call, unless it cannot be sent. -/
theorem state_of_run_patchObject [Resource α] {ns name : String} {body : Json}
    {outcome : Except Failure α}
    (h : (patchObject ns name body : Program α).run env s = (outcome, s')) :
    s' = s ∨ s' = (env.api (.patch (Resource.collection α) ns name body) s).2 := by
  have hend {reply : Except ApiError α} {s₁ : σ}
      (h : (ofExcept .api reply).run env s₁ = (outcome, s')) : s₁ = s' := by
    cases reply <;> exact (Prod.mk.inj h).2
  unfold patchObject at h
  rcases run_bind_eq h with ⟨_, hcall⟩ | ⟨reply, s₁, hcall, h⟩
  · rw [run_callApi] at hcall
    split at hcall <;> cases hcall
  · obtain rfl := hend h
    rw [run_callApi] at hcall
    split at hcall
    · exact .inl (Prod.mk.inj hcall).2.symm
    · exact .inr (Prod.mk.inj hcall).2.symm

theorem run_patchObjectStatus_eq_ok [Resource α] {ns name : String} {body : Json} :
    (patchObjectStatus α ns name body).run env s = (.ok (), s') ↔
      (ApiRequest.patchStatus (Resource.collection α) ns name body).invalid? = none ∧
        (∃ a : α, (env.api (.patchStatus (Resource.collection α) ns name body) s).1.decode
          Resource.decode = .ok a) ∧
        (env.api (.patchStatus (Resource.collection α) ns name body) s).2 = s' := by
  unfold patchObjectStatus
  rw [run_bind_eq_ok]
  constructor
  · rintro ⟨_, _, h, h'⟩
    obtain ⟨a, _, h', h''⟩ := run_bind_eq_ok.1 h'
    obtain ⟨rfl, rfl⟩ := run_ofExcept_eq_ok.1 h'
    obtain ⟨-, rfl⟩ := run_pure_eq_ok.1 h''
    obtain ⟨hv, hd, hs⟩ := run_callApi_eq_ok.1 h
    exact ⟨hv, ⟨a, hd⟩, hs⟩
  · rintro ⟨hv, ⟨a, hd⟩, hs⟩
    exact ⟨_, _, run_callApi_eq_ok.2 ⟨hv, hd, hs⟩,
      run_bind_eq_ok.2 ⟨a, _, run_ofExcept_eq_ok.2 ⟨rfl, rfl⟩, run_pure_eq_ok.2 ⟨rfl, rfl⟩⟩⟩

/-- A call of the aggregator that ended well has been sent and answered well. -/
theorem run_callAggregator_eq_ok {outcome : Reply → Except AggregatorError α}
    {request : AggregatorRequest} {a : α} :
    (callAggregator outcome request).run env s = (.ok a, s') ↔
      request.invalid? = none ∧ outcome (env.aggregator request s).1 = .ok a ∧
        (env.aggregator request s).2 = s' := by
  unfold callAggregator
  cases request.invalid? with
  | some e => simp [run]
  | none =>
    change (ofExcept _ _).run env _ = _ ↔ _
    rw [run_ofExcept_eq_ok]
    simp

end

end Newsdesk.Program
