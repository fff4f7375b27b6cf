import Newsdesk.Cluster.Basic
import Newsdesk.Program.Calls

/-!
# Traces of runs

An environment with a trace answers as it does without one and keeps what has been sent to the
servers and what has been counted. So what a program does can be seen in any environment, also in
one of which nothing else is known.

`Program.Yields post` says of a program that it counts nothing and ends with a value that fits,
whatever comes back (`Yields.run_traced`).
-/

namespace Newsdesk

/-- What has been sent and what has been counted, in order. -/
structure Trace where
  sent : List SentRequest
  counted : List Event

/-- The environment with a trace. -/
def Environment.traced {σ : Type} (env : Environment σ) : Environment (σ × Trace) where
  api request s :=
    let (reply, state) := env.api request s.1
    (reply, state, { s.2 with sent := s.2.sent ++ [.api request] })
  aggregator request s :=
    let (reply, state) := env.aggregator request s.1
    (reply, state, { s.2 with sent := s.2.sent ++ [.aggregator request] })
  now s :=
    let (time, state) := env.now s.1
    (time, state, s.2)
  note event s := (env.note event s.1, { s.2 with counted := s.2.counted ++ [event] })

namespace Program

variable {α β σ : Type}

/-- A trace changes neither the outcome nor the state behind it. -/
theorem run_of_run_traced {env : Environment σ} {p : Program α} {s s' : σ} {t t' : Trace}
    {outcome : Except Failure α} (h : p.run env.traced (s, t) = (outcome, s', t')) :
    p.run env s = (outcome, s') := by
  induction p generalizing s t with
  | done value =>
    obtain ⟨rfl, rfl, -⟩ := by simpa [run] using h
    rfl
  | fail failure =>
    obtain ⟨rfl, rfl, -⟩ := by simpa [run] using h
    rfl
  | api request next ih => exact ih _ h
  | aggregator request next ih => exact ih _ h
  | now next ih => exact ih _ h
  | note event next ih => exact ih h

/-! ## Programs that count nothing -/

/-- Whatever comes back, the program counts nothing and ends with a value that fits. -/
inductive Yields (post : α → Prop) : Program α → Prop
  | done {value : α} : post value → Yields post (.done value)
  | api {request : ApiRequest} {next : Reply → Program α} :
      (∀ reply, Yields post (next reply)) → Yields post (.api request next)
  | aggregator {request : AggregatorRequest} {next : Reply → Program α} :
      (∀ reply, Yields post (next reply)) → Yields post (.aggregator request next)
  | now {next : String → Program α} :
      (∀ time, Yields post (next time)) → Yields post (.now next)

variable {post : β → Prop} {between : α → Prop}

theorem Yields.bind {p : Program α} {f : α → Program β} (hp : p.Yields between)
    (hf : ∀ a, between a → (f a).Yields post) : (p >>= f).Yields post := by
  change (p.bind f).Yields post
  induction hp with
  | done hvalue => exact hf _ hvalue
  | api _ ih => exact .api ih
  | aggregator _ ih => exact .aggregator ih
  | now _ ih => exact .now ih

theorem yields_callApi (decoder : Decoder α) (request : ApiRequest) :
    (callApi decoder request).Yields fun _ => True := by
  unfold callApi askApi
  cases request.invalid? with
  | none => exact .api fun reply => .done trivial
  | some e => exact .done trivial

/-- In any environment the program ends with a value that fits, and what has been counted stays. -/
theorem Yields.run_traced {p : Program β} (h : p.Yields post) (env : Environment σ) (s : σ)
    (t : Trace) :
    ∃ value s' sent, p.run env.traced (s, t) = (.ok value, s', ⟨sent, t.counted⟩) ∧ post value := by
  induction h generalizing s t with
  | done hvalue => exact ⟨_, s, t.sent, rfl, hvalue⟩
  | api _ ih => exact ih _ _ ⟨_, t.counted⟩
  | aggregator _ ih => exact ih _ _ ⟨_, t.counted⟩
  | now _ ih => exact ih _ _ t

end Program

end Newsdesk
