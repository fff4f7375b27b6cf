import Newsdesk.Program.Basic

/-!
# Running programs

An environment answers the requests of a program and keeps a state. The laws below say how a
sequence, an attempt and a context run.
-/

namespace Newsdesk

/-- What answers a program. -/
structure Environment (σ : Type) where
  api : ApiRequest → σ → Reply × σ
  aggregator : AggregatorRequest → σ → Reply × σ
  now : σ → String × σ
  note : Event → σ → σ

/-- The environment in which a program waits without end for a reply of the API server that never
comes: from then on nothing happens any more. The flag of the state tells whether it waits. -/
def Environment.patient {σ : Type} (env : Environment σ) : Environment (Bool × σ) where
  api request s :=
    if s.1 then (.unanswered, s)
    else
      let (reply, t) := env.api request s.2
      (reply, reply.isUnanswered, t)
  aggregator request s :=
    if s.1 then (.unanswered, s)
    else
      let (reply, t) := env.aggregator request s.2
      (reply, false, t)
  now s :=
    if s.1 then ("", s)
    else
      let (time, t) := env.now s.2
      (time, false, t)
  note event s := if s.1 then s else (false, env.note event s.2)

namespace Program

/-- Runs a program in an environment from a state. -/
def run {α σ : Type} (env : Environment σ) : Program α → σ → Except Failure α × σ
  | .done value, s => (.ok value, s)
  | .fail failure, s => (.error failure, s)
  | .api request next, s =>
    let (reply, s) := env.api request s
    (next reply).run env s
  | .aggregator request next, s =>
    let (reply, s) := env.aggregator request s
    (next reply).run env s
  | .now next, s =>
    let (time, s) := env.now s
    (next time).run env s
  | .note event next, s => next.run env (env.note event s)

/-- A sequence runs its parts one after the other. -/
theorem run_bind {α β σ : Type} (env : Environment σ) (p : Program α) (f : α → Program β)
    (s : σ) :
    (p.bind f).run env s =
      match p.run env s with
      | (.ok value, s) => (f value).run env s
      | (.error failure, s) => (.error failure, s) := by
  induction p generalizing s with
  | done value => rfl
  | fail failure => rfl
  | api request next ih => simpa [Program.bind, run] using ih _ _
  | aggregator request next ih => simpa [Program.bind, run] using ih _ _
  | now next ih => simpa [Program.bind, run] using ih _ _
  | note event next ih => simpa [Program.bind, run] using ih _

/-- The outcome of a program becomes its value. -/
theorem run_attempt {α σ : Type} (env : Environment σ) (p : Program α) (s : σ) :
    p.attempt.run env s = (.ok (p.run env s).1, (p.run env s).2) := by
  induction p generalizing s with
  | done value => rfl
  | fail failure => rfl
  | api request next ih => simpa [Program.attempt, run] using ih _ _
  | aggregator request next ih => simpa [Program.attempt, run] using ih _ _
  | now next ih => simpa [Program.attempt, run] using ih _ _
  | note event next ih => simpa [Program.attempt, run] using ih _

/-- A context changes nothing but the failure. -/
theorem run_within {α σ : Type} (env : Environment σ) (doing : String) (p : Program α) (s : σ) :
    (p.within doing).run env s =
      ((p.run env s).1.mapError (Failure.within doing), (p.run env s).2) := by
  induction p generalizing s with
  | done value => rfl
  | fail failure => rfl
  | api request next ih => simpa [Program.within, run] using ih _ _
  | aggregator request next ih => simpa [Program.within, run] using ih _ _
  | now next ih => simpa [Program.within, run] using ih _ _
  | note event next ih => simpa [Program.within, run] using ih _

end Program

end Newsdesk
