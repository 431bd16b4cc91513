import AssistedDialing.Log.Entry

/-!
# Recorded runs

A check asks collaborators and reports what it finds. A `Run` is the outcome of such a computation
together with the questions that were asked and the log entries, both in order. When a collaborator
fails, the run ends with its failure and keeps what was recorded until then.
-/

namespace AssistedDialing.Eligibility

/-- A question to a collaborator. -/
inductive Call where
  | parse (raw region : String)
  | isEmergency (raw : String)
  | isLocalEmergency (raw : String)
  | validate (raw : String)
  deriving DecidableEq, Repr, Inhabited

/-- The outcome of a computation, the questions that it asked and the entries that it logged. -/
structure Run (ε α : Type) where
  outcome : Except ε α
  calls : List Call
  log : List Log.Entry

namespace Run

variable {ε α β : Type}

/-- `pure value` is the run that records nothing. -/
protected def pure (value : α) : Run ε α where
  outcome := .ok value
  calls := []
  log := []

/-- `run.bind next` goes on with `next` unless the run failed. -/
protected def bind (run : Run ε α) (next : α → Run ε β) : Run ε β :=
  match run.outcome with
  | .ok value =>
      let rest := next value
      ⟨rest.outcome, run.calls ++ rest.calls, run.log ++ rest.log⟩
  | .error error => ⟨.error error, run.calls, run.log⟩

instance : Monad (Run ε) where
  pure := Run.pure
  bind := Run.bind

/-- `ask call answer` asks a collaborator. -/
def ask (call : Call) (answer : Except ε α) : Run ε α where
  outcome := answer
  calls := [call]
  log := []

/-- `report entry` logs an entry. -/
def report (entry : Log.Entry) : Run ε Unit where
  outcome := .ok ()
  calls := []
  log := [entry]

end Run

end AssistedDialing.Eligibility
