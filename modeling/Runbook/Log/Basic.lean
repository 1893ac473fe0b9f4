import Runbook.Json.Basic

/-!
# Log records

What happens beside the results of a computation is told in log records. `Logged α` is a value together
with the records written on the way to it, in order; `Attempt ε α` is the same for computations that may
fail, and keeps the records written before the failure.

The main statements say that sequencing keeps both parts apart: `Logged.value_bind` and
`Logged.records_bind`.
-/

namespace Runbook

namespace Log

/-- How much a record matters. -/
inductive Level where
  | debug
  | info
  | warning
  | error
  | critical
  deriving DecidableEq, Repr

namespace Level

/-- The name of a level in written records. -/
def name : Level → String
  | debug => "DEBUG"
  | info => "INFO"
  | warning => "WARNING"
  | error => "ERROR"
  | critical => "CRITICAL"

/-- Levels in order of severity, ten apart. -/
def severity : Level → Nat
  | debug => 10
  | info => 20
  | warning => 30
  | error => 40
  | critical => 50

end Level

/-- The parts of the engine that write records. -/
inductive Source where
  | tokens
  | conditions
  | dataPoints
  | repair
  | validation
  | generation
  | runs
  | dispatch
  | storage
  | commands
  deriving DecidableEq, Repr

/-- The name under which a part of the engine writes its records. -/
def Source.name : Source → String
  | tokens => "stepflow.engine.workflow.tokens"
  | conditions => "stepflow.engine.workflow.conditions"
  | dataPoints => "stepflow.engine.workflow.datapoints"
  | repair => "stepflow.engine.workflow.repair"
  | validation => "stepflow.engine.workflow.validation"
  | generation => "stepflow.engine.workflow.generation"
  | runs => "stepflow.engine.workflow.executor"
  | dispatch => "stepflow.engine.workflow.dispatch"
  | storage => "stepflow.engine.storage"
  | commands => "stepflow.engine.main"

/-- One record. `trace` says whether the failure that is reported comes with its trace. -/
structure Record where
  source : Source
  level : Level
  message : String
  fields : Fields := []
  trace : Bool := false

/-- The fields that say to which run and step a record belongs. -/
def contextKeys : List String :=
  ["workflow_id", "step_id", "kind"]

end Log

/-- A value and the records written on the way to it. -/
structure Logged (α : Type) where
  value : α
  records : List Log.Record

namespace Logged

variable {α β : Type}

/-- Sequencing: the records of the second computation follow those of the first. -/
def bind (x : Logged α) (f : α → Logged β) : Logged β :=
  ⟨(f x.value).value, x.records ++ (f x.value).records⟩

instance : Monad Logged where
  pure a := ⟨a, []⟩
  bind := bind

/-- Writes one record. -/
def tell (record : Log.Record) : Logged Unit :=
  ⟨(), [record]⟩

@[simp] theorem value_pure (a : α) : (pure a : Logged α).value = a := rfl

@[simp] theorem records_pure (a : α) : (pure a : Logged α).records = [] := rfl

@[simp] theorem value_bind (x : Logged α) (f : α → Logged β) :
    (x >>= f).value = (f x.value).value := rfl

@[simp] theorem records_bind (x : Logged α) (f : α → Logged β) :
    (x >>= f).records = x.records ++ (f x.value).records := rfl

end Logged

/-- A computation that writes records and may fail. -/
abbrev Attempt (ε α : Type) := ExceptT ε Logged α

namespace Attempt

variable {ε α : Type}

/-- Writes one record. -/
def tell (record : Log.Record) : Attempt ε Unit :=
  ExceptT.lift (Logged.tell record)

/-- The outcome and the records written up to it. -/
def outcome (x : Attempt ε α) : Logged (Except ε α) :=
  ExceptT.run x

@[simp] theorem value_pure (a : α) : (pure a : Attempt ε α).outcome.value = .ok a := rfl

@[simp] theorem value_throw (e : ε) : (throw e : Attempt ε α).outcome.value = .error e := rfl

theorem value_bind {β : Type} (x : Attempt ε α) (f : α → Attempt ε β) :
    (x >>= f).outcome.value =
      match x.outcome.value with
      | .ok a => (f a).outcome.value
      | .error e => .error e := by
  show (x.outcome >>= ExceptT.bindCont f : Logged (Except ε β)).value = _
  rw [Logged.value_bind]
  cases x.outcome.value <;> rfl

/-- What a sequence comes to depends on what its parts come to, and not on what they report. -/
theorem value_bind_congr {β : Type} {x y : Attempt ε α} {f g : α → Attempt ε β}
    (h : x.outcome.value = y.outcome.value) (hfg : ∀ a, (f a).outcome.value = (g a).outcome.value) :
    (x >>= f).outcome.value = (y >>= g).outcome.value := by
  rw [value_bind, value_bind, h]
  cases y.outcome.value with
  | ok a => exact hfg a
  | error e => rfl

/-- A sequence has a value exactly if both parts have one. -/
theorem value_bind_eq_ok {β : Type} {x : Attempt ε α} {f : α → Attempt ε β} {b : β} :
    (x >>= f).outcome.value = .ok b ↔
      ∃ a, x.outcome.value = .ok a ∧ (f a).outcome.value = .ok b := by
  rw [value_bind]
  cases x.outcome.value <;> simp

/-- A failure by another name is still a failure, and a value is still that value. -/
theorem value_adapt_eq_ok {ε' : Type} {f : ε → ε'} {x : Attempt ε α} {a : α} :
    (outcome (ExceptT.adapt f x)).value = .ok a ↔ x.outcome.value = .ok a := by
  show x.outcome.value.mapError f = .ok a ↔ _
  cases x.outcome.value with
  | ok b => exact ⟨fun h => congrArg Except.ok (Except.ok.inj h), fun h => congrArg Except.ok (Except.ok.inj h)⟩
  | error e => exact ⟨fun h => (by cases h), fun h => (by cases h)⟩

end Attempt

end Runbook
