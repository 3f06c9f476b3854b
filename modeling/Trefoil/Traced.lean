import Trefoil.Log.Record

/-! # Traced computations

A traced computation yields an outcome, and the events that happened on the way
in their order. Events never influence an outcome: `outcome` turns the operations
on traced computations into those on plain ones, and the simplifier knows how. -/

namespace Trefoil

inductive Report where
  | bound (name : String) (value : Expr)
  | defined (name : String)
  | result (value : Expr)

namespace Report

def text : Report → String
  | bound name value => name ++ " = " ++ value.text
  | defined name => name ++ " is defined"
  | result value => value.text

def exprs : Report → List Expr
  | bound _ value | result value => [value]
  | defined _ => []

end Report

inductive Event where
  | logged (record : Log.Record)
  | reported (report : Report)
  | failed (error : ProgramError)

structure Traced (α : Type) where
  outcome : Except Failure α
  events : List Event := []

namespace Traced

variable {α β : Type}

instance : Monad Traced where
  pure value := { outcome := .ok value }
  bind first next :=
    match first.outcome with
    | .error failure => { outcome := .error failure, events := first.events }
    | .ok value =>
        let second := next value
        { outcome := second.outcome, events := first.events ++ second.events }

def fail (failure : Failure) : Traced α := { outcome := .error failure }

def happen (event : Event) : Traced Unit := { outcome := .ok (), events := [event] }

def log (record : Log.Record) : Traced Unit := happen (.logged record)

def fault (fault : Fault) : Traced α := fail (.fault fault)

/-- Runs to the end, whatever the outcome, and yields it. -/
def attempt (computation : Traced α) : Traced (Except Failure α) :=
  { outcome := .ok computation.outcome, events := computation.events }

def each (action : α → Traced β) : List α → Traced (List β)
  | [] => pure []
  | item :: items => do
      let result ← action item
      let results ← each action items
      return result :: results

@[simp] theorem outcome_pure (value : α) : (pure value : Traced α).outcome = .ok value := rfl

@[simp] theorem events_pure (value : α) : (pure value : Traced α).events = [] := rfl

@[simp] theorem outcome_bind (first : Traced α) (next : α → Traced β) :
    (first >>= next).outcome = first.outcome >>= fun value => (next value).outcome := by
  cases equation : first.outcome <;> simp [bind, equation, Except.bind]

@[simp] theorem outcome_fail (failure : Failure) :
    (fail failure : Traced α).outcome = .error failure := rfl

@[simp] theorem outcome_fault (reason : Fault) :
    (fault reason : Traced α).outcome = .error (.fault reason) := rfl

@[simp] theorem outcome_log (record : Log.Record) : (log record).outcome = .ok () := rfl

@[simp] theorem outcome_attempt (computation : Traced α) :
    computation.attempt.outcome = .ok computation.outcome := rfl

end Traced

end Trefoil
