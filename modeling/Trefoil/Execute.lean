import Trefoil.Evaluate

/-! # Execution

Executing a binding extends the environment, or leaves it as it is, and reports
what a user would want to see. -/

namespace Trefoil

/-- Reports a value. Its text takes `room` for its depth. -/
def Traced.report (room : Nat) (report : Report) : Traced Unit :=
  if report.exprs.all (·.depth ≤ room) then happen (.reported report) else fail .tooDeep

def execute (room mark : Nat) (binding : Binding) (env : Env) : Traced Env :=
  match binding with
  | .blank => Traced.fault (.sketchedBinding binding)
  | .defineVariable name init => do
      Traced.log (.executing binding)
      let value ← evaluate room init env
      Traced.report room (.bound name value)
      env.withValue room name value
  | .defineFunction definition => do
      Traced.log (.executing binding)
      let extended ← env.withFunction room mark definition
      Traced.report room (.defined definition.name)
      return extended
  | .expression expr => do
      Traced.log (.executing binding)
      let value ← evaluate room expr env
      Traced.report room (.result value)
      return env
  | .test expr => do
      Traced.log (.executing binding)
      let value ← evaluate room expr env
      if value = .bool true then return env
      else Traced.raise room (.testFailed expr value)

/-- Executes bindings in order. Each function is marked with the number of frames
below its own, which tells the definitions of one chain apart. -/
def executeAll (room : Nat) : List Binding → Env → Traced Env
  | [], env => pure env
  | binding :: bindings, env => do
      let extended ← execute room env.size binding env
      executeAll room bindings extended

end Trefoil
