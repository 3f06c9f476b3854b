import Trefoil.Scope

/-! # What computations ensure

A traced computation ends in a value or in a failure. `Ensures` says something
about both at once. It goes through the operations on computations step by step,
so that a function is described by following its own text. -/

namespace Trefoil

namespace Traced

variable {α β : Type}

theorem outcome_bind_eq_ok {first : Traced α} {next : α → Traced β} {result : β} :
    (first >>= next).outcome = .ok result ↔
      ∃ value, first.outcome = .ok value ∧ (next value).outcome = .ok result := by
  rw [outcome_bind]
  cases first.outcome <;> simp [bind, Except.bind]

theorem outcome_bind_congr {first first' : Traced α} {next next' : α → Traced β}
    (start : first.outcome = first'.outcome)
    (rest : ∀ value, first'.outcome = .ok value →
      (next value).outcome = (next' value).outcome) :
    (first >>= next).outcome = (first' >>= next').outcome := by
  rw [outcome_bind, outcome_bind, start]
  cases equation : first'.outcome with
  | error failure => rfl
  | ok value => exact rest value equation

theorem outcome_each_congr {action action' : α → Traced β} {items : List α}
    (one : ∀ item ∈ items, (action item).outcome = (action' item).outcome) :
    (each action items).outcome = (each action' items).outcome := by
  induction items with
  | nil => rfl
  | cons item items induction =>
      rw [each, each]
      apply outcome_bind_congr (one item (by simp))
      intro result _
      apply outcome_bind_congr (induction fun other member => one other (by simp [member]))
      intro results _
      rfl

theorem outcome_each_map_eq_ok {action : α → Traced β} {write : β → α} {results : List β}
    (one : ∀ result ∈ results, (action (write result)).outcome = .ok result) :
    (each action (results.map write)).outcome = .ok results := by
  induction results with
  | nil => rfl
  | cons result results induction =>
      have first := one result (by simp)
      have rest := induction fun other member => one other (by simp [member])
      rw [List.map_cons, each, outcome_bind_eq_ok]
      refine ⟨result, first, ?_⟩
      rw [outcome_bind_eq_ok]
      exact ⟨results, rest, rfl⟩

@[simp] theorem ok_bind (value : α) (next : α → Except Failure β) :
    (Except.ok value >>= next) = next value := rfl

@[simp] theorem error_bind (failure : Failure) (next : α → Except Failure β) :
    (Except.error failure >>= next) = .error failure := rfl

/-- Every value that comes out satisfies `result`, and every failure satisfies
`failure`. -/
def Ensures (computation : Traced α) (result : α → Prop) (failure : Failure → Prop) : Prop :=
  match computation.outcome with
  | .ok value => result value
  | .error reason => failure reason

abbrev Yields (computation : Traced α) (result : α → Prop) : Prop :=
  computation.Ensures result fun _ => True

variable {result : α → Prop} {failure : Failure → Prop}

namespace Ensures

theorem of_ok {computation : Traced α} (ensures : computation.Ensures result failure)
    {value : α} (returns : computation.outcome = .ok value) : result value := by
  simpa [Ensures, returns] using ensures

theorem of_error {computation : Traced α} (ensures : computation.Ensures result failure)
    {reason : Failure} (fails : computation.outcome = .error reason) : failure reason := by
  simpa [Ensures, fails] using ensures

theorem mono {computation : Traced α} (ensures : computation.Ensures result failure)
    {result' : α → Prop} {failure' : Failure → Prop}
    (results : ∀ value, result value → result' value)
    (failures : ∀ reason, failure reason → failure' reason) :
    computation.Ensures result' failure' := by
  unfold Ensures at ensures ⊢
  split at ensures
  · exact results _ ensures
  · exact failures _ ensures

theorem bind {first : Traced α} {next : α → Traced β} {result' : β → Prop}
    (start : first.Ensures result failure)
    (rest : ∀ value, result value → (next value).Ensures result' failure) :
    (first >>= next).Ensures result' failure := by
  unfold Ensures at start ⊢
  rw [outcome_bind]
  cases equation : first.outcome with
  | error reason =>
      rw [equation] at start
      exact start
  | ok value =>
      rw [equation] at start
      exact rest value start

end Ensures

theorem ensures_pure {value : α} (holds : result value) :
    (pure value : Traced α).Ensures result failure := holds

theorem ensures_fail {reason : Failure} (holds : failure reason) :
    (fail reason : Traced α).Ensures result failure := holds

theorem ensures_log_bind {record : Log.Record} {next : Unit → Traced α}
    (rest : (next ()).Ensures result failure) :
    (log record >>= next).Ensures result failure :=
  Ensures.bind (show (log record).Ensures (fun _ => True) failure from trivial)
    fun _ _ => rest

theorem ensures_each {action : β → Traced α} (items : List β)
    (one : ∀ item ∈ items, (action item).Ensures result failure) :
    (each action items).Ensures
      (fun results => results.length = items.length ∧ ∀ value ∈ results, result value)
      failure := by
  induction items with
  | nil => exact ensures_pure ⟨rfl, by simp⟩
  | cons item items induction =>
      apply Ensures.bind (one item (by simp))
      intro value holds
      apply Ensures.bind (induction fun other member => one other (by simp [member]))
      intro values all
      apply ensures_pure
      constructor
      · simp [all.1]
      · intro other member
        rcases List.mem_cons.mp member with equal | member
        · exact equal ▸ holds
        · exact all.2 other member

theorem length_eq_of_each {action : β → Traced α} {items : List β} {results : List α}
    (returns : (each action items).outcome = .ok results) : results.length = items.length := by
  have one (item : β) : (action item).Ensures (fun _ => True) fun _ => True := by
    unfold Ensures
    split <;> trivial
  exact ((ensures_each items fun item _ => one item).of_ok returns).1

theorem ensures_raise {room : Nat} {error : RuntimeError}
    (filled : ∀ expr ∈ error.exprs, expr.hasBlank = false)
    (told : failure (.program (.atRuntime error))) (deep : failure .tooDeep) :
    (raise room error : Traced α).Ensures result failure := by
  have noBlank : error.exprs.any (·.hasBlank) = false := by
    simpa using filled
  unfold raise
  rw [noBlank]
  simp only [Bool.false_eq_true, if_false]
  split
  · exact ensures_fail told
  · exact ensures_fail deep

theorem outcome_raise_ne_ok {room : Nat} {error : RuntimeError} {value : α} :
    (raise room error : Traced α).outcome ≠ .ok value := by
  unfold raise
  split
  · nofun
  · split
    · nofun
    · nofun

end Traced

/-! ## Scopes

The outcomes of looking names up and of binding values, without the events. -/

namespace Env

variable {room : Nat} {name : String}

theorem outcome_variableValue (env : Env) (site : Option Expr) :
    (env.variableValue room name site).outcome =
      match env.lookup name with
      | some (.value value) => .ok value
      | _ => (Traced.raise room (.unboundVariable name site)).outcome := by
  unfold variableValue
  cases env.lookup name with
  | none => cases site <;> rfl
  | some entry =>
      cases entry with
      | value value => rfl
      | function definition scope => cases site <;> rfl

theorem outcome_functionNamed (env : Env) (site : Option Expr) :
    (env.functionNamed room name site).outcome =
      match env.lookup name with
      | some (.function definition scope) => .ok (definition, scope)
      | _ => (Traced.raise room (.unboundFunction name site)).outcome := by
  unfold functionNamed
  cases env.lookup name with
  | none => rfl
  | some entry => cases entry <;> rfl

theorem outcome_withValue (env : Env) (value : Expr) :
    (env.withValue room name value).outcome =
      if value.isValue then .ok (.bindValue name value env)
      else (Traced.raise room (.notValue name value)).outcome := by
  unfold withValue
  split
  · rfl
  · rfl

end Env

end Trefoil
