import Trefoil.Proofs.Outcome

/-! # Events and room

What can be said of a computation besides its outcome. Of its events, a user is shown
the reports and the errors, and not the records of the log: it is silent if there are
only those. And where it lacked no room, it should stay the same with more. Silence and
persistence go through the operations on computations, as what they ensure does. -/

namespace Trefoil

theorem depths_le {room room' : Nat} (le : room ≤ room') {exprs : List Expr}
    (fit : exprs.all (·.depth ≤ room) = true) : exprs.all (·.depth ≤ room') = true := by
  rw [List.all_eq_true] at fit ⊢
  intro expr member
  have below := of_decide_eq_true (fit expr member)
  exact decide_eq_true (by omega)

namespace Event

def isShown : Event → Bool
  | logged _ => false
  | reported _ | failed _ => true

def report? : Event → Option Report
  | reported report => some report
  | logged _ | failed _ => none

def error? : Event → Option ProgramError
  | failed error => some error
  | logged _ | reported _ => none

end Event

namespace Traced

variable {α β : Type}

def shown (computation : Traced α) : List Event := computation.events.filter Event.isShown

def reports (computation : Traced α) : List Report := computation.shown.filterMap Event.report?

def errors (computation : Traced α) : List ProgramError :=
  computation.shown.filterMap Event.error?

theorem shown_bind_of_ok {first : Traced α} {next : α → Traced β} {value : α}
    (returns : first.outcome = .ok value) :
    (first >>= next).shown = first.shown ++ (next value).shown := by
  simp [shown, bind, returns]

theorem shown_bind_of_error {first : Traced α} {next : α → Traced β} {failure : Failure}
    (fails : first.outcome = .error failure) : (first >>= next).shown = first.shown := by
  simp [shown, bind, fails]

/-! ## Silence -/

def Silent (computation : Traced α) : Prop := computation.shown = []

theorem silent_pure (value : α) : (pure value : Traced α).Silent := rfl

theorem silent_fail (failure : Failure) : (fail failure : Traced α).Silent := rfl

theorem silent_log (record : Log.Record) : (log record).Silent := rfl

namespace Silent

theorem shown_bind {first : Traced α} {next : α → Traced β} {value : α} (silent : first.Silent)
    (returns : first.outcome = .ok value) : (first >>= next).shown = (next value).shown := by
  rw [shown_bind_of_ok returns, silent, List.nil_append]

theorem bind_of_ok {first : Traced α} {next : α → Traced β} (start : first.Silent)
    (rest : ∀ value, first.outcome = .ok value → (next value).Silent) :
    (first >>= next).Silent := by
  cases equation : first.outcome with
  | error failure => exact (shown_bind_of_error equation).trans start
  | ok value => exact (start.shown_bind equation).trans (rest value equation)

theorem bind {first : Traced α} {next : α → Traced β} (start : first.Silent)
    (rest : ∀ value, (next value).Silent) : (first >>= next).Silent :=
  start.bind_of_ok fun value _ => rest value

theorem log_bind {record : Log.Record} {next : Unit → Traced α} (rest : (next ()).Silent) :
    (log record >>= next).Silent :=
  (silent_log record).bind fun _ => rest

end Silent

theorem silent_each {action : α → Traced β} (items : List α)
    (one : ∀ item, (action item).Silent) : (each action items).Silent := by
  induction items with
  | nil => exact silent_pure _
  | cons item items induction =>
      apply (one item).bind
      intro result
      apply induction.bind
      intro results
      exact silent_pure _

/-! ## Persistence -/

/-- Unless the first computation lacks room, the second one is the same. -/
def Persists (tight roomy : Traced α) : Prop :=
  tight.outcome ≠ .error .tooDeep → roomy = tight

namespace Persists

theorem refl (computation : Traced α) : Persists computation computation := fun _ => rfl

theorem outcome_eq_ok {tight roomy : Traced α} {value : α} (persists : Persists tight roomy)
    (returns : tight.outcome = .ok value) : roomy.outcome = .ok value := by
  have enough : tight.outcome ≠ .error .tooDeep := by
    simp [returns]
  rw [persists enough, returns]

theorem bind_of_ok {tight roomy : Traced α} {next next' : α → Traced β}
    (start : Persists tight roomy)
    (rest : ∀ value, tight.outcome = .ok value → Persists (next value) (next' value)) :
    Persists (tight >>= next) (roomy >>= next') := by
  intro enough
  have enoughFirst : tight.outcome ≠ .error .tooDeep := by
    intro tooDeep
    rw [outcome_bind, tooDeep] at enough
    exact enough rfl
  rw [start enoughFirst]
  cases equation : tight.outcome with
  | error failure => simp [Bind.bind, equation]
  | ok value =>
      rw [outcome_bind, equation, ok_bind] at enough
      simp [Bind.bind, equation, rest value equation enough]

theorem bind {tight roomy : Traced α} {next next' : α → Traced β} (start : Persists tight roomy)
    (rest : ∀ value, Persists (next value) (next' value)) :
    Persists (tight >>= next) (roomy >>= next') :=
  start.bind_of_ok fun value _ => rest value

theorem log_bind {record : Log.Record} {next next' : Unit → Traced α}
    (rest : Persists (next ()) (next' ())) :
    Persists (log record >>= next) (log record >>= next') :=
  bind (refl _) fun _ => rest

end Persists

theorem persists_each {action action' : α → Traced β} (items : List α)
    (one : ∀ item, Persists (action item) (action' item)) :
    Persists (each action items) (each action' items) := by
  induction items with
  | nil => exact .refl _
  | cons item items induction =>
      apply Persists.bind (one item)
      intro result
      apply Persists.bind induction
      intro results
      exact .refl _

/-! ## Raising errors -/

theorem silent_raise (room : Nat) (error : RuntimeError) :
    (raise room error : Traced α).Silent := by
  unfold raise
  split
  · exact silent_fail _
  · split
    · exact silent_fail _
    · exact silent_fail _

variable {room room' : Nat}

theorem persists_raise (le : room ≤ room') (error : RuntimeError) :
    Persists (raise room error : Traced α) (raise room' error) := by
  unfold raise
  split
  · exact .refl _
  · split
    next fit =>
        rw [if_pos (depths_le le fit)]
        exact .refl _
    next => exact fun enough => absurd rfl enough

end Traced

end Trefoil
