import Mathlib.Order.Bounds.Basic
import Trefoil.Proofs.MoreRoom

/-! # The largest of some integers

A `max` takes its arguments from left to right and keeps the largest integer seen so
far. Where all arguments come to integers, its value is the greatest of them. Which
integers there are decides, and neither their order nor how they are grouped into
further `max` expressions makes a difference. Otherwise the first argument that fails,
or comes to something else, ends the evaluation, and the arguments after it are never
looked at. -/

namespace Trefoil

open Trefoil.Expr (integerArgument largest)

/-! ## Arguments -/

def Expr.maxOf : (arguments : List Expr) → (nonempty : arguments ≠ [] := by simp) → Expr
  | first :: others, _ => .max first others
  | [], nonempty => absurd rfl nonempty

def AllIntegers (evaluate : Expr → Traced Expr) (arguments : List Expr) : Prop :=
  ∀ argument ∈ arguments, ∃ value, (evaluate argument).outcome = .ok (.int value)

def integersOf (evaluate : Expr → Traced Expr) (arguments : List Expr) : Set Int :=
  {value | ∃ argument ∈ arguments, (evaluate argument).outcome = .ok (.int value)}

/-- An argument, with the check that it comes to an integer. -/
def checkedArgument (room : Nat) (evaluate : Expr → Traced Expr) (site : Expr) (position : Nat)
    (argument : Expr) : Traced Int :=
  evaluate argument >>= integerArgument room position site

section

variable {room position : Nat} {evaluate : Expr → Traced Expr} {site argument : Expr}
  {arguments : List Expr}

theorem integersOf_append (front back : List Expr) :
    integersOf evaluate (front ++ back) = integersOf evaluate front ∪ integersOf evaluate back := by
  ext value
  simp only [integersOf, Set.mem_ofPred_eq, Set.mem_union, List.mem_append, or_and_right, exists_or]

theorem integersOf_singleton {value : Int}
    (comes : (evaluate argument).outcome = .ok (.int value)) :
    integersOf evaluate [argument] = {value} := by
  ext other
  simp only [integersOf, Set.mem_ofPred_eq, List.mem_singleton, exists_eq_left, comes,
    Except.ok.injEq, Expr.int.injEq, Set.mem_singleton_iff]
  exact eq_comm

theorem integersOf_congr {arguments' : List Expr}
    (same : ∀ argument, argument ∈ arguments ↔ argument ∈ arguments') :
    integersOf evaluate arguments = integersOf evaluate arguments' := by
  simp only [integersOf, same]

theorem exists_first_of_not_allIntegers (fails : ¬ AllIntegers evaluate arguments) :
    ∃ front argument back, arguments = front ++ argument :: back ∧ AllIntegers evaluate front ∧
      ∀ value, (evaluate argument).outcome ≠ .ok (.int value) := by
  induction arguments with
  | nil => exact absurd (by simp [AllIntegers]) fails
  | cons first others induction =>
      by_cases comes : ∃ value, (evaluate first).outcome = .ok (.int value)
      · have failsLater : ¬ AllIntegers evaluate others := by
          intro all
          exact fails (List.forall_mem_cons.mpr ⟨comes, all⟩)
        rcases induction failsLater with ⟨front, argument, back, rfl, earlier, other⟩
        have all : AllIntegers evaluate (first :: front) :=
          List.forall_mem_cons.mpr ⟨comes, earlier⟩
        exact ⟨first :: front, argument, back, rfl, all, other⟩
      · exact ⟨[], first, others, rfl, by simp [AllIntegers], not_exists.mp comes⟩

/-! ## The loop -/

theorem outcome_checkedArgument_of_integer {value : Int}
    (comes : (evaluate argument).outcome = .ok (.int value)) :
    (checkedArgument room evaluate site position argument).outcome = .ok value := by
  rw [checkedArgument, Traced.outcome_bind, comes]
  rfl

theorem outcome_checkedArgument_of_error {failure : Failure}
    (fails : (evaluate argument).outcome = .error failure) :
    (checkedArgument room evaluate site position argument).outcome = .error failure := by
  rw [checkedArgument, Traced.outcome_bind, fails]
  rfl

theorem outcome_checkedArgument_of_other {value : Expr}
    (comes : (evaluate argument).outcome = .ok value) (other : ∀ integer, value ≠ .int integer) :
    (checkedArgument room evaluate site position argument).outcome =
      (Traced.raise room (.notInteger position site value) : Traced Int).outcome := by
  rw [checkedArgument, Traced.outcome_bind, comes, Traced.ok_bind]
  unfold integerArgument
  split
  next integer => exact absurd rfl (other integer)
  next => rfl

theorem outcome_largest_cons (best : Int) :
    (largest room evaluate site position best (argument :: arguments)).outcome =
      (checkedArgument room evaluate site position argument).outcome >>= fun candidate =>
        (largest room evaluate site (position + 1) (max best candidate) arguments).outcome := by
  simp only [largest, checkedArgument, Traced.outcome_bind, max_def_lt]
  cases (evaluate argument).outcome with
  | error failure => rfl
  | ok value => rfl

/-- The best integer so far stays the greatest of all that were seen. -/
theorem outcome_largest_of_integers {best : Int} {seen : Set Int} (sofar : IsGreatest seen best)
    (integers : AllIntegers evaluate arguments) :
    ∃ greatest, (largest room evaluate site position best arguments).outcome = .ok greatest ∧
      IsGreatest (seen ∪ integersOf evaluate arguments) greatest := by
  induction arguments generalizing position best seen with
  | nil => exact ⟨best, rfl, by simpa [integersOf] using sofar⟩
  | cons argument arguments induction =>
      rcases List.forall_mem_cons.mp integers with ⟨⟨value, comes⟩, onward⟩
      have next : IsGreatest (seen ∪ integersOf evaluate [argument]) (max best value) := by
        rw [integersOf_singleton comes]
        exact sofar.union isGreatest_singleton
      rcases @induction (position + 1) _ _ next onward with ⟨greatest, runs, isGreatest⟩
      refine ⟨greatest, ?_, ?_⟩
      · rw [outcome_largest_cons, outcome_checkedArgument_of_integer comes, Traced.ok_bind, runs]
      · rwa [Set.union_assoc, ← integersOf_append] at isGreatest

theorem outcome_largest_of_refused {front later : List Expr} {best : Int} {failure : Failure}
    (earlier : AllIntegers evaluate front)
    (refused : (checkedArgument room evaluate site (position + front.length) argument).outcome =
      .error failure) :
    (largest room evaluate site position best (front ++ argument :: later)).outcome =
      .error failure := by
  induction front generalizing position best with
  | nil =>
      rw [List.length_nil, Nat.add_zero] at refused
      rw [List.nil_append, outcome_largest_cons, refused, Traced.error_bind]
  | cons first front induction =>
      rcases List.forall_mem_cons.mp earlier with ⟨⟨value, comes⟩, onward⟩
      rw [List.length_cons, Nat.add_comm front.length, ← Nat.add_assoc] at refused
      rw [List.cons_append, outcome_largest_cons, outcome_checkedArgument_of_integer comes,
        Traced.ok_bind, induction onward refused]

end

/-! ## Errors -/

/-- The expressions of the error have a text, and there is room to write it. -/
def RuntimeError.Writable (room : Nat) (error : RuntimeError) : Prop :=
  ∀ expr ∈ error.exprs, expr.hasBlank = false ∧ expr.depth ≤ room

instance (room : Nat) (error : RuntimeError) : Decidable (error.Writable room) :=
  inferInstanceAs (Decidable (∀ expr ∈ error.exprs, _))

theorem Traced.outcome_raise_of_writable {α : Type} {room : Nat} {error : RuntimeError}
    (writable : error.Writable room) :
    (raise room error : Traced α).outcome = .error (.program (.atRuntime error)) := by
  have filled : error.exprs.any (·.hasBlank) = false := by
    rw [List.any_eq_false]
    intro expr member
    simp [(writable expr member).1]
  have fits : error.exprs.all (·.depth ≤ room) = true := by
    rw [List.all_eq_true]
    intro expr member
    exact decide_eq_true (writable expr member).2
  rw [raise, filled, fits]
  rfl

theorem Traced.exists_outcome_raise (α β : Type) (room : Nat) (error : RuntimeError) :
    ∃ failure, (raise room error : Traced α).outcome = .error failure ∧
      (raise room error : Traced β).outcome = .error failure := by
  unfold raise
  split
  · exact ⟨_, rfl, rfl⟩
  · split
    · exact ⟨_, rfl, rfl⟩
    · exact ⟨_, rfl, rfl⟩

/-! ## Evaluation -/

section

variable {room roomy : Nat} {env : Env} {arguments : List Expr}

theorem outcome_evaluate_max (first : Expr) (others : List Expr) :
    (evaluate (room + 1) (.max first others) env).outcome =
      (checkedArgument room (evaluate room · env) (.max first others) 1 first).outcome >>=
        fun start => (largest room (evaluate room · env) (.max first others) 2 start
          others).outcome.map Expr.int := by
  simp only [evaluate, checkedArgument, Traced.outcome_bind]
  cases (evaluate room first env).outcome with
  | error failure => rfl
  | ok value => rfl

theorem exists_isGreatest_evaluate_maxOf (nonempty : arguments ≠ [])
    (integers : AllIntegers (evaluate room · env) arguments) :
    ∃ greatest, IsGreatest (integersOf (evaluate room · env) arguments) greatest ∧
      (evaluate (room + 1) (.maxOf arguments nonempty) env).outcome = .ok (.int greatest) := by
  cases arguments with
  | nil => exact absurd rfl nonempty
  | cons first others =>
      rcases List.forall_mem_cons.mp integers with ⟨⟨start, comes⟩, onward⟩
      have sofar : IsGreatest (integersOf (evaluate room · env) [first]) start := by
        rw [integersOf_singleton comes]
        exact isGreatest_singleton
      rcases @outcome_largest_of_integers room 2 _ (.max first others) _ _ _ sofar onward with
        ⟨greatest, runs, isGreatest⟩
      rw [← integersOf_append] at isGreatest
      refine ⟨greatest, isGreatest, ?_⟩
      rw [Expr.maxOf, outcome_evaluate_max, outcome_checkedArgument_of_integer comes,
        Traced.ok_bind, runs]
      rfl

theorem outcome_evaluate_maxOf_of_isGreatest {greatest : Int} (nonempty : arguments ≠ [])
    (integers : AllIntegers (evaluate room · env) arguments)
    (isGreatest : IsGreatest (integersOf (evaluate room · env) arguments) greatest) :
    (evaluate (room + 1) (.maxOf arguments nonempty) env).outcome = .ok (.int greatest) := by
  rcases exists_isGreatest_evaluate_maxOf nonempty integers with ⟨other, alsoGreatest, runs⟩
  rw [runs, alsoGreatest.unique isGreatest]

theorem outcome_evaluate_maxOf_of_refused {front later : List Expr} {argument : Expr}
    {failure : Failure} (earlier : AllIntegers (evaluate room · env) front)
    (refused : (checkedArgument room (evaluate room · env) (.maxOf (front ++ argument :: later))
      (front.length + 1) argument).outcome = .error failure) :
    (evaluate (room + 1) (.maxOf (front ++ argument :: later)) env).outcome = .error failure := by
  cases front with
  | nil =>
      have site : Expr.maxOf ([] ++ argument :: later) = .max argument later := rfl
      rw [site, List.length_nil, Nat.zero_add] at refused
      rw [site, outcome_evaluate_max, refused, Traced.error_bind]
  | cons first front =>
      rcases List.forall_mem_cons.mp earlier with ⟨⟨start, comes⟩, onward⟩
      have site : Expr.maxOf (first :: front ++ argument :: later) =
          .max first (front ++ argument :: later) := rfl
      rw [site, List.length_cons, Nat.add_assoc, Nat.add_comm] at refused
      rw [site, outcome_evaluate_max, outcome_checkedArgument_of_integer comes, Traced.ok_bind,
        outcome_largest_of_refused onward refused]
      rfl

theorem outcome_evaluate_maxOf_of_other {front later : List Expr} {argument value : Expr}
    (earlier : AllIntegers (evaluate room · env) front)
    (comes : (evaluate room argument env).outcome = .ok value)
    (other : ∀ integer, value ≠ .int integer) :
    (evaluate (room + 1) (.maxOf (front ++ argument :: later)) env).outcome =
      (Traced.raise room (.notInteger (front.length + 1) (.maxOf (front ++ argument :: later))
        value) : Traced Expr).outcome := by
  rcases Traced.exists_outcome_raise Int Expr room (.notInteger (front.length + 1)
    (.maxOf (front ++ argument :: later)) value) with ⟨failure, checked, raised⟩
  rw [raised]
  apply outcome_evaluate_maxOf_of_refused earlier
  rw [outcome_checkedArgument_of_other comes other, checked]

/-! ## Grouping -/

theorem AllIntegers.of_le (le : room ≤ roomy)
    (integers : AllIntegers (evaluate room · env) arguments) :
    AllIntegers (evaluate roomy · env) arguments := by
  intro argument member
  rcases integers argument member with ⟨value, comes⟩
  exact ⟨value, (persists_evaluate le argument env).outcome_eq_ok comes⟩

theorem integersOf_of_le (le : room ≤ roomy)
    (integers : AllIntegers (evaluate room · env) arguments) :
    integersOf (evaluate roomy · env) arguments = integersOf (evaluate room · env) arguments := by
  ext value
  constructor
  · rintro ⟨argument, member, comes⟩
    rcases integers argument member with ⟨other, comesToOther⟩
    have same := ((persists_evaluate le argument env).outcome_eq_ok comesToOther).symm.trans comes
    exact ⟨argument, member, comesToOther.trans same⟩
  · rintro ⟨argument, member, comes⟩
    exact ⟨argument, member, (persists_evaluate le argument env).outcome_eq_ok comes⟩

theorem isGreatest_of_grouped {front block back : Set Int} {inner greatest : Int}
    (onBlock : IsGreatest block inner) (onAll : IsGreatest (front ∪ (block ∪ back)) greatest) :
    IsGreatest (front ∪ ({inner} ∪ back)) greatest := by
  have atMost : inner ≤ greatest := onAll.2 (.inr (.inl onBlock.1))
  constructor
  · rcases onAll.1 with inFront | inBlock | inBack
    · exact .inl inFront
    · exact .inr (.inl (le_antisymm (onBlock.2 inBlock) atMost))
    · exact .inr (.inr inBack)
  · rintro value (inFront | rfl | inBack)
    · exact onAll.2 (.inl inFront)
    · exact atMost
    · exact onAll.2 (.inr (.inr inBack))

/-- A `max` inside another one takes the place of its arguments. -/
theorem outcome_evaluate_maxOf_grouped {front block back : List Expr} {greatest : Int}
    (nonempty : block ≠ [])
    (integers : AllIntegers (evaluate room · env) (front ++ (block ++ back)))
    (isGreatest : IsGreatest (integersOf (evaluate room · env) (front ++ (block ++ back)))
      greatest) :
    (evaluate (room + 2) (.maxOf (front ++ .maxOf block nonempty :: back)) env).outcome =
      .ok (.int greatest) := by
  rcases List.forall_mem_append.mp integers with ⟨onFront, rest⟩
  rcases List.forall_mem_append.mp rest with ⟨onBlock, onBack⟩
  rcases exists_isGreatest_evaluate_maxOf nonempty onBlock with ⟨inner, isInner, runs⟩
  have le := Nat.le_succ room
  have all : AllIntegers (evaluate (room + 1) · env) (front ++ .maxOf block nonempty :: back) :=
    List.forall_mem_append.mpr ⟨AllIntegers.of_le le onFront,
      List.forall_mem_cons.mpr ⟨⟨inner, runs⟩, AllIntegers.of_le le onBack⟩⟩
  apply outcome_evaluate_maxOf_of_isGreatest _ all
  rw [integersOf_append, integersOf_append] at isGreatest
  rw [integersOf_append, ← List.singleton_append, integersOf_append, integersOf_singleton runs,
    integersOf_of_le le onFront, integersOf_of_le le onBack]
  exact isGreatest_of_grouped isInner isGreatest

end

/-! ## The value of a `max` -/

/-- Where all arguments come to integers, `max` is the greatest of them. It stays the same
in any order of the arguments, and with some arguments in a row made one `max` of their
own, which takes one level more. Otherwise the first argument that does not come to an
integer decides, whatever stands after it. If it fails, so does `max`. If it comes to
something else, `max` raises an error about its position, counted from one, and about
the whole expression, which is told with enough room to write it. -/
theorem max_is_greatest_or_first_failure {arguments : List Expr} (nonempty : arguments ≠ [])
    (room : Nat) (env : Env) :
    (AllIntegers (evaluate room · env) arguments →
      ∃ greatest, IsGreatest (integersOf (evaluate room · env) arguments) greatest ∧
        (evaluate (room + 1) (.maxOf arguments nonempty) env).outcome = .ok (.int greatest) ∧
        (∀ permuted (filled : permuted ≠ []), permuted.Perm arguments →
          (evaluate (room + 1) (.maxOf permuted filled) env).outcome = .ok (.int greatest)) ∧
        ∀ front block back (filled : block ≠ []), arguments = front ++ (block ++ back) →
          (evaluate (room + 2) (.maxOf (front ++ .maxOf block filled :: back)) env).outcome =
            .ok (.int greatest)) ∧
    (¬ AllIntegers (evaluate room · env) arguments →
      ∃ front argument back, arguments = front ++ argument :: back ∧
        AllIntegers (evaluate room · env) front ∧
        (∀ integer, (evaluate room argument env).outcome ≠ .ok (.int integer)) ∧
        ∀ later,
          let site := Expr.maxOf (front ++ argument :: later)
          (∀ failure, (evaluate room argument env).outcome = .error failure →
            (evaluate (room + 1) site env).outcome = .error failure) ∧
          ∀ value, (evaluate room argument env).outcome = .ok value →
            let error := RuntimeError.notInteger (front.length + 1) site value
            (∀ roomy, room ≤ roomy → (evaluate (roomy + 1) site env).outcome =
              (Traced.raise roomy error : Traced Expr).outcome) ∧
            (∀ roomy, room ≤ roomy → error.Writable roomy →
              (evaluate (roomy + 1) site env).outcome = .error (.program (.atRuntime error))) ∧
            error.diagnostic.summary =
              "Argument " ++ toString (front.length + 1) ++ " of max is not an integer" ∧
            error.diagnostic.subject = site.text) := by
  constructor
  · intro integers
    rcases exists_isGreatest_evaluate_maxOf nonempty integers with ⟨greatest, isGreatest, runs⟩
    refine ⟨greatest, isGreatest, runs, ?_, ?_⟩
    · intro permuted filled same
      apply outcome_evaluate_maxOf_of_isGreatest
      · intro argument member
        exact integers argument (same.mem_iff.mp member)
      · rwa [integersOf_congr fun _ => same.mem_iff]
    · rintro front block back filled rfl
      exact outcome_evaluate_maxOf_grouped filled integers isGreatest
  · intro fails
    rcases exists_first_of_not_allIntegers fails with ⟨front, argument, back, rfl, earlier, other⟩
    refine ⟨front, argument, back, rfl, earlier, other, ?_⟩
    intro later site
    constructor
    · intro failure failing
      exact outcome_evaluate_maxOf_of_refused earlier (outcome_checkedArgument_of_error failing)
    · intro value comes error
      have noInteger : ∀ integer, value ≠ .int integer := by
        rintro integer rfl
        exact other integer comes
      have raises (roomy : Nat) (le : room ≤ roomy) : (evaluate (roomy + 1) site env).outcome =
          (Traced.raise roomy error : Traced Expr).outcome :=
        outcome_evaluate_maxOf_of_other (earlier.of_le le)
          ((persists_evaluate le argument env).outcome_eq_ok comes) noInteger
      refine ⟨raises, ?_, rfl, rfl⟩
      intro roomy le writable
      rw [raises roomy le, Traced.outcome_raise_of_writable writable]

/-- The variable is the greatest, in another order and in a `max` of its own as well. A
list among the arguments is an error, and the argument that would fail after it is not
reached. -/
theorem max_is_greatest_or_first_failure_mixed :
    let env : Env := .bindValue "x" (.int 7) .empty
    let site : Expr := .max (.int 1) [.nil, .unary .car .nil]
    (evaluate 3 (.max (.int (-5)) [.int 3, .var "x"]) env).outcome = .ok (.int 7) ∧
      (evaluate 4 (.max (.int 3) [.max (.var "x") [.int (-5)]]) env).outcome = .ok (.int 7) ∧
      (evaluate 4 site env).outcome = .error (.program (.atRuntime (.notInteger 2 site .nil))) := by
  intro env site
  have integers : AllIntegers (evaluate 2 · env) [.int 3, .var "x", .int (-5)] :=
    List.forall_mem_cons.mpr ⟨⟨3, rfl⟩, List.forall_mem_cons.mpr ⟨⟨7, rfl⟩,
      List.forall_mem_singleton.mpr ⟨-5, rfl⟩⟩⟩
  rcases (max_is_greatest_or_first_failure (by simp) 2 env).1 integers with
    ⟨greatest, _, value, reordered, grouped⟩
  have seven : (evaluate 3 (.max (.int 3) [.var "x", .int (-5)]) env).outcome = .ok (.int 7) := rfl
  cases seven.symm.trans value
  refine ⟨reordered [.int (-5), .int 3, .var "x"] (by simp) (by decide),
    grouped [.int 3] [.var "x", .int (-5)] [] (by simp) rfl, ?_⟩
  have mixed : ¬ AllIntegers (evaluate 1 · env) [.int 1, .nil, .unary .car .nil] := by
    intro all
    rcases all .nil (by simp) with ⟨integer, comes⟩
    cases comes
  rcases (max_is_greatest_or_first_failure (by simp) 1 env).2 mixed with
    ⟨front, argument, back, split, earlier, other, ends⟩
  -- Only the second argument stands after integers and is none itself.
  rcases front with _ | ⟨first, _ | ⟨second, front⟩⟩
  · cases split
    exact absurd rfl (other 1)
  · cases split
    exact ((ends [.unary .car .nil]).2 .nil rfl).2.1 3 (by decide) (by decide)
  · have atNil : second = .nil := (List.cons.inj (List.cons.inj split).2).1.symm
    rcases earlier second (by simp) with ⟨integer, comes⟩
    rw [atNil] at comes
    cases comes

end Trefoil
