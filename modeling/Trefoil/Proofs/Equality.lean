import Mathlib.Data.Set.Card
import Trefoil.Proofs.Closures
import Trefoil.Proofs.Substitution

/-! # Equality of environments

Two environments are equal when every name stands for the same in both, in whatever
order the names were bound and whatever they stood for before. A function is the same
as another one only if both go back to one definition. In a chain of frames that is a
matter of marks, and no two definitions have a mark in common. -/

namespace Trefoil

namespace Env

/-! ## One more binding -/

structure Fronts (bound : String) (entry : Entry) (outer env : Env) : Prop where
  names : env.names = bound :: outer.names.filter (· ≠ bound)
  lookup : ∀ name, env.lookup name = if bound = name then some entry else outer.lookup name
  deciding : ∀ name, env.deciding? name = if bound = name then some env else outer.deciding? name
  size : env.size = outer.size + 1

theorem induction_on_bindings {motive : Env → Prop} (empty : motive .empty)
    (binding : ∀ bound entry outer env, Fronts bound entry outer env → motive outer → motive env)
    (env : Env) : motive env := by
  induction env with
  | empty => exact empty
  | bindValue bound value outer induction =>
      exact binding bound (.value value) outer _ ⟨rfl, fun _ => rfl, fun _ => rfl, rfl⟩ induction
  | bindFunction mark definition outer induction =>
      exact binding definition.name (.function definition (.bindFunction mark definition outer))
        outer _ ⟨rfl, fun _ => rfl, fun _ => rfl, rfl⟩ induction

/-! ## Names -/

/-- When the name was last bound, in frames from the innermost one on. It is zero for a
name that is not bound. -/
def boundAt (name : String) (env : Env) : Nat := ((env.deciding? name).map size).getD 0

theorem Fronts.boundAt {bound : String} {entry : Entry} {outer env : Env}
    (fronts : Fronts bound entry outer env) (name : String) :
    env.boundAt name = if bound = name then env.size else outer.boundAt name := by
  rw [Env.boundAt, fronts.deciding]
  split <;> rfl

theorem boundAt_le_size (name : String) (env : Env) : env.boundAt name ≤ env.size := by
  induction env using induction_on_bindings with
  | empty => exact Nat.le_refl 0
  | binding bound entry outer env fronts induction =>
      rw [fronts.boundAt, fronts.size]
      split
      · exact Nat.le_refl _
      · exact Nat.le_succ_of_le induction

theorem mem_names_iff {name : String} {env : Env} :
    name ∈ env.names ↔ env.lookup name ≠ none := by
  induction env using induction_on_bindings with
  | empty => simp [names, lookup]
  | binding bound entry outer env fronts induction =>
      rw [fronts.names, fronts.lookup, List.mem_cons, List.mem_filter, induction]
      by_cases same : bound = name
      · simp [same]
      · have different : name ≠ bound := fun equal => same equal.symm
        simp [same, different]

theorem nodup_names (env : Env) : env.names.Nodup := by
  induction env using induction_on_bindings with
  | empty => exact List.nodup_nil
  | binding bound entry outer env fronts induction =>
      rw [fronts.names, List.nodup_cons]
      exact ⟨by simp, induction.filter _⟩

theorem names_recent (env : Env) :
    env.names.Pairwise fun newer older => env.boundAt older < env.boundAt newer := by
  induction env using induction_on_bindings with
  | empty => exact List.Pairwise.nil
  | binding bound entry outer env fronts induction =>
      have outside {name : String} (member : name ∈ outer.names.filter (· ≠ bound)) :
          env.boundAt name = outer.boundAt name := by
        have different : name ≠ bound := by simpa using (List.mem_filter.mp member).2
        rw [fronts.boundAt, if_neg (Ne.symm different)]
      rw [fronts.names, List.pairwise_cons]
      constructor
      · intro older member
        rw [outside member, fronts.boundAt, if_pos rfl, fronts.size]
        exact Nat.lt_succ_of_le (boundAt_le_size older outer)
      · apply (induction.filter _).imp_of_mem
        intro newer older isNewer isOlder recent
        rwa [outside isNewer, outside isOlder]

theorem length_names (env : Env) :
    env.names.length = {name | env.lookup name ≠ none}.ncard := by
  have same : {name | env.lookup name ≠ none} = (env.names.toFinset : Set String) := by
    ext name
    simp [mem_names_iff]
  rw [same, Set.ncard_coe_finset, List.toFinset_card_of_nodup env.nodup_names]

/-! ## Equality by lookup -/

theorem agrees_iff {left right : Env} :
    left.agrees right = true ↔ ∀ name, left.lookup name = right.lookup name := by
  simp only [agrees, List.all_eq_true, List.mem_append, mem_names_iff, decide_eq_true_eq]
  constructor
  · intro bound name
    by_cases found : left.lookup name = none ∧ right.lookup name = none
    · rw [found.1, found.2]
    · exact bound name (by tauto)
  · intro same name _
    exact same name

theorem agrees_equivalence : Equivalence fun left right : Env => left.agrees right = true := by
  simp only [agrees_iff]
  exact ⟨fun _ _ => rfl, fun same name => (same name).symm,
    fun first second name => (first name).trans (second name)⟩

/-! ## Extensions -/

inductive Extension where
  | value (name : String) (value : Expr)
  | values (names : List String) (values : List Expr)
  | function (definition : FunctionDef)

namespace Extension

def apply (room mark : Nat) (env : Env) : Extension → Traced Env
  | .value name content => env.withValue room name content
  | .values names contents => env.withValues room names contents
  | .function definition => env.withFunction room mark definition

def names : Extension → List String
  | .value name _ => [name]
  | .values names _ => names
  | .function definition => [definition.name]

def bindings : Extension → List (String × Expr)
  | .value name content => [(name, content)]
  | .values names contents => names.zip contents
  | .function _ => []

def isDefinition : Extension → Bool
  | .value _ _ | .values _ _ => false
  | .function _ => true

end Extension

theorem withEach_eq_ok {room : Nat} {bindings : List (String × Expr)} {env next : Env}
    (binds : (withEach room bindings env).outcome = .ok next) :
    next = bindValues bindings env ∧ ∀ binding ∈ bindings, binding.2.isValue = true := by
  induction bindings generalizing env with
  | nil =>
      cases binds
      exact ⟨rfl, nofun⟩
  | cons binding bindings induction =>
      rw [withEach, Traced.outcome_bind_eq_ok] at binds
      rcases binds with ⟨middle, first, rest⟩
      rcases induction rest with ⟨rfl, values⟩
      rw [outcome_withValue] at first
      split at first
      next isValue =>
          cases first
          exact ⟨rfl, List.forall_mem_cons.mpr ⟨isValue, values⟩⟩
      · exact absurd first Traced.outcome_raise_ne_ok

theorem Extension.apply_eq_ok {room mark : Nat} {env next : Env} {extension : Extension}
    (succeeds : (extension.apply room mark env).outcome = .ok next) :
    (extension.isDefinition = false ∧ extension.bindings.map Prod.fst = extension.names ∧
        (∀ binding ∈ extension.bindings, binding.2.isValue = true) ∧
        next = bindValues extension.bindings env) ∨
      ∃ definition, extension = .function definition ∧
        next = bindFunction mark definition env := by
  cases extension with
  | value name value =>
      rw [apply, outcome_withValue] at succeeds
      split at succeeds
      next isValue =>
          cases succeeds
          exact .inl ⟨rfl, rfl, by simpa [bindings] using isValue, rfl⟩
      · exact absurd succeeds Traced.outcome_raise_ne_ok
  | values names values =>
      rw [apply, withValues] at succeeds
      split at succeeds
      next count =>
          rcases withEach_eq_ok succeeds with ⟨same, areValues⟩
          have bound : (names.zip values).map Prod.fst = names :=
            List.map_fst_zip (Nat.le_of_eq count)
          exact .inl ⟨rfl, bound, areValues, same⟩
      · cases succeeds
  | function definition =>
      rw [apply, withFunction] at succeeds
      split at succeeds
      · exact absurd succeeds Traced.outcome_raise_ne_ok
      · cases succeeds
        exact .inr ⟨definition, rfl, rfl⟩

theorem Extension.exists_apply_eq_ok {room mark : Nat} {env next : Env} {extension : Extension}
    (succeeds : (extension.apply room mark env).outcome = .ok next) (mark' : Nat) (env' : Env) :
    ∃ next', (extension.apply room mark' env').outcome = .ok next' := by
  cases extension with
  | value name value =>
      rw [apply, outcome_withValue] at succeeds
      rw [apply, outcome_withValue]
      split at succeeds
      next isValue => exact ⟨_, if_pos isValue⟩
      · exact absurd succeeds Traced.outcome_raise_ne_ok
  | values names values =>
      rw [apply, withValues] at succeeds
      rw [apply, withValues]
      split at succeeds
      next count =>
          rw [if_pos count]
          exact ⟨_, outcome_withEach (withEach_eq_ok succeeds).2⟩
      · cases succeeds
  | function definition =>
      rw [apply, withFunction] at succeeds
      rw [apply, withFunction]
      split at succeeds
      · exact absurd succeeds Traced.outcome_raise_ne_ok
      · exact ⟨_, rfl⟩

/-- Environments that were made one after the other, the last one first. Each one succeeds
an earlier one, and the mark of a definition is its place in the order, so it is its own. -/
inductive Made : (mark : Nat) → List Env → Prop
  | start : Made 0 [.empty]
  | extend {mark : Nat} {envs : List Env} {env next : Env} (made : Made mark envs)
      (member : env ∈ envs) (room : Nat) (extension : Extension)
      (succeeds : (extension.apply room mark env).outcome = .ok next) :
      Made (mark + 1) (next :: envs)

/-! ## Definitions and their marks -/

def mark? : Env → Option Nat
  | bindFunction mark _ _ => some mark
  | empty | bindValue _ _ _ => none

/-- The definition with the mark was made in one of the environments, and has this scope. -/
def Defined (envs : List Env) (mark : Nat) (scope : Env) : Prop :=
  scope.mark? = some mark ∧ ∃ env ∈ envs, env.Reaches scope

theorem reaches_of_bindValues {bindings : List (String × Expr)} {env scope : Env} {mark : Nat}
    (marked : scope.mark? = some mark) (reaches : (bindValues bindings env).Reaches scope) :
    env.Reaches scope := by
  induction bindings generalizing env with
  | nil => exact reaches
  | cons binding bindings induction =>
      rcases (induction reaches).of_bindValue with rfl | behind
      · cases marked
      · exact behind

theorem Defined.of_extend {room mark mark' : Nat} {envs : List Env} {env next scope : Env}
    {extension : Extension} (member : env ∈ envs)
    (succeeds : (extension.apply room mark env).outcome = .ok next)
    (defined : Defined (next :: envs) mark' scope) :
    Defined envs mark' scope ∨ mark' = mark ∧ scope = next := by
  rcases defined with ⟨marked, other, isOther, reaches⟩
  rcases List.mem_cons.mp isOther with rfl | earlier
  · rcases Extension.apply_eq_ok succeeds with ⟨_, _, _, rfl⟩ | ⟨definition, _, rfl⟩
    · exact .inl ⟨marked, env, member, reaches_of_bindValues marked reaches⟩
    · rcases reaches.of_bindFunction with rfl | behind
      · exact .inr ⟨(Option.some.inj marked).symm, rfl⟩
      · exact .inl ⟨marked, env, member, behind⟩
  · exact .inl ⟨marked, other, earlier, reaches⟩

theorem every_bindValues {onValue : Expr → Prop} {onFunction : FunctionDef → Prop}
    {bindings : List (String × Expr)} {env : Env} (every : env.Every onValue onFunction)
    (values : ∀ binding ∈ bindings, onValue binding.2) :
    (bindValues bindings env).Every onValue onFunction := by
  induction bindings generalizing env with
  | nil => exact every
  | cons binding bindings induction =>
      rw [List.forall_mem_cons] at values
      exact induction ⟨values.1, every⟩ values.2

namespace Made

variable {mark mark' : Nat} {envs : List Env} {scope scope' : Env}

theorem lt_of_defined (made : Made mark envs) (defined : Defined envs mark' scope) :
    mark' < mark := by
  induction made with
  | start =>
      rcases defined with ⟨marked, env, member, reaches⟩
      cases List.mem_singleton.mp member
      have frameless : Every (fun _ => False) (fun _ => False) .empty := trivial
      have none := frameless.reaches reaches
      cases scope with
      | empty => cases marked
      | bindValue | bindFunction => exact none.1.elim
  | extend _ member room extension succeeds induction =>
      rcases defined.of_extend member succeeds with earlier | ⟨rfl, _⟩
      · exact Nat.lt_succ_of_lt (induction earlier)
      · exact Nat.lt_succ_self _

theorem eq_of_defined (made : Made mark envs) (defined : Defined envs mark' scope)
    (defined' : Defined envs mark' scope') : scope = scope' := by
  induction made with
  | start => exact absurd (Made.start.lt_of_defined defined) (Nat.not_lt_zero _)
  | extend made member room extension succeeds induction =>
      rcases defined.of_extend member succeeds with earlier | ⟨rfl, rfl⟩
      · rcases defined'.of_extend member succeeds with earlier' | ⟨rfl, _⟩
        · exact induction earlier earlier'
        · exact absurd (made.lt_of_defined earlier) (Nat.lt_irrefl _)
      · rcases defined'.of_extend member succeeds with earlier' | ⟨_, rfl⟩
        · exact absurd (made.lt_of_defined earlier') (Nat.lt_irrefl _)
        · rfl

theorem values (made : Made mark envs) {env : Env} (member : env ∈ envs) :
    env.Every (fun value => value.isValue = true) fun _ => True := by
  induction made generalizing env with
  | start =>
      cases List.mem_singleton.mp member
      trivial
  | extend _ isOuter room extension succeeds induction =>
      rcases List.mem_cons.mp member with rfl | earlier
      · have outside := induction isOuter
        rcases Extension.apply_eq_ok succeeds with ⟨_, _, values, rfl⟩ | ⟨_, _, rfl⟩
        · exact every_bindValues outside values
        · exact ⟨trivial, outside⟩
      · exact induction earlier

end Made

end Env

/-! ## Entries -/

/-- The entries are one and the same: equal values, or a function that was defined once. -/
def Entry.Same : Entry → Entry → Prop
  | .value left, .value right => left = right
  | .function definition scope, .function definition' scope' =>
      definition = definition' ∧ scope.mark? = scope'.mark?
  | .value _, .function _ _ | .function _ _, .value _ => False

namespace Env

theorem defined_of_lookup {envs : List Env} {env scope : Env} {name : String}
    {definition : FunctionDef} (member : env ∈ envs)
    (found : env.lookup name = some (.function definition scope)) :
    ∃ mark, Defined envs mark scope := by
  rcases lookup_function_eq found with ⟨_, mark, outer, rfl⟩
  exact ⟨mark, rfl, env, member, .captured .refl found⟩

section

variable {mark : Nat} {envs : List Env} {left right : Env} (made : Made mark envs)
  (isLeft : left ∈ envs) (isRight : right ∈ envs)
include made isLeft isRight

/-- Among environments that were made together, the whole scope of a function is known from
its mark. -/
theorem same_iff_eq {name name' : String} {entry entry' : Entry}
    (found : left.lookup name = some entry) (found' : right.lookup name' = some entry') :
    entry.Same entry' ↔ entry = entry' := by
  cases entry with
  | value value =>
      cases entry' with
      | value value' => simp [Entry.Same]
      | function definition' scope' => simp [Entry.Same]
  | function definition scope =>
      cases entry' with
      | value value' => simp [Entry.Same]
      | function definition' scope' =>
          rw [Entry.Same, Entry.function.injEq]
          apply and_congr_right
          intro _
          constructor
          · intro sameMark
            -- A mark belongs to one definition, and with it to one scope.
            rcases defined_of_lookup isLeft found with ⟨own, defined⟩
            rcases defined_of_lookup isRight found' with ⟨own', defined'⟩
            have sameOwn : own' = own := by
              rw [defined.1, defined'.1] at sameMark
              exact (Option.some.inj sameMark).symm
            rw [sameOwn] at defined'
            exact made.eq_of_defined defined defined'
          · exact congrArg mark?

theorem agrees_iff_same :
    left.agrees right = true ↔
      ∀ name, Option.Rel Entry.Same (left.lookup name) (right.lookup name) := by
  rw [agrees_iff]
  apply forall_congr'
  intro name
  cases found : left.lookup name with
  | none => cases found' : right.lookup name <;> simp
  | some entry =>
      cases found' : right.lookup name with
      | none => simp
      | some entry' => simp [same_iff_eq made isLeft isRight found found']

end

/-! ## Laws of extension -/

theorem lookup_bindValues_congr {bindings : List (String × Expr)} {left right : Env}
    (outside : ∀ name, name ∉ bindings.map Prod.fst → left.lookup name = right.lookup name)
    (name : String) :
    (bindValues bindings left).lookup name = (bindValues bindings right).lookup name := by
  induction bindings generalizing left right with
  | nil => exact outside name nofun
  | cons binding bindings induction =>
      apply induction
      intro other notLater
      rw [lookup, lookup]
      split
      · rfl
      next different =>
          apply outside
          rw [List.map_cons, List.mem_cons, not_or]
          exact ⟨fun same => different same.symm, notLater⟩

theorem Extension.lookup_of_not_mem {room mark : Nat} {env next : Env} {extension : Extension}
    {name : String} (succeeds : (extension.apply room mark env).outcome = .ok next)
    (other : name ∉ extension.names) : next.lookup name = env.lookup name := by
  rcases apply_eq_ok succeeds with ⟨_, bound, _, rfl⟩ | ⟨definition, rfl, rfl⟩
  · apply lookup_bindValues_of_not_mem
    rintro binding member rfl
    rw [← bound] at other
    exact other (List.mem_map_of_mem member)
  · rw [lookup, if_neg]
    rintro rfl
    exact other List.mem_cons_self

theorem not_agrees_bindFunction {mark mark' : Nat} (different : mark ≠ mark')
    (definition : FunctionDef) (outer outer' : Env) :
    ¬ (bindFunction mark definition outer).agrees (bindFunction mark' definition outer') =
      true := by
  rw [agrees_iff]
  intro same
  have own := same definition.name
  rw [lookup, lookup, if_pos rfl, if_pos rfl, Option.some.injEq, Entry.function.injEq,
    bindFunction.injEq] at own
  exact different own.2.1

/-- Binding names and then binding them again is binding them again alone, unless they are
bound to functions. -/
theorem Extension.agrees_again_iff {room mark again alone : Nat} {env middle right : Env}
    {earlier later : Extension} (differ : again ≠ alone)
    (first : (earlier.apply room mark env).outcome = .ok middle)
    (only : (later.apply room alone env).outcome = .ok right)
    (covers : earlier.names ⊆ later.names) :
    ∃ left, (later.apply room again middle).outcome = .ok left ∧
      (left.agrees right = true ↔ later.isDefinition = false) := by
  rcases exists_apply_eq_ok only again middle with ⟨left, second⟩
  refine ⟨left, second, ?_⟩
  have outside (name : String) (notLater : name ∉ later.names) :
      middle.lookup name = env.lookup name :=
    lookup_of_not_mem first fun member => notLater (covers member)
  rcases apply_eq_ok second with ⟨valued, bound, _, rfl⟩ | ⟨definition, rfl, rfl⟩
  · rcases apply_eq_ok only with ⟨_, _, _, rfl⟩ | ⟨definition, rfl, _⟩
    · refine iff_of_true ?_ valued
      rw [agrees_iff]
      rw [← bound] at outside
      exact lookup_bindValues_congr outside
    · cases valued
  · rcases apply_eq_ok only with ⟨valued, _⟩ | ⟨_, same, rfl⟩
    · cases valued
    · cases same
      exact iff_of_false (not_agrees_bindFunction differ definition middle env) nofun

theorem agrees_withValue_comm {room : Nat} {env : Env} {name name' : String} {value value' : Expr}
    (different : name ≠ name') (isValue : value.isValue = true)
    (isValue' : value'.isValue = true) :
    ∃ left right, (do (← env.withValue room name value).withValue room name' value').outcome =
        .ok left ∧
      (do (← env.withValue room name' value').withValue room name value).outcome = .ok right ∧
      left.agrees right = true := by
  refine ⟨bindValue name' value' (bindValue name value env),
    bindValue name value (bindValue name' value' env), ?_, ?_, ?_⟩
  · simp [outcome_withValue, isValue, isValue']
  · simp [outcome_withValue, isValue, isValue']
  · rw [agrees_iff]
    exact lookup_bindValue_comm different.symm

theorem agrees_withValue_of_lookup {room mark : Nat} {envs : List Env} {env : Env} {name : String}
    {value : Expr} (made : Made mark envs) (member : env ∈ envs)
    (found : env.lookup name = some (.value value)) :
    ∃ next, (env.withValue room name value).outcome = .ok next ∧ next.agrees env = true := by
  refine ⟨bindValue name value env, ?_, ?_⟩
  · rw [outcome_withValue, if_pos ((made.values member).lookup_value found)]
  · rw [agrees_iff]
    intro other
    rw [lookup]
    split
    next same => rw [← same, found]
    · rfl

/-- For environments that were made by extending the empty one and each other. Their names
are what can be looked up, each once, the most recently bound one first. They are equal
just when every name stands for the same in both, where functions are the same that were
defined at once. So equality is an equivalence, bindings of different names to values
commute, and binding a name again is all that counts, unless it is a function that is
defined again: that makes it another one. -/
theorem equality_is_extensional {mark : Nat} {envs : List Env} (made : Made mark envs) :
    (∀ env ∈ envs, env.names.Nodup ∧ (∀ name, name ∈ env.names ↔ env.lookup name ≠ none) ∧
      (env.names.Pairwise fun newer older => env.boundAt older < env.boundAt newer) ∧
      env.names.length = {name | env.lookup name ≠ none}.ncard) ∧
    (∀ left ∈ envs, ∀ right ∈ envs, left.agrees right = true ↔
      ∀ name, Option.Rel Entry.Same (left.lookup name) (right.lookup name)) ∧
    (Equivalence fun left right : Env => left.agrees right = true) ∧
    ∀ env ∈ envs, ∀ room,
      (∀ name name' value value', name ≠ name' → value.isValue = true → value'.isValue = true →
        ∃ left right,
          (do (← env.withValue room name value).withValue room name' value').outcome = .ok left ∧
          (do (← env.withValue room name' value').withValue room name value).outcome = .ok right ∧
          left.agrees right = true) ∧
      (∀ earlier later mark again alone middle right,
        (Extension.apply room mark env earlier).outcome = .ok middle →
        (Extension.apply room alone env later).outcome = .ok right →
        earlier.names ⊆ later.names → again ≠ alone →
        ∃ left, (Extension.apply room again middle later).outcome = .ok left ∧
          (left.agrees right = true ↔ later.isDefinition = false)) ∧
      (∀ name value, env.lookup name = some (.value value) →
        ∃ next, (env.withValue room name value).outcome = .ok next ∧
          next.agrees env = true) := by
  refine ⟨?_, ?_, agrees_equivalence, ?_⟩
  · intro env _
    exact ⟨env.nodup_names, fun _ => mem_names_iff, env.names_recent, env.length_names⟩
  · intro left isLeft right isRight
    exact agrees_iff_same made isLeft isRight
  · intro env member room
    refine ⟨?_, ?_, ?_⟩
    · intro name name' value value' different isValue isValue'
      exact agrees_withValue_comm different isValue isValue'
    · intro earlier later mark again alone middle right first only covers differ
      exact Extension.agrees_again_iff differ first only covers
    · intro name value found
      exact agrees_withValue_of_lookup made member found

/-- The name `x` is bound to another value behind the function and then to the old one again.
The function is also defined once more, in the same words and the same environment. -/
theorem equality_is_extensional_rebound :
    let f : FunctionDef := ⟨"f", ["y"], .var "x"⟩
    let outer : Env := .bindValue "x" (.int 1) .empty
    let scope : Env := .bindFunction 1 f outer
    let other : Env := .bindFunction 2 f outer
    let hidden : Env := .bindValue "x" (.int 2) scope
    let back : Env := .bindValue "x" (.int 1) hidden
    Made 5 [back, hidden, other, scope, outer, .empty] ∧ back.names = ["x", "f"] ∧
      {name | back.lookup name ≠ none}.ncard = 2 ∧ back.agrees scope = true ∧
      ¬ other.agrees scope = true := by
  intro f outer scope other hidden back
  have madeOuter : Made 1 [outer, .empty] :=
    .extend .start (by simp) 9 (.value "x" (.int 1)) rfl
  have madeScope : Made 2 [scope, outer, .empty] :=
    .extend madeOuter (by simp) 9 (.function f) rfl
  have madeOther : Made 3 [other, scope, outer, .empty] :=
    .extend madeScope (by simp) 9 (.function f) rfl
  have madeHidden : Made 4 [hidden, other, scope, outer, .empty] :=
    .extend madeOther (by simp) 9 (.value "x" (.int 2)) rfl
  have made : Made 5 [back, hidden, other, scope, outer, .empty] :=
    .extend madeHidden (by simp) 9 (.value "x" (.int 1)) rfl
  rcases equality_is_extensional made with ⟨named, same, equivalence, laws⟩
  rcases laws scope (by simp) 9 with ⟨_, again, known⟩
  refine ⟨made, by decide, (named back (by simp)).2.2.2.symm.trans (by decide), ?_, ?_⟩
  · -- The value that hides the old one does not count, and the old one is no change.
    rcases again (.value "x" (.int 2)) (.value "x" (.int 1)) 3 4 5 hidden _ rfl rfl
      (List.Subset.refl _) (by decide) with ⟨left, binds, rebound⟩
    rcases known "x" (.int 1) (by decide) with ⟨next, bindsNext, unchanged⟩
    cases binds
    cases bindsNext
    exact equivalence.trans (rebound.mpr rfl) unchanged
  · rw [same other (by simp) scope (by simp)]
    intro related
    cases related "f" with
    | some functions => cases functions.2

/-- The name is bound to a function after it was bound to a value, and without that. The
definitions read the same, but each is equal to itself only. -/
theorem defining_again_makes_another_function :
    let f : FunctionDef := ⟨"f", ["x"], .var "x"⟩
    let middle : Env := .bindValue "f" (.int 1) .empty
    let again : Env := .bindFunction 1 f middle
    let alone : Env := .bindFunction 2 f .empty
    Made 3 [alone, again, middle, .empty] ∧
      (Env.empty.withValue 9 "f" (.int 1)).outcome = .ok middle ∧
      (middle.withFunction 9 1 f).outcome = .ok again ∧
      (Env.empty.withFunction 9 2 f).outcome = .ok alone ∧ again.agrees alone = false := by
  intro f middle again alone
  have madeMiddle : Made 1 [middle, .empty] :=
    .extend .start (by simp) 9 (.value "f" (.int 1)) rfl
  have madeAgain : Made 2 [again, middle, .empty] :=
    .extend madeMiddle (by simp) 9 (.function f) rfl
  have made : Made 3 [alone, again, middle, .empty] :=
    .extend madeAgain (by simp) 9 (.function f) rfl
  exact ⟨made, rfl, rfl, rfl, by decide⟩

end Env

end Trefoil
