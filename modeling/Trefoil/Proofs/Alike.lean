import Trefoil.Proofs.MoreRoom
import Trefoil.Proofs.Termination

/-! # Coming to the same

Two computations may need different amounts of room, and tell of their failures in
different places, and still come to the same. This is the sense in which one
expression can stand for another one. It goes through the operations on
computations, so that expressions are compared part by part. -/

namespace Trefoil

namespace Failure

inductive Gist where
  | misread (summary : String)
  | mistake (summary : String)
  | tooDeep
  | fault

def gist : Failure → Gist
  | program (.inSyntax error) => .misread error.diagnostic.summary
  | program (.atRuntime error) => .mistake error.summary
  | tooDeep => .tooDeep
  | fault _ => .fault

end Failure

namespace Traced

variable {α β : Type}

/-! ## Where a computation ends -/

def ending (computation : Traced α) : Except Failure.Gist α :=
  computation.outcome.mapError Failure.gist

theorem ending_eq_ok {computation : Traced α} {value : α} :
    computation.ending = .ok value ↔ computation.outcome = .ok value := by
  unfold ending
  cases computation.outcome <;> simp [Except.mapError]

theorem ending_eq_tooDeep {computation : Traced α} :
    computation.ending = .error .tooDeep ↔ computation.outcome = .error .tooDeep := by
  unfold ending
  cases computation.outcome with
  | ok value => simp [Except.mapError]
  | error failure =>
      cases failure with
      | program error => cases error <;> simp [Except.mapError, Failure.gist]
      | tooDeep => simp [Except.mapError, Failure.gist]
      | fault reason => simp [Except.mapError, Failure.gist]

theorem ending_eq_mistake {computation : Traced α} {summary : String} :
    computation.ending = .error (.mistake summary) ↔
      ∃ error, computation.outcome = .error (.program (.atRuntime error)) ∧
        error.summary = summary := by
  unfold ending
  cases computation.outcome with
  | ok value => simp [Except.mapError]
  | error failure =>
      cases failure with
      | program error => cases error <;> simp [Except.mapError, Failure.gist]
      | tooDeep => simp [Except.mapError, Failure.gist]
      | fault reason => simp [Except.mapError, Failure.gist]

theorem ending_bind_of_ok {first : Traced α} {next : α → Traced β} {value : α}
    (returns : first.ending = .ok value) : (first >>= next).ending = (next value).ending := by
  rw [ending, outcome_bind, ending_eq_ok.mp returns]
  rfl

theorem ending_bind_of_error {first : Traced α} {next : α → Traced β} {gist : Failure.Gist}
    (fails : first.ending = .error gist) : (first >>= next).ending = .error gist := by
  unfold ending at fails ⊢
  rw [outcome_bind]
  cases equation : first.outcome with
  | error failure =>
      rw [equation] at fails
      cases fails
      rfl
  | ok value =>
      rw [equation] at fails
      cases fails

/-! ## Given enough room -/

/-- More room makes no difference, once there is enough. -/
def Grows (computation : Nat → Traced α) : Prop :=
  ∀ room room', room ≤ room' → Persists (computation room) (computation room')

/-- With enough room, the computation ends like this. -/
def ComesTo (computation : Nat → Traced α) (ending : Except Failure.Gist α) : Prop :=
  ending ≠ .error .tooDeep ∧
    ∃ enough, ∀ room, enough ≤ room → (computation room).ending = ending

theorem Grows.comesTo_iff {computation : Nat → Traced α} (grows : Grows computation)
    {ending : Except Failure.Gist α} :
    ComesTo computation ending ↔
      ending ≠ .error .tooDeep ∧ ∃ room, (computation room).ending = ending := by
  refine and_congr_right fun roomy => ⟨?_, ?_⟩
  · rintro ⟨enough, ends⟩
    exact ⟨enough, ends enough (Nat.le_refl enough)⟩
  · rintro ⟨room, ends⟩
    refine ⟨room, ?_⟩
    intro room' le
    have enough : (computation room).outcome ≠ .error .tooDeep := by
      rw [ne_eq, ← ending_eq_tooDeep, ends]
      exact roomy
    rw [grows room room' le enough, ends]

theorem Settles.comesTo_iff {computation : Nat → Traced α} {outcome : Except Failure α}
    (settles : Settles computation outcome) {ending : Except Failure.Gist α} :
    ComesTo computation ending ↔
      ending ≠ .error .tooDeep ∧ ending = outcome.mapError Failure.gist := by
  rcases settles with ⟨enough, settled⟩
  refine and_congr_right fun _ => ⟨?_, ?_⟩
  · rintro ⟨more, ends⟩
    rw [← ends (max enough more) (by omega), Traced.ending, settled _ (by omega)]
  · rintro rfl
    exact ⟨enough, fun room large => congrArg _ (settled room large)⟩

namespace ComesTo

variable {computation : Nat → Traced α} {ending ending' : Except Failure.Gist α}

theorem unique (first : ComesTo computation ending) (second : ComesTo computation ending') :
    ending = ending' := by
  rcases first with ⟨_, enough, ends⟩
  rcases second with ⟨_, more, ends'⟩
  rw [← ends (max enough more) (by omega), ends' _ (by omega)]

theorem succ_iff : ComesTo (fun room => computation (room + 1)) ending ↔
    ComesTo computation ending := by
  refine and_congr_right fun _ => ⟨?_, ?_⟩
  · rintro ⟨enough, ends⟩
    refine ⟨enough + 1, ?_⟩
    intro room large
    cases room with
    | zero => omega
    | succ room => exact ends room (by omega)
  · rintro ⟨enough, ends⟩
    exact ⟨enough, fun room large => ends (room + 1) (by omega)⟩

theorem bind_iff {first : Nat → Traced α} {next : Nat → α → Traced β} (grows : Grows first)
    {ending : Except Failure.Gist β} :
    ComesTo (fun room => first room >>= next room) ending ↔
      (∃ gist, ComesTo first (.error gist) ∧ ending = .error gist) ∨
        ∃ value, ComesTo first (.ok value) ∧ ComesTo (next · value) ending := by
  constructor
  · rintro ⟨roomy, enough, ends⟩
    have start := ends enough (Nat.le_refl enough)
    cases equation : (first enough).ending with
    | error gist =>
        rw [ending_bind_of_error equation] at start
        cases start
        have enoughFirst : ComesTo first (.error gist) := by
          refine grows.comesTo_iff.mpr ⟨?_, enough, equation⟩
          rintro ⟨⟩
          exact roomy rfl
        exact .inl ⟨gist, enoughFirst, rfl⟩
    | ok value =>
        have settled : ComesTo first (.ok value) := grows.comesTo_iff.mpr ⟨nofun, enough, equation⟩
        refine .inr ⟨value, settled, roomy, ?_⟩
        rcases settled with ⟨_, more, returns⟩
        refine ⟨max enough more, ?_⟩
        intro room large
        rw [← ends room (by omega), ending_bind_of_ok (returns room (by omega))]
  · rintro (⟨gist, ⟨roomy, enough, fails⟩, rfl⟩ | ⟨value, ⟨_, enough, returns⟩, roomy, more, ends⟩)
    · refine ⟨?_, enough, fun room large => ending_bind_of_error (fails room large)⟩
      rintro ⟨⟩
      exact roomy rfl
    · refine ⟨roomy, max enough more, ?_⟩
      intro room large
      rw [ending_bind_of_ok (returns room (by omega)), ends room (by omega)]

end ComesTo

/-! ## Likeness -/

def Alike (first second : Nat → Traced α) : Prop :=
  ∀ ending, ComesTo first ending ↔ ComesTo second ending

namespace Alike

theorem refl (computation : Nat → Traced α) : Alike computation computation := fun _ => .rfl

theorem trans {first second third : Nat → Traced α} (left : Alike first second)
    (right : Alike second third) : Alike first third :=
  fun ending => (left ending).trans (right ending)

theorem of_outcome {first second : Nat → Traced α}
    (same : ∀ room, (first room).outcome = (second room).outcome) : Alike first second := by
  have sameEnding (room : Nat) : (first room).ending = (second room).ending := by
    rw [ending, ending, same]
  intro ending
  simp only [ComesTo, sameEnding]

theorem of_settles {first second : Nat → Traced α} {outcome outcome' : Except Failure α}
    (settles : Settles first outcome) (settles' : Settles second outcome')
    (same : outcome.mapError Failure.gist = outcome'.mapError Failure.gist) :
    Alike first second := by
  intro ending
  rw [settles.comesTo_iff, settles'.comesTo_iff, same]

theorem of_succ {first second : Nat → Traced α}
    (alike : Alike (fun room => first (room + 1)) fun room => second (room + 1)) :
    Alike first second := by
  intro ending
  rw [← ComesTo.succ_iff, alike, ComesTo.succ_iff]

theorem bind {first first' : Nat → Traced α} {next next' : Nat → α → Traced β}
    (grows : Grows first) (grows' : Grows first') (start : Alike first first')
    (rest : ∀ value, Alike (next · value) (next' · value)) :
    Alike (fun room => first room >>= next room) fun room => first' room >>= next' room := by
  intro ending
  rw [ComesTo.bind_iff grows, ComesTo.bind_iff grows']
  simp only [start _, rest _ ending]

theorem log_bind {record record' : Log.Record} {next next' : Nat → Unit → Traced α}
    (rest : Alike (next · ()) (next' · ())) :
    Alike (fun room => log record >>= next room) fun room => log record' >>= next' room :=
  bind (fun _ _ _ => .refl _) (fun _ _ _ => .refl _) (of_outcome fun _ => rfl) fun _ => rest

end Alike

theorem alike_fault (reason reason' : Fault) :
    Alike (fun _ => (fault reason : Traced α)) fun _ => fault reason' :=
  .of_settles ⟨0, fun _ _ => rfl⟩ ⟨0, fun _ _ => rfl⟩ rfl

theorem alike_raise {error error' : RuntimeError} (same : error.summary = error'.summary)
    (blank : error.exprs.any (·.hasBlank) = error'.exprs.any (·.hasBlank)) :
    Alike (fun room => (raise room error : Traced α)) fun room => raise room error' := by
  refine .of_settles (settles_raise error) (settles_raise error') ?_
  rw [blank]
  split
  · rfl
  · simp [Except.mapError, Failure.gist, same]

theorem grows_each {action : Nat → α → Traced β} (grows : ∀ item, Grows (action · item))
    (items : List α) : Grows fun room => each (action room) items :=
  fun room room' le => persists_each items fun item => grows item room room' le

theorem alike_each {γ : Type} {action : Nat → α → Traced β} {action' : Nat → γ → Traced β}
    {change : α → γ} {items : List α} (grows : ∀ item, Grows (action · item))
    (grows' : ∀ item, Grows (action' · item))
    (one : ∀ item ∈ items, Alike (action · item) (action' · (change item))) :
    Alike (fun room => each (action room) items)
      fun room => each (action' room) (items.map change) := by
  induction items with
  | nil => exact .refl _
  | cons item items induction =>
      simp only [List.map_cons, each]
      apply Alike.bind (grows item) (grows' (change item)) (one item (by simp))
      intro result
      apply Alike.bind (grows_each grows items) (grows_each grows' (items.map change))
      · exact induction fun other member => one other (by simp [member])
      · exact fun results => .refl _

end Traced

end Trefoil
