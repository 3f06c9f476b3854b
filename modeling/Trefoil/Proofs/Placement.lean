import Trefoil.Proofs.Balance

/-! # Reading in another place

What is read from a text does not depend on where it stands. After other text and
with more room, there are the same forms and the same errors, and only the
positions in the errors move along. So two texts with a line feed between them are
read like each of them alone. -/

namespace Trefoil.Reader

/-! ## Places -/

/-- Where something is read: so many characters further on, after these forms, last
one first, and with so much more room. -/
structure Place where
  offset : Nat := 0
  earlier : List Form := []
  more : Nat := 0

def Lexeme.moved (offset : Nat) : Lexeme → Lexeme
  | closing bracket position => closing bracket (position + offset)
  | quote position => quote (position + offset)
  | lexeme => lexeme

def Opener.moved (offset : Nat) : Opener → Opener
  | quote position => quote (position + offset)
  | opener => opener

def NestingError.moved (offset : Nat) : NestingError → NestingError
  | strayCloser position => strayCloser (position + offset)
  | danglingQuote position => danglingQuote (position + offset)
  | error => error

theorem Lexeme.map_moved_zero (lexemes : List Lexeme) :
    lexemes.map (Lexeme.moved 0) = lexemes := by
  have same : Lexeme.moved 0 = id := by
    funext lexeme
    cases lexeme <;> rfl
  rw [same, List.map_id]

theorem NestingError.moved_zero (error : NestingError) : error.moved 0 = error := by
  cases error <;> rfl

namespace Place

variable {α β γ δ : Type} (place : Place)

def forms (levels : List Level) (forms : List Form) : List Form :=
  if levels.isEmpty then forms ++ place.earlier else forms

def levels : List Level → List Level
  | [] => []
  | ⟨opener, before⟩ :: outer =>
      ⟨opener.moved place.offset, place.forms outer before⟩ :: levels outer

def reading (reading : Reading) : Reading where
  room := reading.room + place.more
  levels := place.levels reading.levels
  forms := place.forms reading.levels reading.forms

def settled (settled : Settled) : Settled where
  room := settled.room + place.more
  forms := if settled.inside.isNone then settled.forms ++ place.earlier else settled.forms
  inside := settled.inside.map fun (bracket, before, outer) =>
    (bracket, place.forms outer before, place.levels outer)

def result (change : α → β) : Except NestingError α → Except NestingError β
  | .ok value => .ok (change value)
  | .error error => .error (error.moved place.offset)

theorem result_bind {change : α → β} {change' : γ → δ} {first : Except NestingError α}
    {next : α → Except NestingError γ} {next' : β → Except NestingError δ}
    (rest : ∀ value, first = .ok value → next' (change value) = place.result change' (next value)) :
    (place.result change first >>= next') = place.result change' (first >>= next) := by
  cases first with
  | error error => rfl
  | ok value => exact rest value rfl

theorem forms_append (levels : List Level) (front forms : List Form) :
    place.forms levels (front ++ forms) = front ++ place.forms levels forms := by
  unfold Place.forms
  split
  · exact List.append_assoc _ _ _
  · rfl

theorem forms_cons (levels : List Level) (form : Form) (forms : List Form) :
    place.forms levels (form :: forms) = form :: place.forms levels forms :=
  place.forms_append levels [form] forms

/-! ## Readings -/

theorem settle_levels (room : Nat) (levels : List Level) (forms : List Form) :
    settle (room + place.more) (place.levels levels) (place.forms levels forms) =
      place.result place.settled (settle room levels forms) := by
  induction levels generalizing room forms with
  | nil => rfl
  | cons level outer induction =>
      rcases level with ⟨opener, before⟩
      cases opener with
      | bracket bracket => rfl
      | quote position =>
          have inner : place.forms (⟨.quote position, before⟩ :: outer) forms = forms := rfl
          rw [inner, levels, Opener.moved, settle, settle]
          cases quoteFirst? forms with
          | none => rfl
          | some quoted =>
              have onward := induction (room + 1) (quoted ++ before)
              rw [Nat.add_right_comm, forms_append] at onward
              exact onward

theorem settle_reading (reading : Reading) :
    (place.reading reading).settle = place.result place.settled reading.settle :=
  place.settle_levels reading.room reading.levels reading.forms

theorem close_reading (reading : Reading) (bracket : Bracket) (position : Nat) :
    (place.reading reading).close bracket (position + place.offset) =
      place.result place.reading (reading.close bracket position) := by
  rw [Reading.close, Reading.close, settle_reading]
  apply result_bind
  rintro ⟨room, forms, inside⟩ _
  cases inside with
  | none => rfl
  | some around =>
      rcases around with ⟨opened, before, outer⟩
      dsimp only [settled, Option.map_some]
      split
      · have room : room + place.more + 1 = room + 1 + place.more := by omega
        simp only [result, Place.reading, forms_cons, room]
        rfl
      · rfl

/-- More room can make up for a lack of room, so there must not be both. -/
theorem enter_reading {reading : Reading} {opener : Opener}
    (enough : reading.enter opener ≠ .error .tooDeep ∨ place.more = 0) :
    (place.reading reading).enter (opener.moved place.offset) =
      place.result place.reading (reading.enter opener) := by
  rcases reading with ⟨room, levels, forms⟩
  cases room with
  | zero =>
      have noMore : place.more = 0 := enough.resolve_left fun differs => differs rfl
      simp only [Place.reading, Reading.enter, noMore]
      rfl
  | succ room =>
      have more : room + 1 + place.more = room + place.more + 1 := by omega
      simp only [Place.reading, Reading.enter, more]
      rfl

theorem add_reading (reading : Reading) (form : Form) :
    Except.ok ((place.reading reading).add form) =
      place.result place.reading (.ok (reading.add form)) := by
  simp only [result, Place.reading, Reading.add, forms_cons]

theorem step_reading {reading : Reading} {lexeme : Lexeme}
    (enough : reading.step lexeme ≠ .error .tooDeep ∨ place.more = 0) :
    (place.reading reading).step (lexeme.moved place.offset) =
      place.result place.reading (reading.step lexeme) := by
  cases lexeme with
  | opening bracket => exact place.enter_reading enough
  | quote position => exact place.enter_reading enough
  | closing bracket position => exact place.close_reading reading bracket position
  | atom token => exact place.add_reading reading (.symbol token)
  | text value => exact place.add_reading reading (.text value)
  | unfinishedText | unfinishedEscape => rfl

theorem foldlM_reading {reading : Reading} {lexemes : List Lexeme}
    (enough : lexemes.foldlM Reading.step reading ≠ .error .tooDeep ∨ place.more = 0) :
    (lexemes.map (Lexeme.moved place.offset)).foldlM Reading.step (place.reading reading) =
      place.result place.reading (lexemes.foldlM Reading.step reading) := by
  induction lexemes generalizing reading with
  | nil => rfl
  | cons lexeme lexemes induction =>
      rw [List.foldlM_cons] at enough ⊢
      have enoughFirst : reading.step lexeme ≠ .error .tooDeep ∨ place.more = 0 := by
        refine enough.imp_left fun differs tooDeep => ?_
        rw [tooDeep] at differs
        exact differs rfl
      rw [List.map_cons, List.foldlM_cons, place.step_reading enoughFirst]
      apply result_bind
      intro middle stepped
      rw [stepped] at enough
      exact induction enough

theorem finish_reading (reading : Reading) :
    (place.reading reading).finish =
      place.result (place.earlier.reverse ++ ·) reading.finish := by
  rw [Reading.finish, Reading.finish, settle_reading]
  apply result_bind
  rintro ⟨room, forms, inside⟩ _
  cases inside with
  | none => exact congrArg Except.ok (List.reverse_append)
  | some around => rfl

theorem nest_lexemes {room : Nat} {lexemes : List Lexeme}
    (enough : nest room lexemes ≠ .error .tooDeep ∨ place.more = 0) :
    ((lexemes.map (Lexeme.moved place.offset)).foldlM Reading.step (place.reading { room }) >>=
      Reading.finish) = place.result (place.earlier.reverse ++ ·) (nest room lexemes) := by
  have enoughFirst :
      lexemes.foldlM Reading.step { room } ≠ .error .tooDeep ∨ place.more = 0 := by
    refine enough.imp_left fun differs tooDeep => ?_
    rw [nest, tooDeep] at differs
    exact differs rfl
  rw [nest, place.foldlM_reading enoughFirst]
  apply result_bind
  intro reading _
  exact place.finish_reading reading

end Place

theorem forms_of_le {room room' : Nat} {source : List Char} (le : room ≤ room')
    (enough : forms room source ≠ .error .tooDeep) : forms room' source = forms room source := by
  rcases Nat.exists_eq_add_of_le le with ⟨more, rfl⟩
  have nested := Place.nest_lexemes { more } (.inl enough)
  rw [Lexeme.map_moved_zero] at nested
  have same (result : Except NestingError (List Form)) :
      Place.result { more } ([].reverse ++ ·) result = result := by
    cases result with
    | ok forms => rfl
    | error error => exact congrArg Except.error error.moved_zero
  exact nested.trans (same _)

/-! ## Scanning -/

theorem Scan.start_moved (position offset : Nat) (char : Char) :
    start (position + offset) char =
      ((start position char).1.map (Lexeme.moved offset), (start position char).2) := by
  -- The same conditions decide on both sides, so moving goes into the branches.
  change _ = Prod.map (Option.map (Lexeme.moved offset)) id (start position char)
  unfold start
  simp only [apply_ite (Prod.map (Option.map (Lexeme.moved offset)) id)]
  rfl

theorem Scan.step_moved (scan : Scan) (position offset : Nat) (char : Char) :
    scan.step (position + offset) char =
      ((scan.step position char).1.map (Lexeme.moved offset), (scan.step position char).2) := by
  cases scan with
  | gap => simp [step, start_moved, Option.toList_map]
  | comment | atomEscape _ | textEscape _ => rfl
  | atom chars =>
      have finished : (finishedAtom chars).moved offset = finishedAtom chars := rfl
      simp only [step, start_moved, Option.toList_map]
      split
      · simp [finished]
      · split <;> rfl
  | text chars =>
      simp only [step]
      split
      · rfl
      · split <;> rfl

namespace Scanner

/-- The scanner further on in a text, after lexemes that are complete. -/
def moved (offset : Nat) (earlier : List Lexeme) (scanner : Scanner) : Scanner where
  scan := scanner.scan
  position := scanner.position + offset
  lexemes := scanner.lexemes.map (Lexeme.moved offset) ++ earlier.reverse

variable {offset : Nat} {earlier : List Lexeme}

theorem step_moved (scanner : Scanner) (char : Char) :
    (scanner.moved offset earlier).step char = (scanner.step char).moved offset earlier := by
  simp only [moved, step, Scan.step_moved, List.map_append, List.map_reverse, List.append_assoc,
    Nat.add_right_comm]

theorem foldl_moved (scanner : Scanner) (chars : List Char) :
    chars.foldl step (scanner.moved offset earlier) =
      (chars.foldl step scanner).moved offset earlier := by
  induction chars generalizing scanner with
  | nil => rfl
  | cons char chars induction => rw [List.foldl_cons, List.foldl_cons, step_moved, induction]

theorem finish_moved (scanner : Scanner) :
    (scanner.moved offset earlier).finish =
      earlier ++ scanner.finish.map (Lexeme.moved offset) := by
  have unmoved : scanner.scan.finish.map (Lexeme.moved offset) = scanner.scan.finish := by
    cases scanner.scan <;> rfl
  simp [finish, moved, unmoved]

theorem step_newline {scanner : Scanner}
    (complete : ∀ lexeme ∈ scanner.finish, lexeme.isTreePart = true) :
    scanner.step '\n' = Scanner.moved (scanner.position + 1) scanner.finish {} := by
  rcases scanner with ⟨scan, position, lexemes⟩
  have blank : Scan.start position '\n' = (none, .gap) := rfl
  have ends : endsAtom '\n' = true := rfl
  cases scan with
  | gap => simp [step, moved, finish, Scan.step, Scan.finish, blank]
  | comment => simp [step, moved, finish, Scan.step, Scan.finish]
  | atom chars => simp [step, moved, finish, Scan.step, Scan.finish, blank, ends]
  | text chars =>
      exact absurd (complete .unfinishedText (by simp [finish, Scan.finish])) (by decide)
  | atomEscape chars | textEscape chars =>
      exact absurd (complete .unfinishedEscape (by simp [finish, Scan.finish])) (by decide)

theorem position_foldl (scanner : Scanner) (chars : List Char) :
    (chars.foldl step scanner).position = scanner.position + chars.length := by
  induction chars generalizing scanner with
  | nil => rfl
  | cons char chars induction =>
      have stepped : (scanner.step char).position = scanner.position + 1 := rfl
      rw [List.foldl_cons, induction, stepped, List.length_cons]
      omega

end Scanner

theorem lexemes_newline {front : List Char} (back : List Char)
    (complete : ∀ lexeme ∈ lexemes front, lexeme.isTreePart = true) :
    lexemes (front ++ '\n' :: back) =
      lexemes front ++ (lexemes back).map (Lexeme.moved (front.length + 1)) := by
  have position := Scanner.position_foldl {} front
  rw [Nat.zero_add] at position
  rw [lexemes, List.foldl_append, List.foldl_cons, Scanner.step_newline complete, position,
    Scanner.foldl_moved, Scanner.finish_moved]
  rfl

/-! ## Two texts -/

theorem room_of_settle {room : Nat} {levels : List Level} {forms : List Form} {settled : Settled}
    (settles : settle room levels forms = .ok settled) :
    room + levels.length = settled.room + (settled.inside.elim 0 (·.2.2.length + 1)) := by
  induction levels generalizing room forms with
  | nil =>
      cases settles
      rfl
  | cons level outer induction =>
      rcases level with ⟨opener, before⟩
      cases opener with
      | bracket bracket =>
          cases settles
          rfl
      | quote position =>
          rw [settle] at settles
          split at settles
          · cases settles
          · have onward := induction settles
            rw [List.length_cons]
            omega

namespace Reading

variable {reading next : Reading}

theorem room_of_step {lexeme : Lexeme} (stepped : reading.step lexeme = .ok next) :
    reading.room + reading.levels.length = next.room + next.levels.length := by
  have onEnter {opener : Opener} (enters : reading.enter opener = .ok next) :
      reading.room + reading.levels.length = next.room + next.levels.length := by
    unfold enter at enters
    split at enters
    · cases enters
    next room =>
        cases enters
        simp only [List.length_cons]
        omega
  cases lexeme with
  | opening bracket => exact onEnter stepped
  | quote position => exact onEnter stepped
  | closing bracket position =>
      rcases bind_eq_ok stepped with ⟨settled, settles, encloses⟩
      have counted := room_of_settle settles
      split at encloses
      · cases encloses
      next inside =>
          split at encloses
          · cases encloses
            rw [inside] at counted
            simp only [Option.elim] at counted ⊢
            omega
          · cases encloses
  | atom token =>
      cases stepped
      rfl
  | text value =>
      cases stepped
      rfl
  | unfinishedText | unfinishedEscape => cases stepped

theorem room_of_foldlM {lexemes : List Lexeme} (runs : lexemes.foldlM step reading = .ok next) :
    reading.room + reading.levels.length = next.room + next.levels.length := by
  induction lexemes generalizing reading with
  | nil =>
      cases runs
      rfl
  | cons lexeme lexemes induction =>
      rw [List.foldlM_cons] at runs
      rcases bind_eq_ok runs with ⟨middle, stepped, rest⟩
      rw [room_of_step stepped, induction rest]

theorem HasTrees.of_finish {forms : List Form} (trees : reading.HasTrees)
    (finishes : reading.finish = .ok forms) :
    reading.levels = [] ∧ reading.forms = forms.reverse := by
  rcases reading with ⟨room, levels, inner⟩
  cases levels with
  | nil =>
      cases finishes
      exact ⟨rfl, (List.reverse_reverse inner).symm⟩
  | cons level outer =>
      rcases level with ⟨opener, before⟩
      cases (trees.levels ⟨opener, before⟩ (by simp)).1
      cases finishes

end Reading

/-- A text of which all forms have trees leaves the reader as it found it, but for the
forms. -/
theorem reading_of_forms {room : Nat} {source : List Char} {found : List Form}
    (read : forms room source = .ok found) (trees : ∀ form ∈ found, form.HasTree) :
    (lexemes source).foldlM Reading.step { room } = .ok { room, forms := found.reverse } ∧
      ∀ lexeme ∈ lexemes source, lexeme.isTreePart = true := by
  rcases bind_eq_ok read with ⟨reading, runs, finishes⟩
  have hasTrees := Reading.hasTrees_of_finish finishes trees
  have sameRoom := Reading.room_of_foldlM runs
  rcases hasTrees.of_finish finishes with ⟨noLevels, sameForms⟩
  refine ⟨?_, (Reading.isTreePart_of_foldlM runs hasTrees).2⟩
  rw [noLevels] at sameRoom
  have restored : reading.room = room := sameRoom.symm
  rw [runs, ← restored, ← noLevels, ← sameForms]

theorem forms_newline {room : Nat} {front back : List Char} {found : List Form}
    (read : forms room front = .ok found) (trees : ∀ form ∈ found, form.HasTree) :
    forms room (front ++ '\n' :: back) =
      Place.result { offset := front.length + 1 } (found ++ ·) (forms room back) := by
  rcases reading_of_forms read trees with ⟨runs, complete⟩
  have nested := @Place.nest_lexemes
    { offset := front.length + 1, earlier := found.reverse } room (lexemes back) (.inr rfl)
  rw [forms, nest, lexemes_newline back complete, List.foldlM_append, runs]
  rw [List.reverse_reverse] at nested
  exact nested

end Trefoil.Reader

namespace Trefoil

/-! ## Failures -/

/-- The error of a text, as it is told of a source in which the text stands so many
characters further on. -/
def SyntaxError.moved (source : String) (offset : Nat) : SyntaxError → SyntaxError
  | unclosed _ opened found => unclosed source opened found
  | strayCloser _ rest => strayCloser source rest
  | danglingQuote _ position => danglingQuote source (position + offset)
  | textLiteral _ value => textLiteral source value
  | unsupported _ form => unsupported source form
  | error => error

theorem SyntaxError.summary_moved (source : String) (offset : Nat) (error : SyntaxError) :
    (error.moved source offset).diagnostic.summary = error.diagnostic.summary := by
  cases error <;> rfl

def Failure.moved (source : String) (offset : Nat) : Failure → Failure
  | program (.inSyntax error) => program (.inSyntax (error.moved source offset))
  | failure => failure

end Trefoil

namespace Trefoil.Reader

section

variable {front back joined : String}
  (text : joined.toList = front.toList ++ '\n' :: back.toList)
include text

theorem drop_joined (position : Nat) :
    joined.toList.drop (position + (front.toList.length + 1)) = back.toList.drop position := by
  rw [text, Nat.add_comm, List.append_cons, List.drop_append]
  simp

theorem NestingError.failure_moved (error : NestingError) :
    (error.moved (front.toList.length + 1)).failure joined =
      (error.failure back).moved joined (front.toList.length + 1) := by
  cases error with
  | strayCloser position =>
      rw [moved, failure, drop_joined text]
      rfl
  | unclosed _ _ | danglingQuote _ | unfinishedText | unfinishedEscape | tooDeep => rfl

end

theorem unsupportedError_moved (source joined : String) (offset : Nat) (form : Form) :
    (unsupportedError source form).moved joined offset = unsupportedError joined form := by
  cases form <;> rfl

/-! ## Sources -/

theorem outcome_program_eq (room : Nat) (source : String) :
    (program room source).outcome =
      match forms room source.toList with
      | .error error => .error (error.failure source)
      | .ok found =>
          match Form.toTrees found with
          | .error form => .error (.program (.inSyntax (unsupportedError source form)))
          | .ok trees => .ok trees := by
  rw [program, Traced.outcome_bind, Traced.outcome_log, Traced.ok_bind]
  cases forms room source.toList with
  | error error => cases error <;> rfl
  | ok found =>
      dsimp only
      cases Form.toTrees found <;> rfl

theorem forms_of_outcome_program {room : Nat} {source : String} {trees : List SymbolTree}
    (read : (program room source).outcome = .ok trees) :
    ∃ found, forms room source.toList = .ok found ∧ Form.toTrees found = .ok trees := by
  rw [outcome_program_eq] at read
  split at read
  · cases read
  next found nested =>
      split at read
      · cases read
      next converted =>
          cases read
          exact ⟨found, nested, converted⟩

theorem Form.toTrees_append {front : List Form} {trees : List SymbolTree} (back : List Form)
    (found : toTrees front = .ok trees) :
    toTrees (front ++ back) = (toTrees back).map (trees ++ ·) := by
  induction front generalizing trees with
  | nil =>
      cases found
      rw [List.nil_append]
      cases toTrees back <;> rfl
  | cons form front induction =>
      rw [toTrees] at found
      rcases bind_eq_ok found with ⟨tree, first, found⟩
      rcases bind_eq_ok found with ⟨others, rest, ends⟩
      cases ends
      rw [List.cons_append, toTrees, first, induction rest]
      cases toTrees back <;> rfl

theorem outcome_program_joined {room : Nat} {front back joined : String}
    {first : List SymbolTree} (text : joined.toList = front.toList ++ '\n' :: back.toList)
    (onFront : (program room front).outcome = .ok first) :
    (program room joined).outcome =
      match (program room back).outcome with
      | .ok second => .ok (first ++ second)
      | .error failure => .error (failure.moved joined (front.toList.length + 1)) := by
  rcases forms_of_outcome_program onFront with ⟨found, nested, converted⟩
  rw [outcome_program_eq, outcome_program_eq, text,
    forms_newline nested (Form.hasTree_of_toTrees converted)]
  cases forms room back.toList with
  | error error => exact congrArg Except.error (NestingError.failure_moved text error)
  | ok others =>
      dsimp only [Place.result]
      rw [Form.toTrees_append others converted]
      cases Form.toTrees others with
      | error form =>
          have sameForm := unsupportedError_moved back joined (front.toList.length + 1) form
          dsimp only [Except.map, Failure.moved]
          rw [sameForm]
      | ok second => rfl

theorem outcome_program_newline {room : Nat} {front back joined : String}
    {first second : List SymbolTree} (text : joined.toList = front.toList ++ '\n' :: back.toList)
    (onFront : (program room front).outcome = .ok first)
    (onBack : (program room back).outcome = .ok second) :
    (program room joined).outcome = .ok (first ++ second) := by
  rw [outcome_program_joined text onFront, onBack]

/-- After a text that is read and a line feed, a text gives the trees that it gives alone,
behind those of the first, and a text with a syntax error has the error that it has
alone, but for the source it is told of and the position in it. The first text may end
in an atom, in a comment, or even in a backslash that is part of either. -/
theorem reading_is_compositional {room : Nat} {front : String} {first : List SymbolTree}
    (onFront : (program room front).outcome = .ok first) (back : String) :
    let joined := front ++ "\n" ++ back
    (∀ second, (program room back).outcome = .ok second →
      (program room joined).outcome = .ok (first ++ second)) ∧
    ∀ error, (program room back).outcome = .error (.program (.inSyntax error)) →
      let moved := error.moved joined (front.length + 1)
      (program room joined).outcome = .error (.program (.inSyntax moved)) ∧
        moved.diagnostic.summary = error.diagnostic.summary := by
  intro joined
  have text : joined.toList = front.toList ++ '\n' :: back.toList := by
    simp [joined]
  constructor
  · intro second onBack
    exact outcome_program_newline text onFront onBack
  · intro error fails moved
    refine ⟨?_, error.summary_moved joined (front.length + 1)⟩
    rw [outcome_program_joined text onFront, fails, String.length_toList]
    rfl

/-- The first text has escapes in its atoms, and ends in a comment that opens a parenthesis.
After it, an atom is read, and a stray parenthesis, a quoted form and a quote without one
are still the same errors. -/
theorem reading_is_compositional_escaped :
    let front := "(a\\ b \\)) ;("
    let trees : List SymbolTree := [.node [.leaf "a b", .leaf ")"]]
    let joined (back : String) := front ++ "\n" ++ back
    (program 2 front).outcome = .ok trees ∧
      (program 2 (joined "\\;c")).outcome = .ok (trees ++ [.leaf ";c"]) ∧
      (program 2 (joined "c)")).outcome =
        .error (.program (.inSyntax (.strayCloser (joined "c)") ")"))) ∧
      (program 2 (joined "'c")).outcome =
        .error (.program (.inSyntax (.unsupported (joined "'c") (.quoted (.symbol "c"))))) ∧
      (program 2 (joined "c '")).outcome =
        .error (.program (.inSyntax (.danglingQuote (joined "c '") 15))) := by
  intro front trees joined
  have scanned : lexemes front.toList =
      [.opening .round, .atom "a b", .atom ")", .closing .round 8] := by decide
  have onFront : (program 2 front).outcome = .ok trees := by
    rw [outcome_program_eq, forms, scanned]
    rfl
  refine ⟨onFront, ?_, ?_, ?_, ?_⟩
  · exact (reading_is_compositional onFront "\\;c").1 _ rfl
  · exact ((reading_is_compositional onFront "c)").2 (.strayCloser _ ")") rfl).1
  · exact ((reading_is_compositional onFront "'c").2 (.unsupported _ (.quoted (.symbol "c"))) rfl).1
  · have dangles := ((reading_is_compositional onFront "c '").2 (.danglingQuote _ 2) rfl).1
    have length : front.length = 12 := by decide
    rw [length] at dangles
    exact dangles

end Trefoil.Reader
