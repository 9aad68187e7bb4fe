import Flashcard.CommandLine.Arguments
import Flashcard.Proofs.CommandLine.Fallible

/-!
# Spellings of parameters

There are many ways to write a parameter: a long name or a letter, alone or in a row of letters,
with its value attached to it, behind an equals sign, or as the next word. `Spells` says what
words stand for, with no regard to how they are read. Reading accepts only words that stand for
something, and returns what they stand for: nothing is lost, moved or made up. What it accepts
also keeps to the use of each parameter and to the values that it takes.

Results:
* `Given.Admissible`: every parameter was given as often and with such values as it may.
* `take_eq_ok`, `settle_eq_ok`: what is added to what was given.
* `Reads.long`, `Reads.letters`, `Reads.plain`, `Reads.trailing`: what each kind of word does.
* `reads_words`: accepted words stand for what is returned.
-/

namespace Flashcard.CommandLine

/-! ## What may be given -/

namespace Given

/-- Every parameter was given as often and with such values as it may. -/
inductive Admissible : Given → Prop
  | nil : Admissible []
  | snoc {given : Given} {parameter : Parameter} {value : Text} : Admissible given →
    parameter.use ≠ .help →
    (parameter.use.isRepeatable = false → given.has parameter = false) →
    parameter.judge value = none → Admissible (given ++ [(parameter, value)])

/-- The result is what was given before with the entries behind it, and may be given if that
    might. -/
structure Extends (given result entries : Given) : Prop where
  eq_append : result = given ++ entries
  admissible : given.Admissible → result.Admissible

theorem Extends.refl (given : Given) : Extends given given [] :=
  ⟨(List.append_nil given).symm, id⟩

theorem Extends.trans {a b c entries more : Given} (first : Extends a b entries)
    (second : Extends b c more) : Extends a c (entries ++ more) where
  eq_append := by rw [second.eq_append, first.eq_append, List.append_assoc]
  admissible h := second.admissible (first.admissible h)

theorem values_concat (given : Given) (last parameter : Parameter) (value : Text) :
    values (given ++ [(last, value)]) parameter =
      given.values parameter ++ if last = parameter then [value] else [] := by
  rw [values, List.filter_append, List.map_append, ← values]
  by_cases same : last = parameter <;> simp [same]

theorem has_eq_false {given : Given} {parameter : Parameter} :
    given.has parameter = false ↔ given.values parameter = [] := by
  rw [has, List.any_eq_false, values, List.map_eq_nil_iff, List.filter_eq_nil_iff]

theorem Admissible.judge_eq_none {given : Given} (h : given.Admissible) {parameter : Parameter}
    {value : Text} (mem : value ∈ given.values parameter) : parameter.judge value = none := by
  induction h with
  | nil => cases mem
  | snoc _ _ _ judged ih =>
    rw [values_concat, List.mem_append] at mem
    obtain before | last := mem
    · exact ih before
    · split at last
      · next same =>
        rw [List.mem_singleton.1 last, ← same]
        exact judged
      · cases last

theorem Admissible.length_values_le_one {given : Given} (h : given.Admissible)
    {parameter : Parameter} (once : parameter.use.isRepeatable = false) :
    (given.values parameter).length ≤ 1 := by
  induction h with
  | nil => exact Nat.zero_le 1
  | snoc _ _ fresh _ ih =>
    rw [values_concat]
    split
    · next same =>
      subst same
      rw [has_eq_false.1 (fresh once)]
      exact Nat.le_refl 1
    · rwa [List.append_nil]

end Given

/-! ## What words stand for -/

/-- Letters behind one dash, the flags and values that they stand for, and a parameter that
    waits for its value behind them. -/
inductive SpellsLetters (grammar : Grammar) : Text → Given → Option Parameter → Prop
  | nil : SpellsLetters grammar [] [] none
  | flag {letter : Char} {letters : Text} {parameter : Parameter} {given : Given}
    {waiting : Option Parameter} :
    grammar.ofShort? letter = some parameter → parameter.use.takesValue = false →
      SpellsLetters grammar letters given waiting →
      SpellsLetters grammar (letter :: letters) ((parameter, []) :: given) waiting
  | equals {letter : Char} {value : Text} {parameter : Parameter} :
    grammar.ofShort? letter = some parameter → parameter.use.takesValue = true →
      SpellsLetters grammar (letter :: '=' :: value) [(parameter, value)] none
  | attached {letter first : Char} {value : Text} {parameter : Parameter} :
    grammar.ofShort? letter = some parameter → parameter.use.takesValue = true → first ≠ '=' →
      SpellsLetters grammar (letter :: first :: value) [(parameter, first :: value)] none
  | waiting {letter : Char} {parameter : Parameter} :
    grammar.ofShort? letter = some parameter → parameter.use.takesValue = true →
      SpellsLetters grammar [letter] [] (some parameter)

/-- Words and the parameters with their values that they stand for, in order, behind a parameter
    that waits for its value, if there is one, and with these parameters by place still free. -/
inductive Spells (grammar : Grammar) :
    Option Parameter → List Parameter → List Text → Given → Prop
  | nil {free : List Parameter} : Spells grammar none free [] []
  /-- The value of the parameter in front of it. -/
  | value {parameter : Parameter} {free : List Parameter} {word : Text} {words : List Text}
    {given : Given} : Word.ofText word = .plain → Spells grammar none free words given →
      Spells grammar (some parameter) free (word :: words) ((parameter, word) :: given)
  | placed {parameter : Parameter} {free : List Parameter} {word : Text} {words : List Text}
    {given : Given} : Word.ofText word = .plain → Spells grammar none free words given →
      Spells grammar none (parameter :: free) (word :: words) ((parameter, word) :: given)
  | flag {name : Text} {parameter : Parameter} {free : List Parameter} {words : List Text}
    {given : Given} : grammar.ofLong? name = some parameter → parameter.use.takesValue = false →
      Spells grammar none free words given →
      Spells grammar none free (('-' :: '-' :: name) :: words) ((parameter, []) :: given)
  | equals {name value : Text} {parameter : Parameter} {free : List Parameter}
    {words : List Text} {given : Given} : grammar.ofLong? name = some parameter →
      parameter.use.takesValue = true → Spells grammar none free words given →
      Spells grammar none free (('-' :: '-' :: name ++ '=' :: value) :: words)
        ((parameter, value) :: given)
  | long {name : Text} {parameter : Parameter} {free : List Parameter} {words : List Text}
    {given : Given} : grammar.ofLong? name = some parameter → parameter.use.takesValue = true →
      Spells grammar (some parameter) free words given →
      Spells grammar none free (('-' :: '-' :: name) :: words) given
  | letters {letters : Text} {free : List Parameter} {words : List Text} {front given : Given}
    {waiting : Option Parameter} : letters ≠ [] → SpellsLetters grammar letters front waiting →
      Spells grammar waiting free words given →
      Spells grammar none free (('-' :: letters) :: words) (front ++ given)
  /-- Behind two dashes every word is taken by its place. -/
  | dashes {free : List Parameter} {words : List Text} : words.length ≤ free.length →
      Spells grammar none free (['-', '-'] :: words) (free.zip words)

/-! ## What words look like -/

namespace Word

theorem eq_of_dashes {word : Text} (h : ofText word = .dashes) : word = ['-', '-'] := by
  unfold ofText at h
  split at h
  · rfl
  · split at h <;> cases h
  all_goals cases h

theorem eq_of_long {word name : Text} (h : ofText word = .long name none) :
    word = '-' :: '-' :: name := by
  unfold ofText at h
  split at h
  · cases h
  · split at h <;> cases h
    rfl
  all_goals cases h

theorem eq_of_equals {word name value : Text} (h : ofText word = .long name (some value)) :
    word = '-' :: '-' :: name ++ '=' :: value := by
  unfold ofText at h
  split at h
  · cases h
  · split at h
    · next cut =>
      cases h
      rw [List.cons_append, List.cons_append, (splitAtEquals_eq_some cut).1]
    · cases h
  all_goals cases h

theorem eq_of_short {word letters : Text} (h : ofText word = .short letters) :
    letters ≠ [] ∧ word = '-' :: letters := by
  unfold ofText at h
  split at h
  · cases h
  · split at h <;> cases h
  · cases h
  · next empty =>
    cases h
    exact ⟨empty, rfl⟩
  · cases h

end Word

/-! ## Adding to what was given -/

namespace Pending

/-- The parameter that waits for its value. -/
def waiting? : Pending → Option Parameter
  | awaiting parameter => some parameter
  | nothing | complete .. => none

/-- The parameter that has its value. -/
def entries : Pending → Given
  | complete parameter value => [(parameter, value)]
  | nothing | awaiting _ => []

end Pending

namespace Reading

theorem take_eq_ok {reading result : Reading} {parameter : Parameter} {value : Text}
    (h : reading.take parameter value = .ok result) :
    result.pending = reading.pending ∧ result.free = reading.free ∧
      reading.given.Extends result.given [(parameter, value)] := by
  unfold take at h
  split at h
  · cases h
  · next noHelp =>
    split at h
    · cases h
    · next fresh =>
      split at h
      · cases h
      · next judged =>
        cases h
        refine ⟨rfl, rfl, rfl, fun admissible => .snoc admissible noHelp ?_ judged⟩
        intro once
        simpa [once] using fresh

theorem settle_of_nothing {reading : Reading} (h : reading.pending = .nothing) :
    reading.settle = .ok reading := by
  rw [settle, h]

/-- The pending parameter is among what was given. -/
theorem settle_eq_ok {reading result : Reading} (h : reading.settle = .ok result) :
    reading.pending.waiting? = none ∧ result.pending = .nothing ∧ result.free = reading.free ∧
      reading.given.Extends result.given reading.pending.entries := by
  unfold settle at h
  cases pending : reading.pending with
  | nothing =>
    rw [pending] at h
    cases h
    exact ⟨rfl, pending, rfl, .refl _⟩
  | awaiting parameter =>
    rw [pending] at h
    cases h
  | complete parameter value =>
    rw [pending] at h
    obtain ⟨none, free, added⟩ := take_eq_ok h
    exact ⟨rfl, none, free, added⟩

theorem flag_eq_ok {reading result : Reading} {parameter : Parameter}
    (h : reading.flag parameter = .ok result) :
    ∃ settled, reading.settle = .ok settled ∧ settled.take parameter [] = .ok result :=
  bind_eq_ok h

theorem valued_eq_ok {reading result : Reading} {parameter : Parameter} {attached : Option Text}
    (h : reading.valued parameter attached = .ok result) :
    ∃ settled, reading.settle = .ok settled ∧
      ((∃ value, attached = some value ∧ settled.take parameter value = .ok result) ∨
        attached = none ∧ result = { settled with pending := .awaiting parameter }) := by
  obtain ⟨settled, done, h⟩ := bind_eq_ok h
  refine ⟨settled, done, ?_⟩
  cases attached with
  | some value => exact .inl ⟨value, rfl, h⟩
  | none =>
    cases h
    exact .inr ⟨rfl, rfl⟩

theorem placed_eq_ok {grammar : Grammar} {trailing : Bool} {reading result : Reading}
    {word : Text} (h : reading.placed grammar trailing word = .ok result) :
    ∃ parameter free settled, reading.free = parameter :: free ∧ reading.settle = .ok settled ∧
      result = { settled with pending := .complete parameter word, free := free } := by
  unfold placed at h
  cases places : reading.free with
  | nil =>
    rw [places] at h
    cases h
  | cons parameter free =>
    rw [places] at h
    obtain ⟨settled, done, h⟩ := bind_eq_ok h
    cases h
    exact ⟨parameter, free, settled, rfl, done, rfl⟩

/-! ## Words one by one -/

/-- The words stand for what is given in the end behind what the reading knows. -/
def Reads (grammar : Grammar) (reading : Reading) (words : List Text) (final : Given) : Prop :=
  ∃ entries, Spells grammar reading.pending.waiting? reading.free words entries ∧
    reading.given.Extends final (reading.pending.entries ++ entries)

variable {grammar : Grammar} {reading settled next : Reading} {words : List Text} {final : Given}

theorem Reads.nil (h : reading.settle = .ok settled) : Reads grammar reading [] settled.given := by
  obtain ⟨waiting, -, -, added⟩ := settle_eq_ok h
  refine ⟨[], waiting ▸ .nil, ?_⟩
  rwa [List.append_nil]

/-- The pending parameter is added first, then what the words stand for. -/
theorem Reads.of_settle (h : reading.settle = .ok settled) {entries : Given}
    (spells : Spells grammar none settled.free words entries)
    (more : settled.given.Extends final entries) : Reads grammar reading words final := by
  obtain ⟨waiting, -, free, added⟩ := settle_eq_ok h
  rw [free] at spells
  exact ⟨entries, waiting ▸ spells, added.trans more⟩

/-- What a parameter with its value goes in front of. -/
theorem Reads.take {parameter : Parameter} {value : Text} (done : reading.settle = .ok settled)
    (h : settled.take parameter value = .ok next) (reads : Reads grammar next words final) :
    ∃ entries, Spells grammar none settled.free words entries ∧
      settled.given.Extends final ((parameter, value) :: entries) := by
  obtain ⟨-, nothing, -, -⟩ := settle_eq_ok done
  obtain ⟨pending, free, added⟩ := take_eq_ok h
  obtain ⟨entries, spells, more⟩ := reads
  rw [pending, nothing] at spells more
  rw [free] at spells
  exact ⟨entries, spells, added.trans more⟩

theorem Reads.placed {word : Text} (h : reading.placed grammar false word = .ok next)
    (shape : Word.ofText word = .plain) (reads : Reads grammar next words final) :
    Reads grammar reading (word :: words) final := by
  obtain ⟨parameter, free, settled, places, done, rfl⟩ := placed_eq_ok h
  obtain ⟨-, -, same, -⟩ := settle_eq_ok done
  obtain ⟨entries, spells, added⟩ := reads
  refine .of_settle done ?_ added
  rw [same, places]
  exact .placed shape spells

/-- The value of the parameter in front, or a parameter by its place. -/
theorem Reads.plain {word : Text} (h : reading.plain grammar word = .ok next)
    (shape : Word.ofText word = .plain) (reads : Reads grammar next words final) :
    Reads grammar reading (word :: words) final := by
  unfold Reading.plain at h
  cases pending : reading.pending with
  | nothing | complete =>
    rw [pending] at h
    exact .placed h shape reads
  | awaiting parameter =>
    rw [pending] at h
    cases h
    obtain ⟨entries, spells, added⟩ := reads
    refine ⟨(parameter, word) :: entries, ?_, ?_⟩
    · rw [pending]
      exact .value shape spells
    · rw [pending]
      exact added

/-- A long name, perhaps with a value behind an equals sign. -/
theorem Reads.long {word name : Text} {value : Option Text}
    (h : reading.long grammar name value = .ok next)
    (shape : Word.ofText word = .long name value) (reads : Reads grammar next words final) :
    Reads grammar reading (word :: words) final := by
  unfold Reading.long at h
  split at h
  · cases h
  · next parameter named =>
    split at h
    · next takes =>
      obtain ⟨settled, done, ⟨value, rfl, taken⟩ | ⟨rfl, waits⟩⟩ := valued_eq_ok h
      · obtain ⟨entries, spells, added⟩ := reads.take done taken
        rw [Word.eq_of_equals shape]
        exact .of_settle done (.equals named takes spells) added
      · rw [waits] at reads
        obtain ⟨entries, spells, added⟩ := reads
        rw [Word.eq_of_long shape]
        exact .of_settle done (.long named takes spells) added
    · next takes =>
      split at h
      · cases h
      · next bare =>
        obtain ⟨settled, done, h⟩ := flag_eq_ok h
        obtain ⟨entries, spells, added⟩ := reads.take done h
        rw [Option.not_isSome_iff_eq_none.1 bare] at shape
        rw [Word.eq_of_long shape]
        exact .of_settle done (.flag named (Bool.eq_false_iff.2 takes) spells) added

theorem attached_eq_none {letters : Text} : attached letters = none ↔ letters = [] := by
  unfold attached
  split <;> simp_all

theorem spellsLetters_attached {letter : Char} {letters value : Text} {parameter : Parameter}
    (named : grammar.ofShort? letter = some parameter) (takes : parameter.use.takesValue = true)
    (h : attached letters = some value) :
    SpellsLetters grammar (letter :: letters) [(parameter, value)] none := by
  unfold attached at h
  split at h
  · cases h
  · cases h
    exact .equals named takes
  · next letters empty other =>
    cases h
    obtain ⟨first, rest, rfl⟩ := List.exists_cons_of_ne_nil empty
    exact .attached named takes fun equals => other rest (by rw [equals])

theorem letters_eq_ok {letters : Text} (nothing : reading.pending = .nothing)
    (h : reading.letters grammar letters = .ok next) :
    ∃ front, SpellsLetters grammar letters front next.pending.waiting? ∧
      next.pending.entries = [] ∧ next.free = reading.free ∧
      reading.given.Extends next.given front := by
  induction letters generalizing reading with
  | nil =>
    cases h
    rw [nothing]
    exact ⟨[], .nil, rfl, rfl, .refl _⟩
  | cons letter letters ih =>
    unfold Reading.letters at h
    split at h
    · cases h
    · next parameter named =>
      split at h
      · next takes =>
        obtain ⟨settled, done, ⟨value, rest, h⟩ | ⟨rest, h⟩⟩ := valued_eq_ok h
        · cases (settle_of_nothing nothing).symm.trans done
          obtain ⟨pending, free, added⟩ := take_eq_ok h
          rw [pending, nothing]
          exact ⟨_, spellsLetters_attached named takes rest, rfl, free, added⟩
        · cases (settle_of_nothing nothing).symm.trans done
          rw [h, attached_eq_none.1 rest]
          exact ⟨[], .waiting named takes, rfl, rfl, .refl _⟩
      · next takes =>
        split at h
        · next mid flag =>
          obtain ⟨settled, done, taken⟩ := flag_eq_ok flag
          cases (settle_of_nothing nothing).symm.trans done
          obtain ⟨pending, free, added⟩ := take_eq_ok taken
          obtain ⟨front, spells, entries, same, more⟩ := ih (pending.trans nothing) h
          exact ⟨_, .flag named (Bool.eq_false_iff.2 takes) spells, entries, same.trans free,
            added.trans more⟩
        · cases h

/-- The pending parameter is settled before the first letter. -/
theorem letters_settle {letter : Char} {letters : Text}
    (h : reading.letters grammar (letter :: letters) = .ok next) :
    ∃ settled, reading.settle = .ok settled ∧
      settled.letters grammar (letter :: letters) = .ok next := by
  unfold Reading.letters at h ⊢
  split at h
  · cases h
  · next parameter named =>
    split at h
    · next takes =>
      obtain ⟨settled, done, h⟩ := bind_eq_ok h
      obtain ⟨-, nothing, -, -⟩ := settle_eq_ok done
      refine ⟨settled, done, ?_⟩
      simp only [takes, ↓reduceIte]
      rw [valued, settle_of_nothing nothing]
      exact h
    · next takes =>
      split at h
      · next mid flag =>
        obtain ⟨settled, done, taken⟩ := flag_eq_ok flag
        obtain ⟨-, nothing, -, -⟩ := settle_eq_ok done
        have again : settled.flag parameter = .ok mid := by
          rw [Reading.flag, settle_of_nothing nothing]
          exact taken
        refine ⟨settled, done, ?_⟩
        simp only [takes, Bool.false_eq_true, ↓reduceIte, again]
        exact h
      · cases h

/-- Letters behind one dash. -/
theorem Reads.letters {word letters : Text} (h : reading.letters grammar letters = .ok next)
    (shape : Word.ofText word = .short letters) (reads : Reads grammar next words final) :
    Reads grammar reading (word :: words) final := by
  obtain ⟨nonempty, rfl⟩ := Word.eq_of_short shape
  obtain ⟨letter, rest, rfl⟩ := List.exists_cons_of_ne_nil nonempty
  obtain ⟨settled, done, h⟩ := letters_settle h
  obtain ⟨-, nothing, -, -⟩ := settle_eq_ok done
  obtain ⟨front, first, pending, free, added⟩ := letters_eq_ok nothing h
  obtain ⟨entries, spells, more⟩ := reads
  rw [free] at spells
  rw [pending] at more
  exact .of_settle done (.letters nonempty first spells) (added.trans more)

theorem trailing_eq_ok (h : reading.trailing grammar words = .ok next)
    (done : next.settle = .ok settled) :
    words.length ≤ reading.free.length ∧ reading.pending.waiting? = none ∧
      reading.given.Extends settled.given
        (reading.pending.entries ++ reading.free.zip words) := by
  induction words generalizing reading with
  | nil =>
    cases h
    obtain ⟨waiting, -, -, added⟩ := settle_eq_ok done
    rw [List.zip_nil_right, List.append_nil]
    exact ⟨Nat.zero_le _, waiting, added⟩
  | cons word words ih =>
    obtain ⟨mid, place, h⟩ := bind_eq_ok h
    obtain ⟨parameter, free, before, places, settles, rfl⟩ := placed_eq_ok place
    obtain ⟨waiting, -, -, added⟩ := settle_eq_ok settles
    obtain ⟨bound, -, more⟩ := ih h
    rw [places]
    exact ⟨Nat.succ_le_succ bound, waiting, added.trans more⟩

/-- Two dashes, and what comes behind them. -/
theorem Reads.trailing {word : Text} (h : reading.trailing grammar words = .ok next)
    (shape : Word.ofText word = .dashes) (done : next.settle = .ok settled) :
    Reads grammar reading (word :: words) settled.given := by
  obtain ⟨bound, waiting, added⟩ := trailing_eq_ok h done
  rw [Word.eq_of_dashes shape]
  exact ⟨reading.free.zip words, waiting ▸ .dashes bound, added⟩

end Reading

/-! ## Command lines -/

theorem Reading.eq_of_command? {grammar : Grammar} {reading : Reading} {word : Text}
    {command : Command} (h : reading.command? grammar word = some command) :
    grammar.wantsCommand = true ∧ Command.ofName? word = some command := by
  unfold command? at h
  split at h
  · cases h
  · split at h
    · next wants => exact ⟨wants, h⟩
    · cases h

/-- The words are those in front and, if a command is found, its name and the rest. -/
def Grammar.Splits (grammar : Grammar) (words front : List Text) :
    Option (Command × List Text) → Prop
  | none => words = front
  | some (command, rest) => grammar.wantsCommand = true ∧
    ∃ name, Command.ofName? name = some command ∧ words = front ++ name :: rest

theorem Grammar.Splits.cons {grammar : Grammar} {words front : List Text}
    {found : Option (Command × List Text)} (h : grammar.Splits words front found)
    (word : Text) : grammar.Splits (word :: words) (word :: front) found := by
  cases found with
  | none => exact congrArg (word :: ·) h
  | some found =>
    obtain ⟨wants, name, named, rfl⟩ := h
    exact ⟨wants, name, named, rfl⟩

/-- Accepted words stand for what is returned, up to the name of a command if one is found. -/
theorem Reading.reads_words {grammar : Grammar} {reading next settled : Reading}
    {words : List Text} {found : Option (Command × List Text)}
    (h : reading.words grammar words = .ok (next, found)) (done : next.settle = .ok settled) :
    ∃ front, Reads grammar reading front settled.given ∧ grammar.Splits words front found := by
  induction words generalizing reading with
  | nil =>
    cases h
    exact ⟨[], .nil done, rfl⟩
  | cons word words ih =>
    have step {mid : Reading} (behind : mid.words grammar words = .ok (next, found))
        (read : ∀ front, Reads grammar mid front settled.given →
          Reads grammar reading (word :: front) settled.given) :
        ∃ front, Reads grammar reading front settled.given ∧
          grammar.Splits (word :: words) front found := by
      obtain ⟨front, reads, splits⟩ := ih behind
      exact ⟨word :: front, read front reads, splits.cons word⟩
    unfold Reading.words at h
    split at h
    · next command isCommand =>
      cases h
      obtain ⟨wants, named⟩ := eq_of_command? isCommand
      exact ⟨[], .nil done, wants, word, named, rfl⟩
    · split at h
      · next shape =>
        obtain ⟨mid, trail, h⟩ := bind_eq_ok h
        cases h
        exact ⟨_, .trailing trail shape done, rfl⟩
      · next shape =>
        obtain ⟨mid, long, h⟩ := bind_eq_ok h
        exact step h fun front reads => reads.long long shape
      · next shape =>
        obtain ⟨mid, letters, h⟩ := bind_eq_ok h
        exact step h fun front reads => reads.letters letters shape
      · next shape =>
        obtain ⟨mid, plain, h⟩ := bind_eq_ok h
        exact step h fun front reads => reads.plain plain shape

end Flashcard.CommandLine
