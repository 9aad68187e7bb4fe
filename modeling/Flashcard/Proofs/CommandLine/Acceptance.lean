import Flashcard.CommandLine.Invocation
import Flashcard.Proofs.CommandLine.Spelling

/-!
# Accepted command lines

The grammars say which words stand for which parameters, and the rules of a command which
parameters go together. Whatever both accept is a request: the command has one input, its fields
have names, and its numbers are in their ranges, so nothing that is missing is found out later.
Only the companion of a parameter can be missing: byte ranges belong to the syntax tree, but they
are accepted without it where JSON, which excludes the tree, is asked for.

Results:
* `Rules.check_eq_ok`: what the rules of a command demand.
* `Command.read_eq_ok`: what is known of the words behind a command.
* `parse_eq`: a command line is accepted first and made a request then.
* `accept_wellFormed`: what is accepted is a request that is well formed.
-/

namespace Flashcard.CommandLine

/-! ## Rules -/

/-- What was given keeps the rules. A companion is only missing where it is excluded. -/
structure Rules.Keeps (rules : Rules) (given : Given) : Prop where
  exclusive : ∀ pair ∈ rules.exclusive, ¬ (given.has pair.1 = true ∧ given.has pair.2 = true)
  required : ∀ row ∈ rules.required, ∃ parameter ∈ row, given.has parameter = true
  companions : ∀ pair ∈ rules.companions, given.has pair.1 = true →
    given.has pair.2 = true ∨ rules.excludes given pair.2 = true

/-- What the rules of a command demand. -/
theorem Rules.check_eq_ok {rules : Rules} {given : Given} (h : rules.check given = .ok ()) :
    rules.Keeps given := by
  unfold check at h
  split at h
  · cases h
  · next noClash =>
    split at h
    · cases h
    · next complete =>
      rw [Bool.or_eq_true, not_or, Bool.not_eq_true, Bool.not_eq_true] at complete
      refine ⟨?_, ?_, ?_⟩
      · rintro ⟨a, b⟩ mem
        rw [← Bool.and_eq_true]
        exact List.any_eq_false.1 (Bool.not_eq_true _ ▸ noClash) (a, b) mem
      · intro row mem
        have some := List.any_eq_false.1 complete.1 row mem
        rw [Bool.not_eq_true', Bool.not_eq_false, List.any_eq_true] at some
        exact some
      · rintro ⟨a, b⟩ mem given'
        have lacks := List.any_eq_false.1 complete.2 (a, b) mem
        simpa [given', Classical.or_iff_not_imp_left] using lacks

theorem Command.wantsCommand_eq_false {command : Command} (named : command ≠ .help) :
    command.grammar.wantsCommand = false := by
  cases command with
  | help => exact absurd rfl named
  | query | template | complete | highlight => rfl

/-- What is known of the words behind a command. -/
theorem Command.read_eq_ok {command : Command} {words : List Text} {given : Given}
    (named : command ≠ .help) (h : command.read words = .ok given) :
    Spells command.grammar none command.grammar.placed words given ∧ given.Admissible ∧
      command.rules.Keeps given := by
  obtain ⟨⟨reading, found⟩, read, h⟩ := bind_eq_ok h
  obtain ⟨settled, done, h⟩ := bind_eq_ok h
  obtain ⟨_, keeps, h⟩ := bind_eq_ok h
  cases h
  obtain ⟨front, ⟨entries, spells, added⟩, splits⟩ := Reading.reads_words read done
  have all : words = front := by
    cases found with
    | none => exact splits
    | some found =>
      obtain ⟨wants, -⟩ := splits
      rw [wantsCommand_eq_false named] at wants
      cases wants
  refine ⟨?_, added.admissible .nil, Rules.check_eq_ok keeps⟩
  have whole : settled.given = entries := added.eq_append
  rw [all, whole]
  exact spells

/-! ## Accepted words -/

/-- What grammars and rules accept: a command, with what is given in front of it and behind
    it. -/
def accept (words : List Text) : Except UsageError (Command × Given × Given) := do
  let (reading, command?) ← (Reading.start sharedGrammar).words sharedGrammar words
  match command? with
  | none =>
    let reading ← reading.settle
    .error (if reading.given = [] then .nothingGiven else .missingCommand)
  | some (.help, rest) => .error (helpOn rest)
  | some (command, rest) =>
    let behind ← command.read rest
    let reading ← reading.settle
    return (command, reading.given, behind)

/-- A command line is accepted first and made a request then. -/
theorem parse_eq (words : List Text) :
    parse words = do
      let (command, before, behind) ← accept words
      let request ← behind.request command
      return Invocation.ofGiven request before behind := by
  unfold parse accept
  cases (Reading.start sharedGrammar).words sharedGrammar words with
  | error fault => rfl
  | ok found =>
    obtain ⟨reading, found⟩ := found
    match found with
    | none => cases settled : reading.settle <;> simp [settled, bind, Except.bind]
    | some (command, rest) =>
      cases command with
      | help => rfl
      | query | template | complete | highlight =>
        simp only [bind, Except.bind]
        cases Command.read _ rest with
        | error fault => rfl
        | ok behind => cases reading.settle <;> rfl

theorem accept_eq_ok {words : List Text} {command : Command} {before behind : Given}
    (h : accept words = .ok (command, before, behind)) :
    command ≠ .help ∧
    (∃ front name rest, words = front ++ name :: rest ∧ Command.ofName? name = some command ∧
      Spells sharedGrammar none [] front before ∧
      Spells command.grammar none command.grammar.placed rest behind) ∧
    before.Admissible ∧ behind.Admissible ∧ command.rules.Keeps behind := by
  obtain ⟨⟨reading, found⟩, read, h⟩ := bind_eq_ok h
  match found with
  | none =>
    obtain ⟨settled, -, h⟩ := bind_eq_ok h
    cases h
  | some (found, rest) =>
    have known : found ≠ .help := by
      rintro rfl
      cases h
    have h : (do
        let behind ← found.read rest
        let reading ← reading.settle
        return (found, reading.given, behind)) = Except.ok (command, before, behind) := by
      cases found with
      | help => exact absurd rfl known
      | query | template | complete | highlight => exact h
    obtain ⟨behind', behindRead, h⟩ := bind_eq_ok h
    obtain ⟨settled, done, h⟩ := bind_eq_ok h
    cases h
    obtain ⟨front, ⟨entries, spells, added⟩, -, name, named, split⟩ :=
      Reading.reads_words read done
    obtain ⟨spells', admissible', keeps⟩ := Command.read_eq_ok known behindRead
    have whole : settled.given = entries := added.eq_append
    exact ⟨known, ⟨front, name, rest, split, named, whole ▸ spells, spells'⟩,
      added.admissible .nil, admissible', keeps⟩

/-! ## Well-formed requests -/

/-- The command has one input: a text behind the parameter, or a file. -/
def Given.OneInput (given : Given) (inline : Parameter) (input : Input) : Prop :=
  (∃ text, given.values inline = [text] ∧ given.values .file = [] ∧ input = .inline text) ∨
    ∃ path, given.values inline = [] ∧ given.values .file = [path] ∧ path ≠ [] ∧
      input = .stored (.ofPath path)

/-- The syntax tree and JSON exclude each other, and byte ranges belong to the syntax tree, but
    that they are accepted where it is excluded. -/
def Given.OneFormat (given : Given) : Prop :=
  ¬ (given.has .tree = true ∧ given.has .json = true) ∧
    (given.has .spans = true → given.has .tree = true ∨ given.has .json = true)

/-- Names with values, in the order in which they were written with equals signs. -/
def AreAssignments (written : List Text) (pairs : List (Text × Text)) : Prop :=
  pairs.map (fun (name, value) => name ++ '=' :: value) = written ∧
    ∀ pair ∈ pairs, pair.1 ≠ [] ∧ '=' ∉ pair.1

/-- A number that a parameter takes. -/
def InRange (least number : Nat) : Prop := least ≤ number ∧ number ≤ greatestNumber

/-- A request to a command is well formed. -/
def Given.WellFormed (given : Given) : Command → Request → Prop
  | .query, .query request => given.OneInput .query request.input ∧ given.OneFormat
  | .template, .template request =>
    given.OneInput .template request.input ∧ given.OneFormat ∧ InRange 1 request.ordinal ∧
      AreAssignments (given.values .field) request.fields ∧
      AreAssignments (given.values .rawField) request.rawFields
  | .complete, .complete request =>
    given.values .query = [request.query] ∧ InRange 0 request.offset
  | .highlight, .highlight request => given.OneInput .source request.input
  | _, _ => False

namespace Given

variable {given : Given}

theorem Admissible.exists_values_eq (admissible : given.Admissible) {parameter : Parameter}
    (once : parameter.use.isRepeatable = false) (has : given.has parameter = true) :
    ∃ value, given.values parameter = [value] := by
  have nonempty : given.values parameter ≠ [] := by
    intro empty
    rw [has_eq_false.2 empty] at has
    cases has
  have bound := admissible.length_values_le_one once
  exact List.length_eq_one_iff.1 (Nat.le_antisymm bound (List.length_pos_iff.2 nonempty))

/-- Of two parameters that exclude each other, one of which is needed, one was given. -/
theorem Admissible.exists_input (admissible : given.Admissible) (inline : Parameter)
    (once : inline.use.isRepeatable = false)
    (exclusive : ¬ (given.has inline = true ∧ given.has .file = true))
    (required : ∃ parameter ∈ [inline, .file], given.has parameter = true) :
    ∃ input, given.input inline = .ok input ∧ given.OneInput inline input := by
  unfold Given.input value?
  by_cases hasInline : given.has inline = true
  · obtain ⟨text, values⟩ := admissible.exists_values_eq once hasInline
    have noFile : given.values .file = [] :=
      has_eq_false.1 (Bool.not_eq_true _ ▸ fun file => exclusive ⟨hasInline, file⟩)
    rw [values]
    exact ⟨.inline text, rfl, .inl ⟨text, values, noFile, rfl⟩⟩
  · have hasFile : given.has .file = true := by
      simpa [hasInline] using required
    obtain ⟨path, values⟩ := admissible.exists_values_eq rfl hasFile
    have noText : given.values inline = [] :=
      has_eq_false.1 (Bool.not_eq_true _ ▸ hasInline)
    have judged : Parameter.judge .file path = none :=
      admissible.judge_eq_none (values ▸ List.mem_singleton_self path)
    have nonempty : path ≠ [] := by
      rintro rfl
      cases judged
    rw [noText, values]
    exact ⟨.stored (.ofPath path), rfl, .inr ⟨path, noText, values, nonempty, rfl⟩⟩

end Given

theorem inRange_of_number? {least number : Nat} {text : Text}
    (h : number? least text = some number) : InRange least number := by
  obtain ⟨-, range⟩ := Option.filter_eq_some_iff.1 h
  obtain ⟨low, high⟩ := Bool.and_eq_true_iff.1 range
  exact ⟨of_decide_eq_true low, of_decide_eq_true high⟩

theorem assignment?_eq_some {text name value : Text} (h : assignment? text = some (name, value)) :
    name ++ '=' :: value = text ∧ name ≠ [] ∧ '=' ∉ name := by
  obtain ⟨cut, nonempty⟩ := Option.filter_eq_some_iff.1 h
  obtain ⟨whole, noSign⟩ := splitAtEquals_eq_some cut
  exact ⟨whole, of_decide_eq_true nonempty, noSign⟩

theorem areAssignments {written : List Text} (h : ∀ text ∈ written, (assignment? text).isSome) :
    AreAssignments written (written.filterMap assignment?) := by
  induction written with
  | nil => exact ⟨rfl, nofun⟩
  | cons text written ih =>
    obtain ⟨here, later⟩ := List.forall_mem_cons.1 h
    obtain ⟨⟨name, value⟩, read⟩ := Option.isSome_iff_exists.1 here
    obtain ⟨whole, nonempty, noSign⟩ := assignment?_eq_some read
    obtain ⟨wholes, names⟩ := ih later
    rw [List.filterMap_cons_some read]
    refine ⟨?_, List.forall_mem_cons.2 ⟨⟨nonempty, noSign⟩, names⟩⟩
    rw [List.map_cons, wholes]
    exact congrArg (· :: written) whole

namespace Given

variable {given : Given}

theorem isSome_of_judged {α : Type} {read : Option α} {fault : UsageError}
    (h : (if read.isNone then some fault else none) = none) : read.isSome = true := by
  cases read with
  | none => cases h
  | some result => rfl

theorem Admissible.areAssignments (admissible : given.Admissible) {parameter : Parameter}
    (paired : parameter = .field ∨ parameter = .rawField) :
    AreAssignments (given.values parameter) (given.assignments parameter) := by
  refine CommandLine.areAssignments fun text mem => ?_
  have judged := admissible.judge_eq_none mem
  obtain rfl | rfl := paired <;> exact isSome_of_judged judged

theorem Admissible.exists_read? {α : Type} (admissible : given.Admissible)
    {parameter : Parameter} (read : Text → Option α) (fault : UsageError)
    (once : parameter.use.isRepeatable = false) (has : given.has parameter = true)
    (judge : ∀ value, parameter.judge value =
      if (read value).isNone then some fault else none) :
    ∃ value result, given.values parameter = [value] ∧ given.read? parameter read = some result ∧
      read value = some result := by
  obtain ⟨value, values⟩ := admissible.exists_values_eq once has
  have judged := admissible.judge_eq_none (values ▸ List.mem_singleton_self value)
  rw [judge] at judged
  obtain ⟨result, known⟩ := Option.isSome_iff_exists.1 (isSome_of_judged judged)
  refine ⟨value, result, values, ?_, known⟩
  rw [read?, value?, values]
  exact known

/-- Rules for the format of a result. -/
theorem oneFormat {rules : Rules} (keeps : rules.Keeps given)
    (exclusive : (.tree, .json) ∈ rules.exclusive) (companions : (.spans, .tree) ∈ rules.companions)
    (only : rules.excludes given .tree = given.has .json) : given.OneFormat := by
  refine ⟨keeps.exclusive _ exclusive, fun spans => ?_⟩
  rw [← only]
  exact keeps.companions _ companions spans

/-! ## Requests of the commands -/

theorem exists_queryRequest (admissible : given.Admissible)
    (keeps : Command.query.rules.Keeps given) :
    ∃ request, given.queryRequest = .ok request ∧
      given.WellFormed .query (.query request) := by
  obtain ⟨input, read, one⟩ := admissible.exists_input .query rfl
    (keeps.exclusive (.query, .file) (by decide)) (keeps.required [.query, .file] (by decide))
  have format : given.OneFormat :=
    oneFormat keeps (by decide) (by decide) (by simp [Rules.excludes, Command.rules])
  refine ⟨⟨input, given.value? .config, given.format⟩, ?_, one, format⟩
  rw [queryRequest, read]
  rfl

theorem Admissible.inRange_ordinal (admissible : given.Admissible) :
    InRange 1 ((given.read? .ordinal (number? 1)).getD 1) := by
  cases has : given.has .ordinal with
  | false =>
    rw [read?, value?, has_eq_false.1 has]
    exact ⟨Nat.le_refl 1, by decide⟩
  | true =>
    obtain ⟨text, number, -, read, known⟩ :=
      admissible.exists_read? (number? 1) .malformedValue rfl has fun _ => rfl
    rw [read]
    exact inRange_of_number? known

theorem exists_templateRequest (admissible : given.Admissible)
    (keeps : Command.template.rules.Keeps given) :
    ∃ request, given.templateRequest = .ok request ∧
      given.WellFormed .template (.template request) := by
  obtain ⟨input, read, one⟩ := admissible.exists_input .template rfl
    (keeps.exclusive (.template, .file) (by decide))
    (keeps.required [.template, .file] (by decide))
  have format : given.OneFormat :=
    oneFormat keeps (by decide) (by decide) (by simp [Rules.excludes, Command.rules])
  rw [templateRequest, read]
  exact ⟨_, rfl, one, format, admissible.inRange_ordinal, admissible.areAssignments (.inl rfl),
    admissible.areAssignments (.inr rfl)⟩

theorem exists_completeRequest (admissible : given.Admissible)
    (keeps : Command.complete.rules.Keeps given) :
    ∃ request, given.completeRequest = .ok request ∧
      given.WellFormed .complete (.complete request) := by
  have hasQuery : given.has .query = true := by simpa using keeps.required [.query] (by decide)
  have hasOffset : given.has .offset = true := by simpa using keeps.required [.offset] (by decide)
  obtain ⟨query, values⟩ := admissible.exists_values_eq rfl hasQuery
  obtain ⟨text, offset, -, read, known⟩ :=
    admissible.exists_read? (number? 0) .malformedValue rfl hasOffset fun _ => rfl
  refine ⟨⟨query, offset, given.has .explicit, given.has .json⟩, ?_, values,
    inRange_of_number? known⟩
  rw [completeRequest, read, value?, values]
  rfl

theorem exists_highlightRequest (admissible : given.Admissible)
    (keeps : Command.highlight.rules.Keeps given) :
    ∃ request, given.highlightRequest = .ok request ∧
      given.WellFormed .highlight (.highlight request) := by
  obtain ⟨input, readInput, one⟩ := admissible.exists_input .source rfl
    (keeps.exclusive (.source, .file) (by decide)) (keeps.required [.source, .file] (by decide))
  have hasLanguage : given.has .language = true := by
    simpa using keeps.required [.language] (by decide)
  obtain ⟨name, language, -, read, -⟩ :=
    admissible.exists_read? Language.ofName? .unusableValue rfl hasLanguage fun _ => rfl
  refine ⟨⟨language, input, given.has .json⟩, ?_, one⟩
  rw [highlightRequest, readInput, read]
  rfl

/-- What keeps the rules of a command is a request to it. -/
theorem exists_request {command : Command} (known : command ≠ .help)
    (admissible : given.Admissible) (keeps : command.rules.Keeps given) :
    ∃ request, given.request command = .ok request ∧ given.WellFormed command request := by
  cases command with
  | help => exact absurd rfl known
  | query =>
    obtain ⟨request, made, fits⟩ := exists_queryRequest admissible keeps
    exact ⟨.query request, congrArg (Except.map Request.query) made, fits⟩
  | template =>
    obtain ⟨request, made, fits⟩ := exists_templateRequest admissible keeps
    exact ⟨.template request, congrArg (Except.map Request.template) made, fits⟩
  | complete =>
    obtain ⟨request, made, fits⟩ := exists_completeRequest admissible keeps
    exact ⟨.complete request, congrArg (Except.map Request.complete) made, fits⟩
  | highlight =>
    obtain ⟨request, made, fits⟩ := exists_highlightRequest admissible keeps
    exact ⟨.highlight request, congrArg (Except.map Request.highlight) made, fits⟩

end Given

/-- Accepted words are a request that is well formed. They stand for what is given in front of
    the command and behind it, every value for itself and in order, and no parameter is given
    more often than it may. -/
theorem accept_wellFormed {words : List Text} {command : Command} {before behind : Given}
    (h : accept words = .ok (command, before, behind)) :
    (∃ front name rest, words = front ++ name :: rest ∧ Command.ofName? name = some command ∧
      Spells sharedGrammar none [] front before ∧
      Spells command.grammar none command.grammar.placed rest behind) ∧
    before.Admissible ∧ behind.Admissible ∧
    ∃ request, parse words = .ok (Invocation.ofGiven request before behind) ∧
      behind.WellFormed command request := by
  obtain ⟨known, spells, admissible, admissible', keeps⟩ := accept_eq_ok h
  obtain ⟨request, made, fits⟩ := Given.exists_request known admissible' keeps
  refine ⟨spells, admissible, admissible', request, ?_, fits⟩
  rw [parse_eq, h]
  simp only [bind, Except.bind, made]
  rfl

/-- A template with options in all spellings, and byte ranges with JSON. -/
theorem accept_wellFormed_template :
    let words := ["-v", "template", "-vta", "--field=A=b=c", "--raw-field", "B=", "--ordinal",
      "+2", "--spans", "--json", "--color", "never"].map String.toList
    let behind : Given := [(.verbose, []), (.template, "a".toList), (.field, "A=b=c".toList),
      (.rawField, "B=".toList), (.ordinal, "+2".toList), (.spans, []), (.json, []),
      (.color, "never".toList)]
    accept words = .ok (.template, [(.verbose, [])], behind) ∧
    ∃ request, parse words = .ok (Invocation.ofGiven request [(.verbose, [])] behind) ∧
      behind.WellFormed .template request := by
  intro words behind
  have accepted : accept words = .ok (.template, [(.verbose, [])], behind) := by rfl
  exact ⟨accepted, (accept_wellFormed accepted).2.2.2⟩

/-- Byte ranges are accepted without the syntax tree, although they are its companion. -/
theorem accept_spans_json :
    let words := ["query", "-q", "a", "--spans", "--json"].map String.toList
    let behind : Given := [(.query, "a".toList), (.spans, []), (.json, [])]
    accept words = .ok (.query, [], behind) ∧ behind.has .spans = true ∧
      behind.has .tree = false ∧ ∃ invocation, parse words = .ok invocation :=
  ⟨rfl, rfl, rfl, _, rfl⟩

end Flashcard.CommandLine
