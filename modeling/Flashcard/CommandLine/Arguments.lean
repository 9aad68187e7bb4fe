import Flashcard.CommandLine.Parameter

/-!
# Reading a command line

The words of a command line are read from left to right. A word with dashes in
front names parameters, also when a value is awaited; any other word is the
awaited value, the command, or a parameter given by its place. After two dashes
alone every word is taken by its place. A value is judged when the next
parameter begins, so of two faults the earlier one is not always the one that is
reported.
-/

namespace Flashcard.CommandLine

/-- What the program can be told to do. -/
inductive Command where
  /-- Compile a query. -/
  | query
  /-- Render a template. -/
  | template
  /-- Complete a query. -/
  | complete
  /-- Classify the tokens of a source. -/
  | highlight
  /-- Explain the commands. -/
  | help
deriving DecidableEq, Repr

/-- Command of a name. -/
def Command.ofName? (name : Text) : Option Command :=
  if name = "query".toList then some .query
  else if name = "template".toList then some .template
  else if name = "complete".toList then some .complete
  else if name = "highlight".toList then some .highlight
  else if name = "help".toList then some .help
  else none

/-! ## Words -/

/-- What a word looks like. -/
inductive Word where
  /-- Two dashes and nothing else. -/
  | dashes
  /-- A long name, perhaps with a value behind an equals sign. -/
  | long (name : Text) (value : Option Text)
  /-- Letters behind one dash. -/
  | short (letters : Text)
  /-- Anything else, a dash on its own included. -/
  | plain
deriving DecidableEq, Repr

/-- What a word looks like. -/
def Word.ofText : Text → Word
  | ['-', '-'] => .dashes
  | '-' :: '-' :: rest =>
    match splitAtEquals rest with
    | some (name, value) => .long name (some value)
    | none => .long rest none
  | ['-'] => .plain
  | '-' :: letters => .short letters
  | _ => .plain

/-! ## Reading -/

/-- Parameters that were given with their values, in order. Flags have an empty
    value. -/
abbrev Given := List (Parameter × Text)

namespace Given

/-- A parameter was given. -/
def has (given : Given) (parameter : Parameter) : Bool := given.any (·.1 = parameter)

/-- Values of a parameter, in order. -/
def values (given : Given) (parameter : Parameter) : List Text :=
  (given.filter (·.1 = parameter)).map (·.2)

/-- Value of a parameter that is given once. -/
def value? (given : Given) (parameter : Parameter) : Option Text := (given.values parameter).head?

end Given

/-- What a reader of words knows: the parameters that it may meet. -/
structure Grammar where
  /-- Parameters with a name. -/
  named : List Parameter
  /-- Parameters by place. -/
  placed : List Parameter
  /-- A command is expected. -/
  wantsCommand : Bool

namespace Grammar

/-- Parameter of a long name. -/
def ofLong? (grammar : Grammar) (name : Text) : Option Parameter :=
  grammar.named.find? (·.long? = some name)

/-- Parameter of a letter. -/
def ofShort? (grammar : Grammar) (letter : Char) : Option Parameter :=
  grammar.named.find? (·.short? = some letter)

/-- Fault of a word that has no place. Behind two dashes the name of a command
    is an argument that does not belong there. -/
def surplus (grammar : Grammar) (trailing : Bool) (word : Text) : UsageError :=
  if grammar.wantsCommand && !(trailing && (Command.ofName? word).isSome) then .unknownCommand
  else .unknownArgument

end Grammar

/-- A parameter that began and is not judged yet. -/
inductive Pending where
  | nothing
  /-- The parameter waits for its value. -/
  | awaiting (parameter : Parameter)
  | complete (parameter : Parameter) (value : Text)
deriving DecidableEq, Repr

/-- How far a command line is read. -/
structure Reading where
  given : Given
  pending : Pending
  /-- Parameters by place that are still free. -/
  free : List Parameter

namespace Reading

/-- Adds a parameter with its value, unless it was given before or does not
    take the value. -/
def take (reading : Reading) (parameter : Parameter) (value : Text) :
    Except UsageError Reading :=
  if parameter.use = .help then .error .helpRequested
  else if !parameter.use.isRepeatable && reading.given.has parameter then .error .conflict
  else
    match parameter.judge value with
    | some fault => .error fault
    | none => .ok { reading with given := reading.given ++ [(parameter, value)] }

/-- Adds the pending parameter. -/
def settle (reading : Reading) : Except UsageError Reading :=
  match reading.pending with
  | .nothing => .ok reading
  | .awaiting _ => .error .unusableValue
  | .complete parameter value => { reading with pending := .nothing }.take parameter value

/-- A flag. -/
def flag (reading : Reading) (parameter : Parameter) : Except UsageError Reading := do
  let reading ← reading.settle
  reading.take parameter []

/-- A parameter whose value is attached or comes as the next word. -/
def valued (reading : Reading) (parameter : Parameter) (attached : Option Text) :
    Except UsageError Reading := do
  let reading ← reading.settle
  match attached with
  | some value => reading.take parameter value
  | none => .ok { reading with pending := .awaiting parameter }

/-- A long name. -/
def long (grammar : Grammar) (reading : Reading) (name : Text) (value : Option Text) :
    Except UsageError Reading :=
  match grammar.ofLong? name with
  | none => .error .unknownArgument
  | some parameter =>
    if parameter.use.takesValue then reading.valued parameter value
    else if value.isSome then .error .unexpectedValue
    else reading.flag parameter

/-- Value attached to a letter: what follows it, without one equals sign. -/
def attached : Text → Option Text
  | [] => none
  | '=' :: value => some value
  | value => some value

/-- Letters behind one dash: flags, up to a parameter that takes the rest as its
    value. -/
def letters (grammar : Grammar) (reading : Reading) : Text → Except UsageError Reading
  | [] => .ok reading
  | letter :: rest =>
    match grammar.ofShort? letter with
    | none => .error .unknownArgument
    | some parameter =>
      if parameter.use.takesValue then reading.valued parameter (attached rest)
      else
        match reading.flag parameter with
        | .ok reading => letters grammar reading rest
        | .error fault => .error fault

/-- A word that is taken by its place. -/
def placed (grammar : Grammar) (trailing : Bool) (reading : Reading) (word : Text) :
    Except UsageError Reading :=
  match reading.free with
  | [] => .error (grammar.surplus trailing word)
  | parameter :: free => do
    let reading ← reading.settle
    return { reading with pending := .complete parameter word, free := free }

/-- A word without dashes in front. -/
def plain (grammar : Grammar) (reading : Reading) (word : Text) : Except UsageError Reading :=
  match reading.pending with
  | .awaiting parameter => .ok { reading with pending := .complete parameter word }
  | _ => reading.placed grammar false word

/-- Command that a word names. An awaited value is no command. -/
def command? (grammar : Grammar) (reading : Reading) (word : Text) : Option Command :=
  match reading.pending with
  | .awaiting _ => none
  | _ => if grammar.wantsCommand then Command.ofName? word else none

/-- Words behind two dashes. -/
def trailing (grammar : Grammar) (reading : Reading) : List Text → Except UsageError Reading
  | [] => .ok reading
  | word :: rest => do
    let reading ← reading.placed grammar true word
    trailing grammar reading rest

/-- Reads words up to a command, which is returned with the words behind it. -/
def words (grammar : Grammar) (reading : Reading) :
    List Text → Except UsageError (Reading × Option (Command × List Text))
  | [] => .ok (reading, none)
  | word :: rest =>
    match reading.command? grammar word with
    | some command => .ok (reading, some (command, rest))
    | none =>
      match Word.ofText word with
      | .dashes => do
        let reading ← reading.trailing grammar rest
        return (reading, none)
      | .long name value => do
        let reading ← reading.long grammar name value
        words grammar reading rest
      | .short letters => do
        let reading ← reading.letters grammar letters
        words grammar reading rest
      | .plain => do
        let reading ← reading.plain grammar word
        words grammar reading rest

/-- A reader of the grammar before its first word. -/
def start (grammar : Grammar) : Reading := ⟨[], .nothing, grammar.placed⟩

end Reading

end Flashcard.CommandLine
