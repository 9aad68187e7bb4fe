import Flashcard.CommandLine.Arguments

/-!
# Invocations

An invocation is a command line that was accepted: the command with its
options, all in the types that the command works on, and what holds for every
command. Some parameters exclude each other, some are needed, and some need
another; a parameter whose companion is excluded by what was given is accepted
without it.
-/

namespace Flashcard.CommandLine

/-! ## Rules -/

/-- Which parameters go together. -/
structure Rules where
  /-- Pairs that are not given together. -/
  exclusive : List (Parameter × Parameter)
  /-- Rows of which at least one is given. -/
  required : List (List Parameter)
  /-- A parameter and the one that it is given with. -/
  companions : List (Parameter × Parameter)

namespace Rules

/-- A parameter that was given excludes this one. -/
def excludes (rules : Rules) (given : Given) (parameter : Parameter) : Bool :=
  rules.exclusive.any fun (a, b) =>
    (a = parameter && given.has b) || (b = parameter && given.has a)

/-- Two parameters exclude each other. -/
def clash (rules : Rules) (given : Given) : Bool :=
  rules.exclusive.any fun (a, b) => given.has a && given.has b

/-- A parameter lacks its companion. -/
def lacksCompanion (rules : Rules) (given : Given) : Bool :=
  rules.companions.any fun (a, b) => given.has a && !given.has b && !rules.excludes given b

/-- None of the parameters of a row that is needed was given. -/
def lacksRequired (rules : Rules) (given : Given) : Bool :=
  rules.required.any fun row => !row.any (given.has ·)

/-- The rules hold, or what breaks them: conflicts come first. -/
def check (rules : Rules) (given : Given) : Except UsageError Unit :=
  if rules.clash given then .error .conflict
  else if rules.lacksRequired given || rules.lacksCompanion given then .error .missingArgument
  else .ok ()

end Rules

/-- Parameters that every command takes. -/
def sharedParameters : List Parameter := [.color, .verbose, .help]

/-- What stands in front of a command. -/
def sharedGrammar : Grammar := ⟨sharedParameters, [], true⟩

namespace Command

/-- Parameters of a command. -/
def grammar : Command → Grammar
  | query => ⟨[.query, .file, .config, .tree, .spans, .json] ++ sharedParameters, [], false⟩
  | template =>
    ⟨[.template, .file, .field, .rawField, .side, .ordinal, .frontSide, .css, .tree, .spans,
      .json] ++ sharedParameters, [], false⟩
  | complete => ⟨[.query, .offset, .explicit, .json] ++ sharedParameters, [], false⟩
  | highlight => ⟨[.source, .file, .json] ++ sharedParameters, [.language], false⟩
  | help => ⟨[], [], true⟩

/-- Rules of a command. -/
def rules : Command → Rules
  | query =>
    ⟨[(.query, .file), (.tree, .json)], [[.query, .file]], [(.spans, .tree)]⟩
  | template =>
    ⟨[(.template, .file), (.tree, .json)], [[.template, .file]], [(.spans, .tree)]⟩
  | complete => ⟨[], [[.query], [.offset]], []⟩
  | highlight => ⟨[(.source, .file)], [[.source, .file], [.language]], []⟩
  | help => ⟨[], [], []⟩

/-- Reads the words behind a command. -/
def read (command : Command) (words : List Text) : Except UsageError Given := do
  let (reading, _) ← (Reading.start command.grammar).words command.grammar words
  let reading ← reading.settle
  command.rules.check reading.given
  return reading.given

end Command

/-- What the words behind `help` ask for: help, if they name at most one
    command. -/
def helpOn : List Text → UsageError
  | [] => .helpRequested
  | [name] => if (Command.ofName? name).isSome then .helpRequested else .unknownCommand
  | _ => .unknownCommand

/-! ## Requests -/

/-- Where a source comes from. -/
inductive Source where
  | standardInput
  | file (path : Text)
deriving DecidableEq, Repr

namespace Source

/-- Source of a path; a dash stands for the standard input. -/
def ofPath (path : Text) : Source := if path = ['-'] then .standardInput else .file path

/-- Name in a message about the source. -/
def name : Source → Text
  | standardInput => ['-']
  | file path => path

/-- Name in a report on the source. -/
def title : Source → Text
  | standardInput => "<stdin>".toList
  | file path => path

end Source

/-- What a command works on. -/
inductive Input where
  /-- A text on the command line. -/
  | inline (text : Text)
  /-- A text that is read. -/
  | stored (source : Source)
deriving DecidableEq, Repr

/-- How a result is written. -/
inductive Format where
  | plain
  | json
  /-- The syntax tree in place of the result. -/
  | tree (spans : Bool)
deriving DecidableEq, Repr

/-- A request to compile a query. -/
structure QueryRequest where
  input : Input
  /-- File with the fragments of the predicate. -/
  config : Option Text
  format : Format
deriving DecidableEq, Repr

/-- A request to render a template. -/
structure TemplateRequest where
  input : Input
  /-- Fields whose values are escaped. -/
  fields : List (Text × Text)
  /-- Fields whose values are markup. -/
  rawFields : List (Text × Text)
  side : Side
  ordinal : Nat
  frontSide : Option Text
  /-- File with the style sheet. -/
  css : Option Text
  format : Format
deriving DecidableEq, Repr

/-- A request to complete a query. -/
structure CompleteRequest where
  query : Text
  offset : Nat
  explicit : Bool
  json : Bool
deriving DecidableEq, Repr

/-- A request to classify the tokens of a source. -/
structure HighlightRequest where
  language : Language
  input : Input
  json : Bool
deriving DecidableEq, Repr

/-- What a command is asked to do. -/
inductive Request where
  | query (request : QueryRequest)
  | template (request : TemplateRequest)
  | complete (request : CompleteRequest)
  | highlight (request : HighlightRequest)
deriving DecidableEq, Repr

namespace Given

/-- The input: a text under the parameter `inline`, or a file. -/
def input (given : Given) (inline : Parameter) : Except UsageError Input :=
  match given.value? inline, given.value? .file with
  | some text, _ => .ok (.inline text)
  | none, some path => .ok (.stored (.ofPath path))
  | none, none => .error .missingArgument

/-- How the result is to be written. -/
def format (given : Given) : Format :=
  if given.has .tree then .tree (given.has .spans)
  else if given.has .json then .json
  else .plain

/-- Values of a parameter that pairs names with values. -/
def assignments (given : Given) (parameter : Parameter) : List (Text × Text) :=
  (given.values parameter).filterMap assignment?

/-- Value of a parameter, read by `read`. -/
def read? {α : Type} (given : Given) (parameter : Parameter) (read : Text → Option α) :
    Option α :=
  (given.value? parameter).bind read

/-- Request to compile a query. -/
def queryRequest (given : Given) : Except UsageError QueryRequest := do
  let input ← given.input .query
  return ⟨input, given.value? .config, given.format⟩

/-- Request to render a template. The side is the question and the ordinal 1,
    unless given otherwise. -/
def templateRequest (given : Given) : Except UsageError TemplateRequest := do
  let input ← given.input .template
  return {
    input
    fields := given.assignments .field
    rawFields := given.assignments .rawField
    side := (given.read? .side Side.ofName?).getD .question
    ordinal := (given.read? .ordinal (number? 1)).getD 1
    frontSide := given.value? .frontSide
    css := given.value? .css
    format := given.format }

/-- Request to complete a query. -/
def completeRequest (given : Given) : Except UsageError CompleteRequest :=
  match given.value? .query, given.read? .offset (number? 0) with
  | some query, some offset => .ok ⟨query, offset, given.has .explicit, given.has .json⟩
  | _, _ => .error .missingArgument

/-- Request to classify the tokens of a source. -/
def highlightRequest (given : Given) : Except UsageError HighlightRequest := do
  let input ← given.input .source
  match given.read? .language Language.ofName? with
  | some language => return ⟨language, input, given.has .json⟩
  | none => .error .missingArgument

/-- Request to a command. -/
def request (given : Given) : Command → Except UsageError Request
  | .query => given.queryRequest.map .query
  | .template => given.templateRequest.map .template
  | .complete => given.completeRequest.map .complete
  | .highlight => given.highlightRequest.map .highlight
  | .help => .error .helpRequested

end Given

/-! ## Invocations -/

/-- How much is logged. -/
inductive LogLevel where
  | warnings
  | progress
  | details
  | everything
deriving DecidableEq, Repr

/-- Level for the number of times that more was asked for. -/
def LogLevel.ofCount : Nat → LogLevel
  | 0 => warnings
  | 1 => progress
  | 2 => details
  | _ => everything

/-- An accepted command line. -/
structure Invocation where
  request : Request
  color : ColorChoice
  level : LogLevel
deriving DecidableEq, Repr

/-- Colours and level of detail: what is given behind the command counts, else
    what is given before it. -/
def Invocation.ofGiven (request : Request) (before behind : Given) : Invocation where
  request
  color := ((behind.read? .color ColorChoice.ofName?).orElse fun _ =>
    before.read? .color ColorChoice.ofName?).getD .auto
  level := LogLevel.ofCount (if behind.has .verbose then (behind.values .verbose).length
    else (before.values .verbose).length)

/-- Reads a command line. The words behind the command are read to their end
    before the last parameter in front of it is judged. -/
def parse (words : List Text) : Except UsageError Invocation := do
  let (reading, command?) ← (Reading.start sharedGrammar).words sharedGrammar words
  match command? with
  | none =>
    let reading ← reading.settle
    .error (if reading.given = [] then .nothingGiven else .missingCommand)
  | some (.help, rest) => .error (helpOn rest)
  | some (command, rest) =>
    let behind ← command.read rest
    let reading ← reading.settle
    let request ← behind.request command
    return Invocation.ofGiven request reading.given behind

end Flashcard.CommandLine
