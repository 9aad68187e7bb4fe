import Flashcard.CommandLine.Run

/-!
# The log of a command

A command tells what it does while it does it: a file was read, a source was cut into tokens
and parsed, and so on to the result. Each event has a level, and the command line says up to
which level events are logged. The log goes to the error stream, where the reports on a source
go too.
-/

namespace Flashcard.CommandLine

namespace LogLevel

/-- How much is logged, as a number. -/
def rank : LogLevel → Nat
  | warnings => 0
  | progress => 1
  | details => 2
  | everything => 3

/-- What is logged at the other level is logged at this one. -/
def includes (level other : LogLevel) : Bool := other.rank ≤ level.rank

/-- Name of a level in the log. -/
def name : LogLevel → Text
  | warnings => "WARN".toList
  | progress => "INFO".toList
  | details => "DEBUG".toList
  | everything => "TRACE".toList

theorem includes_details_ofCount (count : Nat) :
    (ofCount count).includes details = true ↔ 2 ≤ count := by
  match count with
  | 0 | 1 | 2 => decide
  | count + 3 => exact ⟨fun _ => by omega, fun _ => rfl⟩

end LogLevel

/-! ## Events -/

/-- Something that happened, with what is told about it. -/
structure Event where
  /-- The first level at which it is logged. -/
  level : LogLevel
  message : Text
  fields : List (Text × Text)
deriving DecidableEq, Repr

namespace Event

/-- An event that is told in numbers. -/
def counted (level : LogLevel) (message : Text) (counts : List (String × Nat)) : Event :=
  ⟨level, message, counts.map fun (name, count) => (name.toList, Text.ofNat count)⟩

/-- A file was read. -/
def loaded (path text : Text) : Event where
  level := .details
  message := "loaded input".toList
  fields := [("path".toList, path), ("len".toList, Text.ofNat text.size)]

/-- A source was cut into tokens, and these were parsed. -/
def parsing (language : Language) (source : Text) : List Event :=
  let (name, tokens) := match language with
    | .query => ("query".toList, (Query.tokenize source).length)
    | .template => ("template".toList, (Template.tokenize source).length)
  [counted .everything ("lexed ".toList ++ name) [("tokens", tokens)],
    counted .details ("parsed ".toList ++ name) [("len", source.size)]]

/-- A tree was searched for syntax errors. -/
def linted (κ : Type) [Vocabulary κ] (found : Diagnostics) : Event :=
  counted .details ("linted ".toList ++ Vocabulary.name (Vocabulary.root : κ))
    [("errors", found.length)]

/-- A query was compiled. -/
def compiled (predicate : Query.Predicate) : Event :=
  counted .details "compiled query".toList [("params", predicate.parameters.length)]

/-- A template was rendered. -/
def rendered (found : Diagnostics) : Event :=
  counted .details "compiled template".toList
    [("errors", found.errors.length), ("warnings", found.warnings.length)]

/-- Completions are offered. -/
def completing (completions : Query.Completions) : Event :=
  counted .everything "completing query prefixes".toList
    [("from", completions.span.start), ("to", completions.span.stop)]

/-- The tokens of a tree were classified. -/
def highlighted (κ : Type) [Vocabulary κ] (tokens : List HighlightSpan) : Event :=
  counted .everything ("highlighted ".toList ++ Vocabulary.name (Vocabulary.root : κ))
    [("spans", tokens.length)]

/-- The event on a line, without the time at which it happened. -/
def line (event : Event) : Text :=
  event.level.name ++ [' '] ++ event.message ++
    event.fields.flatMap fun (name, value) => [' '] ++ name ++ ['='] ++ value

end Event

/-- What is told about a text that was loaded. Only files are told about. -/
def Input.events (input : Input) (text : Text) : List Event :=
  match input with
  | .stored (.file path) => [.loaded path text]
  | .stored .standardInput | .inline _ => []

/-! ## The error stream -/

/-- Something that is written to the error stream. -/
inductive Notice where
  /-- A report on a source. -/
  | report (text : Text)
  /-- A line of the log. -/
  | logged (event : Event)
deriving DecidableEq, Repr

namespace Notice

/-- The report, if it is one. -/
def report? : Notice → Option Text
  | report text => some text
  | logged _ => none

/-- Reports are always shown, and events at their level. -/
def isShown (level : LogLevel) : Notice → Bool
  | report _ => true
  | logged event => level.includes event.level

/-- What is written. -/
def text : Notice → Text
  | report text => text
  | logged event => event.line ++ ['\n']

end Notice

/-- The reports on a text: one on all diagnostics, if there are any. -/
def Loaded.reports (loaded : Loaded) (colored : Bool) (diagnostics : Diagnostics) : List Text :=
  if diagnostics.isEmpty then [] else [loaded.report colored diagnostics]

end Flashcard.CommandLine
