import Flashcard.Template.Json
import Flashcard.Text.Basic

/-!
# Parameters of the command line

A parameter is given by a long name after two dashes, by a letter after one
dash, or, like the language to highlight, by its place. Its use says whether it
takes a value and whether it may be given again, and `judge` which values it
takes.
-/

namespace Flashcard.CommandLine

/-- Why a command line is refused. Asking for help ends the reading of a command
    line too. -/
inductive UsageError where
  /-- Help was asked for. -/
  | helpRequested
  /-- The command line says nothing at all. -/
  | nothingGiven
  /-- There are parameters but no command. -/
  | missingCommand
  /-- A word stands where a command should and names none. -/
  | unknownCommand
  /-- A name, a letter or a word that the command does not know. -/
  | unknownArgument
  /-- A parameter has no value, an empty path, or a word that it does not list. -/
  | unusableValue
  /-- A value is not written as the parameter wants it. -/
  | malformedValue
  /-- A flag was given a value. -/
  | unexpectedValue
  /-- Parameters that exclude each other, or one that was given twice. -/
  | conflict
  /-- A parameter that the command needs. -/
  | missingArgument
deriving DecidableEq, Repr

namespace UsageError

/-- Help is no failure. -/
def exitCode : UsageError → Nat
  | helpRequested => 0
  | _ => 2

/-- What to tell the user. -/
def message : UsageError → Text
  | helpRequested => "commands: query, template, complete, highlight".toList
  | nothingGiven => "a command is needed: query, template, complete or highlight".toList
  | missingCommand => "a command is missing".toList
  | unknownCommand => "there is no such command".toList
  | unknownArgument => "there is an argument that the command does not know".toList
  | unusableValue => "a value is missing or not one of those allowed".toList
  | malformedValue => "a value is not well formed".toList
  | unexpectedValue => "a flag takes no value".toList
  | conflict => "arguments cannot be used together".toList
  | missingArgument => "a required argument is missing".toList

end UsageError

/-- How often a parameter is given and whether it takes a value. -/
inductive Use where
  /-- On or off. -/
  | flag
  /-- Counted. -/
  | counter
  /-- One value. -/
  | value
  /-- One value each time. -/
  | values
  /-- Asks for help. -/
  | help
deriving DecidableEq, Repr

namespace Use

/-- A value belongs to it. -/
def takesValue : Use → Bool
  | value | values => true
  | flag | counter | help => false

/-- It may be given again. -/
def isRepeatable : Use → Bool
  | counter | values => true
  | flag | value | help => false

end Use

/-- What can be given on a command line besides the command. -/
inductive Parameter where
  | query
  | template
  | source
  | file
  | config
  | field
  | rawField
  | side
  | ordinal
  | frontSide
  | css
  | offset
  | explicit
  | tree
  | spans
  | json
  | language
  | color
  | verbose
  | help
deriving DecidableEq, Repr

/-! ## Values -/

/-- Texts on both sides of the first equals sign. -/
def splitAtEquals : Text → Option (Text × Text)
  | [] => none
  | c :: rest =>
    if c = '=' then some ([], rest)
    else (splitAtEquals rest).map fun (name, value) => (c :: name, value)

/-- The two sides and the sign make up the text, and the first side has none. -/
theorem splitAtEquals_eq_some {text name value : Text}
    (h : splitAtEquals text = some (name, value)) :
    name ++ '=' :: value = text ∧ '=' ∉ name := by
  induction text generalizing name with
  | nil => simp [splitAtEquals] at h
  | cons c rest ih =>
    rw [splitAtEquals] at h
    split at h
    · next hc =>
      obtain ⟨rfl, rfl⟩ := Prod.mk.inj (Option.some.inj h)
      simp [hc]
    · next hc =>
      obtain ⟨⟨n, v⟩, hrest, he⟩ := Option.map_eq_some_iff.1 h
      obtain ⟨rfl, rfl⟩ := Prod.mk.inj he
      obtain ⟨happend, hmem⟩ := ih hrest
      simp [happend, hmem, Ne.symm hc]

/-- A field name and its value, written with an equals sign between them. -/
def assignment? (text : Text) : Option (Text × Text) :=
  (splitAtEquals text).filter fun (name, _) => name ≠ []

/-- Greatest number that a parameter takes. -/
def greatestNumber : Nat := Nat.pow 2 32 - 1

/-- Digits as a number. -/
def digits? (text : Text) : Option Nat :=
  if text ≠ [] ∧ text.all Char.isDigit then
    some (text.foldl (fun n c => 10 * n + (c.toNat - '0'.toNat)) 0)
  else none

/-- A number from `least` to the greatest, with an optional sign. -/
def number? (least : Nat) (text : Text) : Option Nat :=
  let number := match text with
    | '+' :: rest => digits? rest
    | '-' :: rest => (digits? rest).filter (· = 0)
    | digits => digits? digits
  number.filter fun n => least ≤ n && n ≤ greatestNumber

/-- Languages with a parser. -/
inductive Language where
  | query
  | template
deriving DecidableEq, Repr

/-- Language of a name. -/
def Language.ofName? (name : Text) : Option Language :=
  if name = "query".toList then some .query
  else if name = "template".toList then some .template
  else none

/-- When diagnostics are coloured. -/
inductive ColorChoice where
  /-- On a terminal only. -/
  | auto
  | always
  | never
deriving DecidableEq, Repr

namespace ColorChoice

/-- Choice of a name. -/
def ofName? (name : Text) : Option ColorChoice :=
  if name = "auto".toList then some auto
  else if name = "always".toList then some always
  else if name = "never".toList then some never
  else none

/-- Diagnostics are coloured. -/
def holds (terminal : Bool) : ColorChoice → Bool
  | auto => terminal
  | always => true
  | never => false

end ColorChoice

namespace Parameter

/-- Name after two dashes; a parameter that is given by its place has none. -/
def long? : Parameter → Option Text
  | query => some "query".toList
  | template => some "template".toList
  | source => some "source".toList
  | file => some "file".toList
  | config => some "config".toList
  | field => some "field".toList
  | rawField => some "raw-field".toList
  | side => some "side".toList
  | ordinal => some "ordinal".toList
  | frontSide => some "front-side".toList
  | css => some "css".toList
  | offset => some "offset".toList
  | explicit => some "explicit".toList
  | tree => some "cst".toList
  | spans => some "spans".toList
  | json => some "json".toList
  | language => none
  | color => some "color".toList
  | verbose => some "verbose".toList
  | help => some "help".toList

/-- Letter after one dash. -/
def short? : Parameter → Option Char
  | query => some 'q'
  | template => some 't'
  | source => some 's'
  | file => some 'f'
  | verbose => some 'v'
  | help => some 'h'
  | _ => none

/-- How a parameter is used. -/
def use : Parameter → Use
  | explicit | tree | spans | json => .flag
  | verbose => .counter
  | field | rawField => .values
  | help => .help
  | _ => .value

/-- Why a parameter does not take a value. -/
def judge (parameter : Parameter) (value : Text) : Option UsageError :=
  match parameter with
  | file | config | css => if value = [] then some .unusableValue else none
  | side => if (Side.ofName? value).isNone then some .unusableValue else none
  | language => if (Language.ofName? value).isNone then some .unusableValue else none
  | color => if (ColorChoice.ofName? value).isNone then some .unusableValue else none
  | field | rawField => if (assignment? value).isNone then some .malformedValue else none
  | ordinal => if (number? 1 value).isNone then some .malformedValue else none
  | offset => if (number? 0 value).isNone then some .malformedValue else none
  | _ => none

end Parameter

end Flashcard.CommandLine
