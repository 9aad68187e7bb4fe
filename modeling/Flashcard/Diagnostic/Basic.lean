import Flashcard.Syntax.Tree

/-!
# Diagnostics

A diagnostic says what is wrong with a range of a source. Its kind fixes its
severity and its wording; some wordings name a detail such as a field.
-/

namespace Flashcard

/-- How much a diagnostic matters: errors make a command fail. -/
inductive Severity where
  | error
  | warning
deriving DecidableEq, Repr

/-- Word for a severity. -/
def Severity.name : Severity → Text
  | error => "error".toList
  | warning => "warning".toList

/-- What can be wrong with a source. -/
inductive DiagnosticKind where
  /-- The source breaks the grammar. -/
  | syntaxError
  /-- A field reference goes through a transformer that does not exist. -/
  | unknownTransformer
  /-- A conditional block has transformers. -/
  | transformersOnConditional
  /-- A reference names no field of the note. -/
  | unknownField
  /-- A conditional block names no field of the note. -/
  | unknownConditionalField
  /-- A conditional block has no close tag. -/
  | unclosedConditional
  /-- A cloze field has deletions, but none for the card. -/
  | missingClozeOrdinal
deriving DecidableEq, Repr

/-- Wording of a message that may name a detail. -/
inductive Wording where
  /-- The same whatever the detail. -/
  | fixed (text : Text)
  /-- The detail stands between two texts. -/
  | around (before after : Text)
deriving DecidableEq, Repr

namespace Wording

/-- The wording with its detail filled in. -/
def fill (wording : Wording) (detail : Text) : Text :=
  match wording with
  | fixed text => text
  | around before after => before ++ detail ++ after

end Wording

namespace DiagnosticKind

/-- Name of a kind. -/
def name : DiagnosticKind → Text
  | syntaxError => "SyntaxError".toList
  | unknownTransformer => "UnknownTransformer".toList
  | transformersOnConditional => "TransformersOnConditional".toList
  | unknownField => "UnknownField".toList
  | unknownConditionalField => "UnknownConditionalField".toList
  | unclosedConditional => "UnclosedConditional".toList
  | missingClozeOrdinal => "MissingClozeOrdinal".toList

/-- All kinds, from syntax to semantics. -/
def all : List DiagnosticKind :=
  [syntaxError, unknownTransformer, transformersOnConditional, unknownField,
    unknownConditionalField, unclosedConditional, missingClozeOrdinal]

/-- Errors drop a part of the output; warnings keep rendering. -/
def severity : DiagnosticKind → Severity
  | syntaxError | unknownTransformer | transformersOnConditional => .error
  | unknownField | unknownConditionalField | unclosedConditional | missingClozeOrdinal => .warning

/-- Message without a detail. -/
def generalMessage : DiagnosticKind → Text
  | syntaxError => "Syntax error.".toList
  | unknownTransformer => "unknown transformer".toList
  | transformersOnConditional => "conditional blocks cannot use transformers".toList
  | unknownField => "unknown field".toList
  | unknownConditionalField => "unknown field in conditional".toList
  | unclosedConditional => "conditional block is never closed".toList
  | missingClozeOrdinal => "no cloze deletion for this card".toList

/-- Wording of the message with a detail. A syntax error is always worded the
    same. -/
def wording : DiagnosticKind → Wording
  | syntaxError => .fixed syntaxError.generalMessage
  | unknownTransformer => .around "unknown transformer `".toList "`".toList
  | transformersOnConditional =>
    .around (transformersOnConditional.generalMessage ++ ": ".toList) []
  | unknownField => .around "unknown field `".toList "`, rendered as text".toList
  | unknownConditionalField => .around "unknown field `".toList "`, treated as empty".toList
  | unclosedConditional => .around "`".toList "` is never closed".toList
  | missingClozeOrdinal => .around "`".toList "` has no cloze deletion for this card".toList

/-- Message of a kind, naming the detail if there is one. -/
def message (kind : DiagnosticKind) : Option Text → Text
  | none => kind.generalMessage
  | some detail => kind.wording.fill detail

end DiagnosticKind

/-- What is wrong with a range of a source. -/
structure Diagnostic where
  kind : DiagnosticKind
  span : Span
  message : Text
deriving DecidableEq, Repr

namespace Diagnostic

/-- The diagnostic of a kind for a range, naming the detail if there is one. -/
def report (kind : DiagnosticKind) (span : Span) (detail : Option Text) : Diagnostic :=
  ⟨kind, span, kind.message detail⟩

/-- Severity of a diagnostic. -/
def severity (diagnostic : Diagnostic) : Severity := diagnostic.kind.severity

/-- The diagnostic is an error. -/
def isError (diagnostic : Diagnostic) : Bool := diagnostic.severity == .error

/-- The diagnostic is a warning. -/
def isWarning (diagnostic : Diagnostic) : Bool := diagnostic.severity == .warning

/-- A diagnostic on one line, with its range in bytes. -/
def line (diagnostic : Diagnostic) : Text :=
  diagnostic.severity.name ++ " at ".toList ++ Text.ofNat diagnostic.span.start ++ "..".toList ++
    Text.ofNat diagnostic.span.stop ++ ": ".toList ++ diagnostic.message

end Diagnostic

/-- Diagnostics in the order in which they were found. -/
abbrev Diagnostics := List Diagnostic

namespace Diagnostics

/-- The errors, in order. -/
def errors (diagnostics : Diagnostics) : Diagnostics := diagnostics.filter (·.isError)

/-- The warnings, in order. -/
def warnings (diagnostics : Diagnostics) : Diagnostics := diagnostics.filter (·.isWarning)

/-- One of the diagnostics is an error. -/
def hasErrors (diagnostics : Diagnostics) : Bool := diagnostics.any (·.isError)

/-- One of the diagnostics is a warning. -/
def hasWarnings (diagnostics : Diagnostics) : Bool := diagnostics.any (·.isWarning)

/-- The diagnostics on one line each. -/
def lines (diagnostics : Diagnostics) : Text :=
  Text.join ['\n'] (diagnostics.map (·.line))

end Diagnostics

end Flashcard
