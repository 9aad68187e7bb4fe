import Flashcard.Diagnostic.Basic
import Flashcard.Highlight
import Flashcard.Json.Basic

/-!
# Ranges and diagnostics as JSON

A range is written as its first byte and the byte after its last.
-/

namespace Flashcard

/-- Members for a range. -/
def Span.members (span : Span) : List (Text × Json) :=
  [("from".toList, .integer span.start), ("to".toList, .integer span.stop)]

/-- A diagnostic as JSON. -/
def Diagnostic.toJson (diagnostic : Diagnostic) : Json :=
  .object (diagnostic.span.members ++
    [("severity".toList, .string diagnostic.severity.name),
      ("message".toList, .string diagnostic.message)])

/-- Diagnostics as JSON. -/
def Diagnostics.toJson (diagnostics : Diagnostics) : Json :=
  .array (diagnostics.map Diagnostic.toJson)

/-- The class of a token as JSON. -/
def HighlightSpan.toJson (highlighted : HighlightSpan) : Json :=
  .object (highlighted.span.members ++
    [("class".toList, .string highlighted.highlight.name)])

end Flashcard
