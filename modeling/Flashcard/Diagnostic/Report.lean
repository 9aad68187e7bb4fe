import Flashcard.Diagnostic.Row
import Flashcard.Text.Display
import Flashcard.Text.Lines
import Flashcard.Unicode.Blank

/-!
# Annotated reports

A report shows a diagnostic with the source lines that it covers: a title, the
place of its first character if the source has a name, and the lines beside
their numbers. A range on one line is underlined with its message behind; one
over several lines is drawn as a bracket in front of the code, and of a long
one only the first lines and the end are shown.
-/

namespace Flashcard

/-! ## Which lines are shown -/

/-- The line tells a reader little: it is blank, a bracket on its own or a plain
    comment. -/
def Line.isFiller (line : Line) : Bool :=
  let code := Unicode.trim line.content
  code = [] || [['{'], ['}'], ['('], [')'], ['['], [']']].contains code ||
    ("//".toList.isPrefixOf code &&
      !("///".toList.isPrefixOf code || "//!".toList.isPrefixOf code))

/-- What is shown of the lines behind the first. -/
inductive Excerpt where
  | line (index : Nat)
  /-- Two or more lines that are left out. -/
  | gap
deriving DecidableEq, Repr

/-- Excerpts from the line behind `previous` up to the line `index`: a single
    line between them is shown, more are left out. -/
def Excerpt.upTo (previous index : Nat) : List Excerpt :=
  if index ≤ previous + 1 then [.line index]
  else if index = previous + 2 then [.line (previous + 1), .line index]
  else [.gap, .line index]

/-- Excerpts up to each of the lines in turn. -/
def Excerpt.through (previous : Nat) : List Nat → List Excerpt
  | [] => []
  | index :: rest => Excerpt.upTo previous index ++ Excerpt.through index rest

/-- Lines at the head of a long range that are always looked at. -/
def headLines : Nat := 4

/-- Lines worth showing of a range from the line `first` to the line `last`,
    behind the first: those at its head without the fillers that end it, the
    last but one unless it is a filler, and the last. -/
def keyLines (lines : List Line) (first last : Nat) : List Nat :=
  let filler (index : Nat) : Bool := (lines[index]?.map Line.isFiller).getD true
  let head := min (first + headLines) last
  let opening := (List.range' (first + 1) (head - (first + 1))).reverse.dropWhile filler
  opening.reverse ++ (if head + 1 < last && !filler (last - 1) then [last - 1] else []) ++ [last]

/-! ## Frame -/

/-- What the rows of a report share. -/
structure Frame where
  severity : Severity
  /-- Columns of the line numbers. -/
  numberWidth : Nat

namespace Frame

/-- A run in the colour of the severity. -/
def mark (frame : Frame) (text : Text) : Run := ⟨.mark frame.severity, text⟩

/-- Row beside the bar without a line number. -/
def row (frame : Frame) (body : Row) : Row :=
  [Run.blanks (frame.numberWidth + 1), ⟨.gutter, ['|']⟩] ++ body

/-- Row beside the bar with the number of the line at `index`. -/
def numberedRow (frame : Frame) (index : Nat) (body : Row) : Row :=
  let digits := Text.ofNat (index + 1)
  let number := List.replicate (frame.numberWidth - digits.length) ' ' ++ digits
  [⟨.gutter, number⟩, Run.blanks (frame.numberWidth + 1 - number.length), ⟨.gutter, ['|']⟩] ++ body

/-- Row for lines that are left out of a bracket. -/
def gapRow (frame : Frame) : Row :=
  [⟨.gutter, "...".toList⟩, Run.blanks frame.numberWidth, frame.mark ['|']]

/-- Row with the message behind a mark. The message stands there as it is. -/
def labelRow (frame : Frame) (indent : Nat) (drawn : Text) (message : Text) : Row :=
  frame.row [Run.blanks indent, frame.mark drawn, Run.blanks 1, frame.mark message]

/-- Code that begins `indent` columns behind the bar, if there is any. -/
def code (indent : Nat) (code : Text) : Row :=
  if code = [] then [] else [Run.plain (List.replicate indent ' ' ++ code)]

/-- Row of a line within a bracket. -/
def bracketRow (frame : Frame) (side : Char) (index : Nat) (content : Text) : Row :=
  frame.numberedRow index ([Run.blanks 1, frame.mark [side]] ++ code 1 content.display)

/-- Underline of a number of columns. -/
def underline (columns : Nat) : Text := List.replicate columns '_'

end Frame

/-! ## Reports -/

namespace Diagnostic

/-- The range to mark: an empty range becomes the byte behind it, unless the
    source ends there. -/
def markedRange (diagnostic : Diagnostic) (size : Nat) : Nat × Nat :=
  let span := diagnostic.span
  if span.size = 0 then (span.start, min (span.start + 1) size) else (span.start, span.stop)

/-- The marked range does not begin or end within a character of the source. -/
def marksCharacters (diagnostic : Diagnostic) (source : Text) : Bool :=
  let (start, stop) := diagnostic.markedRange source.size
  (source.upTo start).size = min start source.size &&
    (source.upTo stop).size = min stop source.size

/-- Title: the severity and the message, whose further lines are indented. -/
def titleRows (diagnostic : Diagnostic) : List Row :=
  let indent := diagnostic.severity.name.length + 2
  match diagnostic.message.display.splitOn '\n' with
  | [] => []
  | first :: rest =>
    [⟨.mark diagnostic.severity, diagnostic.severity.name⟩, ⟨.title, ": ".toList ++ first⟩] ::
      rest.map fun line => [Run.blanks indent, ⟨.title, line⟩]

/-- The place where a report begins, in a source with a name. -/
def placeRows (frame : Frame) (path : Option Text) (place : Place) : List Row :=
  match path with
  | none => []
  | some path =>
    let character := place.before.length + (if place.inEnding then 1 else 0)
    [[Run.blanks frame.numberWidth, ⟨.gutter, "--> ".toList⟩,
      Run.plain (path ++ [':'] ++ Text.ofNat (place.line + 1) ++ [':'] ++
        Text.ofNat (character + 1))]]

/-- Characters of the line at an index. -/
def contentAt (lines : List Line) (index : Nat) : Text :=
  (lines[index]?.map Line.content).getD []

/-- Rows for a range on one line: its code, underlined. -/
def lineRows (frame : Frame) (lines : List Line) (first last : Place) (message : Text) :
    List Row :=
  let left := first.before.columns
  let width := last.before.columns - left
  [frame.numberedRow first.line (Frame.code 1 (contentAt lines first.line).display),
    frame.labelRow (1 + left) (List.replicate (max 1 width) '^') message]

/-- First rows of a bracket. It begins on the line itself if only blanks stand
    before the range, else below it. -/
def bracketHead (frame : Frame) (lines : List Line) (first : Place) : List Row :=
  let content := contentAt lines first.line
  let column := first.before.columns
  if (content.display.take column).all Unicode.isBlank then
    [frame.bracketRow '/' first.line content]
  else
    [frame.numberedRow first.line (Frame.code 3 content.display),
      frame.row [Run.blanks 1, frame.mark ([' '] ++ Frame.underline (column + 1) ++ ['^'])]]

/-- Rows of a bracket: its first line, excerpts of the others, and the message
    under the end. -/
def bracketRows (frame : Frame) (lines : List Line) (first last : Place) (message : Text) :
    List Row :=
  let column := last.before.columns + (if last.inEnding then 1 else 0)
  bracketHead frame lines first ++
  (Excerpt.through first.line (keyLines lines first.line last.line)).map (fun
    | .line index => frame.bracketRow '|' index (contentAt lines index)
    | .gap => frame.gapRow) ++
  [frame.labelRow 1 (['|'] ++ Frame.underline (max 1 column) ++ ['^']) message]

/-- Report on a diagnostic, row by row. -/
def reportRows (source : Text) (path : Option Text) (diagnostic : Diagnostic) : List Row :=
  let lines := if source = [] then [⟨[], []⟩] else source.lines
  let (start, stop) := diagnostic.markedRange source.size
  let first := Place.find start lines
  let last := if start = stop then first else Place.find stop lines
  let lastNumber := max 1 (source.upTo stop).lines.length
  let frame : Frame := ⟨diagnostic.severity, (Text.ofNat lastNumber).length⟩
  diagnostic.titleRows ++ placeRows frame path first ++ [frame.row []] ++
    (if first.line = last.line then lineRows frame lines first last diagnostic.message
    else bracketRows frame lines first last diagnostic.message)

/-- Report on a diagnostic, with the lines of the source that it covers. -/
def annotated (source : Text) (path : Option Text) (colored : Bool) (diagnostic : Diagnostic) :
    Text :=
  Text.join ['\n'] ((diagnostic.reportRows source path).map (·.write colored))

end Diagnostic

/-- Reports on all diagnostics, one after the other. -/
def Diagnostics.annotated (source : Text) (path : Option Text) (colored : Bool)
    (diagnostics : Diagnostics) : Text :=
  Text.join ['\n'] (diagnostics.map (·.annotated source path colored))

end Flashcard
