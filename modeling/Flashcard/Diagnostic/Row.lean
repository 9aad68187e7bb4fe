import Flashcard.Diagnostic.Basic

/-!
# Rows of a report

A row of a report is made of runs of characters that share an ink. Without
colours the inks make no difference; with colours every run that is not plain
is written between the controls that switch its ink on and off.

Results:
* `write_plain`: without colours a row is the text of its runs.
-/

namespace Flashcard

/-- What the characters of a report are drawn with. -/
inductive Ink where
  /-- Source text, paths and the blanks between other runs. -/
  | plain
  /-- The message in the title. -/
  | title
  /-- Line numbers and the bar beside them. -/
  | gutter
  /-- Marks and labels, in the colour of a severity. -/
  | mark (severity : Severity)
deriving DecidableEq, Repr

namespace Ink

/-- A control that selects a way of drawing. -/
def control (code : Text) : Text := ['\x1b', '['] ++ code ++ ['m']

/-- Bold type. -/
def bold : Text := control ['1']

/-- The control that ends every ink. -/
def off : Text := control ['0']

/-- Controls that switch an ink on. -/
def on : Ink → Text
  | plain => []
  | title => bold
  | gutter => bold ++ control ['9', '4']
  | mark .error => bold ++ control ['9', '1']
  | mark .warning => bold ++ control ['3', '3']

end Ink

/-- Characters that share an ink. -/
structure Run where
  ink : Ink
  text : Text
deriving DecidableEq, Repr

namespace Run

/-- A run without colour. -/
def plain (text : Text) : Run := ⟨.plain, text⟩

/-- A run of blanks. -/
def blanks (count : Nat) : Run := ⟨.plain, List.replicate count ' '⟩

/-- The run as it is written. -/
def write (colored : Bool) (run : Run) : Text :=
  if colored && run.ink ≠ .plain then run.ink.on ++ run.text ++ Ink.off else run.text

end Run

/-- Runs on one line. -/
abbrev Row := List Run

namespace Row

/-- The row as it is written. -/
def write (colored : Bool) (row : Row) : Text := row.flatMap (·.write colored)

/-- Without colours a row is the text of its runs. -/
theorem write_plain (row : Row) : row.write false = row.flatMap (·.text) := by
  simp [write, Run.write]

end Row

end Flashcard
