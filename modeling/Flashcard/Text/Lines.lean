import Flashcard.Text.Basic

/-!
# Lines of a text

A line ends at a line feed, which may follow a carriage return. Nothing follows
the last line end, so a text that ends in one has no empty line behind it.

Results:
* `flatMap_lines`: the lines with their ends make up the text.
-/

namespace Flashcard

/-- A line, apart from the characters that end it. -/
structure Line where
  content : Text
  ending : Text
deriving DecidableEq, Repr

namespace Line

/-- The line with its end. -/
def text (line : Line) : Text := line.content ++ line.ending

/-- Number of bytes of the line and its end. -/
def size (line : Line) : Nat := line.content.size + line.ending.size

end Line

namespace Text

/-- A character in front of the first of the lines. -/
def putFirst (c : Char) : List Line → List Line
  | [] => [⟨[c], []⟩]
  | line :: rest => { line with content := c :: line.content } :: rest

/-- Lines of a text, in order. -/
def lines : Text → List Line
  | [] => []
  | '\n' :: rest => ⟨[], ['\n']⟩ :: lines rest
  | '\r' :: '\n' :: rest => ⟨[], ['\r', '\n']⟩ :: lines rest
  | c :: rest => putFirst c (lines rest)

theorem flatMap_putFirst (c : Char) (lines : List Line) :
    (putFirst c lines).flatMap Line.text = c :: lines.flatMap Line.text := by
  cases lines <;> simp [putFirst, Line.text]

/-- The lines with their ends make up the text. -/
theorem flatMap_lines (text : Text) : text.lines.flatMap Line.text = text := by
  fun_induction lines text with
  | case1 => rfl
  | case2 rest ih => simp [Line.text, ih]
  | case3 rest ih => simp [Line.text, ih]
  | case4 c rest _ _ ih => rw [flatMap_putFirst, ih]

/-- The longest beginning of a text that has at most `bytes` bytes. -/
def upTo (bytes : Nat) : Text → Text
  | [] => []
  | c :: rest => if c.utf8Size ≤ bytes then c :: upTo (bytes - c.utf8Size) rest else []

end Text

/-- A place in a text: the index of its line, the characters before it on that
    line, and whether it lies behind the line's own characters. -/
structure Place where
  line : Nat
  before : Text
  inEnding : Bool
deriving DecidableEq, Repr

/-- The place at a byte offset. An offset behind the last line counts as a place
    on it. -/
def Place.find (offset : Nat) : List Line → Place
  | [] => ⟨0, [], false⟩
  | [line] => ⟨0, line.content.upTo offset, line.content.size < offset⟩
  | line :: rest =>
    if offset < line.size then
      ⟨0, line.content.upTo offset, line.content.size < offset⟩
    else
      let place := Place.find (offset - line.size) rest
      { place with line := place.line + 1 }

end Flashcard
