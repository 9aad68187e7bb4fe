import Flashcard.Text.Basic
import Flashcard.Unicode.Width

/-!
# Texts on a terminal

Characters that would move the cursor or reorder the text around them are
shown by visible stand-ins, a tab by four spaces. `columns` is the number of
terminal columns that a text takes.
-/

namespace Flashcard.Text

/-- The character changes the writing direction of the text around it. -/
def isDirectionMark (c : Char) : Bool :=
  (0x202A ≤ c.toNat && c.toNat ≤ 0x202E) || (0x2066 ≤ c.toNat && c.toNat ≤ 0x2069)

/-- The joiner of characters into one picture, which is not shown. -/
def joiner : Char := Char.ofNat 0x200D

/-- The character is a control of the first 32 code points or the one that
    deletes. -/
def isControl (c : Char) : Bool := c.toNat < 0x20 || c.toNat = 0x7F

/-- What stands for a character on a terminal. Line feeds are kept. -/
def displayChar (c : Char) : Text :=
  if c = '\n' then [c]
  else if c = '\t' then [' ', ' ', ' ', ' ']
  else if c.toNat < 0x20 then [Char.ofNat (0x2400 + c.toNat)]
  else if c.toNat = 0x7F then ['␡']
  else if c = joiner then []
  else if isDirectionMark c then ['\uFFFD']
  else [c]

/-- What stands for a text on a terminal. -/
def display (text : Text) : Text := text.flatMap displayChar

/-- Columns that a character of a source takes. -/
def columnsOfChar (c : Char) : Nat :=
  if c = '\t' then 4
  else if isControl c || isDirectionMark c then 1
  else Unicode.columnWidth c

/-- Columns that a text of a source takes. -/
def columns (text : Text) : Nat := text.foldr (fun c n => columnsOfChar c + n) 0

end Flashcard.Text
