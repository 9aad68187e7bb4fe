import Flashcard.Text.Basic
import Flashcard.Unicode.Printable

/-!
# Quoted texts

The form in which a text is shown on one line: between double quotes, with a
backslash before quotes and backslashes, short escapes for the common
controls, and every other character that is not printable given by its code
point in hexadecimal.
-/

namespace Flashcard.Text

/-- Quoted form of one character. -/
def quoteChar (c : Char) : Text :=
  match c with
  | '\x00' => ['\\', '0']
  | '\t' => ['\\', 't']
  | '\n' => ['\\', 'n']
  | '\r' => ['\\', 'r']
  | '\\' => ['\\', '\\']
  | '"' => ['\\', '"']
  | c =>
    if Unicode.isPrintable c then [c]
    else ['\\', 'u', '{'] ++ Nat.toDigits 16 c.toNat ++ ['}']

/-- Quoted form of a text. -/
def quote (text : Text) : Text := '"' :: text.flatMap quoteChar ++ ['"']

end Flashcard.Text
