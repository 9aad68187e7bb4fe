import Flashcard.Text.Basic

/-!
# Cloze deletions

A field value can hold markers: two opening braces, `c`, a number, two colons,
an answer, perhaps two more colons and a hint, and two closing braces. On the
card with that number the answer is hidden on the question side and set off on
the answer side; on other cards it is shown. A marker that is never closed stays
as it is written.
-/

namespace Flashcard

/-- Side of a card. -/
inductive Side where
  | question
  | answer
deriving DecidableEq, Repr

namespace Cloze

/-! ## Tokens of a value -/

/-- Token of a field value. -/
inductive Token where
  /-- The beginning of a marker, with the digits of its number. -/
  | opener (digits : Text)
  /-- Two colons. -/
  | separator
  /-- Two closing braces. -/
  | closer
  | plain (text : Text)
deriving DecidableEq, Repr

/-- Characters of a token. -/
def Token.text : Token → Text
  | opener digits => ['{', '{', 'c'] ++ digits ++ [':', ':']
  | separator => [':', ':']
  | closer => ['}', '}']
  | plain text => text

/-- The character is none of those that markers are made of. -/
def isPlainChar (c : Char) : Bool := c ≠ '{' && c ≠ '}' && c ≠ ':'

/-- Digits of the marker that begins here, if one does. -/
def opener? : Text → Option Text
  | '{' :: '{' :: 'c' :: rest =>
    match rest.takeWhile Char.isDigit, rest.dropWhile Char.isDigit with
    | digit :: digits, ':' :: ':' :: _ => some (digit :: digits)
    | _, _ => none
  | _ => none

/-- Tokens of a value: at every place the longest. -/
def tokenize (value : Text) : List Token :=
  match value with
  | [] => []
  | ':' :: ':' :: rest => .separator :: tokenize rest
  | '}' :: '}' :: rest => .closer :: tokenize rest
  | c :: rest =>
    match opener? (c :: rest) with
    | some digits => .opener digits :: tokenize (rest.drop (digits.length + 4))
    | none =>
      if isPlainChar c then
        .plain (c :: rest.takeWhile isPlainChar) :: tokenize (rest.dropWhile isPlainChar)
      else .plain [c] :: tokenize rest
termination_by value.length
decreasing_by
  all_goals simp only [List.length_cons, List.length_drop]
  · omega
  · omega
  · omega
  · have := (List.dropWhile_sublist (l := rest) isPlainChar).length_le
    omega
  · omega

/-! ## Numbers -/

/-- Greatest number of a card. -/
def maxOrdinal : Nat := Nat.pow 2 32 - 1

/-- Value of a row of decimal digits. -/
def decimal (digits : Text) : Nat :=
  digits.foldl (fun n c => 10 * n + (c.toNat - '0'.toNat)) 0

/-- Number of a marker, unless it is too great for a card. -/
def ordinal? (digits : Text) : Option Nat :=
  if decimal digits ≤ maxOrdinal then some (decimal digits) else none

/-- Adds a number to numbers in increasing order. -/
def insertOrdinal (n : Nat) : List Nat → List Nat
  | [] => [n]
  | m :: rest => if n < m then n :: m :: rest else if n = m then m :: rest else
    m :: insertOrdinal n rest

/-- Numbers of the markers in a value, in increasing order and each once. -/
def ordinals (value : Text) : List Nat :=
  ((tokenize value).filterMap fun
    | .opener digits => ordinal? digits
    | _ => none).foldr insertOrdinal []

/-! ## Rendering -/

/-- A marker whose end is still to come. -/
structure Marker where
  ordinal : Option Nat
  /-- The marker so far, as it is written. -/
  source : Text
  answer : Text
  hint : Option Text
deriving DecidableEq, Repr

namespace Marker

/-- The marker that begins with these digits. -/
def start (digits : Text) : Marker := ⟨ordinal? digits, (Token.opener digits).text, [], none⟩

/-- The marker with a token of its body. The first separator begins the hint;
    anything else belongs to the hint, or to the answer before it. -/
def add (marker : Marker) (token : Token) : Marker :=
  let source := marker.source ++ token.text
  match marker.hint, token with
  | none, .separator => { marker with source, hint := some [] }
  | none, token => { marker with source, answer := marker.answer ++ token.text }
  | some hint, token => { marker with source, hint := some (hint ++ token.text) }

/-- The marker belongs to the card. -/
def isActive (marker : Marker) (ordinal : Nat) : Bool := marker.ordinal = some ordinal

/-- What stands for the answer while it is hidden. -/
def blank (marker : Marker) : Text :=
  let hint := marker.hint.getD []
  ['['] ++ (if hint = [] then ['.', '.', '.'] else hint) ++ [']']

/-- What a card shows for the marker. -/
def render (marker : Marker) (ordinal : Nat) (side : Side) : Text :=
  if marker.isActive ordinal then
    "<span class=\"cloze\">".toList ++
      (match side with
      | .question => marker.blank
      | .answer => marker.answer) ++ "</span>".toList
  else marker.answer

end Marker

/-- What a card shows for tokens of a value, after the beginning of a marker or
    outside of one. -/
def renderTokens (ordinal : Nat) (side : Side) : Option Marker → List Token → Text
  | none, [] => []
  | some marker, [] => marker.source
  | none, .opener digits :: rest => renderTokens ordinal side (some (.start digits)) rest
  | none, token :: rest => token.text ++ renderTokens ordinal side none rest
  | some marker, .closer :: rest =>
    marker.render ordinal side ++ renderTokens ordinal side none rest
  | some marker, token :: rest => renderTokens ordinal side (some (marker.add token)) rest

/-- What a card shows for a value. -/
def render (value : Text) (ordinal : Nat) (side : Side) : Text :=
  renderTokens ordinal side none (tokenize value)

end Cloze

end Flashcard
