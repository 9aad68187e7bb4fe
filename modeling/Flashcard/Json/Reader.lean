import Flashcard.Json.Basic

/-!
# Reading JSON

Reading stops at the first fault. A value that is only skipped is read more
leniently than one that is kept: its strings may hold escapes of half a
character, and its numbers may be of any size.
-/

namespace Flashcard.Json

/-- Why a text could not be read. -/
inductive Fault where
  /-- The text is not JSON. -/
  | malformed
  /-- The text is JSON, but does not say what was asked for. -/
  | mismatch
  /-- The text ends too early. -/
  | unfinished
deriving DecidableEq, Repr

/-- What becomes of a value that is read. -/
inductive Manner where
  | keep
  | skip
deriving DecidableEq, Repr

/-- The text without the blanks in front. -/
def skipBlanks (text : Text) : Text :=
  text.dropWhile fun c => c = ' ' || c = '\n' || c = '\t' || c = '\r'

/-! ## Strings -/

/-- Value of a hexadecimal digit. -/
def hexDigit? (c : Char) : Option Nat :=
  if '0' ≤ c ∧ c ≤ '9' then some (c.toNat - '0'.toNat)
  else if 'a' ≤ c ∧ c ≤ 'f' then some (c.toNat - 'a'.toNat + 10)
  else if 'A' ≤ c ∧ c ≤ 'F' then some (c.toNat - 'A'.toNat + 10)
  else none

/-- A hexadecimal number of four digits. -/
def readHex4 (text : Text) : Except Fault (Nat × Text) :=
  if text.size < 4 then .error .unfinished
  else
    match (text.take 4).mapM hexDigit? with
    | some digits => .ok (digits.foldl (fun n d => 16 * n + d) 0, text.drop 4)
    | none => .error .malformed

/-- First half of a character beyond the basic plane. -/
def isHighHalf (n : Nat) : Bool := 0xD800 ≤ n && n ≤ 0xDBFF

/-- Second half of a character beyond the basic plane. -/
def isLowHalf (n : Nat) : Bool := 0xDC00 ≤ n && n ≤ 0xDFFF

/-- The character of an escape, after `\u`. A character beyond the basic plane
    takes two escapes. -/
def readUnicode (manner : Manner) (text : Text) : Except Fault (Text × Text) := do
  let (n, rest) ← readHex4 text
  match manner with
  | .skip => return ([], rest)
  | .keep =>
    if isLowHalf n then throw .malformed
    else if isHighHalf n then
      match rest with
      | [] => throw .unfinished
      | ['\\'] => throw .unfinished
      | '\\' :: 'u' :: rest =>
        let (m, rest) ← readHex4 rest
        if isLowHalf m then
          return ([Char.ofNat (0x10000 + (n - 0xD800) * 0x400 + (m - 0xDC00))], rest)
        else throw .malformed
      | _ => throw .malformed
    else return ([Char.ofNat n], rest)

/-- The character of an escape, after the backslash. -/
def readEscape (manner : Manner) (text : Text) : Except Fault (Text × Text) :=
  match text with
  | [] => .error .unfinished
  | '"' :: rest => .ok (['"'], rest)
  | '\\' :: rest => .ok (['\\'], rest)
  | '/' :: rest => .ok (['/'], rest)
  | 'b' :: rest => .ok (['\x08'], rest)
  | 'f' :: rest => .ok (['\x0c'], rest)
  | 'n' :: rest => .ok (['\n'], rest)
  | 'r' :: rest => .ok (['\r'], rest)
  | 't' :: rest => .ok (['\t'], rest)
  | 'u' :: rest => readUnicode manner rest
  | _ => .error .malformed

/-- A string after its opening quote; `fuel` bounds the number of its
    characters. -/
def readStringWithin (manner : Manner) : (fuel : Nat) → Text → Except Fault (Text × Text)
  | 0, _ => .error .unfinished
  | fuel + 1, text =>
    match text with
    | [] => .error .unfinished
    | '"' :: rest => .ok ([], rest)
    | '\\' :: rest => do
      let (c, rest) ← readEscape manner rest
      let (more, rest) ← readStringWithin manner fuel rest
      return (c ++ more, rest)
    | c :: rest =>
      if c.toNat < 0x20 then .error .malformed
      else do
        let (more, rest) ← readStringWithin manner fuel rest
        return (c :: more, rest)

/-- A string after its opening quote. -/
def readString (manner : Manner) (text : Text) : Except Fault (Text × Text) :=
  readStringWithin manner (text.length + 1) text

/-! ## Numbers -/

/-- The fault when a number breaks off at the end of the text. -/
def Manner.numberEnd : Manner → Fault
  | keep => .unfinished
  | skip => .malformed

/-- One or more decimal digits. -/
def readDigits (manner : Manner) (text : Text) : Except Fault (Text × Text) :=
  match text.takeWhile Char.isDigit, text with
  | [], [] => .error manner.numberEnd
  | [], _ :: _ => .error .malformed
  | digits, _ => .ok (digits, text.dropWhile Char.isDigit)

/-- Digits of the integer part of a number: a zero stands alone. -/
def readWhole (manner : Manner) (text : Text) : Except Fault (Text × Text) := do
  let (digits, rest) ← readDigits manner text
  match digits with
  | '0' :: _ :: _ => throw .malformed
  | _ => return (digits, rest)

/-- The part of a number after its point, if it has one. -/
def readFraction (manner : Manner) (text : Text) : Except Fault (Text × Text) :=
  match text with
  | '.' :: rest => readDigits manner rest
  | _ => .ok ([], text)

/-- Exponent of a number: whether it is negative, and its digits. -/
def readExponent (manner : Manner) (text : Text) : Except Fault ((Bool × Text) × Text) :=
  let read (negative : Bool) (rest : Text) : Except Fault ((Bool × Text) × Text) := do
    let (digits, rest) ← readDigits manner rest
    return ((negative, digits), rest)
  match text with
  | e :: rest =>
    if e = 'e' || e = 'E' then
      match rest with
      | '-' :: rest => read true rest
      | '+' :: rest => read false rest
      | _ => read false rest
    else .ok ((false, []), text)
  | [] => .ok ((false, []), text)

/-- Value of a row of decimal digits. -/
def decimal (digits : Text) : Nat :=
  digits.foldl (fun n c => 10 * n + (c.toNat - '0'.toNat)) 0

/-- The least number that is too great for a double, and so rounds to
    infinity. -/
def tooGreat : Nat := Nat.pow 2 1024 - Nat.pow 2 970

/-- The number whose digits are `digits`, `places` of them after the point,
    times a power of ten fits into a double. -/
def fits (digits : Text) (places : Nat) (exponent : Bool × Text) : Bool :=
  let mantissa := decimal digits
  let power := decimal exponent.2
  if mantissa = 0 then true
  else if exponent.1 then
    digits.length ≤ 308 + places + power || mantissa < tooGreat * Nat.pow 10 (places + power)
  else if 400 + places < power then false
  else mantissa * Nat.pow 10 power < tooGreat * Nat.pow 10 places

/-- A number. -/
def readNumber (manner : Manner) (text : Text) : Except Fault (Json × Text) := do
  let (negative, digitsText) := match text with
    | '-' :: rest => (true, rest)
    | _ => (false, text)
  let (whole, rest) ← readWhole manner digitsText
  let (fraction, rest) ← readFraction manner rest
  let (exponent, rest) ← readExponent manner rest
  if manner = .keep && !fits (whole ++ fraction) fraction.length exponent then throw .malformed
  else if fraction = [] && exponent.2 = [] && !(negative && decimal whole = 0) then
    let n : Int := decimal whole
    return (.integer (if negative then -n else n), rest)
  else return (.real (text.take (text.length - rest.length)), rest)

/-! ## Values -/

/-- The rest of a word whose first letter was met. -/
def readWord (word : Text) (value : Json) (text : Text) : Except Fault (Json × Text) :=
  match word, text with
  | [], rest => .ok (value, rest)
  | _ :: _, [] => .error .unfinished
  | c :: word, d :: rest => if c = d then readWord word value rest else .error .malformed

/-- What follows a colon. -/
def readColon (text : Text) : Except Fault Text :=
  match skipBlanks text with
  | [] => .error .unfinished
  | ':' :: rest => .ok rest
  | _ => .error .malformed

mutual

/-- A value; `fuel` bounds its depth and the length of its parts. -/
def readValue (manner : Manner) : (fuel : Nat) → Text → Except Fault (Json × Text)
  | 0, _ => .error .malformed
  | fuel + 1, text =>
    match skipBlanks text with
    | [] => .error .unfinished
    | 'n' :: rest => readWord "ull".toList .null rest
    | 't' :: rest => readWord "rue".toList (.bool true) rest
    | 'f' :: rest => readWord "alse".toList (.bool false) rest
    | '"' :: rest => do
      let (s, rest) ← readString manner rest
      return (.string s, rest)
    | '[' :: rest =>
      match skipBlanks rest with
      | ']' :: rest => .ok (.array [], rest)
      | rest => do
        let (items, rest) ← readItems manner fuel rest
        return (.array items, rest)
    | '{' :: rest =>
      match skipBlanks rest with
      | '}' :: rest => .ok (.object [], rest)
      | rest => do
        let (members, rest) ← readMembers manner fuel rest
        return (.object members, rest)
    | c :: rest =>
      if c = '-' || c.isDigit then readNumber manner (c :: rest) else .error .malformed

/-- The items of an array, to its closing bracket. -/
def readItems (manner : Manner) : (fuel : Nat) → Text → Except Fault (List Json × Text)
  | 0, _ => .error .malformed
  | fuel + 1, text => do
    let (item, rest) ← readValue manner fuel text
    match skipBlanks rest with
    | [] => throw .unfinished
    | ']' :: rest => return ([item], rest)
    | ',' :: rest =>
      let (items, rest) ← readItems manner fuel rest
      return (item :: items, rest)
    | _ => throw .malformed

/-- The members of an object, to its closing bracket. -/
def readMembers (manner : Manner) : (fuel : Nat) → Text → Except Fault (List (Text × Json) × Text)
  | 0, _ => .error .malformed
  | fuel + 1, text =>
    match skipBlanks text with
    | [] => .error .unfinished
    | '"' :: rest => do
      let (name, rest) ← readString manner rest
      let rest ← readColon rest
      let (value, rest) ← readValue manner fuel rest
      match skipBlanks rest with
      | [] => throw .unfinished
      | '}' :: rest => return ([(name, value)], rest)
      | ',' :: rest =>
        let (members, rest) ← readMembers manner fuel rest
        return ((name, value) :: members, rest)
      | _ => throw .malformed
    | _ => .error .malformed

end

/-- Nothing but blanks is left. -/
def finish (text : Text) : Except Fault Unit :=
  if skipBlanks text = [] then .ok () else .error .malformed

/-- The value that a text holds. -/
def parse (text : Text) : Except Fault Json := do
  let (value, rest) ← readValue .keep (text.length + 1) text
  finish rest
  return value

end Flashcard.Json
