import Flashcard.Text.Basic

/-!
# JSON values

JSON values with the members of objects in order, and their written forms: on
one line, or over several with an indentation of two spaces.
-/

namespace Flashcard

/-- A JSON value. Numbers that are not written as integers keep their
    spelling. -/
inductive Json where
  | null
  | bool (value : Bool)
  | integer (value : Int)
  | real (spelling : Text)
  | string (text : Text)
  | array (items : List Json)
  | object (members : List (Text × Json))
deriving Inhabited

namespace Json

/-- Value of a member of an object; of two with one name the last. -/
def get? (json : Json) (name : Text) : Option Json :=
  match json with
  | object members => (members.reverse.find? (·.1 = name)).map (·.2)
  | _ => none

/-! ## Writing -/

/-- A hexadecimal number of four digits. -/
def hex4 (n : Nat) : Text :=
  let digits := Nat.toDigits 16 n
  List.replicate (4 - digits.length) '0' ++ digits

/-- A character inside a string. -/
def writeChar (c : Char) : Text :=
  match c with
  | '"' => ['\\', '"']
  | '\\' => ['\\', '\\']
  | '\x08' => ['\\', 'b']
  | '\x0c' => ['\\', 'f']
  | '\n' => ['\\', 'n']
  | '\r' => ['\\', 'r']
  | '\t' => ['\\', 't']
  | c => if c.toNat < 0x20 then ['\\', 'u'] ++ hex4 c.toNat else [c]

/-- A string in quotes. -/
def writeString (text : Text) : Text := '"' :: text.flatMap writeChar ++ ['"']

/-- An integer in decimal. -/
def writeInt : Int → Text
  | .ofNat n => Text.ofNat n
  | .negSucc n => '-' :: Text.ofNat (n + 1)

mutual

/-- A value on one line. -/
def write : Json → Text
  | null => "null".toList
  | bool value => if value then "true".toList else "false".toList
  | integer value => writeInt value
  | real spelling => spelling
  | string text => writeString text
  | array items => '[' :: writeItems items ++ [']']
  | object members => '{' :: writeMembers members ++ ['}']

/-- Items on one line, with commas between them. -/
def writeItems : List Json → Text
  | [] => []
  | [item] => item.write
  | item :: rest => item.write ++ [','] ++ writeItems rest

/-- Members on one line, with commas between them. -/
def writeMembers : List (Text × Json) → Text
  | [] => []
  | [(name, value)] => writeString name ++ [':'] ++ value.write
  | (name, value) :: rest =>
    writeString name ++ [':'] ++ value.write ++ [','] ++ writeMembers rest

end

/-- A new line, indented. -/
def newLine (depth : Nat) : Text := '\n' :: List.replicate (2 * depth) ' '

mutual

/-- A value over several lines, below `depth` others. -/
def writePretty (depth : Nat) : Json → Text
  | null => "null".toList
  | bool value => if value then "true".toList else "false".toList
  | integer value => writeInt value
  | real spelling => spelling
  | string text => writeString text
  | array [] => ['[', ']']
  | array items =>
    '[' :: writePrettyItems (depth + 1) items ++ newLine depth ++ [']']
  | object [] => ['{', '}']
  | object members =>
    '{' :: writePrettyMembers (depth + 1) members ++ newLine depth ++ ['}']

/-- Items on lines of their own, with commas between them. -/
def writePrettyItems (depth : Nat) : List Json → Text
  | [] => []
  | [item] => newLine depth ++ writePretty depth item
  | item :: rest =>
    newLine depth ++ writePretty depth item ++ [','] ++ writePrettyItems depth rest

/-- Members on lines of their own, with commas between them. -/
def writePrettyMembers (depth : Nat) : List (Text × Json) → Text
  | [] => []
  | [(name, value)] =>
    newLine depth ++ writeString name ++ [':', ' '] ++ writePretty depth value
  | (name, value) :: rest =>
    newLine depth ++ writeString name ++ [':', ' '] ++ writePretty depth value ++ [','] ++
      writePrettyMembers depth rest

end

/-- A value over several lines. -/
def pretty (json : Json) : Text := json.writePretty 0

end Json

end Flashcard
