import Flashcard.Diagnostic.Json
import Flashcard.Template.Card

/-!
# Template data as JSON

Fields and cards can be read from JSON, with what is left out as standard. A
structure is an object, or an array of its first members; other members of an
object mean nothing.
-/

namespace Flashcard

/-- Name of a side. -/
def Side.name : Side → Text
  | question => "question".toList
  | answer => "answer".toList

/-- Side of a name. -/
def Side.ofName? (name : Text) : Option Side :=
  if name = question.name then some question
  else if name = answer.name then some answer
  else none

/-- The side that a JSON value describes: its name, or an object whose only
    member has that name and is null. -/
def Side.ofJson? : Json → Option Side
  | .string name => ofName? name
  | .object [(name, .null)] => ofName? name
  | _ => none

/-- A field value as JSON. -/
def FieldValue.toJson (value : FieldValue) : Json :=
  .object [("value".toList, .string value.text), ("raw".toList, .bool value.raw)]

/-- The field value of a text and a flag in JSON; without a flag it is not
    raw. -/
def FieldValue.ofMembers? : Option Json → Option Json → Option FieldValue
  | some (.string text), none => some ⟨text, false⟩
  | some (.string text), some (.bool raw) => some ⟨text, raw⟩
  | _, _ => none

/-- The field value that a JSON value describes. -/
def FieldValue.ofJson? (json : Json) : Option FieldValue :=
  match json with
  | .object _ => ofMembers? (json.get? "value".toList) (json.get? "raw".toList)
  | .array items => if items.length ≤ 2 then ofMembers? items[0]? items[1]? else none
  | _ => none

/-- The field that a member of a JSON object describes. -/
def Fields.entryOfJson? (member : Text × Json) : Option (Text × FieldValue) :=
  (FieldValue.ofJson? member.2).map fun value => (member.1, value)

/-- The fields that a JSON value describes. -/
def Fields.ofJson? : Json → Option Fields
  | .object members => (members.mapM entryOfJson?).map ofList
  | _ => none

namespace Template

/-- A text that may be missing, as JSON. -/
def optionalText : Option Text → Json
  | none => .null
  | some text => .string text

/-- A card as JSON. -/
def Card.toJson (card : Card) : Json :=
  .object [("side".toList, .string card.side.name), ("ordinal".toList, .integer card.ordinal),
    ("front_side".toList, optionalText card.frontSide), ("css".toList, optionalText card.css)]

/-- A member with its standard value if it is missing; nothing if it is there
    and cannot be read. -/
def memberOr {α : Type} (standard : α) (read : Json → Option α) : Option Json → Option α
  | none => some standard
  | some json => read json

/-- The number of a card that a JSON value describes. -/
def ordinalOfJson? : Json → Option Nat
  | .integer n => if 0 ≤ n ∧ n ≤ Cloze.maxOrdinal then some n.toNat else none
  | _ => none

/-- The text that a JSON value describes, or none for null. -/
def optionalTextOfJson? : Json → Option (Option Text)
  | .null => some none
  | .string text => some (some text)
  | _ => none

/-- The card with these members. -/
def Card.ofMembers? (side ordinal frontSide css : Option Json) : Option Card := do
  let side ← memberOr standard.side Side.ofJson? side
  let ordinal ← memberOr standard.ordinal ordinalOfJson? ordinal
  let frontSide ← memberOr standard.frontSide optionalTextOfJson? frontSide
  let css ← memberOr standard.css optionalTextOfJson? css
  return ⟨side, ordinal, frontSide, css⟩

/-- The card that a JSON value describes. -/
def Card.ofJson? (json : Json) : Option Card :=
  match json with
  | .object _ =>
    ofMembers? (json.get? "side".toList) (json.get? "ordinal".toList)
      (json.get? "front_side".toList) (json.get? "css".toList)
  | .array items =>
    if items.length ≤ 4 then ofMembers? items[0]? items[1]? items[2]? items[3]? else none
  | _ => none

/-- A page as JSON, its errors apart from its warnings. -/
def Page.toJson (page : Page) : Json :=
  .object [("body".toList, .string page.body), ("css".toList, optionalText page.css),
    ("errors".toList, page.diagnostics.errors.toJson),
    ("warnings".toList, page.diagnostics.warnings.toJson)]

end Template

end Flashcard
