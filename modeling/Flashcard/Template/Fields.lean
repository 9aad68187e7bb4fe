import Flashcard.Text.Basic
import Flashcard.Unicode.Blank

/-!
# Fields of a note

A note has named fields in the order in which they were first set. A value is
escaped when it is shown, unless it is raw HTML.

Results:
* `get?_insert`: a field that is set has its value, and the others keep theirs.
-/

namespace Flashcard

/-- Value of a field. -/
structure FieldValue where
  text : Text
  /-- The value is HTML and goes into a page as it is. -/
  raw : Bool
deriving DecidableEq, Repr

/-- A value of blanks alone counts as empty. -/
def FieldValue.isEmpty (value : FieldValue) : Bool := value.text.all Unicode.isBlank

/-- Fields of a note. -/
structure Fields where
  entries : List (Text × FieldValue)
deriving DecidableEq, Repr

namespace Fields

/-- No fields. -/
def empty : Fields := ⟨[]⟩

/-- Value of a field. -/
def get? (fields : Fields) (name : Text) : Option FieldValue :=
  (fields.entries.find? (·.1 = name)).map (·.2)

/-- There is a field of this name. -/
def contains (fields : Fields) (name : Text) : Bool := (fields.get? name).isSome

/-- Names of the fields, in order. -/
def names (fields : Fields) : List Text := fields.entries.map (·.1)

/-- Entries with a field set: in its place if it is there, else at the end. -/
def set (entries : List (Text × FieldValue)) (name : Text) (value : FieldValue) :
    List (Text × FieldValue) :=
  match entries with
  | [] => [(name, value)]
  | entry :: rest =>
    if entry.1 = name then (name, value) :: rest else entry :: set rest name value

/-- Sets a field. A field that was there keeps its place. -/
def insert (fields : Fields) (name : Text) (value : FieldValue) : Fields :=
  ⟨set fields.entries name value⟩

theorem get?_insert (fields : Fields) (name : Text) (value : FieldValue) (asked : Text) :
    (fields.insert name value).get? asked =
      if asked = name then some value else fields.get? asked := by
  unfold insert get?
  induction fields.entries with
  | nil => by_cases h : name = asked <;> simp [set, h, eq_comm]
  | cons entry rest ih => by_cases h : entry.1 = name <;> grind [set]

/-- Fields set one after the other. -/
def ofList (entries : List (Text × FieldValue)) : Fields :=
  entries.foldl (fun fields (name, value) => fields.insert name value) empty

end Fields

end Flashcard
