import Flashcard.Query.Program
import Flashcard.Unicode.Lowercase

/-!
# Conditions of a query

The meaning of a query as a condition on notes. Terms side by side must all
hold; `OR` joins the terms around it, so that `a OR b c` asks for one of `a` and
`b` together with `c`. Something malformed never holds, and neither does a
negation with something malformed inside, so a mistake in a query never adds
notes to its result.
-/

namespace Flashcard.Query

/-- A condition on notes. -/
inductive Condition where
  /-- Holds for no note. -/
  | never
  /-- The text of the note matches `%pattern%`. -/
  | text (value : Text)
  /-- The note has this tag, deck or template. -/
  | field (field : FilterField) (value : Text)
  | negation (operand : Condition)
  | either (left right : Condition)
  /-- All of the conditions hold. -/
  | group (conditions : List Condition)

namespace Condition

/-- The condition in front of a row of conditions, if there is one. -/
def push (first : Option Condition) (rest : List Condition) : List Condition :=
  first.toList ++ rest

/-- The condition joined to the one to its left by `OR`, if that is pending. -/
def joinLeft (left : Option Condition) (pending : Bool) (right : Condition) : Condition :=
  match left, pending with
  | some left, true => either left right
  | _, _ => right

/-- What stays to the left of a condition that is joined by `OR`, or not. -/
def keepLeft (left : Option Condition) (pending : Bool) : Option Condition :=
  if pending then none else left

mutual

/-- Condition of an item. -/
def ofItem : Item → Condition
  | .blank _ | .disjunction => never
  | .plain value => if value.isError then never else text value.text
  | .negation operand => if operand.hasError then never else negation (ofItem operand)
  | .group items closed =>
    if !closed || items.all Item.isBlank then never else group (ofItems none false items)
  | .filter _ _ none => never
  | .filter name _ (some value) => if value.isError then never else field name value.text
  | .stray _ | .overflow _ => never

/-- Conditions of a row of items. `left` is the condition to the left that
    another `OR` may still extend; `pending` tells that an `OR` was met since. -/
def ofItems (left : Option Condition) (pending : Bool) : List Item → List Condition
  | [] => left.toList
  | .blank _ :: rest => ofItems left pending rest
  | .disjunction :: rest => ofItems left true rest
  | item :: rest =>
    push (keepLeft left pending) (ofItems (some (joinLeft left pending (ofItem item))) false rest)

end

end Condition

/-- Conditions of a query, all of which must hold. -/
def Program.conditions (program : Program) : List Condition :=
  Condition.ofItems none false program.items

/-! ## Values that conditions compare with -/

/-- A text as a pattern of `LIKE`: the characters that mean something there are
    escaped by a backslash, and `*` stands for any text. -/
def likePattern (text : Text) : Text :=
  text.flatMap fun c =>
    if c = '\\' ∨ c = '%' ∨ c = '_' then ['\\', c]
    else if c = '*' then ['%']
    else [c]

/-- A name as it is compared with tags, decks and templates. -/
def foldCase (name : Text) : Text := Unicode.lowercase name

end Flashcard.Query
