import Flashcard.Query.Condition

/-!
# Predicates of a query

A condition is written as an SQL predicate from configured fragments, one for
each sort of comparison. A fragment has one placeholder; the values go beside
the predicate, in the order of the fragments.
-/

namespace Flashcard.Query

/-- SQL fragments for comparisons, each with one placeholder. -/
structure Fragments where
  /-- Compared with a pattern of `LIKE` whose escape character is the
      backslash. -/
  text : Text
  tag : Text
  deck : Text
  template : Text
deriving DecidableEq, Repr

namespace Fragments

/-- Fragments for the usual tables. -/
def standard : Fragments where
  text := "n.flds LIKE ? ESCAPE '\\'".toList
  tag :=
    "EXISTS (SELECT 1 FROM note_tags t WHERE t.note_id = n.id AND lower(t.tag) = ?)".toList
  deck := "lower(d.name) = ?".toList
  template := "lower(m.name) = ?".toList

/-- Fragment that compares a filter's value. -/
def ofField (fragments : Fragments) : FilterField → Text
  | .tag => fragments.tag
  | .deck => fragments.deck
  | .template => fragments.template

end Fragments

/-- A piece of a predicate. -/
inductive Piece where
  | zero
  | one
  | textFragment
  | fieldFragment (field : FilterField)
  | not
  | and
  | or
  | parenOpen
  | parenClose
deriving DecidableEq, Repr

/-- Characters of a piece. -/
def Piece.text (fragments : Fragments) : Piece → Text
  | zero => ['0']
  | one => ['1']
  | textFragment => fragments.text
  | fieldFragment field => fragments.ofField field
  | not => "NOT ".toList
  | and => " AND ".toList
  | or => " OR ".toList
  | parenOpen => ['(']
  | parenClose => [')']

namespace Condition

mutual

/-- Pieces of a condition's predicate. -/
def pieces : Condition → List Piece
  | never => [.zero]
  | text _ => [.textFragment]
  | field name _ => [.fieldFragment name]
  | negation operand => [.not, .parenOpen] ++ operand.pieces ++ [.parenClose]
  | either left right =>
    [.parenOpen] ++ left.pieces ++ [.or] ++ right.pieces ++ [.parenClose]
  | group conditions => [.parenOpen] ++ piecesAll conditions ++ [.parenClose]

/-- Pieces of the predicate that all conditions of a row hold. -/
def piecesAll : List Condition → List Piece
  | [] => [.one]
  | [condition] => condition.pieces
  | condition :: rest => condition.pieces ++ [.and] ++ piecesAll rest

end

mutual

/-- Values for the placeholders of a condition's predicate. -/
def parameters : Condition → List Text
  | never => []
  | text value => ['%' :: likePattern value ++ ['%']]
  | field _ value => [foldCase value]
  | negation operand => operand.parameters
  | either left right => left.parameters ++ right.parameters
  | group conditions => parametersAll conditions

/-- Values for the placeholders of a row of conditions. -/
def parametersAll : List Condition → List Text
  | [] => []
  | condition :: rest => condition.parameters ++ parametersAll rest

end

end Condition

/-- An SQL predicate and the values for its placeholders. -/
structure Predicate where
  text : Text
  parameters : List Text
deriving DecidableEq, Repr

/-- Predicate of a query. -/
def Program.compile (fragments : Fragments) (program : Program) : Predicate where
  text := (Condition.piecesAll program.conditions).flatMap (·.text fragments)
  parameters := Condition.parametersAll program.conditions

end Flashcard.Query
