import Flashcard.Syntax.Tree

/-!
# Vocabularies of syntax kinds

What the passes shared by both languages need to know about a syntax kind: how
it is called, whether it marks a syntax error or carries no meaning, and how it
is highlighted.
-/

namespace Flashcard

/-- Semantic class of a highlighted token. -/
inductive HighlightClass where
  | text
  | brace
  | tagName
  | attributeName
  | separator
  | controlOperator
  | invalid
deriving DecidableEq, Repr

/-- Name of a highlight class as editors know it. -/
def HighlightClass.name : HighlightClass → Text
  | text => "text".toList
  | brace => "brace".toList
  | tagName => "tagName".toList
  | attributeName => "attributeName".toList
  | separator => "separator".toList
  | controlOperator => "controlOperator".toList
  | invalid => "invalid".toList

/-- The kinds `κ` of a language's syntax trees. -/
class Vocabulary (κ : Type) where
  /-- Name under which a kind is shown. -/
  name : κ → Text
  /-- Kind of the root of a whole source. -/
  root : κ
  /-- Nodes of this kind mark a syntax error that parsing recovered from. -/
  isErrorNode : κ → Bool
  /-- Tokens of this kind carry no meaning. -/
  isTrivia : κ → Bool
  /-- Highlight class of a kind by itself. -/
  highlight : κ → HighlightClass

/-- A node that is not the root of a whole source was used as one. -/
structure UnexpectedRoot where
  expected : Text
  found : Text
deriving DecidableEq, Repr

/-- Wording of the error. -/
def UnexpectedRoot.message (error : UnexpectedRoot) : Text :=
  "expected a `".toList ++ error.expected ++ "` root node, found `".toList ++ error.found ++
    "`".toList

/-- The tree itself when it is the root of a whole source. -/
def Tree.asRoot {κ : Type} [Vocabulary κ] [DecidableEq κ] (tree : Tree κ) :
    Except UnexpectedRoot (Tree κ) :=
  if tree.kind = Vocabulary.root then .ok tree
  else .error ⟨Vocabulary.name (Vocabulary.root : κ), Vocabulary.name tree.kind⟩

end Flashcard
