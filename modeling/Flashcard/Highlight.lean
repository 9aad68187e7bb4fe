import Flashcard.Syntax.Vocabulary

/-!
# Semantic highlighting

Every token that carries meaning gets a class. A token below an error node is
invalid. Any other token has the class of its own kind, or else that of the
nearest node around it that has one.
-/

namespace Flashcard

/-- The class of the bytes of one token. -/
structure HighlightSpan where
  span : Span
  highlight : HighlightClass
deriving DecidableEq, Repr

namespace Tree

variable {κ : Type} [Vocabulary κ]

/-- Class of a token from its kind and the kinds of the nodes around it. -/
def Visit.classify (visit : Visit κ) : HighlightClass :=
  if visit.path.any Vocabulary.isErrorNode then .invalid
  else
    ((visit.kind :: visit.path).map Vocabulary.highlight).find? (· ≠ .text) |>.getD .text

/-- Classes of all tokens that carry meaning, in the order of the source. -/
def highlight (tree : Tree κ) : List HighlightSpan :=
  (tree.leaves.filter fun leaf => !Vocabulary.isTrivia leaf.kind).map
    fun leaf => ⟨leaf.span, leaf.classify⟩

end Tree

end Flashcard
