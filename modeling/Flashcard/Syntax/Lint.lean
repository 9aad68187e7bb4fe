import Flashcard.Diagnostic.Basic
import Flashcard.Syntax.Vocabulary

/-!
# Syntax errors of a tree

Parsing never fails: what breaks the grammar is kept below error nodes. Each
error node is one syntax error, and outer ones come before those inside them.
-/

namespace Flashcard.Tree

variable {κ : Type} [Vocabulary κ]

/-- A visited error node. -/
def Visit.isErrorNode (visit : Visit κ) : Bool :=
  visit.isNode && Vocabulary.isErrorNode visit.kind

/-- One syntax error for every error node. -/
def lint (tree : Tree κ) : Diagnostics :=
  (tree.walk.filter (·.isErrorNode)).map fun visit =>
    Diagnostic.report .syntaxError visit.span none

/-- The tree contains an error node. -/
def hasErrorNode (tree : Tree κ) : Bool := tree.walk.any (·.isErrorNode)

end Flashcard.Tree
