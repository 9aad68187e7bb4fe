import Flashcard.Syntax.Vocabulary
import Flashcard.Text.Quoted

/-!
# Outlines of syntax trees

An outline shows a tree with one line for each node and token, indented by two
spaces for every node around it. Tokens, tokens without meaning and byte ranges
can be left out.
-/

namespace Flashcard

/-- What an outline shows besides the nodes. -/
structure OutlineOptions where
  tokens : Bool := true
  trivia : Bool := false
  spans : Bool := false
deriving DecidableEq, Repr

namespace Tree

variable {κ : Type} [Vocabulary κ]

/-- The outline has a line for this node or token. -/
def Visit.isShown (options : OutlineOptions) (visit : Visit κ) : Bool :=
  visit.isNode || (options.tokens && (options.trivia || !Vocabulary.isTrivia visit.kind))

/-- Line of a node or token: its kind, its range, and a token's text in
    quotes. -/
def Visit.line (options : OutlineOptions) (visit : Visit κ) : Text :=
  List.replicate (2 * visit.depth) ' ' ++ Vocabulary.name visit.kind ++
  (if options.spans then
    " [".toList ++ Text.ofNat visit.span.start ++ "..".toList ++ Text.ofNat visit.span.stop ++
      "]".toList
  else []) ++
  (match visit.text with
  | some text => ' ' :: text.quote
  | none => []) ++ ['\n']

/-- Outline of a tree. -/
def outline (options : OutlineOptions) (tree : Tree κ) : Text :=
  (tree.walk.filter (·.isShown options)).flatMap (·.line options)

end Tree

end Flashcard
