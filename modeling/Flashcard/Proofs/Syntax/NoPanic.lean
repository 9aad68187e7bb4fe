import Flashcard.Proofs.Query.Building
import Flashcard.Proofs.Template.Building

/-!
# Parsing never panics

A parser can panic in many ways: it may look ahead too often without taking a token, find
another token than it made sure of, take a token behind the end, finish a node that it did
not begin, leave a node open, or put a token outside of the root. The parsers of both
languages do none of that, for any source whose places are numbers that fit and for any
limit on nesting. They come to an end, and what they build is the tree of what is read.
-/

namespace Flashcard

open Parsing

/-- Both parsers build the tree of what is read, with the root of their language. -/
theorem parsers_never_panic {limit : Nat} {source : Text} (bounded : limit < numberBound)
    (small : source.size < numberBound) :
    (Query.Machine.runParser limit source = .ok (Query.parse limit source).tree ∧
        (Query.parse limit source).tree.kind = .program) ∧
      Template.Machine.runParser limit source = .ok (Template.parse limit source).tree ∧
        (Template.parse limit source).tree.kind = .document :=
  ⟨⟨Query.Machine.runParser_eq small bounded, rfl⟩, Template.Machine.runParser_eq small bounded,
    rfl⟩

/-- No room for nesting, an open block, and an open group. -/
theorem parsers_never_panic_without_room :
    let source : Text := ['{', '{', '#', 'a', '}', '}', '-', '(', '"']
    (0 < numberBound ∧ source.size < numberBound) ∧
      (Query.Machine.runParser 0 source = .ok (Query.parse 0 source).tree ∧
        (Query.parse 0 source).tree.kind = .program) ∧
      Template.Machine.runParser 0 source = .ok (Template.parse 0 source).tree ∧
        (Template.parse 0 source).tree.kind = .document :=
  ⟨⟨by decide, by decide⟩, parsers_never_panic (by decide) (by decide)⟩

end Flashcard
