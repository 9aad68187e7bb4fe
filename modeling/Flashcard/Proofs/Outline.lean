import Flashcard.Proofs.Syntax.Outline
import Flashcard.Query.Program
import Flashcard.Template.Document

/-!
# Outlines of queries and templates

The kinds of both languages are called by words, each by its own. So an outline that leaves
nothing out can be read, and since the tokens of a parsed source make it up, no other source has
the same outline.

Results:
* `Query.plainNames`, `Template.plainNames`: the names of the kinds.
* `legibleOutlines_parse`: outlines of parsed sources can be read and tell sources apart.
-/

namespace Flashcard

theorem Query.plainNames : PlainNames Query.Kind where
  nonempty kind := by cases kind <;> exact List.cons_ne_nil _ _
  letters kind := by cases kind <;> rfl
  injective := by
    have known (kind : Query.Kind) : Query.Kind.ofName? kind.name = some kind := by
      cases kind <;> rfl
    intro a b same
    exact Option.some.inj ((known a).symm.trans ((congrArg _ same).trans (known b)))

theorem Template.plainNames : PlainNames Template.Kind where
  nonempty kind := by cases kind <;> exact List.cons_ne_nil _ _
  letters kind := by cases kind <;> rfl
  injective := by
    have known (kind : Template.Kind) :
        Template.Kind.all.find? (·.label = kind.label) = some kind := by
      cases kind <;> rfl
    intro a b same
    have found : Template.Kind.all.find? (·.label = a.label) =
        Template.Kind.all.find? (·.label = b.label) :=
      congrArg (fun label => Template.Kind.all.find? (·.label = label)) same
    exact Option.some.inj ((known a).symm.trans (found.trans (known b)))

/-- Outlines of the trees of sources, read up to any limit, can be read, and whoever has one
    knows the tree and the source. -/
structure LegibleOutlines {κ : Type} [Vocabulary κ] (tree : Nat → Text → Tree κ) : Prop where
  outlined : ∀ limit source spans, (tree limit source).Outlined spans source
  injective : ∀ limit limit' source source' spans spans',
    (tree limit source).outline (.whole spans) = (tree limit' source').outline (.whole spans') →
      tree limit source = tree limit' source' ∧ source = source'

theorem LegibleOutlines.of_text {κ : Type} [Vocabulary κ] {tree : Nat → Text → Tree κ}
    (names : PlainNames κ) (whole : ∀ limit source, (tree limit source).text = source) :
    LegibleOutlines tree where
  outlined limit source spans := by
    have outlined := Tree.outlined names spans (tree limit source)
    rwa [whole] at outlined
  injective limit limit' source source' spans spans' same := by
    have trees := Tree.outline_injective names same
    refine ⟨trees, ?_⟩
    rw [← whole limit source, trees, whole]

/-- Outlines of parsed queries and templates can be read and tell sources apart. -/
theorem legibleOutlines_parse :
    LegibleOutlines (fun limit source => (Query.parse limit source).tree) ∧
      LegibleOutlines (fun limit source => (Template.parse limit source).tree) :=
  ⟨.of_text Query.plainNames Query.text_tree_parse,
    .of_text Template.plainNames Template.text_tree_parse⟩

end Flashcard
