import Flashcard.Proofs.Query.Lossless
import Flashcard.Proofs.Query.Schema
import Flashcard.Proofs.Syntax.NodeRange
import Flashcard.Proofs.Template.Located
import Flashcard.Proofs.Template.SyntaxErrors

/-!
# Ranges of diagnostics

Whatever is wrong with a query or a template, the diagnostic has a range that holds something
of the source. Of a query only its root can be empty: below every other node stands a token.

Results:
* `Query.isAbout_lint_parse`, `Template.isAbout_lint_parse`: syntax errors are about parts of the
  source.
* `inSource_parse`: all diagnostics can be cut out of their source and marked in it.
-/

namespace Flashcard

/-! ## Queries -/

namespace Query

theorem Obeys.children_ne_nil {limit stop : Nat} {o : Tree.Occurrence Kind}
    (h : Obeys limit stop o) (inside : o.above ≠ []) : o.tree.children ≠ [] := by
  have first {tree : Tree Kind} {rest : List (Tree Kind)}
      (children : o.tree.children = tree :: rest) : o.tree.children ≠ [] := by
    rw [children]
    exact List.cons_ne_nil _ _
  have filter {field : FilterField} (shape : IsFilter field o) : o.tree.children ≠ [] := by
    obtain ⟨mark, ⟨-, children⟩ | ⟨value, children, -⟩⟩ := shape
    · exact first children
    · exact first children
  have shape := h.shape
  unfold HasShape at shape
  generalize o.tree.kind = kind at shape
  cases kind with
  | program => exact absurd shape inside
  | simpleString =>
    obtain ⟨text, children⟩ := shape
    exact first children
  | quotedString =>
    obtain ⟨content, closed, children, -⟩ := shape
    exact first children
  | negation =>
    obtain ⟨operand, children, -⟩ := shape
    exact first children
  | disjunction => exact first shape
  | group =>
    obtain ⟨opening, -⟩ := shape
    obtain ⟨rest, children⟩ := List.head?_eq_some_iff.1 opening
    exact first children
  | tag | deck | template => exact filter shape
  | error =>
    obtain ⟨kind, -, inner, children⟩ | ⟨token, -, children⟩ | ⟨left, -⟩ := shape
    · exact first children
    · exact first children
    · obtain ⟨tokens, nonempty, children⟩ := left
      rw [children]
      exact fun none => nonempty (List.map_eq_nil_iff.1 none)
  | _ => cases shape

/-- The syntax errors of a query are about parts of it. -/
theorem isAbout_lint_parse (limit : Nat) (source : Text) :
    ∀ diagnostic ∈ (parse limit source).tree.lint, ∃ part, diagnostic.IsAbout source part := by
  refine Tree.isAbout_lint rfl (text_tree_parse limit source) ?_ ?_
  · intro o mem
    have above := Tree.mem_occurrencesAll_above List.mem_cons_self 0 _ o mem
    exact (obeys_parse limit source o (List.mem_cons_of_mem _ mem)).children_ne_nil
      (List.ne_nil_of_mem above)
  · have tokens := tokens_parse limit source
    rw [Program.tree, Tree.tokens] at tokens
    rw [tokens]
    intro pair mem
    obtain ⟨token, lexed, rfl⟩ := List.mem_map.1 mem
    exact text_ne_nil lexed

end Query

/-! ## Templates -/

/-- The syntax errors of the tree of a template are about parts of it. -/
theorem Template.isAbout_lint_parse (limit : Nat) (source : Text) :
    ∀ diagnostic ∈ (parse limit source).tree.lint, ∃ part, diagnostic.IsAbout source part := by
  intro diagnostic mem
  rw [← (parse limit source).syntaxErrors_render (Fields.ofList []) .standard false] at mem
  exact isAbout_parse limit source _ _ _ diagnostic (List.mem_filter.1 mem).1

/-! ## All diagnostics -/

/-- The diagnostics of a query, of a template, and of a card that is rendered from one, have
    ranges that hold something of the source and begin and end between characters of it. So the
    range can be cut out, and the message of a problem of a name tells what is in it; and the
    range can be marked as it is. This holds whatever the limit of nesting, the fields and the
    card are. -/
theorem inSource_parse (limit : Nat) (source : Text) :
    (∀ diagnostic ∈ (Query.parse limit source).tree.lint, diagnostic.InSource source) ∧
      let document := Template.parse limit source
      (∀ diagnostic ∈ document.tree.lint, diagnostic.InSource source) ∧
      ∀ fields : Fields,
        (∀ diagnostic ∈ document.lint fields, diagnostic.InSource source) ∧
        ∀ card : Template.Card, ∀ diagnostic ∈ (document.compile fields card).diagnostics,
          diagnostic.InSource source := by
  have sound {diagnostics : Diagnostics}
      (about : ∀ diagnostic ∈ diagnostics, ∃ part, diagnostic.IsAbout source part) :
      ∀ diagnostic ∈ diagnostics, diagnostic.InSource source := by
    intro diagnostic mem
    obtain ⟨part, isAbout⟩ := about diagnostic mem
    exact isAbout.inSource
  refine ⟨sound (Query.isAbout_lint_parse limit source),
    sound (Template.isAbout_lint_parse limit source), fun fields => ⟨?_, fun card => ?_⟩⟩
  · exact sound (Template.isAbout_parse limit source fields .standard false)
  · exact sound (Template.isAbout_parse limit source fields card true)

/-- The blanks around a name are in the range of its problem, but not in the message. -/
example :
    let source := "é\x7b\x7b Fé \x7d\x7d".toList
    let found := (Template.parse 0 source).lint (Fields.ofList [])
    found.map (·.kind) = [.unknownField] ∧
      found.map (fun problem => Text.slice? problem.span.start problem.span.stop source) =
        [some " Fé ".toList] ∧
      found.map (·.message) = ["unknown field `Fé`, rendered as text".toList] := by
  decide +kernel

end Flashcard
