import Flashcard.Proofs.Template.Anchor
import Flashcard.Proofs.Template.Problem

/-!
# Syntax errors of a template

The syntax errors of a tree are found on a walk through it, whatever its language is. Checking
or rendering a template meets its contents instead, with the trees of none. Both find the same
errors, also in blocks that are not shown or that are cut off.

Results:
* `syntaxErrors_renderAll`: the syntax errors that contents report are those at their error
  nodes.
* `syntaxErrors_parse`: checking and rendering report the syntax errors of the tree.
-/

namespace Flashcard

namespace Diagnostics

/-- The syntax errors, in order. -/
def syntaxErrors (diagnostics : Diagnostics) : Diagnostics :=
  diagnostics.filter (·.kind = .syntaxError)

theorem syntaxErrors_append (a b : Diagnostics) :
    syntaxErrors (a ++ b) = a.syntaxErrors ++ b.syntaxErrors :=
  List.filter_append a b

theorem syntaxErrors_eq_nil {diagnostics : Diagnostics}
    (h : ∀ diagnostic ∈ diagnostics, diagnostic.kind ≠ .syntaxError) :
    diagnostics.syntaxErrors = [] := by
  refine List.filter_eq_nil_iff.2 fun diagnostic mem error => ?_
  exact h diagnostic mem (of_decide_eq_true error)

end Diagnostics

namespace Template

/-! ## Error nodes among the anchors -/

/-- A syntax error for each of the error nodes. -/
def errorsAt (visits : List (Tree.Visit Kind)) : Diagnostics :=
  (visits.filter (·.isErrorNode)).map fun visit => .report .syntaxError visit.span none

theorem errorsAt_append (a b : List (Tree.Visit Kind)) :
    errorsAt (a ++ b) = errorsAt a ++ errorsAt b := by
  rw [errorsAt, List.filter_append, List.map_append]
  rfl

theorem isErrorNode_iff {visit : Tree.Visit Kind} :
    visit.isErrorNode = true ↔ visit.isNode = true ∧ visit.kind = .error := by
  rw [Tree.Visit.isErrorNode, Bool.and_eq_true]
  exact and_congr_right fun _ => decide_eq_true_iff

theorem isAnchor_of_isErrorNode {visit : Tree.Visit Kind} (h : visit.isErrorNode = true) :
    isAnchor visit = true := by
  obtain ⟨node, error⟩ := isErrorNode_iff.1 h
  rw [isAnchor, node, error]
  rfl

theorem filter_isErrorNode_filter (visits : List (Tree.Visit Kind)) :
    (visits.filter isAnchor).filter (·.isErrorNode) = visits.filter (·.isErrorNode) := by
  rw [List.filter_filter]
  refine List.filter_congr fun visit _ => ?_
  cases error : visit.isErrorNode with
  | false => rfl
  | true => exact isAnchor_of_isErrorNode error

/-- The error nodes of a template are those among the anchors of its contents. -/
theorem Document.filter_isErrorNode_walk (document : Document) :
    document.tree.walk.filter (·.isErrorNode) =
      (Content.anchorsAll [.document] 0 document.contents).filter (·.isErrorNode) := by
  rw [← document.filter_walk, filter_isErrorNode_filter]

theorem Document.lint_tree (document : Document) :
    document.tree.lint = errorsAt (Content.anchorsAll [.document] 0 document.contents) := by
  rw [Tree.lint, document.filter_isErrorNode_walk]
  rfl

/-! ## What contents report -/

theorem syntaxErrors_renderField (fields : Fields) (card : Card) (visible : Bool) (start : Nat)
    (reference : Reference) :
    (renderField fields card visible start reference).diagnostics.syntaxErrors = [] := by
  refine Diagnostics.syntaxErrors_eq_nil fun diagnostic mem => ?_
  obtain ⟨name, span, -, rfl⟩ | ⟨kind, rfl | rfl, rfl⟩ := mem_renderField mem <;> nofun

theorem syntaxErrors_blockProblems (fields : Fields) (card : Card) (start : Nat)
    (reference : Reference) (closed : Bool) :
    (blockProblems fields card start reference closed).syntaxErrors = [] := by
  refine Diagnostics.syntaxErrors_eq_nil fun diagnostic mem => ?_
  obtain ⟨kind, detail, rfl | rfl, rfl⟩ | rfl := mem_blockProblems mem <;> nofun

/-- Of a malformed part the error node is reported, not the tag that fills it. -/
theorem errorsAt_malformed (path : List Kind) (start : Nat) (part : Malformed) :
    errorsAt (part.anchors path start) = [.report .syntaxError (part.span start) none] := by
  cases part <;> rfl

variable (fields : Fields) (card : Card)

mutual

/-- The syntax errors that a content reports are those at its error nodes. -/
theorem syntaxErrors_render (visible : Bool) (path : List Kind) (start : Nat) :
    (content : Content) →
      (render fields card visible start content).diagnostics.syntaxErrors =
        errorsAt (content.anchors path start)
  | .plain _ => rfl
  | .field reference => syntaxErrors_renderField fields card visible start reference
  | .block condition reference contents close => by
    rw [render, Output.diagnostics_append, Diagnostics.syntaxErrors_append,
      syntaxErrors_blockProblems, List.nil_append, syntaxErrors_renderAll _ (.element :: path)]
    rfl
  | .malformed part => (errorsAt_malformed path start part).symm

/-- The syntax errors that contents in a row report are those at their error nodes. -/
theorem syntaxErrors_renderAll (visible : Bool) (path : List Kind) (start : Nat) :
    (contents : List Content) →
      (renderAll fields card visible start contents).diagnostics.syntaxErrors =
        errorsAt (Content.anchorsAll path start contents)
  | [] => rfl
  | content :: rest => by
    rw [renderAll, Output.diagnostics_append, Diagnostics.syntaxErrors_append,
      syntaxErrors_render visible path start content, syntaxErrors_renderAll visible path,
      Content.anchorsAll, errorsAt_append]

end

/-- Contents report the syntax errors of the tree of their document, whether or not they are
    shown. -/
theorem Document.syntaxErrors_render (document : Document) (visible : Bool) :
    (renderAll fields card visible 0 document.contents).diagnostics.syntaxErrors =
      document.tree.lint := by
  rw [document.lint_tree]
  exact syntaxErrors_renderAll fields card visible [.document] 0 document.contents

/-! ## Whole templates -/

theorem InRow.pairwise_errorsAt {start stop : Nat} {anchors : List (Tree.Visit Kind)}
    (row : InRow start stop anchors) (nonempty : ∀ anchor ∈ anchors, 0 < anchor.span.size) :
    (errorsAt anchors).Pairwise fun a b => a.span.start < b.span.start := by
  refine List.pairwise_map.2 ?_
  refine List.Pairwise.imp_of_mem ?_ (row.separate.filter _)
  intro first second before behind separate
  obtain ⟨mem, -⟩ := List.mem_filter.1 before
  obtain ⟨-, error⟩ := (List.mem_filter.1 behind).imp_right isErrorNode_iff.1
  obtain apart | ⟨-, tag, -⟩ := separate
  · exact Nat.lt_of_lt_of_le (Nat.lt_add_of_pos_right (nonempty first mem)) apart
  · exact absurd error.2 tag

/-- Checking a template and rendering a card from it report the same syntax errors as a walk
    through its tree, in the same order and once for each error node, whatever the fields and
    the card are. Each begins behind those before it; and since only elements stand around an
    error node, none is inside another one. -/
theorem syntaxErrors_parse (limit : Nat) (source : Text) :
    let document := parse limit source
    (∀ fields : Fields, (document.lint fields).syntaxErrors = document.tree.lint ∧
      ∀ card : Card, (document.compile fields card).diagnostics.syntaxErrors =
        document.tree.lint) ∧
      (document.tree.lint.Pairwise fun a b => a.span.start < b.span.start) ∧
      ∀ visit ∈ document.tree.walk, visit.isErrorNode = true →
        ∃ blocks ≤ limit + 1, visit.path = List.replicate blocks .element ++ [.document] := by
  intro document
  refine ⟨fun fields => ⟨?_, fun card => ?_⟩, ?_, ?_⟩
  · exact document.syntaxErrors_render fields .standard false
  · exact document.syntaxErrors_render fields card true
  · rw [document.lint_tree]
    have nonempty := size_pos_anchorsAll [.document] 0 document.contents (solid_parse limit source)
    exact (inRow_anchorsAll _ _ _).pairwise_errorsAt nonempty
  · intro visit mem error
    have here : visit ∈ document.tree.walk.filter (·.isErrorNode) := List.mem_filter.2 ⟨mem, error⟩
    rw [document.filter_isErrorNode_walk] at here
    exact path_error_anchorsAll [.document] 0 document.contents (wellFormed_parse limit source)
      visit (List.mem_filter.1 here).1 (isErrorNode_iff.1 error).2

end Template

end Flashcard
