import Flashcard.Proofs.Diagnostic.About
import Flashcard.Proofs.Syntax.Walk

/-!
# Ranges of nodes

A walk visits every node of a tree with the range that its text takes in the source. A node can
only be empty if it has no children; below one that has some, down to its tokens, there is
always a byte.

Results:
* `hasAt_occurrences`: the nodes of a tree stand in the source where the tree does.
* `text_ne_nil_of_mem`: where every node has children, none is empty.
* `isAbout_lint`: then every syntax error is about a part of the source.
-/

namespace Flashcard.Tree

variable {κ : Type}

/-! ## Texts and tokens of nodes -/

mutual

/-- The nodes of a tree stand in the source where the tree does. -/
theorem hasAt_occurrences {source : Text} (above : List (Tree κ)) {start : Nat} :
    (tree : Tree κ) → source.HasAt start tree.text →
      ∀ o ∈ occurrences above start tree, source.HasAt o.start o.tree.text
  | leaf _ _, _ => nofun
  | node _ children, h => List.forall_mem_cons.2 ⟨h, hasAt_occurrencesAll _ children h⟩

theorem hasAt_occurrencesAll {source : Text} (above : List (Tree κ)) {start : Nat} :
    (trees : List (Tree κ)) → source.HasAt start (textAll trees) →
      ∀ o ∈ occurrencesAll above start trees, source.HasAt o.start o.tree.text
  | [], _ => nofun
  | tree :: rest, h => by
    have behind := h.right
    rw [← tree.size_eq] at behind
    exact List.forall_mem_append.2 ⟨hasAt_occurrences above tree h.left,
      hasAt_occurrencesAll above rest behind⟩

end

mutual

theorem tokens_subset (above : List (Tree κ)) (start : Nat) : (tree : Tree κ) →
    ∀ o ∈ occurrences above start tree, o.tree.tokens ⊆ tree.tokens
  | leaf _ _ => nofun
  | node _ children =>
    List.forall_mem_cons.2 ⟨fun _ mem => mem, tokensAll_subset _ start children⟩

theorem tokensAll_subset (above : List (Tree κ)) (start : Nat) : (trees : List (Tree κ)) →
    ∀ o ∈ occurrencesAll above start trees, o.tree.tokens ⊆ tokensAll trees
  | [] => nofun
  | tree :: rest =>
    List.forall_mem_append.2
      ⟨fun o here => fun _ mem =>
        List.mem_append_left _ (tokens_subset above start tree o here mem),
      fun o later => fun _ mem =>
        List.mem_append_right _ (tokensAll_subset above _ rest o later mem)⟩

end

theorem textAll_ne_nil {trees : List (Tree κ)} (nonempty : trees ≠ [])
    (h : ∀ tree ∈ trees, tree.text ≠ []) : textAll trees ≠ [] := by
  obtain ⟨tree, rest, rfl⟩ := List.exists_cons_of_ne_nil nonempty
  exact List.append_ne_nil_of_left_ne_nil (h tree List.mem_cons_self) _

mutual

/-- A tree in which every node has children is not empty, and neither are its nodes. -/
theorem text_ne_nil_of_mem (above : List (Tree κ)) (start : Nat) : (tree : Tree κ) →
    (∀ o ∈ occurrences above start tree, o.tree.children ≠ []) →
      (∀ token ∈ tree.tokens, token.2 ≠ []) →
      tree.text ≠ [] ∧ ∀ o ∈ occurrences above start tree, o.tree.text ≠ []
  | leaf _ _, _, filled => ⟨filled _ List.mem_cons_self, nofun⟩
  | node kind children, branches, filled => by
    obtain ⟨here, inside⟩ := List.forall_mem_cons.1 branches
    obtain ⟨texts, below⟩ := text_ne_nil_of_memAll (node kind children :: above) start children
      inside filled
    have text : (node kind children).text ≠ [] := textAll_ne_nil here texts
    exact ⟨text, List.forall_mem_cons.2 ⟨text, below⟩⟩

/-- Trees in a row in which every node has children are not empty, and neither are their
    nodes. -/
theorem text_ne_nil_of_memAll (above : List (Tree κ)) (start : Nat) : (trees : List (Tree κ)) →
    (∀ o ∈ occurrencesAll above start trees, o.tree.children ≠ []) →
      (∀ token ∈ tokensAll trees, token.2 ≠ []) →
      (∀ tree ∈ trees, tree.text ≠ []) ∧ ∀ o ∈ occurrencesAll above start trees, o.tree.text ≠ []
  | [], _, _ => ⟨nofun, nofun⟩
  | tree :: rest, branches, filled => by
    obtain ⟨inTree, inRest⟩ := List.forall_mem_append.1 branches
    obtain ⟨ofTree, ofRest⟩ := List.forall_mem_append.1 filled
    obtain ⟨text, nodes⟩ := text_ne_nil_of_mem above start tree inTree ofTree
    obtain ⟨texts, others⟩ := text_ne_nil_of_memAll above (start + tree.size) rest inRest ofRest
    exact ⟨List.forall_mem_cons.2 ⟨text, texts⟩, List.forall_mem_append.2 ⟨nodes, others⟩⟩

end

/-! ## Syntax errors -/

/-- Where the root is no error node, every syntax error is that of a node below it. -/
theorem exists_occurrence_of_mem_lint [Vocabulary κ] {kind : κ} {children : List (Tree κ)}
    {diagnostic : Diagnostic} (root : Vocabulary.isErrorNode kind = false)
    (mem : diagnostic ∈ (node kind children).lint) :
    ∃ o ∈ occurrencesAll [node kind children] 0 children,
      diagnostic = .report .syntaxError ⟨o.start, o.tree.size⟩ none := by
  obtain ⟨visit, found, rfl⟩ := List.mem_map.1 mem
  obtain ⟨met, error⟩ := List.mem_filter.1 found
  obtain ⟨isNode, isError⟩ := Bool.and_eq_true_iff.1 error
  obtain rfl | below := List.mem_cons.1 met
  · exact absurd (root.symm.trans isError) Bool.false_ne_true
  · have visited := List.mem_map_of_mem (f := fun visit => (visit.kind, visit.span))
      (List.mem_filter.2 ⟨below, isNode⟩)
    rw [map_visitsAll [kind] [node kind children] 0 children] at visited
    obtain ⟨o, mem, place⟩ := List.mem_map.1 visited
    have span : (⟨o.start, o.tree.size⟩ : Span) = visit.span := (Prod.mk.inj place).2
    exact ⟨o, mem, by rw [span]⟩

/-- The syntax errors of a tree that is the source are about parts of it, if every node below
    the root has children. The root may be empty, but is no error node. -/
theorem isAbout_lint [Vocabulary κ] {source : Text} {kind : κ} {children : List (Tree κ)}
    (root : Vocabulary.isErrorNode kind = false) (text : textAll children = source)
    (branches : ∀ o ∈ occurrencesAll [node kind children] 0 children, o.tree.children ≠ [])
    (filled : ∀ token ∈ tokensAll children, token.2 ≠ []) :
    ∀ diagnostic ∈ (node kind children).lint, ∃ part, diagnostic.IsAbout source part := by
  intro diagnostic mem
  obtain ⟨o, below, rfl⟩ := exists_occurrence_of_mem_lint root mem
  have whole : source.HasAt 0 (textAll children) := by
    rw [text]
    exact source.hasAt_self
  rw [o.tree.size_eq]
  exact ⟨o.tree.text, Diagnostic.isAbout_report rfl
    ((text_ne_nil_of_memAll _ 0 children branches filled).2 o below)
    (hasAt_occurrencesAll _ children whole o below) none⟩

end Flashcard.Tree
