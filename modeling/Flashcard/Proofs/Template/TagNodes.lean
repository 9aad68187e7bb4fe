import Flashcard.Proofs.Syntax.Walk
import Flashcard.Template.Content

/-!
# Nodes inside a tag

Inside a tag stand transformers and a name, and no other nodes, whether or not the tag is well
formed. So what holds of nodes of these kinds holds of all nodes in a tag.

Results:
* `Reference.nodesAre_trees`, `BrokenTag.nodesAre_trees`: the nodes in a tag that stands for a
  field or opens a block.
* `nodesAre_closeTag`, `nodesAre_closeTrees`: the nodes in a close tag, and with it.
-/

namespace Flashcard.Template

variable {p : Kind → Prop} {a b : List (Tree Kind)}

/-- The kinds of nodes inside a tag have the property. -/
structure HoldsInTag (p : Kind → Prop) : Prop where
  transformer : p .transformer
  tagName : p .tagName

/-- All nodes of the trees are of kinds with the property. -/
def NodesAre (p : Kind → Prop) (trees : List (Tree Kind)) : Prop :=
  ∀ tree ∈ Tree.nodesAll trees, p tree.kind

theorem NodesAre.append (ha : NodesAre p a) (hb : NodesAre p b) : NodesAre p (a ++ b) := by
  intro tree mem
  rw [Tree.nodesAll_append] at mem
  exact (List.mem_append.1 mem).elim (ha tree) (hb tree)

theorem NodesAre.node {kind : Kind} {children : List (Tree Kind)} (h : p kind)
    (inside : NodesAre p children) : NodesAre p [.node kind children] := by
  intro tree mem
  rw [Tree.nodesAll, Tree.nodesAll, List.append_nil, Tree.nodes] at mem
  obtain rfl | mem := List.mem_cons.1 mem
  · exact h
  · exact inside tree mem

theorem nodesAre_leaves (tokens : List Token) : NodesAre p (tokens.map Token.leaf) := by
  induction tokens with
  | nil => exact nofun
  | cons token tokens ih => exact ih

theorem NodesAre.leaf (token : Token) (h : NodesAre p a) : NodesAre p (token.leaf :: a) := h

section Tags

variable (h : HoldsInTag p)

include h

theorem nodesAre_transformerTrees (transformers : List Text) :
    NodesAre p (transformerTrees transformers) := by
  induction transformers with
  | nil => exact nofun
  | cons name transformers ih =>
    have first : NodesAre p [transformerTree name] :=
      .node h.transformer (nodesAre_leaves [.name name])
    exact first.append (.leaf .colon ih)

theorem nodesAre_nameTrees (name : Option Text) : NodesAre p (name.map nameTree).toList := by
  cases name with
  | none => exact nofun
  | some name => exact .node h.tagName (nodesAre_leaves [.name name])

theorem Reference.nodesAre_trees (reference : Reference) : NodesAre p reference.trees :=
  (nodesAre_transformerTrees h _).append (nodesAre_nameTrees h (some _))

theorem BrokenTag.nodesAre_trees (tag : BrokenTag) : NodesAre p tag.trees :=
  ((nodesAre_transformerTrees h _).append (nodesAre_nameTrees h _)).append (nodesAre_leaves _)

theorem Reference.nodesAre_fieldTag (reference : Reference) :
    NodesAre p (Token.tagStart.leaf :: (reference.trees ++ [selfCloseLeaf])) :=
  .leaf .tagStart ((reference.nodesAre_trees h).append nofun)

theorem Reference.nodesAre_openTag (condition : Condition) (reference : Reference) :
    NodesAre p
      (Token.tagStart.leaf :: condition.token.leaf :: (reference.trees ++ [Token.tagEnd.leaf])) :=
  .leaf .tagStart (.leaf condition.token
    ((reference.nodesAre_trees h).append (nodesAre_leaves [.tagEnd])))

/-- The nodes in a close tag that may be broken. -/
theorem nodesAre_closeTag (name : Option Text) (tail : List Token) :
    NodesAre p
      (Token.closeTagStart.leaf :: ((name.map nameTree).toList ++ tail.map Token.leaf)) :=
  .leaf .closeTagStart ((nodesAre_nameTrees h name).append (nodesAre_leaves tail))

theorem nodesAre_closeTrees (closeTag : p .closeTag) (close : Option Text) :
    NodesAre p (closeTrees close) := by
  cases close with
  | none => exact nofun
  | some name => exact .node closeTag (nodesAre_closeTag h (some name) [.tagEnd])

end Tags

/-- Trees whose nodes are no error nodes contain none. -/
theorem NodesAre.any_hasErrorNode (h : NodesAre (· ≠ .error) a) :
    a.any Tree.hasErrorNode = false := by
  rw [Tree.any_hasErrorNode, List.any_map, List.any_eq_false]
  intro tree mem
  exact fun error => h tree mem (of_decide_eq_true error)

end Flashcard.Template
