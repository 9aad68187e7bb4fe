import Flashcard.Proofs.Syntax.Tiling
import Flashcard.Proofs.Template.Lexical
import Flashcard.Template.Document

/-!
# Leaves of a template

The syntax tree of a content holds the tokens of the content, in order. One kind
changes on the way: the end of a tag that stands for a field by itself is stored
under a kind of its own.

Results:
* `Malformed.tokens_tree`: the leaves of a malformed part are its tokens.
* `map_restored_tree`, `map_restored_parse`: but for that one kind, the leaves of a
  content, and of a template, are its tokens.
-/

namespace Flashcard.Template

/-! ## Leaves that are tokens -/

theorem Token.tokens_leaf (token : Token) : token.leaf.tokens = [token.pair] := rfl

theorem tokensAll_leaves (tokens : List Token) :
    Tree.tokensAll (tokens.map Token.leaf) = tokens.map Token.pair := by
  induction tokens with
  | nil => rfl
  | cons token tokens ih =>
    rw [List.map_cons, Tree.tokensAll, ih]
    rfl

theorem tokensAll_transformerTrees (transformers : List Text) :
    Tree.tokensAll (transformerTrees transformers) =
      (transformerTokens transformers).map Token.pair := by
  induction transformers with
  | nil => rfl
  | cons name transformers ih =>
    show _ :: _ :: Tree.tokensAll (transformerTrees transformers) = _
    rw [ih]
    rfl

theorem tokensAll_nameTrees (name : Option Text) :
    Tree.tokensAll (name.map nameTree).toList = (name.map Token.name).toList.map Token.pair := by
  cases name <;> rfl

theorem Reference.tokensAll_trees (reference : Reference) :
    Tree.tokensAll reference.trees = reference.tokens.map Token.pair := by
  rw [trees, tokens, Tree.tokensAll_append, tokensAll_transformerTrees, List.map_append]
  rfl

theorem BrokenTag.tokensAll_trees (tag : BrokenTag) :
    Tree.tokensAll tag.trees = tag.tokens.map Token.pair := by
  rw [trees, tokens, Tree.tokensAll_append, Tree.tokensAll_append, tokensAll_transformerTrees,
    tokensAll_nameTrees, tokensAll_leaves, List.map_append, List.map_append]

theorem tokensAll_closeTrees (close : Option Text) :
    Tree.tokensAll (closeTrees close) = (closeTokens close).map Token.pair := by
  cases close <;> rfl

/-- The leaves of the tree of a malformed part are its tokens. -/
theorem Malformed.tokens_tree (part : Malformed) :
    part.tree.tokens = part.tokens.map Token.pair := by
  cases part with
  | stray token => rfl
  | closeTag name tail =>
    simp only [tree, tokens, Tree.tokens, Tree.tokensAll, Tree.tokensAll_append,
      tokensAll_nameTrees, tokensAll_leaves, List.append_nil, List.map_cons, List.map_append]
    rfl
  | field tag =>
    simp only [tree, tokens, Tree.tokens, Tree.tokensAll, tag.tokensAll_trees, List.append_nil,
      List.map_cons]
    rfl
  | block condition tag =>
    simp only [tree, tokens, Tree.tokens, Tree.tokensAll, tag.tokensAll_trees, List.append_nil,
      List.map_cons]
    rfl
  | overflow tokens => exact tokensAll_leaves tokens

/-! ## Kinds restored -/

/-- Kind of the token that is stored under a kind. -/
def Kind.restored : Kind → Kind
  | selfCloseEnd => tagEnd
  | kind => kind

theorem Token.kind_ne_selfCloseEnd (token : Token) : token.kind ≠ .selfCloseEnd := by
  cases token <;> exact Kind.noConfusion

theorem Token.map_restored_pair (token : Token) :
    Prod.map Kind.restored id token.pair = token.pair := by
  cases token <;> rfl

theorem map_restored_pairs (tokens : List Token) :
    (tokens.map Token.pair).map (Prod.map Kind.restored id) = tokens.map Token.pair := by
  rw [List.map_map]
  exact List.map_congr_left fun token _ => token.map_restored_pair

namespace Content

mutual

/-- But for the ends of tags, the leaves of the tree of a content are its tokens. -/
theorem map_restored_tree : (content : Content) →
    content.tree.tokens.map (Prod.map Kind.restored id) = content.tokens.map Token.pair
  | .plain _ => rfl
  | .field reference => by
    simp only [tree, tokens, Tree.tokens, Tree.tokensAll, Tree.tokensAll_append,
      reference.tokensAll_trees, List.append_nil, List.map_append, List.map_cons,
      map_restored_pairs]
    rfl
  | .block condition reference contents close => by
    have inside := map_restored_treeAll contents
    simp only [tree, tokens, Tree.tokens, Tree.tokensAll, Tree.tokensAll_append,
      Token.tokens_leaf, reference.tokensAll_trees, tokensAll_closeTrees, inside,
      Token.map_restored_pair, map_restored_pairs, List.map_append, List.map_cons,
      List.append_assoc, List.cons_append, List.nil_append, List.append_nil]
  | .malformed part => by
    rw [tree, part.tokens_tree, map_restored_pairs, tokens]

/-- But for the ends of tags, the leaves of the trees of contents are their tokens. -/
theorem map_restored_treeAll : (contents : List Content) →
    (Tree.tokensAll (treeAll contents)).map (Prod.map Kind.restored id) =
      (tokensAll contents).map Token.pair
  | [] => rfl
  | content :: rest => by
    rw [treeAll, Tree.tokensAll, List.map_append, map_restored_tree content,
      map_restored_treeAll rest, tokensAll, List.map_append]

end

end Content

/-- But for the ends of tags, the leaves of the syntax tree of a template, in order,
    are its tokens. -/
theorem map_restored_parse (limit : Nat) (source : Text) :
    (parse limit source).tree.tokens.map (Prod.map Kind.restored id) =
      (tokenize source).map Token.pair := by
  rw [Document.tree, Tree.tokens, Content.map_restored_treeAll, tokensAll_parse]

end Flashcard.Template
