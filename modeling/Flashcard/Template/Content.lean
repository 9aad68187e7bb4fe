import Flashcard.Template.Token
import Flashcard.Unicode.Blank

/-!
# Contents of a template

A template is a row of contents: texts, references to fields, conditional
blocks with contents of their own, and parts that are malformed. Nothing of the
source is left out, so a content can be written back as tokens and shown as a
syntax tree; the trees of malformed parts are error nodes.

Results:
* `text_tree`, `textAll_treeAll`: trees hold the same characters as tokens.
-/

namespace Flashcard.Template

/-- When the contents of a block are shown. -/
inductive Condition where
  /-- If the field holds something. -/
  | ifFilled
  /-- Unless the field holds something. -/
  | unlessFilled
deriving DecidableEq, Repr

/-- Token that marks the condition of a block. -/
def Condition.token : Condition → Token
  | ifFilled => .ifMark
  | unlessFilled => .unlessMark

/-- A field, and the transformers that its value goes through, the last one
    first. Names keep the spaces around them. -/
structure Reference where
  transformers : List Text
  name : Text
deriving DecidableEq, Repr

/-- A tag that is not well formed: the transformers and the name it begins
    with, and the tokens after them, to its end if it has one. -/
structure BrokenTag where
  transformers : List Text
  name : Option Text
  tail : List Token
deriving DecidableEq, Repr

/-- A part of a template that breaks the grammar. -/
inductive Malformed where
  /-- A token that fits nowhere. -/
  | stray (token : Token)
  /-- A close tag that closes nothing: its name, if it is well formed up to
      there, and the tokens after it. -/
  | closeTag (name : Option Text) (tail : List Token)
  | field (tag : BrokenTag)
  | block (condition : Condition) (tag : BrokenTag)
  /-- All that is left of a template where blocks are nested too deeply. -/
  | overflow (tokens : List Token)
deriving DecidableEq, Repr

/-- Something in the row that makes up a template or a block. -/
inductive Content where
  | plain (text : Text)
  /-- A tag that stands for a field. -/
  | field (reference : Reference)
  /-- An open tag with what follows it, and the name in its close tag if it has
      one. -/
  | block (condition : Condition) (reference : Reference) (contents : List Content)
      (close : Option Text)
  | malformed (part : Malformed)

/-! ## Contents as tokens -/

/-- Tokens of transformers, each with the colon after it. -/
def transformerTokens (transformers : List Text) : List Token :=
  transformers.flatMap fun name => [.name name, .colon]

/-- Tokens of a reference. -/
def Reference.tokens (reference : Reference) : List Token :=
  transformerTokens reference.transformers ++ [.name reference.name]

/-- Tokens of a broken tag after its beginning. -/
def BrokenTag.tokens (tag : BrokenTag) : List Token :=
  transformerTokens tag.transformers ++ (tag.name.map Token.name).toList ++ tag.tail

/-- Tokens of a malformed part. -/
def Malformed.tokens : Malformed → List Token
  | stray token => [token]
  | closeTag name tail => .closeTagStart :: ((name.map Token.name).toList ++ tail)
  | field tag => .tagStart :: tag.tokens
  | block condition tag => .tagStart :: condition.token :: tag.tokens
  | overflow tokens => tokens

/-- Tokens of the close tag with a name, if there is one. -/
def closeTokens : Option Text → List Token
  | none => []
  | some name => [.closeTagStart, .name name, .tagEnd]

namespace Content

mutual

/-- Tokens of a content. -/
def tokens : Content → List Token
  | plain text => [.plain text]
  | field reference => .tagStart :: (reference.tokens ++ [.tagEnd])
  | block condition reference contents close =>
    .tagStart :: condition.token :: (reference.tokens ++ [.tagEnd]) ++ tokensAll contents ++
      closeTokens close
  | malformed part => part.tokens

/-- Tokens of a row of contents. -/
def tokensAll : List Content → List Token
  | [] => []
  | content :: rest => content.tokens ++ tokensAll rest

end

end Content

/-! ## Contents as syntax trees -/

/-- Node of a transformer. -/
def transformerTree (name : Text) : Tree Kind := .node .transformer [(Token.name name).leaf]

/-- Node of the name in a tag. -/
def nameTree (name : Text) : Tree Kind := .node .tagName [(Token.name name).leaf]

/-- Nodes of transformers, each with the colon after it. -/
def transformerTrees (transformers : List Text) : List (Tree Kind) :=
  transformers.flatMap fun name => [transformerTree name, Token.colon.leaf]

/-- Trees of a reference. -/
def Reference.trees (reference : Reference) : List (Tree Kind) :=
  transformerTrees reference.transformers ++ [nameTree reference.name]

/-- Trees of a broken tag after its beginning. -/
def BrokenTag.trees (tag : BrokenTag) : List (Tree Kind) :=
  transformerTrees tag.transformers ++ (tag.name.map nameTree).toList ++ tag.tail.map Token.leaf

/-- Tree of a malformed part. -/
def Malformed.tree : Malformed → Tree Kind
  | stray token => .node .error [token.leaf]
  | closeTag name tail =>
    .node .error [.node .closeTag
      (Token.closeTagStart.leaf :: ((name.map nameTree).toList ++ tail.map Token.leaf))]
  | field tag =>
    .node .error [.node .element [.node .selfClosingTag (Token.tagStart.leaf :: tag.trees)]]
  | block condition tag =>
    .node .error [.node .element
      [.node .openTag (Token.tagStart.leaf :: condition.token.leaf :: tag.trees)]]
  | overflow tokens => .node .error (tokens.map Token.leaf)

/-- The end of a tag that stands for a field. -/
def selfCloseLeaf : Tree Kind := .leaf .selfCloseEnd Token.tagEnd.text

/-- Tree of the close tag with a name, if there is one. -/
def closeTrees : Option Text → List (Tree Kind)
  | none => []
  | some name =>
    [.node .closeTag [Token.closeTagStart.leaf, nameTree name, Token.tagEnd.leaf]]

namespace Content

mutual

/-- Syntax tree of a content. -/
def tree : Content → Tree Kind
  | plain text => .node .text [(Token.plain text).leaf]
  | field reference =>
    .node .element [.node .selfClosingTag
      (Token.tagStart.leaf :: (reference.trees ++ [selfCloseLeaf]))]
  | block condition reference contents close =>
    .node .element (.node .openTag
      (Token.tagStart.leaf :: condition.token.leaf :: (reference.trees ++ [Token.tagEnd.leaf])) ::
        (treeAll contents ++ closeTrees close))
  | malformed part => part.tree

/-- Syntax trees of a row of contents. -/
def treeAll : List Content → List (Tree Kind)
  | [] => []
  | content :: rest => content.tree :: treeAll rest

end

end Content

/-! ## Trees hold the characters of the tokens -/

@[simp] theorem Token.text_leaf (token : Token) : token.leaf.text = token.text := rfl

theorem Token.textAll_leaves (tokens : List Token) :
    Tree.textAll (tokens.map Token.leaf) = Token.textAll tokens := by
  induction tokens with
  | nil => rfl
  | cons token rest ih => simp [ih]

theorem textAll_transformerTrees (transformers : List Text) :
    Tree.textAll (transformerTrees transformers) =
      Token.textAll (transformerTokens transformers) := by
  induction transformers with
  | nil => rfl
  | cons name rest ih =>
    simp only [transformerTrees, transformerTokens] at ih
    simp only [transformerTrees, transformerTokens, List.flatMap_cons, Tree.textAll_append,
      Token.textAll_append, ih]
    simp [transformerTree]

theorem textAll_nameTrees (name : Option Text) :
    Tree.textAll (name.map nameTree).toList = Token.textAll (name.map Token.name).toList := by
  cases name <;> simp [nameTree]

theorem Reference.textAll_trees (reference : Reference) :
    Tree.textAll reference.trees = Token.textAll reference.tokens := by
  simp [trees, tokens, textAll_transformerTrees, nameTree]

theorem BrokenTag.textAll_trees (tag : BrokenTag) :
    Tree.textAll tag.trees = Token.textAll tag.tokens := by
  simp [trees, tokens, textAll_transformerTrees, textAll_nameTrees, Token.textAll_leaves]

theorem Malformed.text_tree (part : Malformed) : part.tree.text = Token.textAll part.tokens := by
  cases part <;>
    simp [tree, tokens, BrokenTag.textAll_trees, textAll_nameTrees, Token.textAll_leaves]

theorem textAll_closeTrees (close : Option Text) :
    Tree.textAll (closeTrees close) = Token.textAll (closeTokens close) := by
  cases close <;> simp [closeTrees, closeTokens, nameTree]

namespace Content

mutual

/-- The tree of a content holds the characters of its tokens. -/
theorem text_tree : (content : Content) → content.tree.text = Token.textAll content.tokens
  | plain _ => by simp [tree, tokens]
  | field reference => by
    simp [tree, tokens, reference.textAll_trees, selfCloseLeaf]
  | block _ reference contents close => by
    have ih := textAll_treeAll contents
    simp [tree, tokens, reference.textAll_trees, ih, textAll_closeTrees]
  | malformed part => by simpa [tree, tokens] using part.text_tree

/-- The trees of a row of contents hold the characters of its tokens. -/
theorem textAll_treeAll :
    (contents : List Content) →
      Tree.textAll (treeAll contents) = Token.textAll (tokensAll contents)
  | [] => rfl
  | content :: rest => by
    have h := text_tree content
    have ih := textAll_treeAll rest
    simp [treeAll, tokensAll, h, ih]

end

end Content

end Flashcard.Template
