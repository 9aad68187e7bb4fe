import Flashcard.Query.Token

/-!
# Items of a query

A query is a row of items: terms, the operator `OR` between terms, and the
blanks around them. Nothing of the source is left out, so an item can be
written back as tokens and shown as a syntax tree. Malformed items stay in the
row; their trees are error nodes.

Results:
* `text_tree`, `textAll_treeAll`: trees hold the same characters as tokens.
-/

namespace Flashcard.Query

/-- A text that a term compares with. -/
inductive Value where
  | word (text : Text)
  /-- A string in quotes: its content, escapes in place, if it has any, and
      whether it has its closing quote. -/
  | quoted (content : Option Text) (closed : Bool)
deriving DecidableEq, Repr

namespace Value

/-- Content of a string with `\"` and `\\` resolved. Other backslashes stand for
    themselves. -/
def unescape : Text → Text
  | '\\' :: '"' :: rest => '"' :: unescape rest
  | '\\' :: '\\' :: rest => '\\' :: unescape rest
  | c :: rest => c :: unescape rest
  | [] => []

/-- The text meant. -/
def text : Value → Text
  | word text => text
  | quoted content _ => unescape (content.getD [])

/-- A string without its closing quote is malformed. -/
def isError : Value → Bool
  | word _ => false
  | quoted _ closed => !closed

/-- Tokens of a value. -/
def tokens : Value → List Token
  | word text => [.word text]
  | quoted content closed =>
    .quote :: ((content.map Token.content).toList ++ if closed then [.quote] else [])

end Value

/-- Something in the row that makes up a query or a group. -/
inductive Item where
  | blank (text : Text)
  | plain (value : Value)
  /-- `-` and the term that it negates. -/
  | negation (operand : Item)
  /-- A row in parentheses; `closed` tells whether it has its closing one. -/
  | group (items : List Item) (closed : Bool)
  /-- A filter mark as written, and the value that touches it. -/
  | filter (field : FilterField) (mark : Text) (value : Option Value)
  /-- `OR` between two terms. -/
  | disjunction
  /-- A token that fits nowhere. -/
  | stray (token : Token)
  /-- All that is left of a query where terms are nested too deeply. -/
  | overflow (tokens : List Token)

namespace Item

/-- The item is a run of blanks. -/
def isBlank : Item → Bool
  | blank _ => true
  | _ => false

/-- The item as a whole is malformed. A group must be closed and hold
    something; a filter needs a value. -/
def isError : Item → Bool
  | blank _ | negation _ | disjunction => false
  | plain value => value.isError
  | group items closed => !closed || items.all isBlank
  | filter _ _ value => value.isNone
  | stray _ | overflow _ => true

mutual

/-- The item or something inside it is malformed. -/
def hasError : Item → Bool
  | blank _ | disjunction => false
  | plain value => value.isError
  | negation operand => operand.hasError
  | group items closed => !closed || items.all isBlank || anyHasError items
  | filter _ _ none => true
  | filter _ _ (some value) => value.isError
  | stray _ | overflow _ => true

/-- Something in a row of items is malformed. -/
def anyHasError : List Item → Bool
  | [] => false
  | item :: rest => item.hasError || anyHasError rest

end

/-! ## Items as tokens -/

mutual

/-- Tokens of an item. -/
def tokens : Item → List Token
  | blank text => [.blank text]
  | plain value => value.tokens
  | negation operand => .minus :: operand.tokens
  | group items closed =>
    .parenOpen :: (tokensAll items ++ if closed then [.parenClose] else [])
  | filter field mark none => [.mark field mark]
  | filter field mark (some value) => .mark field mark :: value.tokens
  | disjunction => [.orKeyword]
  | stray token => [token]
  | overflow tokens => tokens

/-- Tokens of a row of items. -/
def tokensAll : List Item → List Token
  | [] => []
  | item :: rest => item.tokens ++ tokensAll rest

end

/-- Number of bytes of an item. -/
def size (item : Item) : Nat := (Token.textAll item.tokens).size

/-- Items in a row, each with the byte where it begins. -/
def placeAll (start : Nat) : List Item → List (Nat × Item)
  | [] => []
  | item :: rest => (start, item) :: placeAll (start + item.size) rest

/-! ## Items as syntax trees -/

end Item

/-- Wraps the tree of something malformed in an error node. -/
def markError (malformed : Bool) (tree : Tree Kind) : Tree Kind :=
  if malformed then .node .error [tree] else tree

/-- Syntax tree of a value. -/
def Value.tree : Value → Tree Kind
  | word text => .node .simpleString [(Token.word text).leaf]
  | quoted content closed =>
    markError (!closed) (.node .quotedString ((quoted content closed).tokens.map Token.leaf))

/-- Kind of the node of a filter. -/
def FilterField.kind : FilterField → Kind
  | tag => .tag
  | deck => .deck
  | template => .template

namespace Item

mutual

/-- Syntax tree of an item. -/
def tree : Item → Tree Kind
  | blank text => (Token.blank text).leaf
  | plain value => value.tree
  | negation operand => .node .negation [Token.minus.leaf, operand.tree]
  | group items closed =>
    markError (!closed || items.all isBlank)
      (.node .group (Token.parenOpen.leaf ::
        (treeAll items ++ if closed then [Token.parenClose.leaf] else [])))
  | filter field mark none =>
    .node .error [.node field.kind [(Token.mark field mark).leaf]]
  | filter field mark (some value) =>
    .node field.kind [(Token.mark field mark).leaf, value.tree]
  | disjunction => .node .disjunction [Token.orKeyword.leaf]
  | stray token => .node .error [token.leaf]
  | overflow tokens => .node .error (tokens.map Token.leaf)

/-- Syntax trees of a row of items. -/
def treeAll : List Item → List (Tree Kind)
  | [] => []
  | item :: rest => item.tree :: treeAll rest

end

end Item

/-! ## Trees hold the characters of the tokens -/

@[simp] theorem Token.text_leaf (token : Token) : token.leaf.text = token.text := rfl

theorem Token.textAll_leaves (tokens : List Token) :
    Tree.textAll (tokens.map Token.leaf) = Token.textAll tokens := by
  induction tokens with
  | nil => rfl
  | cons token rest ih => simp [ih]

@[simp] theorem text_markError (malformed : Bool) (tree : Tree Kind) :
    (markError malformed tree).text = tree.text := by
  cases malformed <;> simp [markError]

theorem Value.text_tree (value : Value) : value.tree.text = Token.textAll value.tokens := by
  cases value with
  | word text => simp [tree, tokens]
  | quoted content closed => simp only [tree, text_markError, Tree.text_node, Token.textAll_leaves]

namespace Item

mutual

/-- The tree of an item holds the characters of its tokens. -/
theorem text_tree : (item : Item) → item.tree.text = Token.textAll item.tokens
  | blank _ => by simp [tree, tokens]
  | plain value => by simpa [tree, tokens] using value.text_tree
  | negation operand => by
    have ih := text_tree operand
    simp [tree, tokens, ih]
  | group items closed => by
    have ih := textAll_treeAll items
    cases closed <;> simp [tree, tokens, ih]
  | filter _ _ none => by simp [tree, tokens]
  | filter _ _ (some value) => by simp [tree, tokens, value.text_tree]
  | disjunction => by simp [tree, tokens]
  | stray _ => by simp [tree, tokens]
  | overflow _ => by simp [tree, tokens, Token.textAll_leaves]

/-- The trees of a row of items hold the characters of its tokens. -/
theorem textAll_treeAll :
    (items : List Item) → Tree.textAll (treeAll items) = Token.textAll (tokensAll items)
  | [] => rfl
  | item :: rest => by
    have h := text_tree item
    have ih := textAll_treeAll rest
    simp [treeAll, tokensAll, h, ih]

end

theorem treeAll_append (a b : List Item) : treeAll (a ++ b) = treeAll a ++ treeAll b := by
  induction a with
  | nil => rfl
  | cons item rest ih => rw [List.cons_append, treeAll, ih, treeAll, List.cons_append]

@[simp] theorem tokensAll_append (a b : List Item) :
    tokensAll (a ++ b) = tokensAll a ++ tokensAll b := by
  induction a with
  | nil => rfl
  | cons item rest ih => simp [tokensAll, ih]

end Item

end Flashcard.Query
