import Flashcard.Proofs.Query.Lexical
import Flashcard.Query.Program

/-!
# Reading a query loses nothing

The tokens of a query tile it, and they are the leaves of its syntax tree, from
left to right. This holds for every query and however deeply terms may be
nested.

Results:
* `text_ne_nil`: no token of a query is empty.
* `tokens_tree`: the leaves of the tree of an item are the item's tokens.
* `lexemes_parse`: the leaves of a syntax tree are what its source is cut into.
-/

namespace Flashcard.Query

/-! ## Tokens are not empty -/

theorem text_ne_nil_of_body {body : StringBody} {token : Token} (h : token ∈ body.tokens) :
    token.text ≠ [] := by
  rw [StringBody.tokens, List.mem_append] at h
  obtain content | quote := h
  · split at content
    · cases content
    · rename_i nonempty
      rw [List.mem_singleton.1 content]
      exact nonempty
  · split at quote
    · rw [List.mem_singleton.1 quote]
      exact List.cons_ne_nil _ _
    · cases quote

theorem text_ne_nil_of_word {text : Text} (h : text ≠ []) {token : Token}
    (ht : token ∈ wordTokens text) : token.text ≠ [] := by
  rw [wordTokens] at ht
  split at ht
  · rw [List.mem_singleton.1 ht]
    exact List.cons_ne_nil _ _
  · split at ht
    · rw [List.mem_singleton.1 ht]
      exact h
    · rename_i field _
      obtain rfl | value := List.mem_cons.1 ht
      · show text.take field.mark.length ≠ []
        rw [Ne, List.take_eq_nil_iff, not_or]
        exact ⟨by cases field <;> decide, h⟩
      · split at value
        · cases value
        · rename_i nonempty
          rw [List.mem_singleton.1 value]
          exact nonempty

/-- No token of a query is empty. -/
theorem text_ne_nil {source : Text} {token : Token} (h : token ∈ tokenize source) :
    token.text ≠ [] := by
  fun_induction tokenize source with
  | case1 => cases h
  | case2 rest ih | case3 rest ih | case4 rest ih =>
    obtain rfl | tail := List.mem_cons.1 h
    · exact List.cons_ne_nil _ _
    · exact ih tail
  | case5 rest ih =>
    obtain rfl | tail := List.mem_cons.1 h
    · exact List.cons_ne_nil _ _
    · obtain body | tail := List.mem_append.1 tail
      · exact text_ne_nil_of_body body
      · exact ih tail
  | case6 c rest _ _ _ _ _ ih =>
    obtain rfl | tail := List.mem_cons.1 h
    · exact List.cons_ne_nil _ _
    · exact ih tail
  | case7 c rest _ _ _ _ _ ih =>
    obtain word | tail := List.mem_append.1 h
    · exact text_ne_nil_of_word (List.cons_ne_nil _ _) word
    · exact ih tail

theorem kind_notMem (token : Token) :
    token.kind ∉ [.garbage, .stringLiteral, .unterminatedStringLiteral] := by
  cases token with
  | mark field _ => cases field <;> exact of_decide_eq_true rfl
  | _ => exact of_decide_eq_true rfl

/-! ## Leaves of a tree -/

theorem tokensAll_leaves (tokens : List Token) :
    Tree.tokensAll (tokens.map Token.leaf) = tokens.map Token.pair := by
  induction tokens with
  | nil => rfl
  | cons token tokens ih =>
    rw [List.map_cons, Tree.tokensAll, ih]
    rfl

theorem tokens_markError (malformed : Bool) (tree : Tree Kind) :
    (markError malformed tree).tokens = tree.tokens := by
  cases malformed with
  | true => exact List.append_nil _
  | false => rfl

theorem tokens_valueTree (value : Value) : value.tree.tokens = value.tokens.map Token.pair := by
  cases value with
  | word text => rfl
  | quoted content closed =>
    rw [Value.tree, tokens_markError, Tree.tokens, tokensAll_leaves]

mutual

/-- The leaves of the tree of an item are the item's tokens. -/
theorem tokens_tree : (item : Item) → item.tree.tokens = item.tokens.map Token.pair
  | .blank _ => rfl
  | .plain value => tokens_valueTree value
  | .negation operand => by
    show _ :: (operand.tree.tokens ++ []) = _
    rw [tokens_tree operand, List.append_nil]
    rfl
  | .group items closed => by
    rw [Item.tree, tokens_markError, Tree.tokens, Tree.tokensAll, Tree.tokensAll_append,
      tokens_treeAll items, Item.tokens, List.map_cons, List.map_append]
    cases closed <;> rfl
  | .filter _ _ none => rfl
  | .filter field mark (some value) => by
    show _ :: (value.tree.tokens ++ []) = _
    rw [tokens_valueTree, List.append_nil]
    rfl
  | .disjunction => rfl
  | .stray _ => rfl
  | .overflow tokens => tokensAll_leaves tokens

theorem tokens_treeAll : (items : List Item) →
    Tree.tokensAll (Item.treeAll items) = (Item.tokensAll items).map Token.pair
  | [] => rfl
  | item :: rest => by
    rw [Item.treeAll, Tree.tokensAll, tokens_tree item, tokens_treeAll rest, Item.tokensAll,
      List.map_append]

end

/-! ## The whole query -/

/-- The leaves of the syntax tree of a query, in order, are its tokens. -/
theorem tokens_parse (limit : Nat) (source : Text) :
    (parse limit source).tree.tokens = (tokenize source).map Token.pair := by
  rw [Program.tree, Tree.tokens, tokens_treeAll, tokensAll_parse]

theorem flatMap_pair (tokens : List Token) :
    (tokens.map Token.pair).flatMap (·.2) = Token.textAll tokens := by
  rw [List.flatMap_map]
  rfl

/-- A query is cut in one way, into its tokens. They tile the query, none of them
    is garbage or a string in one piece, and they are the leaves of the syntax
    tree, which therefore has the query as its text. -/
theorem lexemes_parse (limit : Nat) (source : Text) :
    let found := (tokenize source).map Token.pair
    let tokens := Tree.place 0 found
    (∀ other, Lexical.Lexes source other ↔ other = found) ∧
      Tree.Tiles source 0 tokens ∧
      (∀ token ∈ tokens,
        token.kind ∉ [.garbage, .stringLiteral, .unterminatedStringLiteral]) ∧
      (parse limit source).tree.lexemes = tokens ∧
      (parse limit source).tree.text = source := by
  intro found tokens
  refine ⟨Lexical.lexes_iff source, ?_, ?_, ?_, text_tree_parse limit source⟩
  · have nonempty : ∀ pair ∈ found, pair.2 ≠ [] := by
      intro pair hp
      obtain ⟨token, ht, rfl⟩ := List.mem_map.1 hp
      exact text_ne_nil ht
    have tiles := Tree.tiles_place [] found nonempty
    rwa [flatMap_pair, textAll_tokenize] at tiles
  · intro lexeme hl
    obtain ⟨token, -, ht⟩ := List.mem_map.1 (Tree.mem_of_mem_place hl)
    rw [show lexeme.kind = token.kind from congrArg Prod.fst ht.symm]
    exact kind_notMem token
  · rw [Tree.lexemes_eq_place, tokens_parse]

end Flashcard.Query
