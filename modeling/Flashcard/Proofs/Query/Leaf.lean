import Flashcard.Proofs.Query.Reading
import Flashcard.Proofs.Syntax.Walk
import Flashcard.Query.Program

/-!
# Leaf terms of a query

A leaf term asks for a text or, with a filter mark, for a tag, a deck or a
template. It is found in the syntax tree alone: a string that is not the value
of a filter, or a filter with a string directly below it. A leaf term is bound
unless an error node stands around it, or a negation that contains one.

Results:
* `hasErrorNode_tree`: the tree of an item contains an error node exactly when
  something in the item is malformed.
* `boundAmong_plain`, `boundAmong_filter`, `boundAmong_negation`,
  `boundAmong_group`: the bound leaf terms of each sort of item.
-/

namespace Flashcard.Query

/-! ## Terms in a tree -/

/-- The filter whose node has this kind. -/
def Kind.field? : Kind → Option FilterField
  | tag => some .tag
  | deck => some .deck
  | template => some .template
  | _ => none

/-- A node of this kind is a term, or the operator between two terms. -/
def Kind.isTerm : Kind → Bool
  | simpleString | quotedString | negation | disjunction | group | tag | deck | template
  | error => true
  | _ => false

/-- Text of the first token of a kind directly below a node. -/
def tokenText? (kind : Kind) (children : List (Tree Kind)) : Option Text :=
  children.findSome? fun
    | .leaf found text => if found = kind then some text else none
    | .node _ _ => none

/-- The text that a string stands for. -/
def stringValue? : Tree Kind → Option Text
  | .node .simpleString children => some ((tokenText? .word children).getD [])
  | .node .quotedString children =>
    some (Value.unescape ((tokenText? .stringContent children).getD []))
  | _ => none

/-- A leaf term: the byte where it begins, its filter if it has one, and the text
    it asks for. -/
structure Leaf where
  start : Nat
  field : Option FilterField
  value : Text
deriving DecidableEq, Repr

/-- What a leaf term gives to the placeholder of its fragment. -/
def Leaf.parameter (leaf : Leaf) : Text :=
  match leaf.field with
  | none => '%' :: likePattern leaf.value ++ ['%']
  | some _ => foldCase leaf.value

/-- The leaf term at a node, if there is one. A string right below a filter is
    its value and no term. -/
def leafAt? (o : Tree.Occurrence Kind) : Option Leaf :=
  match o.tree with
  | .leaf _ _ => none
  | .node kind children =>
    match kind.field? with
    | some field => (children.findSome? stringValue?).map (⟨o.start, some field, ·⟩)
    | none =>
      if (o.above.head?.bind (·.kind.field?)).isSome then none
      else (stringValue? (.node kind children)).map (⟨o.start, none, ·⟩)

/-- Below this node nothing is bound: it is an error node, or a negation with an
    error node in it. -/
def isDead (tree : Tree Kind) : Bool :=
  tree.kind = .error || (tree.kind = .negation && tree.hasErrorNode)

/-- The bound leaf terms among some nodes. -/
def boundAmong (nodes : List (Tree.Occurrence Kind)) : List Leaf :=
  (nodes.filter fun o => !o.above.any isDead).filterMap leafAt?

/-- The leaf terms of a query that stand outside every error node and outside
    every negation with an error node in it, in the order of the query. -/
def boundLeaves (tree : Tree Kind) : List Leaf := boundAmong (tree.occurrences [] 0)

/-! ## Error nodes in the tree of an item -/

theorem hasErrorNode_map_leaf (tokens : List Token) :
    (tokens.map Token.leaf).any Tree.hasErrorNode = false := by
  rw [List.any_map, List.any_eq_false]
  intro token _
  exact Bool.false_ne_true

theorem hasErrorNode_markError (malformed : Bool) (tree : Tree Kind) :
    (markError malformed tree).hasErrorNode = (malformed || tree.hasErrorNode) := by
  cases malformed with
  | true => rw [markError, if_pos rfl, Tree.hasErrorNode_node]; rfl
  | false => rfl

theorem hasErrorNode_value (value : Value) : value.tree.hasErrorNode = value.isError := by
  cases value with
  | word text => rfl
  | quoted content closed =>
    rw [Value.tree, hasErrorNode_markError, Tree.hasErrorNode_node, hasErrorNode_map_leaf]
    cases closed <;> rfl

mutual

/-- The tree of an item contains an error node exactly when something in the item
    is malformed. -/
theorem hasErrorNode_tree : (item : Item) → item.tree.hasErrorNode = item.hasError
  | .blank _ => rfl
  | .plain value => hasErrorNode_value value
  | .negation operand => by
    have h := hasErrorNode_tree operand
    rw [Item.tree, Tree.hasErrorNode_node, List.any_cons, List.any_cons, h]
    simp [Item.hasError, Token.leaf, Vocabulary.isErrorNode]
  | .group items closed => by
    have h := hasErrorNode_treeAll items
    rw [Item.tree, hasErrorNode_markError, Tree.hasErrorNode_node, List.any_cons, List.any_append,
      h]
    cases closed <;> simp [Item.hasError, Token.leaf, Vocabulary.isErrorNode]
  | .filter field mark none => by simp [Item.tree, Item.hasError, Vocabulary.isErrorNode]
  | .filter field mark (some value) => by
    have h := hasErrorNode_value value
    cases field <;>
      simp [Item.tree, Item.hasError, Vocabulary.isErrorNode, FilterField.kind, Token.leaf, h]
  | .disjunction => rfl
  | .stray _ => by simp [Item.tree, Item.hasError, Vocabulary.isErrorNode]
  | .overflow _ => by simp [Item.tree, Item.hasError, Vocabulary.isErrorNode]

theorem hasErrorNode_treeAll : (items : List Item) →
    (Item.treeAll items).any Tree.hasErrorNode = Item.anyHasError items
  | [] => rfl
  | item :: rest => by
    rw [Item.treeAll, List.any_cons, hasErrorNode_tree item, hasErrorNode_treeAll rest,
      Item.anyHasError]

end

/-! ## Shapes of trees -/

theorem tree_of_value {value : Value} (h : value.isError = false) :
    ∃ kind, (kind = .simpleString ∨ kind = .quotedString) ∧
      value.tree = .node kind (value.tokens.map Token.leaf) := by
  cases value with
  | word text => exact ⟨.simpleString, .inl rfl, rfl⟩
  | quoted content closed =>
    obtain rfl : closed = true := by simpa [Value.isError] using h
    exact ⟨.quotedString, .inr rfl, rfl⟩

theorem tree_of_isError {item : Item} (h : item.isError = true) :
    ∃ children, item.tree = .node .error children := by
  cases item with
  | blank _ | negation _ | disjunction => cases h
  | plain value =>
    cases value with
    | word _ => cases h
    | quoted content closed =>
      obtain rfl : closed = false := by simpa [Item.isError, Value.isError] using h
      exact ⟨_, rfl⟩
  | group items closed =>
    rw [Item.tree, show (_ || _) = true from h, markError, if_pos rfl]
    exact ⟨_, rfl⟩
  | filter field mark value =>
    cases value with
    | none => exact ⟨_, rfl⟩
    | some _ => cases h
  | stray _ => exact ⟨_, rfl⟩
  | overflow _ => exact ⟨_, rfl⟩

/-- What the string of a value stands for. -/
theorem stringValue?_tree (value : Value) :
    stringValue? value.tree = if value.isError then none else some value.text := by
  cases value with
  | word text => rfl
  | quoted content closed => cases content <;> cases closed <;> rfl

/-! ## Bound leaf terms of an item -/

/-- Terms stand here: nothing around is dead, and the node right around is no
    filter. -/
structure HoldsTerms (above : List (Tree Kind)) : Prop where
  alive : above.any isDead = false
  noFilter : (above.head?.bind (·.kind.field?)).isSome = false

/-- Terms stand in a whole query. -/
theorem holdsTerms_program (children : List (Tree Kind)) :
    HoldsTerms [.node .program children] := ⟨rfl, rfl⟩

theorem HoldsTerms.group {above : List (Tree Kind)} (h : HoldsTerms above) {items : List Item}
    {closed : Bool} (ok : (Item.group items closed).isError = false) :
    HoldsTerms ((Item.group items closed).tree :: above) := by
  rw [Item.tree, show (_ || _) = false from ok, markError, if_neg Bool.false_ne_true]
  exact ⟨by rw [List.any_cons, h.alive]; rfl, rfl⟩

theorem HoldsTerms.negation {above : List (Tree Kind)} (h : HoldsTerms above) {operand : Item}
    (ok : operand.hasError = false) : HoldsTerms ((Item.negation operand).tree :: above) := by
  have alive : isDead (Item.negation operand).tree = false := by
    rw [isDead, hasErrorNode_tree, Item.hasError, ok, Bool.and_false]
    rfl
  exact ⟨by rw [List.any_cons, alive, h.alive]; rfl, rfl⟩

theorem boundAmong_append (a b : List (Tree.Occurrence Kind)) :
    boundAmong (a ++ b) = boundAmong a ++ boundAmong b := by
  rw [boundAmong, List.filter_append, List.filterMap_append]
  rfl

theorem boundAmong_eq_nil {nodes : List (Tree.Occurrence Kind)} {outer : Tree Kind}
    (dead : isDead outer = true) (h : ∀ o ∈ nodes, outer ∈ o.above) : boundAmong nodes = [] := by
  rw [boundAmong, List.filter_eq_nil_iff.2, List.filterMap_nil]
  intro o ho
  rw [Bool.not_eq_true', Bool.not_eq_false, List.any_eq_true]
  exact ⟨outer, h o ho, dead⟩

theorem boundAmong_dead {kind : Kind} {children : List (Tree Kind)}
    (dead : isDead (.node kind children) = true) (above : List (Tree Kind)) (start : Nat) :
    boundAmong (Tree.occurrencesAll (.node kind children :: above) start children) = [] :=
  boundAmong_eq_nil dead (Tree.mem_occurrencesAll_above (List.mem_cons_self ..) start children)

section Items

variable {above : List (Tree Kind)} (h : HoldsTerms above) (start : Nat)

include h

/-- Where terms stand, a node that is no filter is a leaf term if it is a
    string. -/
theorem leafAt?_string {kind : Kind} (hk : kind.field? = none) (children : List (Tree Kind)) :
    leafAt? ⟨above, start, .node kind children⟩ =
      (stringValue? (.node kind children)).map (⟨start, none, ·⟩) := by
  simp only [leafAt?, hk, h.noFilter, Bool.false_eq_true, if_false]

omit h in
/-- A filter is a leaf term if it has a string right below it. -/
theorem leafAt?_filter {kind : Kind} {field : FilterField} (hk : kind.field? = some field)
    (children : List (Tree Kind)) :
    leafAt? ⟨above, start, .node kind children⟩ =
      (children.findSome? stringValue?).map (⟨start, some field, ·⟩) := by
  simp only [leafAt?, hk]

theorem boundAmong_node {kind : Kind} {children : List (Tree Kind)}
    (notLeaf : leafAt? ⟨above, start, .node kind children⟩ = none) :
    boundAmong (Tree.occurrences above start (.node kind children)) =
      boundAmong (Tree.occurrencesAll (.node kind children :: above) start children) := by
  rw [Tree.occurrences, boundAmong, List.filter_cons, if_pos (by rw [h.alive]; rfl),
    List.filterMap_cons_none notLeaf]
  rfl

/-- A node that is a leaf term binds it, and what is bound among its children. -/
theorem boundAmong_leaf {kind : Kind} {children : List (Tree Kind)} {leaf : Leaf}
    (isLeaf : leafAt? ⟨above, start, .node kind children⟩ = some leaf) :
    boundAmong (Tree.occurrences above start (.node kind children)) =
      leaf :: boundAmong (Tree.occurrencesAll (.node kind children :: above) start children) := by
  rw [Tree.occurrences, boundAmong, List.filter_cons, if_pos (by rw [h.alive]; rfl),
    List.filterMap_cons_some isLeaf]
  rfl

omit h in
theorem boundAmong_error (children : List (Tree Kind)) :
    boundAmong (Tree.occurrences above start (.node .error children)) = [] := by
  have below := boundAmong_dead (show isDead (.node .error children) = true from rfl) above start
  have here : leafAt? ⟨above, start, .node .error children⟩ = none := by
    simp only [leafAt?, show Kind.error.field? = none from rfl, stringValue?, Option.map_none,
      ite_self]
  rw [Tree.occurrences, ← List.singleton_append, boundAmong_append, below, List.append_nil,
    boundAmong, List.filterMap_eq_nil_iff]
  intro o ho
  rw [List.mem_filter, List.mem_singleton] at ho
  rw [ho.1, here]

omit h in
theorem occurrencesAll_map_leaf (tokens : List Token) (rest : List (Tree Kind)) :
    Tree.occurrencesAll above start (tokens.map Token.leaf ++ rest) =
      Tree.occurrencesAll above (start + (Token.textAll tokens).size) rest := by
  induction tokens generalizing start with
  | nil => rfl
  | cons token tokens ih =>
    rw [List.map_cons, List.cons_append, Tree.occurrencesAll, ih, Token.textAll_cons,
      Text.size_append, Nat.add_assoc]
    rfl

omit h in
theorem occurrencesAll_leaves (tokens : List Token) :
    Tree.occurrencesAll above start (tokens.map Token.leaf) = [] := by
  rw [← List.append_nil (tokens.map Token.leaf), occurrencesAll_map_leaf]
  rfl

omit h in
theorem occurrencesAll_parens (inner : List (Tree Kind)) (closed : Bool) :
    Tree.occurrencesAll above start
        (Token.parenOpen.leaf :: (inner ++ if closed then [Token.parenClose.leaf] else [])) =
      Tree.occurrencesAll above (start + 1) inner := by
  have close (start : Nat) :
      Tree.occurrencesAll above start (if closed then [Token.parenClose.leaf] else []) = [] := by
    cases closed <;> rfl
  rw [Tree.occurrencesAll, Tree.occurrencesAll_append, close, List.append_nil]
  rfl

theorem boundAmong_disjunction :
    boundAmong (Tree.occurrences above start Item.disjunction.tree) = [] :=
  boundAmong_node h start (leafAt?_string h start rfl _)

/-- A string that stands as a term is a leaf term. -/
theorem boundAmong_plain {value : Value} (ok : value.isError = false) :
    boundAmong (Tree.occurrences above start value.tree) = [⟨start, none, value.text⟩] := by
  have string := stringValue?_tree value
  obtain ⟨kind, hk, ht⟩ := tree_of_value ok
  have noFilter : kind.field? = none := by rcases hk with rfl | rfl <;> rfl
  rw [ok, if_neg Bool.false_ne_true, ht] at string
  have leaf : leafAt? ⟨above, start, .node kind (value.tokens.map Token.leaf)⟩ =
      some ⟨start, none, value.text⟩ := by
    rw [leafAt?_string h start noFilter, string, Option.map_some]
  rw [ht, boundAmong_leaf h start leaf, occurrencesAll_leaves]
  rfl

omit h in
theorem boundAmong_filterValue {filter : Tree Kind} (hf : filter.kind.field?.isSome = true)
    (value : Value) :
    boundAmong (Tree.occurrences (filter :: above) start value.tree) = [] := by
  cases he : value.isError with
  | true =>
    obtain ⟨children, ht⟩ := tree_of_isError (show (Item.plain value).isError = true from he)
    rw [show value.tree = _ from ht, boundAmong_error]
  | false =>
    obtain ⟨kind, hk, ht⟩ := tree_of_value he
    have noFilter : kind.field? = none := by rcases hk with rfl | rfl <;> rfl
    rw [ht, Tree.occurrences, occurrencesAll_leaves, boundAmong, List.filterMap_eq_nil_iff]
    intro o ho
    rw [List.mem_filter, List.mem_singleton] at ho
    rw [ho.1, leafAt?]
    simp only [noFilter, List.head?_cons, Option.bind_some, hf, if_true]

/-- A filter binds its value unless that is malformed. -/
theorem boundAmong_filter (field : FilterField) (mark : Text) (value : Value) :
    boundAmong (Tree.occurrences above start (Item.filter field mark (some value)).tree) =
      if value.isError then [] else [⟨start, some field, value.text⟩] := by
  have hk : field.kind.field? = some field := by cases field <;> rfl
  have leaf : leafAt? ⟨above, start, .node field.kind [(Token.mark field mark).leaf, value.tree]⟩ =
      _ := leafAt?_filter start hk _
  have below (start : Nat) (above : List (Tree Kind)) :
      boundAmong (Tree.occurrencesAll (.node field.kind [(Token.mark field mark).leaf, value.tree]
        :: above) start [(Token.mark field mark).leaf, value.tree]) = [] := by
    rw [Tree.occurrencesAll, Tree.occurrencesAll, Tree.occurrencesAll, List.append_nil,
      boundAmong_append, boundAmong_filterValue _ (by rw [Tree.kind, hk]; rfl)]
    rfl
  rw [List.findSome?_cons_of_isNone rfl, List.findSome?_cons, stringValue?_tree] at leaf
  cases he : value.isError with
  | true =>
    rw [he, if_pos rfl] at leaf
    rw [Item.tree, boundAmong_node h start leaf, below, if_pos rfl]
  | false =>
    rw [he, if_neg Bool.false_ne_true] at leaf
    rw [Item.tree, boundAmong_leaf h start leaf, below, if_neg Bool.false_ne_true]

/-- A negation binds what its operand binds, unless something in it is
    malformed. -/
theorem boundAmong_negation (operand : Item) :
    boundAmong (Tree.occurrences above start (Item.negation operand).tree) =
      if operand.hasError then []
      else boundAmong (Tree.occurrences ((Item.negation operand).tree :: above) (start + 1)
        operand.tree) := by
  have dead : isDead (Item.negation operand).tree = operand.hasError := by
    rw [← Item.hasError, ← hasErrorNode_tree]
    rfl
  rw [Item.tree] at dead ⊢
  rw [boundAmong_node h start (leafAt?_string h start rfl _)]
  cases he : operand.hasError with
  | true => rw [boundAmong_dead (dead.trans he), if_pos rfl]
  | false =>
    rw [if_neg Bool.false_ne_true, Tree.occurrencesAll, Tree.occurrencesAll, Tree.occurrencesAll,
      List.append_nil]
    rfl

/-- A group that is not malformed binds what its items bind. -/
theorem boundAmong_group {items : List Item} {closed : Bool}
    (ok : (Item.group items closed).isError = false) :
    boundAmong (Tree.occurrences above start (Item.group items closed).tree) =
      boundAmong (Tree.occurrencesAll ((Item.group items closed).tree :: above) (start + 1)
        (Item.treeAll items)) := by
  rw [Item.tree, show (_ || _) = false from ok, markError, if_neg Bool.false_ne_true,
    boundAmong_node h start (leafAt?_string h start rfl _), occurrencesAll_parens]

end Items

end Flashcard.Query
