import Flashcard.Proofs.Query.Leaf
import Flashcard.Proofs.Query.WellFormed
import Mathlib.Tactic.SplitIfs

/-!
# Evaluation of a query's tree

The terms of a query are evaluated in its syntax tree. Terms that `OR` links
form a chain, of which one must hold; all chains of a row must hold. What a
malformed term is worth is left open, and so is whether a negation with
something malformed in it counts as false or as any other negation.

Results:
* `evaluate_*`: the value of each sort of item.
* `connect_*`: how a row is worth the same when it is read from the left.
-/

namespace Flashcard.Query

/-! ## Chains -/

/-- Chains of a row of terms; `none` stands for an `OR`, which links the terms
    on either side of it. -/
def chains {α : Type} : List (Option α) → List (List α)
  | [] => []
  | none :: rest => chains rest
  | some a :: none :: rest =>
    match chains rest with
    | [] => [[a]]
    | chain :: others => (a :: chain) :: others
  | some a :: rest => [a] :: chains rest

example : chains [some 1, some 2, none, some 3, some 4] = [[1], [2, 3], [4]] := rfl

/-- Every chain of a row has a term that holds. -/
def connect (row : List (Option Bool)) : Bool := (chains row).all (·.any id)

@[simp] theorem connect_none (row : List (Option Bool)) : connect (none :: row) = connect row := rfl

theorem connect_some_some (a b : Bool) (row : List (Option Bool)) :
    connect (some a :: some b :: row) = (a && connect (some b :: row)) := by
  rw [connect, chains.eq_4 _ _ (by simp), List.all_cons, List.any_cons, List.any_nil, Bool.or_false]
  rfl

/-- The first term of a row is the first of the first chain. -/
theorem chains_some (row : List (Option Bool)) :
    ∃ chain others, ∀ a, chains (some a :: row) = (a :: chain) :: others := by
  rcases row with _ | ⟨_ | b, row⟩
  · exact ⟨[], [], fun a => rfl⟩
  · cases h : chains row with
    | nil => exact ⟨[], [], fun a => by rw [chains, h]⟩
    | cons chain others => exact ⟨chain, others, fun a => by rw [chains, h]⟩
  · exact ⟨[], chains (some b :: row), fun a => by rw [chains.eq_4 _ _ (by simp)]⟩

/-- Two terms that are linked are worth as much as their disjunction. -/
theorem connect_some_none_some (a b : Bool) (row : List (Option Bool)) :
    connect (some a :: none :: some b :: row) = connect (some (a || b) :: row) := by
  obtain ⟨chain, others, h⟩ := chains_some row
  rw [connect, connect, chains, h, h]
  simp only [List.all_cons, List.any_cons, id, Bool.or_assoc]

/-- A second `OR` in a row adds nothing. -/
theorem connect_some_none_none (a : Bool) (row : List (Option Bool)) :
    connect (some a :: none :: none :: row) = connect (some a :: none :: row) := by
  rw [connect, connect, chains, chains, chains]

/-! ## Values of terms -/

/-- What terms are worth: leaf terms and malformed terms by the byte where they
    begin, at which no other of them does. If it is `strict`, a negation with
    something malformed in it is false. -/
structure Valuation where
  leaf : Nat → Bool
  malformed : Nat → Bool
  strict : Bool

/-- The tree is an `OR` between two terms. -/
def isLink : Tree Kind → Bool
  | .node .disjunction _ => true
  | _ => false

/-- The tree is a term. -/
def isTerm (tree : Tree Kind) : Bool :=
  match tree with
  | .leaf _ _ => false
  | .node kind _ => kind.isTerm && !isLink tree

mutual

/-- Value of a term, or of a whole query, that begins at the byte `start`. A
    filter without a string right below it is malformed. -/
def evaluate (v : Valuation) (start : Nat) : Tree Kind → Bool
  | .leaf _ _ => false
  | .node kind children =>
    match kind with
    | .simpleString | .quotedString => v.leaf start
    | .tag | .deck | .template =>
      if (children.findSome? stringValue?).isSome then v.leaf start else v.malformed start
    | .negation =>
      if v.strict && (Tree.node kind children).hasErrorNode then false
      else
        match links v start children with
        | some operand :: _ => !operand
        | _ => false
    | .group | .program => connect (links v start children)
    | .error => v.malformed start
    | _ => false

/-- Values of the terms of a row that begins at the byte `start`, and the `OR`s
    between them. -/
def links (v : Valuation) (start : Nat) : List (Tree Kind) → List (Option Bool)
  | [] => []
  | tree :: rest =>
    if isLink tree then none :: links v (start + tree.size) rest
    else if isTerm tree then some (evaluate v start tree) :: links v (start + tree.size) rest
    else links v (start + tree.size) rest

end

/-- Meaning of a query when its leaf terms are worth `truth`: nothing malformed
    holds, and no negation of it. -/
def meaning (truth : Nat → Bool) (tree : Tree Kind) : Bool :=
  evaluate ⟨truth, fun _ => false, true⟩ 0 tree

/-- Meaning of a query when its leaf terms are worth `truth` and its malformed
    terms `choice`, with every negation taken at its word. -/
def looseMeaning (truth choice : Nat → Bool) (tree : Tree Kind) : Bool :=
  evaluate ⟨truth, choice, false⟩ 0 tree

section Values

variable (v : Valuation) (start : Nat)

theorem links_append (a b : List (Tree Kind)) :
    links v start (a ++ b) = links v start a ++ links v (start + Tree.sizeAll a) b := by
  induction a generalizing start with
  | nil => rfl
  | cons tree a ih =>
    rw [List.cons_append, links, links, ih, Tree.sizeAll, Nat.add_assoc]
    split_ifs <;> rfl

theorem links_disjunction (rest : List (Tree Kind)) :
    links v start (Item.disjunction.tree :: rest) =
      none :: links v (start + Item.disjunction.tree.size) rest := rfl

theorem evaluate_isError {item : Item} (h : item.isError = true) :
    evaluate v start item.tree = v.malformed start := by
  obtain ⟨children, ht⟩ := tree_of_isError h
  rw [ht, evaluate]

theorem evaluate_plain {value : Value} (ok : value.isError = false) :
    evaluate v start value.tree = v.leaf start := by
  obtain ⟨kind, rfl | rfl, ht⟩ := tree_of_value ok <;> rw [ht, evaluate]

theorem evaluate_filter (field : FilterField) (mark : Text) (value : Value) :
    evaluate v start (Item.filter field mark (some value)).tree =
      if value.isError then v.malformed start else v.leaf start := by
  have string : ([(Token.mark field mark).leaf, value.tree].findSome? stringValue?).isSome =
      !value.isError := by
    rw [List.findSome?_cons_of_isNone rfl, List.findSome?_cons, stringValue?_tree]
    cases value.isError <;> rfl
  cases field <;>
    · simp only [Item.tree, FilterField.kind, evaluate, string]
      cases value.isError <;> rfl

theorem isTerm_tree {item : Item} (h : item.isTerm = true) :
    isLink item.tree = false ∧ isTerm item.tree = true := by
  by_cases he : item.isError = true
  · obtain ⟨children, ht⟩ := tree_of_isError he
    rw [ht]
    exact ⟨rfl, rfl⟩
  cases item with
  | blank _ | disjunction => cases h
  | plain value =>
    obtain ⟨kind, rfl | rfl, ht⟩ := tree_of_value (Bool.eq_false_iff.2 he) <;>
      · rw [Item.tree, ht]
        exact ⟨rfl, rfl⟩
  | negation _ => exact ⟨rfl, rfl⟩
  | group items closed =>
    rw [Item.tree, show (_ || _) = false from Bool.eq_false_iff.2 he]
    exact ⟨rfl, rfl⟩
  | filter field mark value =>
    cases value with
    | none => exact absurd rfl he
    | some _ => cases field <;> exact ⟨rfl, rfl⟩
  | stray _ | overflow _ => exact absurd rfl he

theorem links_term {item : Item} (h : item.isTerm = true) (rest : List (Tree Kind)) :
    links v start (item.tree :: rest) =
      some (evaluate v start item.tree) :: links v (start + item.tree.size) rest := by
  obtain ⟨noLink, term⟩ := isTerm_tree h
  rw [links, noLink, term, if_neg Bool.false_ne_true, if_pos rfl]

theorem evaluate_negation {operand : Item} (h : operand.isTerm = true) :
    evaluate v start (Item.negation operand).tree =
      if v.strict && operand.hasError then false
      else !evaluate v (start + 1) operand.tree := by
  have errors : (Item.negation operand).tree.hasErrorNode = operand.hasError := by
    rw [hasErrorNode_tree, Item.hasError]
  have below : links v start [Token.minus.leaf, operand.tree] =
      [some (evaluate v (start + 1) operand.tree)] := by
    rw [links, links_term v _ h, links]
    rfl
  rw [Item.tree] at errors ⊢
  rw [evaluate, errors, below]

theorem evaluate_group {items : List Item} {closed : Bool}
    (ok : (Item.group items closed).isError = false) :
    evaluate v start (Item.group items closed).tree =
      connect (links v (start + 1) (Item.treeAll items)) := by
  have close (start : Nat) :
      links v start (if closed then [Token.parenClose.leaf] else []) = [] := by
    cases closed <;> rfl
  rw [Item.tree, show (_ || _) = false from ok, markError, if_neg Bool.false_ne_true, evaluate,
    links, links_append, close, List.append_nil]
  rfl

theorem evaluate_program (items : List Item) :
    evaluate v start (.node .program (Item.treeAll items)) =
      connect (links v start (Item.treeAll items)) := by
  rw [evaluate]

end Values

end Flashcard.Query
