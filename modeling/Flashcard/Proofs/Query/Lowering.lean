import Flashcard.Proofs.Query.Realization
import Flashcard.Proofs.Query.Recovery

/-!
# Lowering a syntax tree

The condition of a query is found in its syntax tree alone, node by node. A tree might
have an `OR` where a term has to stand, a negation without an operand or a group without
terms, and whoever lowers trees needs an answer for these. Here such a tree is refused,
so that lowering a tree without a refusal shows that no such answer was needed.

Results:
* `lowerTerm_tree`, `lowerRow_treeAll`: items that can be read are lowered to their
  conditions.
* `lower_parse`: the tree of every query is lowered to the conditions of the query.
* `one_mem_piecesAll_parse`: a condition that always holds is made up for blank queries
  only.
-/

namespace Flashcard.Query

/-! ## Lowering -/

/-- What lowering refuses. -/
inductive Misfit where
  /-- An `OR` where a term has to stand. -/
  | disjunction
  /-- A negation that negates nothing. -/
  | noOperand
  /-- A group without terms. -/
  | noTerms
deriving DecidableEq, Repr

/-- One more condition behind the conditions of a row, the last of which stands first. If an
    `OR` is pending, it is joined to the last one. -/
def joinLast (row : List Condition) (pending : Bool) (right : Condition) : List Condition :=
  match row, pending with
  | left :: others, true => .either left right :: others
  | row, _ => right :: row

mutual

/-- Condition of a term. Strings are values of the filters that they stand below, and the
    operand of a negation is the first term below it. -/
def lowerTerm : Tree Kind → Except Misfit Condition
  | .leaf _ _ => .ok .never
  | .node kind children =>
    match kind with
    | .error => .ok .never
    | .disjunction => .error .disjunction
    | .negation =>
      match lowerFirst children with
      | none => .error .noOperand
      | some operand =>
        if (Tree.node kind children).hasErrorNode then .ok .never else operand.map .negation
    | .group =>
      (lowerRow [] false children).bind fun conditions =>
        if conditions.isEmpty then .error .noTerms else .ok (.group conditions)
    | kind =>
      match kind.field? with
      | some field =>
        .ok (((children.findSome? stringValue?).map (Condition.field field)).getD .never)
      | none => .ok (((stringValue? (.node kind children)).map Condition.text).getD .never)

/-- Conditions of the terms in a row; `row` holds those to the left, the last one first, and
    `pending` tells that an `OR` was met since. -/
def lowerRow (row : List Condition) (pending : Bool) :
    List (Tree Kind) → Except Misfit (List Condition)
  | [] => .ok row.reverse
  | tree :: rest =>
    if isLink tree then lowerRow row true rest
    else if isTerm tree then
      (lowerTerm tree).bind fun right => lowerRow (joinLast row pending right) false rest
    else lowerRow row pending rest

/-- Condition of the first term in a row, if there is one. -/
def lowerFirst : List (Tree Kind) → Option (Except Misfit Condition)
  | [] => none
  | tree :: rest => if isLink tree || isTerm tree then some (lowerTerm tree) else lowerFirst rest

end

/-- Conditions of a whole query. -/
def lower (tree : Tree Kind) : Except Misfit (List Condition) := lowerRow [] false tree.children

/-! ## Rows of conditions -/

theorem ofItems_ne_nil {left : Option Condition} {pending : Bool} {items : List Item}
    (h : left.isSome = true ∨ ∃ item ∈ items, item.isTerm = true) :
    Condition.ofItems left pending items ≠ [] := by
  induction items generalizing left pending with
  | nil =>
    obtain some | ⟨item, mem, -⟩ := h
    · obtain ⟨condition, rfl⟩ := Option.isSome_iff_exists.1 some
      exact List.cons_ne_nil _ _
    · cases mem
  | cons item items ih =>
    by_cases ht : item.isTerm = true
    · rw [ofItems_term left pending ht, Condition.push]
      exact fun none => ih (.inl rfl) (List.append_eq_nil_iff.1 none).2
    · have later : left.isSome = true ∨ ∃ item ∈ items, item.isTerm = true := by
        refine h.imp_right ?_
        rintro ⟨other, mem, term⟩
        obtain rfl | mem := List.mem_cons.1 mem
        · exact absurd term ht
        · exact ⟨other, mem, term⟩
      cases item with
      | blank text => exact ih later
      | disjunction => exact ih later
      | _ => exact absurd rfl ht

theorem ofItems_eq_nil {items : List Item} (h : items.all Item.isBlank = true) :
    Condition.ofItems none false items = [] := by
  induction items with
  | nil => rfl
  | cons item items ih =>
    rw [List.all_cons, Bool.and_eq_true] at h
    cases item with
    | blank text => exact ih h.2
    | _ => cases h.1

/-- A row that can be read has a term unless it is blank. -/
theorem Item.RowIsRead.exists_isTerm {depth : Nat} {ended : Bool} {items : List Item}
    (h : RowIsRead depth false ended items) (filled : items.all isBlank = false) :
    ∃ item ∈ items, item.isTerm = true := by
  have next := h.termNext_eq
  rw [filled, Bool.not_false, termNext, Option.any_eq_true] at next
  obtain ⟨item, found, term⟩ := next
  exact ⟨item, List.mem_of_find?_eq_some found, term⟩

/-! ## Lowering the trees of items -/

theorem lowerRow_leaves (row : List Condition) (pending : Bool) (tokens : List Token) :
    lowerRow row pending (tokens.map Token.leaf) = .ok row.reverse := by
  induction tokens with
  | nil => rw [List.map_nil, lowerRow]
  | cons token tokens ih =>
    rw [List.map_cons, lowerRow]
    exact ih

theorem lowerTerm_plain {value : Value} (ok : value.isError = false) :
    lowerTerm value.tree = .ok (.text value.text) := by
  have string := stringValue?_tree value
  rw [ok, if_neg Bool.false_ne_true] at string
  obtain ⟨kind, rfl | rfl, ht⟩ := tree_of_value ok <;>
    · rw [ht] at string ⊢
      simp only [lowerTerm, Kind.field?, string]
      rfl

theorem lowerTerm_filter (field : FilterField) (mark : Text) (value : Value) :
    lowerTerm (Item.filter field mark (some value)).tree =
      .ok (Condition.ofItem (.filter field mark (some value))) := by
  have string : [(Token.mark field mark).leaf, value.tree].findSome? stringValue? =
      if value.isError then none else some value.text := by
    rw [List.findSome?_cons_of_isNone rfl, List.findSome?_cons, stringValue?_tree]
    cases value.isError <;> rfl
  cases field <;>
    · simp only [Item.tree, FilterField.kind, lowerTerm, Kind.field?, string, Condition.ofItem]
      cases value.isError <;> rfl

theorem lowerTerm_isError {item : Item} (h : item.isError = true) :
    lowerTerm item.tree = .ok (Condition.ofItem item) := by
  obtain ⟨children, ht⟩ := tree_of_isError h
  rw [ofItem_isError h, ht, lowerTerm]

theorem lowerRow_term {item : Item} (h : item.isTerm = true) (row : List Condition)
    (pending : Bool) (rest : List (Tree Kind)) :
    lowerRow row pending (item.tree :: rest) =
      (lowerTerm item.tree).bind fun right => lowerRow (joinLast row pending right) false rest := by
  obtain ⟨noLink, term⟩ := isTerm_tree h
  rw [lowerRow, noLink, term, if_neg Bool.false_ne_true, if_pos rfl]

theorem joinLast_toList {left : Option Condition} {others : List Condition}
    (first : left = none → others = []) (pending : Bool) (right : Condition) :
    joinLast (left.toList ++ others) pending right =
      Condition.joinLeft left pending right :: ((Condition.keepLeft left pending).toList ++ others)
      := by
  cases left with
  | none =>
    rw [first rfl]
    cases pending <;> rfl
  | some left => cases pending <;> rfl

mutual

/-- The tree of an item that can be read is lowered to the condition of the item. -/
theorem lowerTerm_tree : (item : Item) → ∀ {depth : Nat} {ended : Bool},
    item.IsRead depth ended → lowerTerm item.tree = .ok (Condition.ofItem item)
  | .blank _, _, _, h | .disjunction, _, _, h => by cases h
  | .plain value, _, _, _ => by
    by_cases he : (Item.plain value).isError = true
    · exact lowerTerm_isError he
    · have ok : value.isError = false := Bool.eq_false_iff.2 he
      rw [Item.tree, lowerTerm_plain ok, Condition.ofItem, ok, if_neg Bool.false_ne_true]
  | .filter _ _ none, _, _, _ => lowerTerm_isError rfl
  | .filter field mark (some value), _, _, _ => lowerTerm_filter field mark value
  | .negation operand, _, _, h => by
    cases h with
    | negation inner =>
      obtain ⟨-, term⟩ := isTerm_tree inner.isTerm
      have first : lowerFirst [Token.minus.leaf, operand.tree] =
          some (.ok (Condition.ofItem operand)) := by
        rw [lowerFirst, if_neg (by decide), lowerFirst, term, Bool.or_true, if_pos rfl,
          lowerTerm_tree operand inner]
      have errors : (Item.negation operand).tree.hasErrorNode = operand.hasError := by
        rw [hasErrorNode_tree, Item.hasError]
      rw [Item.tree] at errors ⊢
      rw [lowerTerm, first, Condition.ofItem]
      simp only [errors]
      cases operand.hasError <;> rfl
  | .group items closed, _, _, h => by
    by_cases he : (Item.group items closed).isError = true
    · exact lowerTerm_isError he
    · have ok : (!closed || items.all Item.isBlank) = false := Bool.eq_false_iff.2 he
      obtain ⟨rfl, filled⟩ : closed = true ∧ items.all Item.isBlank = false := by
        simpa using ok
      cases h with
      | group row _ =>
        have inside := lowerRow_treeAll items row none [] false (fun _ => rfl) [.parenClose]
        have some : (Condition.ofItems none false items).isEmpty = false := by
          rw [List.isEmpty_eq_false_iff]
          exact ofItems_ne_nil (.inr (row.exists_isTerm filled))
        have opening : lowerRow [] false (Token.parenOpen.leaf ::
            (Item.treeAll items ++ [Token.parenClose.leaf])) =
              .ok (Condition.ofItems none false items) := by
          rw [lowerRow, if_neg (by decide), if_neg (by decide)]
          exact inside
        rw [Item.tree, ok, markError, if_neg Bool.false_ne_true, if_pos rfl, lowerTerm, opening,
          Condition.ofItem, ok, if_neg Bool.false_ne_true]
        simp only [Except.bind, some, Bool.false_eq_true, if_false]
  | .stray _, _, _, _ | .overflow _, _, _, _ => lowerTerm_isError rfl

/-- The trees of a row that can be read are lowered to the conditions of the row, behind
    those to the left. -/
theorem lowerRow_treeAll : (items : List Item) → ∀ {depth : Nat} {hasLeft ended : Bool},
    Item.RowIsRead depth hasLeft ended items →
    ∀ (left : Option Condition) (others : List Condition) (pending : Bool),
    (left = none → others = []) → ∀ tokens : List Token,
    lowerRow (left.toList ++ others) pending (Item.treeAll items ++ tokens.map Token.leaf) =
      .ok (others.reverse ++ Condition.ofItems left pending items)
  | [], _, _, _, _, left, others, pending, _, tokens => by
    rw [Item.treeAll, List.nil_append, lowerRow_leaves, List.reverse_append]
    cases left <;> rfl
  | item :: items, depth, _, _, h, left, others, pending, first, tokens => by
    have step {hasLeft ended : Bool} (term : item.isTerm = true)
        (here : lowerTerm item.tree = .ok (Condition.ofItem item))
        (row : Item.RowIsRead depth hasLeft ended items) :
        lowerRow (left.toList ++ others) pending
            (Item.treeAll (item :: items) ++ tokens.map Token.leaf) =
          .ok (others.reverse ++ Condition.ofItems left pending (item :: items)) := by
      have next := lowerRow_treeAll items row
        (some (Condition.joinLeft left pending (Condition.ofItem item)))
        ((Condition.keepLeft left pending).toList ++ others) false
        (fun none => absurd none (Option.some_ne_none _)) tokens
      rw [Option.toList_some, List.singleton_append, List.reverse_append, List.append_assoc] at next
      rw [Item.treeAll, List.cons_append, lowerRow_term term, here, Except.bind,
        joinLast_toList first, next, ofItems_term left pending term, Condition.push]
      cases Condition.keepLeft left pending <;> rfl
    cases h with
    | blank text row =>
      rw [Item.treeAll, List.cons_append, lowerRow]
      exact lowerRow_treeAll items row left others pending first tokens
    | disjunction _ row =>
      rw [Item.treeAll, List.cons_append, lowerRow]
      exact lowerRow_treeAll items row left others true first tokens
    | stray _ row => exact step rfl (lowerTerm_isError rfl) row
    | term here row => exact step here.isTerm (lowerTerm_tree item here) row
    | last here =>
      exact step here.isTerm (lowerTerm_tree item here)
        (.nil : Item.RowIsRead depth true false [])

end

/-- The tree of a query is lowered to the conditions of the query; nothing in it is
    refused. -/
theorem lower_parse (limit : Nat) (source : Text) :
    lower (parse limit source).tree = .ok (parse limit source).conditions := by
  obtain ⟨ended, row⟩ := rowIsRead_parse limit source
  have whole := lowerRow_treeAll (parse limit source).items row none [] false (fun _ => rfl) []
  simp only [List.map_nil, List.append_nil] at whole
  exact whole

/-! ## Conditions that always hold -/

/-- A row of conditions is written as what always holds if there are none, or if one of
    them holds such a row. -/
theorem one_mem_piecesAll (conditions : List Condition) :
    .one ∈ Condition.piecesAll conditions ↔
      conditions = [] ∨ ∃ condition ∈ conditions, .one ∈ condition.pieces := by
  induction conditions with
  | nil => simp [Condition.piecesAll]
  | cons condition conditions ih =>
    cases conditions with
    | nil => simp [Condition.piecesAll]
    | cons next conditions =>
      rw [Condition.piecesAll, List.mem_append, List.mem_append, ih] <;> simp

mutual

/-- No group that can be read is written as what always holds. -/
theorem one_notMem_ofItem : (item : Item) → ∀ {depth : Nat} {ended : Bool},
    item.IsRead depth ended → .one ∉ (Condition.ofItem item).pieces
  | .blank _, _, _, h | .disjunction, _, _, h => by cases h
  | .plain value, _, _, _ => by
    rw [Condition.ofItem]
    split <;> simp [Condition.pieces]
  | .filter _ _ none, _, _, _ => by simp [Condition.ofItem, Condition.pieces]
  | .filter _ _ (some value), _, _, _ => by
    rw [Condition.ofItem]
    split <;> simp [Condition.pieces]
  | .negation operand, _, _, h => by
    cases h with
    | negation inner =>
      have below := one_notMem_ofItem operand inner
      rw [Condition.ofItem]
      split <;> simp [Condition.pieces, below]
  | .group items closed, _, _, h => by
    cases h with
    | group row _ =>
      have below := one_notMem_ofItems items row none false (by simp)
      rw [Condition.ofItem]
      split
      · simp [Condition.pieces]
      · rename_i ok
        have filled : items.all Item.isBlank = false := by
          simp only [Bool.or_eq_true, not_or, Bool.not_eq_true] at ok
          exact ok.2
        have inside : .one ∉ Condition.piecesAll (Condition.ofItems none false items) := by
          rw [one_mem_piecesAll, not_or, not_exists]
          exact ⟨ofItems_ne_nil (.inr (row.exists_isTerm filled)), fun condition h =>
            below condition h.1 h.2⟩
        simp [Condition.pieces, inside]
  | .stray _, _, _, _ | .overflow _, _, _, _ => by simp [Condition.ofItem, Condition.pieces]

theorem one_notMem_ofItems : (items : List Item) → ∀ {depth : Nat} {hasLeft ended : Bool},
    Item.RowIsRead depth hasLeft ended items → ∀ (left : Option Condition) (pending : Bool),
    (∀ condition ∈ left, .one ∉ condition.pieces) →
    ∀ condition ∈ Condition.ofItems left pending items, .one ∉ condition.pieces
  | [], _, _, _, _, left, _, h => by
    intro condition mem
    exact h condition (Option.mem_toList.1 mem)
  | item :: items, depth, _, _, row, left, pending, h => by
    have step {hasLeft ended : Bool} (term : item.isTerm = true)
        (here : .one ∉ (Condition.ofItem item).pieces)
        (row : Item.RowIsRead depth hasLeft ended items) :
        ∀ condition ∈ Condition.ofItems left pending (item :: items),
          .one ∉ condition.pieces := by
      have joined : .one ∉ (Condition.joinLeft left pending (Condition.ofItem item)).pieces := by
        cases left with
        | none => exact here
        | some left =>
          cases pending with
          | false => exact here
          | true => simp [Condition.joinLeft, Condition.pieces, h left rfl, here]
      intro condition mem
      rw [ofItems_term left pending term, Condition.push, List.mem_append] at mem
      rcases mem with kept | later
      · cases pending with
        | true => cases kept
        | false => exact h condition (Option.mem_toList.1 kept)
      · refine one_notMem_ofItems items row _ false ?_ condition later
        rintro other ⟨⟩
        exact joined
    cases row with
    | blank text row => exact one_notMem_ofItems items row left pending h
    | disjunction _ row => exact one_notMem_ofItems items row left true h
    | stray _ row => exact step rfl (by simp [Condition.ofItem, Condition.pieces]) row
    | term here row => exact step here.isTerm (one_notMem_ofItem item here) row
    | last here =>
      exact step here.isTerm (one_notMem_ofItem item here)
        (.nil : Item.RowIsRead depth true false [])

end

/-! ## Blank queries -/

/-- The items of a query are blanks exactly if the query is blank. -/
theorem all_isBlank_parse (limit : Nat) (source : Text) :
    (parse limit source).items.all Item.isBlank = source.all Unicode.isBlank := by
  have tokens := tokensAll_parse limit source
  rw [← all_isBlank_tokenize, Bool.eq_iff_iff]
  constructor
  · intro h
    have blanks (items : List Item) (h : items.all Item.isBlank = true) :
        (Item.tokensAll items).all Token.isBlank = true := by
      induction items with
      | nil => rfl
      | cons item items ih =>
        rw [List.all_cons, Bool.and_eq_true] at h
        cases item with
        | blank text => exact ih h.2
        | _ => cases h.1
    rw [← tokens]
    exact blanks _ h
  · intro h
    obtain ⟨value, left⟩ := sequence_blanks (term limit) false false h
    rw [parse, Program.ofTokens, value, left, List.nil_append, List.all_map, List.all_eq_true]
    exact fun _ _ => rfl

/-- A query is written as what always holds only if it is blank; nor is a part of it
    otherwise. -/
theorem one_mem_piecesAll_parse (limit : Nat) (source : Text) :
    .one ∈ Condition.piecesAll (parse limit source).conditions ↔
      source.all Unicode.isBlank = true := by
  obtain ⟨ended, row⟩ := rowIsRead_parse limit source
  have inside := one_notMem_ofItems (parse limit source).items row none false (by simp)
  have empty : (parse limit source).conditions = [] ↔
      (parse limit source).items.all Item.isBlank = true := by
    constructor
    · intro none
      cases filled : (parse limit source).items.all Item.isBlank with
      | true => rfl
      | false => exact absurd none (ofItems_ne_nil (.inr (row.exists_isTerm filled)))
    · exact ofItems_eq_nil
  rw [one_mem_piecesAll, empty, all_isBlank_parse]
  exact or_iff_left fun ⟨condition, mem, one⟩ => inside condition mem one

end Flashcard.Query
