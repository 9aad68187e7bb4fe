import Flashcard.Proofs.Query.Evaluation

/-!
# Conditions realize the terms of a query

A condition realizes a term when its predicate has a fragment for each leaf
term bound in the term, in order, with that leaf's value for the placeholder,
and is read as the value of the term. `OR` is where order could get lost: a
condition is taken back to be joined with the next one.

Results:
* `realizes_ofItem`: the condition of an item realizes the item's tree.
* `realizesAll_ofItems`: the conditions of a row realize the row.
* `realizesAll_conditions`: the conditions of a query realize its tree.
-/

namespace Flashcard.Query

open Reading

/-! ## Realization -/

/-- A condition compares at these leaf terms, in order, and is read as this
    value when they are worth `truth`. -/
structure Realizes (truth : Nat → Bool) (condition : Condition) (leaves : List Leaf)
    (value : Bool) : Prop where
  parameters : condition.parameters = leaves.map Leaf.parameter
  fragments : condition.pieces.filterMap fragment? = leaves.map Leaf.field
  reads : Reads .negation condition.pieces (leaves.map fun leaf => truth leaf.start) value

/-- The conditions of a row compare at these leaf terms, in order, and are
    together worth this value. -/
inductive RealizesAll (truth : Nat → Bool) : List Condition → List Leaf → Bool → Prop
  | nil : RealizesAll truth [] [] true
  | cons {condition : Condition} {rest : List Condition} {leaves others : List Leaf} {a b : Bool} :
      Realizes truth condition leaves a → RealizesAll truth rest others b →
      RealizesAll truth (condition :: rest) (leaves ++ others) (a && b)

variable {truth : Nat → Bool}

theorem realizes_never : Realizes truth .never [] false := ⟨rfl, rfl, .operand .zero⟩

theorem realizes_text (start : Nat) (value : Text) :
    Realizes truth (.text value) [⟨start, none, value⟩] (truth start) :=
  ⟨rfl, rfl, .operand (.fragment rfl _)⟩

theorem realizes_field (start : Nat) (field : FilterField) (value : Text) :
    Realizes truth (.field field value) [⟨start, some field, value⟩] (truth start) :=
  ⟨rfl, rfl, .operand (.fragment rfl _)⟩

theorem Realizes.negation {operand : Condition} {leaves : List Leaf} {value : Bool}
    (h : Realizes truth operand leaves value) :
    Realizes truth (.negation operand) leaves (!value) := by
  refine ⟨h.parameters, ?_, ?_⟩
  · rw [Condition.pieces, List.filterMap_append, List.filterMap_append, h.fragments]
    exact List.append_nil _
  · rw [Condition.pieces]
    exact .not (.operand (.parens (.conjunction (.negation h.reads))))

theorem Realizes.either {left right : Condition} {leaves others : List Leaf} {a b : Bool}
    (hl : Realizes truth left leaves a) (hr : Realizes truth right others b) :
    Realizes truth (.either left right) (leaves ++ others) (a || b) := by
  refine ⟨?_, ?_, ?_⟩
  · rw [Condition.parameters, hl.parameters, hr.parameters, List.map_append]
  · rw [Condition.pieces, List.filterMap_append, List.filterMap_append, List.filterMap_append,
      List.filterMap_append, hl.fragments, hr.fragments, List.map_append]
    show ([] ++ _ ++ [] ++ _ ++ []) = _
    rw [List.nil_append, List.append_nil, List.append_nil]
  · have := Reads.operand (.parens (.or (.conjunction (.negation hl.reads)) (.negation hr.reads)))
    rw [← List.map_append] at this
    simpa [Condition.pieces] using this

/-- Values for the placeholders of a row, the sorts of its fragments and its
    value. -/
theorem RealizesAll.spec {conditions : List Condition} {leaves : List Leaf} {value : Bool}
    (h : RealizesAll truth conditions leaves value) :
    Condition.parametersAll conditions = leaves.map Leaf.parameter ∧
      (Condition.piecesAll conditions).filterMap fragment? = leaves.map Leaf.field ∧
      Reads .conjunction (Condition.piecesAll conditions)
        (leaves.map fun leaf => truth leaf.start) value := by
  induction h with
  | nil => exact ⟨rfl, rfl, .negation (.operand .one)⟩
  | @cons condition rest leaves others a b head tail ih =>
    obtain ⟨parameters, fragments, reads⟩ := ih
    refine ⟨?_, ?_, ?_⟩
    · rw [Condition.parametersAll, head.parameters, parameters, List.map_append]
    · cases tail with
      | nil => rw [Condition.piecesAll, head.fragments, List.append_nil]
      | cons _ _ =>
        rw [Condition.piecesAll, List.filterMap_append, List.filterMap_append, head.fragments,
          fragments]
        · show (_ ++ [] ++ _) = _
          rw [List.append_nil, ← List.map_append]
        · simp
    · cases tail with
      | nil =>
        rw [Condition.piecesAll, List.append_nil, Bool.and_true]
        exact .negation head.reads
      | cons _ _ =>
        rw [Condition.piecesAll, List.append_assoc, List.map_append]
        · exact head.reads.and_left reads
        · simp

theorem RealizesAll.group {conditions : List Condition} {leaves : List Leaf} {value : Bool}
    (h : RealizesAll truth conditions leaves value) :
    Realizes truth (.group conditions) leaves value := by
  obtain ⟨parameters, fragments, reads⟩ := h.spec
  refine ⟨parameters, ?_, ?_⟩
  · rw [Condition.pieces, List.filterMap_append, List.filterMap_append, fragments]
    exact List.append_nil _
  · rw [Condition.pieces]
    exact .operand (.parens (.conjunction reads))

/-! ## The fold over a row -/

/-- What stands to the left in a row: the condition that an `OR` may extend, the
    leaf terms it compares at, and its place in the row. -/
inductive RealizesLeft (truth : Nat → Bool) :
    Option Condition → List Leaf → List (Option Bool) → Prop
  | nothing : RealizesLeft truth none [] []
  | condition {condition : Condition} {leaves : List Leaf} {value : Bool} :
      Realizes truth condition leaves value →
      RealizesLeft truth (some condition) leaves [some value]

/-- The `OR` that was met since. -/
def pendingLink (pending : Bool) : List (Option Bool) := if pending then [none] else []

theorem ofItems_term (left : Option Condition) (pending : Bool) {item : Item}
    (h : item.isTerm = true) (rest : List Item) :
    Condition.ofItems left pending (item :: rest) =
      Condition.push (Condition.keepLeft left pending)
        (Condition.ofItems (some (Condition.joinLeft left pending (Condition.ofItem item))) false
          rest) := by
  cases item with
  | blank _ | disjunction => cases h
  | _ => rw [Condition.ofItems] <;> simp

theorem RealizesLeft.last {left : Option Condition} {leaves : List Leaf}
    {row : List (Option Bool)} (h : RealizesLeft truth left leaves row) (pending : Bool) :
    RealizesAll truth left.toList leaves (connect (row ++ pendingLink pending)) := by
  cases h with
  | nothing => cases pending <;> exact .nil
  | @condition condition leaves value h =>
    have := RealizesAll.cons h .nil
    rw [List.append_nil, Bool.and_true] at this
    cases pending <;> simpa [pendingLink, connect, chains] using this

theorem RealizesLeft.connect_link {left : Option Condition} {leaves : List Leaf}
    {row : List (Option Bool)} (h : RealizesLeft truth left leaves row) (pending : Bool)
    (rest : List (Option Bool)) :
    connect (row ++ pendingLink pending ++ none :: rest) =
      connect (row ++ pendingLink true ++ rest) := by
  cases h <;> cases pending <;> simp [pendingLink, connect_some_none_none]

/-- A step of the fold: a term is joined to what stands to its left, or leaves
    it behind. -/
theorem RealizesLeft.step {left : Option Condition} {leaves : List Leaf}
    {row : List (Option Bool)} (h : RealizesLeft truth left leaves row) (pending : Bool)
    {right : Condition} {here : List Leaf} {value : Bool} (hr : Realizes truth right here value)
    {conditions : List Condition} {others : List Leaf} {links : List (Option Bool)}
    (hrest : ∀ {leaves : List Leaf} {value : Bool},
      Realizes truth (Condition.joinLeft left pending right) leaves value →
      RealizesAll truth conditions (leaves ++ others) (connect (some value :: links))) :
    RealizesAll truth (Condition.push (Condition.keepLeft left pending) conditions)
      (leaves ++ (here ++ others))
      (connect (row ++ pendingLink pending ++ some value :: links)) := by
  cases h with
  | nothing => cases pending <;> exact hrest hr
  | @condition condition leaves a h =>
    cases pending with
    | true =>
      rw [← List.append_assoc]
      show RealizesAll truth _ _ (connect (some a :: none :: some value :: links))
      rw [connect_some_none_some]
      exact hrest (h.either hr)
    | false =>
      show RealizesAll truth (condition :: conditions) _ (connect (some a :: some value :: links))
      rw [connect_some_some]
      exact .cons h (hrest hr)

/-! ## Items -/

/-- What a query is worth as it is compiled. -/
def compiled (truth : Nat → Bool) : Valuation := ⟨truth, fun _ => false, true⟩

theorem ofItem_isError {item : Item} (h : item.isError = true) :
    Condition.ofItem item = .never := by
  cases item with
  | blank _ | negation _ | disjunction => cases h
  | plain value => rw [Condition.ofItem, show value.isError = true from h, if_pos rfl]
  | group items closed => rw [Condition.ofItem, show (_ || _) = true from h, if_pos rfl]
  | filter field mark value =>
    cases value with
    | none => rfl
    | some _ => cases h
  | stray _ | overflow _ => rfl

/-- The condition of a malformed item realizes its tree, which is false. -/
theorem realizes_isError {item : Item} (h : item.isError = true) (above : List (Tree Kind))
    (start : Nat) :
    Realizes truth (Condition.ofItem item) (boundAmong (Tree.occurrences above start item.tree))
      (evaluate (compiled truth) start item.tree) := by
  obtain ⟨children, ht⟩ := tree_of_isError h
  rw [ofItem_isError h, evaluate_isError _ _ h, ht, boundAmong_error]
  exact realizes_never

mutual

/-- The condition of a term realizes the term's tree. -/
theorem realizes_ofItem {above : List (Tree Kind)} (ha : HoldsTerms above) (start : Nat) :
    (item : Item) → item.isTerm = true → item.wellFormed = true →
      Realizes truth (Condition.ofItem item) (boundAmong (Tree.occurrences above start item.tree))
        (evaluate (compiled truth) start item.tree)
  | .plain value, _, _ => by
    by_cases he : (Item.plain value).isError = true
    · exact realizes_isError he above start
    · have ok : value.isError = false := Bool.eq_false_iff.2 he
      rw [Condition.ofItem, ok, if_neg Bool.false_ne_true, Item.tree, boundAmong_plain ha start ok,
        evaluate_plain _ _ ok]
      exact realizes_text start value.text
  | .negation operand, _, hp => by
    rw [Item.wellFormed, Bool.and_eq_true] at hp
    rw [Condition.ofItem, boundAmong_negation ha, evaluate_negation _ _ hp.1]
    cases he : operand.hasError with
    | true => exact realizes_never
    | false => exact (realizes_ofItem (ha.negation he) (start + 1) operand hp.1 hp.2).negation
  | .group items closed, _, hp => by
    by_cases he : (Item.group items closed).isError = true
    · exact realizes_isError he above start
    · have ok := Bool.eq_false_iff.2 he
      have row := realizesAll_ofItems (ha.group ok) (start + 1) items hp .nothing false
      rw [Condition.ofItem, show (_ || _) = false from ok, if_neg Bool.false_ne_true,
        boundAmong_group ha start ok, evaluate_group _ _ ok]
      exact row.group
  | .filter field mark none, _, _ => realizes_isError rfl above start
  | .filter field mark (some value), _, _ => by
    rw [Condition.ofItem, boundAmong_filter ha, evaluate_filter]
    cases value.isError with
    | true => exact realizes_never
    | false => exact realizes_field start field value.text
  | .stray _, _, _ => realizes_isError rfl above start
  | .overflow _, _, _ => realizes_isError rfl above start

/-- The conditions of a row of items realize the row, together with what stands
    to its left. -/
theorem realizesAll_ofItems {above : List (Tree Kind)} (ha : HoldsTerms above) (start : Nat) :
    (items : List Item) → Item.allWellFormed items = true →
      ∀ {left : Option Condition} {leaves : List Leaf} {row : List (Option Bool)},
      RealizesLeft truth left leaves row → (pending : Bool) →
      RealizesAll truth (Condition.ofItems left pending items)
        (leaves ++ boundAmong (Tree.occurrencesAll above start (Item.treeAll items)))
        (connect (row ++ pendingLink pending ++
          links (compiled truth) start (Item.treeAll items)))
  | [], _, left, leaves, row, h, pending => by
    rw [Condition.ofItems, Item.treeAll, links, List.append_nil]
    exact (List.append_nil leaves).symm ▸ h.last pending
  | item :: rest, hp, left, leaves, row, h, pending => by
    rw [Item.allWellFormed, Bool.and_eq_true] at hp
    have next {left : Option Condition} {leaves : List Leaf} {row : List (Option Bool)}
        (h : RealizesLeft truth left leaves row) (pending : Bool) :=
      realizesAll_ofItems ha (start + item.tree.size) rest hp.2 h pending
    rw [Item.treeAll, Tree.occurrencesAll, boundAmong_append]
    by_cases ht : item.isTerm = true
    · rw [ofItems_term left pending ht, links_term _ _ ht]
      exact h.step pending (realizes_ofItem ha start item ht hp.1)
        fun joined => next (.condition joined) false
    · cases item with
      | blank text => exact next h pending
      | disjunction =>
        rw [Condition.ofItems, links_disjunction, h.connect_link, boundAmong_disjunction ha]
        exact next h true
      | _ => exact absurd rfl ht

end

/-- The conditions of a query realize its tree. -/
theorem realizesAll_conditions (truth : Nat → Bool) (limit : Nat) (source : Text) :
    RealizesAll truth (parse limit source).conditions (boundLeaves (parse limit source).tree)
      (meaning truth (parse limit source).tree) := by
  have around := holdsTerms_program (Item.treeAll (parse limit source).items)
  have h := realizesAll_ofItems around 0 (parse limit source).items
    (allWellFormed_parse limit source) (.nothing : RealizesLeft truth none [] []) false
  have leaves : boundLeaves (parse limit source).tree =
      boundAmong (Tree.occurrencesAll [(parse limit source).tree] 0
        (Item.treeAll (parse limit source).items)) :=
    boundAmong_node ⟨rfl, rfl⟩ 0 (leafAt?_string ⟨rfl, rfl⟩ 0 rfl _)
  rw [leaves, meaning, Program.tree, evaluate_program]
  exact h

end Flashcard.Query
