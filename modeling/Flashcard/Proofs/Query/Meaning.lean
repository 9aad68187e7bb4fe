import Flashcard.Proofs.Query.Order
import Flashcard.Proofs.Query.Realization
import Mathlib.Data.List.Forall2

/-!
# What a compiled query means

A query and its predicate agree, whatever the leaf terms are worth: the
predicate, read as SQL with its fragments as atoms, has the value that the
query's syntax tree has. Nothing malformed makes that value true. Whatever the
malformed terms are taken for, and with every negation taken at its word, a
note that the predicate finds is a note that the query asks for.

Results:
* `evaluates_iff_meaning`: the predicate of a query evaluates to the meaning of
  its tree, and to nothing else.
* `looseMeaning_of_evaluates`: a malformed term never adds to what a query
  finds.
-/

namespace Flashcard.Query

open Reading

/-! ## The predicate and the tree -/

/-- The predicate of a query with every fragment as one symbol. -/
def Program.symbols (program : Program) : List Symbol :=
  (Condition.piecesAll program.conditions).flatMap Reading.symbols

theorem text_compile (fragments : Fragments) (program : Program) :
    (program.compile fragments).text = program.symbols.flatMap (·.text fragments) := by
  have pieces (piece : Piece) := flatMap_symbols fragments piece
  simp only [Program.compile, Program.symbols, List.flatMap_assoc, pieces]

theorem parameters_compile (fragments : Fragments) (limit : Nat) (source : Text) :
    ((parse limit source).compile fragments).parameters =
      (boundLeaves (parse limit source).tree).map Leaf.parameter :=
  (realizesAll_conditions (fun _ => true) limit source).spec.1

/-- The predicate of a query evaluates to the meaning of its tree. -/
theorem evaluates_symbols (truth : Nat → Bool) (limit : Nat) (source : Text) :
    Evaluates (parse limit source).symbols
      ((boundLeaves (parse limit source).tree).map fun leaf => truth leaf.start)
      (meaning truth (parse limit source).tree) :=
  ⟨_, pieces?_symbols _, .conjunction (realizesAll_conditions truth limit source).spec.2.2⟩

/-- Whatever the leaf terms of a query are worth, its predicate evaluates to the
    meaning of its tree and to nothing else, when the truth values go to the
    fragments in the order in which the leaf terms give their parameters. No two
    leaf terms begin at the same byte, so `truth` may be any choice of values. -/
theorem evaluates_iff_meaning (limit : Nat) (source : Text) :
    let program := parse limit source
    let leaves := boundLeaves program.tree
    (∀ fragments : Fragments,
      (program.compile fragments).text = program.symbols.flatMap (·.text fragments) ∧
      (program.compile fragments).parameters = leaves.map Leaf.parameter) ∧
    leaves.Pairwise (·.start < ·.start) ∧
    ∀ (truth : Nat → Bool) (value : Bool),
      Evaluates program.symbols (leaves.map fun leaf => truth leaf.start) value ↔
        value = meaning truth program.tree := by
  intro program leaves
  refine ⟨fun fragments => ⟨text_compile fragments program,
    parameters_compile fragments limit source⟩, pairwise_boundLeaves limit source, ?_⟩
  intro truth value
  constructor
  · intro h
    exact h.unique (evaluates_symbols truth limit source)
  · rintro rfl
    exact evaluates_symbols truth limit source

/-! ## Malformed terms -/

mutual

/-- Where nothing is malformed, only the values of leaf terms matter. -/
theorem evaluate_congr {v w : Valuation} (h : v.leaf = w.leaf) (start : Nat) : (item : Item) →
    item.isTerm = true → item.wellFormed = true → item.hasError = false →
    evaluate v start item.tree = evaluate w start item.tree
  | .plain value, _, _, ok => by
    rw [Item.tree, evaluate_plain _ _ ok, evaluate_plain _ _ ok, h]
  | .negation operand, _, hp, ok => by
    rw [Item.wellFormed, Bool.and_eq_true] at hp
    rw [Item.hasError] at ok
    rw [evaluate_negation _ _ hp.1, evaluate_negation _ _ hp.1, ok, Bool.and_false, Bool.and_false,
      evaluate_congr h (start + 1) operand hp.1 hp.2 ok]
  | .group items closed, _, hp, ok => by
    rw [Item.hasError, Bool.or_eq_false_iff] at ok
    rw [evaluate_group _ _ ok.1, evaluate_group _ _ ok.1, links_congr h (start + 1) items hp ok.2]
  | .filter _ _ (some value), _, _, ok => by
    rw [Item.hasError] at ok
    rw [evaluate_filter, evaluate_filter, ok, h]
    rfl

theorem links_congr {v w : Valuation} (h : v.leaf = w.leaf) (start : Nat) : (items : List Item) →
    Item.allWellFormed items = true → Item.anyHasError items = false →
    links v start (Item.treeAll items) = links w start (Item.treeAll items)
  | [], _, _ => rfl
  | item :: rest, hp, ok => by
    rw [Item.allWellFormed, Bool.and_eq_true] at hp
    rw [Item.anyHasError, Bool.or_eq_false_iff] at ok
    have next := links_congr h (start + item.tree.size) rest hp.2 ok.2
    rw [Item.treeAll]
    by_cases ht : item.isTerm = true
    · rw [links_term _ _ ht, links_term _ _ ht, evaluate_congr h start item ht hp.1 ok.1, next]
    · cases item with
      | blank text => exact next
      | disjunction => rw [links_disjunction, links_disjunction, next]
      | _ => exact absurd rfl ht

end

theorem forall₂_chains {α : Type} {r : α → α → Prop} {row other : List (Option α)}
    (h : List.Forall₂ (Option.Rel r) row other) :
    List.Forall₂ (List.Forall₂ r) (chains row) (chains other) := by
  fun_induction chains row generalizing other with
  | case1 =>
    cases h
    exact .nil
  | case2 row ih =>
    obtain _ | ⟨_ | _, tail⟩ := h
    rw [chains]
    exact ih tail
  | case3 a row hc ih =>
    obtain _ | ⟨hr | _, _ | ⟨_ | _, tail⟩⟩ := h
    have := ih tail
    rw [hc, List.forall₂_nil_left_iff] at this
    rw [chains, this]
    exact .cons (.cons hr .nil) .nil
  | case4 a row chain others hc ih =>
    obtain _ | ⟨hr | _, _ | ⟨_ | _, tail⟩⟩ := h
    have := ih tail
    rw [hc, List.forall₂_cons_left_iff] at this
    obtain ⟨chain', others', first, others, hc'⟩ := this
    rw [chains, hc']
    exact .cons (.cons hr first) others
  | case5 a row hn ih =>
    obtain _ | ⟨hr | _, tail⟩ := h
    rw [chains.eq_4]
    · exact .cons (.cons hr .nil) (ih tail)
    · rintro rest rfl
      obtain _ | ⟨_ | _, _⟩ := tail
      exact hn _ rfl

/-- A row whose terms all hold where those of another do holds where that one
    does. -/
theorem connect_mono {row other : List (Option Bool)}
    (h : List.Forall₂ (Option.Rel fun a b => a = true → b = true) row other) :
    connect row = true → connect other = true := by
  have any {a b : List Bool} (h : List.Forall₂ (fun a b => a = true → b = true) a b) :
      a.any id = true → b.any id = true := by
    induction h with
    | nil => exact id
    | cons hr _ ih =>
      rw [List.any_cons, List.any_cons, Bool.or_eq_true, Bool.or_eq_true]
      exact Or.imp hr ih
  have all := forall₂_chains h
  rw [connect, connect]
  generalize chains row = a, chains other = b at all
  induction all with
  | nil => exact id
  | cons hr _ ih =>
    rw [List.all_cons, List.all_cons, Bool.and_eq_true, Bool.and_eq_true]
    exact And.imp (any hr) ih

mutual

/-- A term that holds as it is compiled holds whatever malformed terms are worth,
    and with every negation taken at its word. -/
theorem evaluate_loose (truth choice : Nat → Bool) (start : Nat) : (item : Item) →
    item.isTerm = true → item.wellFormed = true →
    evaluate (compiled truth) start item.tree = true →
    evaluate ⟨truth, choice, false⟩ start item.tree = true
  | .plain value, _, _ => by
    by_cases he : (Item.plain value).isError = true
    · rw [evaluate_isError _ _ he]
      exact fun h => absurd h Bool.false_ne_true
    · have ok : value.isError = false := Bool.eq_false_iff.2 he
      rw [Item.tree, evaluate_plain _ _ ok, evaluate_plain _ _ ok]
      exact id
  | .negation operand, _, hp => by
    rw [Item.wellFormed, Bool.and_eq_true] at hp
    rw [evaluate_negation _ _ hp.1, evaluate_negation _ _ hp.1]
    cases ok : operand.hasError with
    | true => exact fun h => absurd h Bool.false_ne_true
    | false =>
      -- nothing below is malformed, so both sides negate the same value
      have same : (compiled truth).leaf = (Valuation.mk truth choice false).leaf := rfl
      rw [Bool.and_false, Bool.and_false, evaluate_congr same (start + 1) operand hp.1 hp.2 ok]
      exact id
  | .group items closed, _, hp => by
    by_cases he : (Item.group items closed).isError = true
    · rw [evaluate_isError _ _ he]
      exact fun h => absurd h Bool.false_ne_true
    · have ok := Bool.eq_false_iff.2 he
      rw [evaluate_group _ _ ok, evaluate_group _ _ ok]
      exact connect_mono (links_loose truth choice (start + 1) items hp)
  | .filter _ _ none, _, _ => by
    rw [evaluate_isError _ _ rfl]
    exact fun h => absurd h Bool.false_ne_true
  | .filter _ _ (some value), _, _ => by
    rw [evaluate_filter, evaluate_filter]
    cases value.isError with
    | true => exact fun h => absurd h Bool.false_ne_true
    | false => exact id
  | .stray _, _, _ | .overflow _, _, _ => by
    rw [evaluate_isError _ _ rfl]
    exact fun h => absurd h Bool.false_ne_true

theorem links_loose (truth choice : Nat → Bool) (start : Nat) : (items : List Item) →
    Item.allWellFormed items = true →
    List.Forall₂ (Option.Rel fun a b => a = true → b = true)
      (links (compiled truth) start (Item.treeAll items))
      (links ⟨truth, choice, false⟩ start (Item.treeAll items))
  | [], _ => .nil
  | item :: rest, hp => by
    rw [Item.allWellFormed, Bool.and_eq_true] at hp
    have next := links_loose truth choice (start + item.tree.size) rest hp.2
    rw [Item.treeAll]
    by_cases ht : item.isTerm = true
    · rw [links_term _ _ ht, links_term _ _ ht]
      exact .cons (.some (evaluate_loose truth choice start item ht hp.1)) next
    · cases item with
      | blank text => exact next
      | disjunction => exact .cons .none next
      | _ => exact absurd rfl ht

end

/-- A malformed term never adds to what a query finds: where the predicate of a
    query is true, so is its tree with any value for each malformed term and
    with every negation taken at its word. -/
theorem looseMeaning_of_evaluates (limit : Nat) (source : Text) (truth choice : Nat → Bool)
    (h : Evaluates (parse limit source).symbols
      ((boundLeaves (parse limit source).tree).map fun leaf => truth leaf.start) true) :
    looseMeaning truth choice (parse limit source).tree = true := by
  have holds : meaning truth (parse limit source).tree = true :=
    (evaluates_symbols truth limit source).unique h
  rw [meaning, Program.tree, evaluate_program] at holds
  rw [looseMeaning, Program.tree, evaluate_program]
  exact connect_mono (links_loose truth choice 0 _ (allWellFormed_parse limit source)) holds

/-- A filter without a value, below a negation and beside a term that holds. -/
theorem looseMeaning_malformedFilter :
    Evaluates (parse 256 "(a OR -tag:) -b".toList).symbols
        ((boundLeaves (parse 256 "(a OR -tag:) -b".toList).tree).map fun leaf => leaf.start = 1)
        true ∧
      looseMeaning (fun start => start = 1) (fun _ => true)
        (parse 256 "(a OR -tag:) -b".toList).tree = true := by
  have holds : meaning (fun start => start = 1) (parse 256 "(a OR -tag:) -b".toList).tree = true :=
    by decide +kernel
  have found := evaluates_symbols (fun start => start = 1) 256 "(a OR -tag:) -b".toList
  rw [holds] at found
  exact ⟨found, looseMeaning_of_evaluates 256 _ (fun start => start = 1) (fun _ => true) found⟩

end Flashcard.Query
