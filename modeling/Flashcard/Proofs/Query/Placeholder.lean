import Flashcard.Proofs.Query.Meaning

/-!
# Placeholders and their values

A predicate goes to the database with a list of values, one for each
placeholder. Nothing but their order ties values to placeholders, while `OR`
regroups the predicate. It never reorders it: fragments stand in the order in
which leaf terms stand in the query, and so do the values.

Results:
* `count_placeholder`: each fragment brings one placeholder, and what stands
  between fragments brings none.
* `filterMap_symbols`: the fragments of a predicate are those of the bound leaf
  terms, in their order.
* `aligned_compile`: the placeholders of a predicate and its values line up.
-/

namespace Flashcard.Query

open Reading

/-! ## Placeholders of a predicate -/

/-- The filter that a symbol is the fragment for, when it is a fragment. -/
def Reading.Symbol.field? : Symbol → Option (Option FilterField)
  | .char _ => none
  | .fragment field => some field

/-- Each fragment brings one placeholder. -/
theorem count_placeholder {fragments : Fragments}
    (one : ∀ field, (fragmentFor fragments field).count '?' = 1) {row : List Symbol}
    (glue : Symbol.char '?' ∉ row) :
    (row.flatMap (·.text fragments)).count '?' = (row.filterMap Symbol.field?).length := by
  induction row with
  | nil => rfl
  | cons symbol row ih =>
    rw [List.mem_cons, not_or] at glue
    rw [List.flatMap_cons, List.count_append, ih glue.2]
    cases symbol with
    | char c =>
      have other : c ≠ '?' := fun h => glue.1 (congrArg _ h.symm)
      rw [List.filterMap_cons_none (f := Symbol.field?) rfl, Symbol.text, List.count_singleton,
        if_neg (by simpa using other), Nat.zero_add]
    | fragment field =>
      rw [List.filterMap_cons_some (f := Symbol.field?) rfl, Symbol.text, one, List.length_cons,
        Nat.add_comm]

/-- Between fragments a predicate has no placeholder. -/
theorem placeholder_notMem_symbols (program : Program) : Symbol.char '?' ∉ program.symbols := by
  intro h
  obtain ⟨piece, -, hp⟩ := List.mem_flatMap.1 h
  revert hp
  cases piece with
  | fieldFragment field => cases field <;> decide
  | _ => decide

/-- The fragments of a predicate are those of the bound leaf terms. -/
theorem filterMap_symbols (limit : Nat) (source : Text) :
    (parse limit source).symbols.filterMap Symbol.field? =
      (boundLeaves (parse limit source).tree).map Leaf.field := by
  have pieces (piece : Piece) : (symbols piece).filterMap Symbol.field? =
      (fragment? piece).toList := by
    cases piece <;> rfl
  rw [← (realizesAll_conditions (fun _ => true) limit source).spec.2.1, Program.symbols,
    List.filterMap_flatMap, List.filterMap_eq_flatMap_toList]
  exact congrArg (List.flatMap · _) (funext pieces)

/-- What a row keeps at a place stands behind what it keeps before that place. -/
theorem exists_of_getElem?_filterMap {α β : Type} {f : α → Option β} {row : List α} {k : Nat}
    {b : β} (h : (row.filterMap f)[k]? = some b) :
    ∃ before a after, row = before ++ a :: after ∧ f a = some b ∧
      (before.filterMap f).length = k := by
  induction row generalizing k with
  | nil => cases h
  | cons x row ih =>
    cases hx : f x with
    | none =>
      rw [List.filterMap_cons_none hx] at h
      obtain ⟨before, a, after, rfl, ha, length⟩ := ih h
      exact ⟨x :: before, a, after, rfl, ha, by rw [List.filterMap_cons_none hx, length]⟩
    | some y =>
      rw [List.filterMap_cons_some hx] at h
      cases k with
      | zero => exact ⟨[], x, row, rfl, hx.trans h, rfl⟩
      | succ k =>
        obtain ⟨before, a, after, rfl, ha, length⟩ := ih h
        refine ⟨x :: before, a, after, rfl, ha, ?_⟩
        rw [List.filterMap_cons_some hx, List.length_cons, length]

/-! ## Predicates and their values -/

/-- The placeholders of a program's predicate and the values for them line up. -/
structure Aligned (fragments : Fragments) (program : Program) : Prop where
  /-- The predicate is made up of fragments and of other characters. -/
  text : (program.compile fragments).text = program.symbols.flatMap (·.text fragments)
  /-- There are as many placeholders as values. -/
  count : (program.compile fragments).text.count '?' =
    (program.compile fragments).parameters.length
  /-- The values are those of the bound leaf terms. -/
  parameters : (program.compile fragments).parameters =
    (boundLeaves program.tree).map Leaf.parameter
  /-- Bound leaf terms come in the order of the query, each of them once. -/
  sorted : (boundLeaves program.tree).Pairwise (·.start < ·.start)
  /-- As many placeholders stand before the fragment of a bound leaf term as there
      are bound leaf terms before it. -/
  placeholder : ∀ (k : Nat) (leaf : Leaf), (boundLeaves program.tree)[k]? = some leaf →
    ∃ before after, program.symbols = before ++ .fragment leaf.field :: after ∧
      (before.flatMap (·.text fragments)).count '?' = k

/-- When every fragment has one placeholder, the placeholders of a predicate and
    its values line up: the fragment of a leaf term has the placeholder that gets
    the value of this leaf term. -/
theorem aligned_compile (fragments : Fragments)
    (one : ∀ field, (fragmentFor fragments field).count '?' = 1) (limit : Nat) (source : Text) :
    Aligned fragments (parse limit source) := by
  have glue := placeholder_notMem_symbols (parse limit source)
  have kept := filterMap_symbols limit source
  refine ⟨text_compile fragments _, ?_, parameters_compile fragments limit source,
    pairwise_boundLeaves limit source, ?_⟩
  · rw [text_compile, parameters_compile, count_placeholder one glue, kept, List.length_map,
      List.length_map]
  · intro k leaf hk
    have there : ((parse limit source).symbols.filterMap Symbol.field?)[k]? = some leaf.field := by
      rw [kept, List.getElem?_map, hk, Option.map_some]
    obtain ⟨before, symbol, after, split, hs, length⟩ := exists_of_getElem?_filterMap there
    cases symbol with
    | char _ => cases hs
    | fragment field =>
      obtain rfl := Option.some.inj hs
      refine ⟨before, after, split, ?_⟩
      rw [count_placeholder one, length]
      intro h
      exact glue (split ▸ List.mem_append_left _ h)

/-- A negation of something malformed binds nothing, and the values after it go to
    the right placeholders. -/
theorem aligned_malformedNegation :
    let program := parse defaultNesting "deck:A -(x tag:) OR \"c*\" tag:B".toList
    (∀ field, (fragmentFor .standard field).count '?' = 1) ∧
      (program.compile .standard).parameters = ["a".toList, "%c%%".toList, "b".toList] ∧
      Aligned .standard program := by
  have one : ∀ field, (fragmentFor .standard field).count '?' = 1 := by
    intro field
    cases field with
    | none => decide
    | some field => cases field <;> decide
  exact ⟨one, by decide +kernel, aligned_compile .standard one _ _⟩

end Flashcard.Query
