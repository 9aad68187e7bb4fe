import Flashcard.Query.Program

/-!
# Items as they are read

Not every item comes from a query. A negation that is read has a term as its
operand, since only the start of a term makes a sign a negation; and where terms
are nested too deeply, at least one token is left over.

Results:
* `wellFormed_term`, `allWellFormed_parse`: what is read is well formed.
-/

namespace Flashcard.Query

namespace Item

/-- The item is a term: no blank and no `OR`. -/
def isTerm : Item → Bool
  | blank _ | disjunction => false
  | _ => true

mutual

/-- The operand of every negation in the item is a term, and what is left over
    where terms are nested too deeply is not empty. -/
def wellFormed : Item → Bool
  | negation operand => operand.isTerm && operand.wellFormed
  | group items _ => allWellFormed items
  | overflow tokens => !tokens.isEmpty
  | _ => true

/-- Every item of a row is well formed. -/
def allWellFormed : List Item → Bool
  | [] => true
  | item :: rest => item.wellFormed && allWellFormed rest

end

theorem allWellFormed_append (a b : List Item) :
    allWellFormed (a ++ b) = (allWellFormed a && allWellFormed b) := by
  induction a with
  | nil => rfl
  | cons item a ih =>
    rw [List.cons_append, allWellFormed, ih, allWellFormed, Bool.and_assoc]

end Item

theorem isTerm_term (depth : Nat) (token : Token) (rest : List Token) :
    (term depth token rest).value.isTerm = true := by
  cases depth with
  | zero => rfl
  | succ depth =>
    unfold term
    split
    · split <;> rfl
    all_goals rfl

/-- A row is well formed if its terms are. -/
theorem allWellFormed_sequence
    {term : (token : Token) → (rest : List Token) → Parsed Token Item rest.length}
    (h : ∀ token rest, (term token rest).value.wellFormed = true)
    (inGroup hasLeft : Bool) (tokens : List Token) :
    Item.allWellFormed (sequence term inGroup hasLeft tokens).value = true := by
  fun_induction sequence term inGroup hasLeft tokens with
  | case1 | case2 | case4 => rfl
  | case3 hasLeft text rest _ ih => exact ih
  | case5 hasLeft rest _ ih => exact ih
  | case6 hasLeft rest ih =>
    rw [Parsed.cons_value, Item.allWellFormed, ih, Bool.and_true]
    split <;> rfl
  | case7 hasLeft token rest _ _ _ first _ ih =>
    rw [Parsed.cons_value, Item.allWellFormed, ih, Bool.and_true]
    exact h token rest

/-- A term that is read is well formed. -/
theorem wellFormed_term (depth : Nat) (token : Token) (rest : List Token) :
    (term depth token rest).value.wellFormed = true := by
  induction depth generalizing token rest with
  | zero => rfl
  | succ depth ih =>
    unfold term
    split
    · split
      · rw [Parsed.widen_value, Parsed.map_value, Item.wellFormed, ih, isTerm_term]
        rfl
      · rfl
    · exact allWellFormed_sequence ih ..
    all_goals rfl

/-- The items of a query are well formed. -/
theorem allWellFormed_parse (limit : Nat) (source : Text) :
    Item.allWellFormed (parse limit source).items = true := by
  have blanks (tokens : List Token) :
      Item.allWellFormed (tokens.map fun token => .blank token.text) = true := by
    induction tokens with
    | nil => rfl
    | cons token tokens ih => exact ih
  rw [parse, Program.ofTokens, Item.allWellFormed_append,
    allWellFormed_sequence (wellFormed_term limit), blanks, Bool.and_true]

end Flashcard.Query
