import Flashcard.Proofs.Query.Recovery

/-!
# Blanks between items

Blanks are items of their own. Neither a negated term nor what a group ends with, unless the
group is closed, is a run of blanks, and where terms are nested too deeply the rest of a query
begins with the start of a term.

Results:
* `ends_sequence`: what a row ends with.
* `tidy_term`, `allTidy_sequence`: what is read is tidy.
* `allTidy_parse`: the items of a query are.
-/

namespace Flashcard.Query

/-- Kinds of tokens that nothing begins with but a run of blanks or a string. -/
def innerKinds : List Kind := [.whitespace, .stringContent]

namespace Item

/-- The last item, if there is one, is no run of blanks. -/
def endsUnblank (items : List Item) : Bool := !items.getLast?.any isBlank

mutual

/-- Inside of the item, blanks stand between other things. -/
def tidy : Item → Bool
  | negation operand => !operand.isBlank && operand.tidy
  | group items closed => (closed || endsUnblank items) && allTidy items
  | stray token => !innerKinds.contains token.kind
  | overflow tokens => tokens.head?.any fun token => !innerKinds.contains token.kind
  | _ => true

/-- Every item of a row is tidy. -/
def allTidy : List Item → Bool
  | [] => true
  | item :: rest => item.tidy && allTidy rest

end

theorem allTidy_append (a b : List Item) : allTidy (a ++ b) = (allTidy a && allTidy b) := by
  induction a with
  | nil => rfl
  | cons item a ih => rw [List.cons_append, allTidy, ih, allTidy, Bool.and_assoc]

theorem isBlank_of_isTerm {item : Item} (h : item.isTerm = true) : item.isBlank = false := by
  cases item with
  | blank _ => cases h
  | _ => rfl

end Item

/-! ## Ends of rows -/

section Ends

variable {term : (token : Token) → (rest : List Token) → Parsed Token Item rest.length}

/-- A row without items stands for blanks, unless it is closed. -/
theorem all_isBlank_of_empty {inGroup hasLeft : Bool} {tokens : List Token}
    (h : (sequence term inGroup hasLeft tokens).value = []) :
    tokens.all Token.isBlank = true ∨
      closes (sequence term inGroup hasLeft tokens).rest = true := by
  fun_induction sequence term inGroup hasLeft tokens with
  | case1 => exact .inl rfl
  | case2 hasLeft text rest blank => exact .inl blank
  | case4 => exact .inr rfl
  | case3 | case5 | case6 | case7 => cases h

theorem endsUnblank_cons {item : Item} {items : List Item} (nonempty : items ≠ []) :
    Item.endsUnblank (item :: items) = Item.endsUnblank items := by
  obtain ⟨last, items, rfl⟩ := List.exists_cons_of_ne_nil nonempty
  rw [Item.endsUnblank, List.getLast?_cons_cons, Item.endsUnblank]

/-- A row ends with something else than blanks, unless it is closed. -/
theorem ends_sequence (isTerm : ∀ token rest, (term token rest).value.isTerm = true)
    (inGroup hasLeft : Bool) (tokens : List Token) :
    Item.endsUnblank (sequence term inGroup hasLeft tokens).value = true ∨
      closes (sequence term inGroup hasLeft tokens).rest = true := by
  have step {item : Item} {bound : Nat} {row : Parsed Token (List Item) bound}
      (unblank : item.isBlank = false)
      (ih : Item.endsUnblank row.value = true ∨ closes row.rest = true) :
      Item.endsUnblank (item :: row.value) = true ∨ closes row.rest = true := by
    cases value : row.value with
    | nil =>
      left
      rw [Item.endsUnblank, List.getLast?_singleton, Option.any_some, unblank]
      rfl
    | cons next items =>
      rw [value] at ih
      rwa [endsUnblank_cons (List.cons_ne_nil _ _)]
  fun_induction sequence term inGroup hasLeft tokens with
  | case1 | case2 => exact .inl rfl
  | case4 => exact .inr rfl
  | case3 hasLeft text rest goesOn ih =>
    by_cases empty : (sequence term inGroup hasLeft rest).value = []
    · exact .inr ((all_isBlank_of_empty empty).resolve_left goesOn)
    · rw [Parsed.cons_value, endsUnblank_cons empty]
      exact ih
  | case5 hasLeft rest _ ih => exact step rfl ih
  | case6 hasLeft rest ih =>
    refine step ?_ ih
    split <;> rfl
  | case7 hasLeft token rest _ _ _ first _ ih =>
    exact step (Item.isBlank_of_isTerm (isTerm token rest)) ih

end Ends

/-! ## What is read -/

theorem notMem_innerKinds {token : Token} (h : operandStarts.contains token.kind = true) :
    innerKinds.contains token.kind = false := by
  cases token with
  | blank _ | content _ => cases h
  | mark field _ => cases field <;> rfl
  | _ => rfl

/-- A row is tidy if its terms are. -/
theorem allTidy_sequence {depth : Nat} {term : (token : Token) → (rest : List Token) →
      Parsed Token Item rest.length}
    (tidy : ∀ token rest, operandStarts.contains token.kind = true →
      WholeStrings (token :: rest) → (term token rest).value.tidy = true)
    (isRead : ∀ token rest, operandStarts.contains token.kind = true →
      WholeStrings (token :: rest) → Recovers (Item.IsRead depth) (term token rest))
    (inGroup hasLeft : Bool) {tokens : List Token} (whole : WholeStrings tokens) :
    Item.allTidy (sequence term inGroup hasLeft tokens).value = true := by
  have step {item : Item} {items : List Item} (first : item.tidy = true)
      (others : Item.allTidy items = true) : Item.allTidy (item :: items) = true := by
    rw [Item.allTidy, first, others]
    rfl
  fun_induction sequence term inGroup hasLeft tokens with
  | case1 | case2 | case4 => rfl
  | case3 hasLeft text rest _ ih => exact step rfl (ih (whole.tail rfl))
  | case5 hasLeft rest _ ih => exact step rfl (ih (whole.tail rfl))
  | case6 hasLeft rest ih =>
    refine step ?_ (ih (whole.tail rfl))
    split <;> rfl
  | case7 hasLeft token rest noBlank noClosing noOr first _ ih =>
    have starts := operandStarts_of_whole whole noBlank noClosing noOr
    obtain ⟨-, -, -, left⟩ := isRead token rest starts whole
    exact step (tidy token rest starts whole) (ih left)

/-- A term is tidy. -/
theorem tidy_term (depth : Nat) (token : Token) (rest : List Token)
    (starts : operandStarts.contains token.kind = true) (whole : WholeStrings (token :: rest)) :
    (term depth token rest).value.tidy = true := by
  induction depth generalizing token rest with
  | zero =>
    show (!innerKinds.contains token.kind) = true
    rw [notMem_innerKinds starts]
    rfl
  | succ depth ih =>
    cases token with
    | minus =>
      cases rest with
      | nil => rfl
      | cons next rest =>
        rw [term]
        split
        · rename_i operand
          have inner := ih next rest operand (whole.tail rfl)
          have unblank := Item.isBlank_of_isTerm (isTerm_term depth next rest)
          show (!(term depth next rest).value.isBlank && (term depth next rest).value.tidy) = true
          rw [unblank, inner]
          rfl
        · rfl
    | parenOpen =>
      have row := allTidy_sequence ih (isRead_term depth) true false (whole.tail rfl)
      have ends := ends_sequence (isTerm_term depth) true false rest
      show ((closes _ || Item.endsUnblank _) && Item.allTidy _) = true
      rw [row, Bool.and_true, Bool.or_eq_true]
      exact ends.symm
    | quote | word _ | mark _ _ => rfl
    | parenClose | content _ | orKeyword | blank _ => cases starts

/-- The items of a query are tidy. -/
theorem allTidy_parse (limit : Nat) (source : Text) :
    Item.allTidy (parse limit source).items = true := by
  have row := allTidy_sequence (tidy_term limit) (isRead_term limit) false false
    (wholeStrings_tokenize source)
  have blanks (tokens : List Token) :
      Item.allTidy (tokens.map fun token => .blank token.text) = true := by
    induction tokens with
    | nil => rfl
    | cons token tokens ih => exact ih
  rw [parse, Program.ofTokens, Item.allTidy_append, row, blanks]
  rfl

end Flashcard.Query
