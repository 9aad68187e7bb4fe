import Flashcard.Proofs.Query.Leaf
import Flashcard.Proofs.Query.WellFormed

/-!
# Items without errors

Where nothing is malformed, the tokens of a row and its items determine each
other. An item fits when it is a term without errors and its terms are nested no
deeper than allowed; in a row that fits, an `OR` has a term on each side.

Results:
* `fits_term`, `allFit_sequence`: what is read without errors fits.
* `term_tokens`, `sequence_tokensAll`: what fits is read back from its tokens.
* `ofTokens_tokensAll`: a row that fits is read back as a whole query.
-/

namespace Flashcard.Query

namespace Item

/-- A term comes next in the row, blanks aside. -/
def termNext (items : List Item) : Bool := (items.find? (!·.isBlank)).any isTerm

mutual

/-- The item is a term without errors, with terms nested at most `depth` deep. -/
def fits : (depth : Nat) → Item → Bool
  | _ + 1, plain value => !value.isError
  | _ + 1, filter _ _ (some value) => !value.isError
  | depth + 1, negation operand => fits depth operand
  | depth + 1, group items closed => closed && !items.all isBlank && allFit depth false items
  | _, _ => false

/-- The terms of a row fit, and each `OR` stands between two of them; `hasLeft`
    tells whether a term stands to the left. -/
def allFit (depth : Nat) (hasLeft : Bool) : List Item → Bool
  | [] => true
  | blank _ :: rest => allFit depth hasLeft rest
  | disjunction :: rest => hasLeft && termNext rest && allFit depth false rest
  | item :: rest => fits depth item && allFit depth true rest

end

theorem anyHasError_append (a b : List Item) :
    anyHasError (a ++ b) = (anyHasError a || anyHasError b) := by
  induction a with
  | nil => rfl
  | cons item a ih => rw [List.cons_append, anyHasError, ih, anyHasError, Bool.or_assoc]

theorem isTerm_of_fits {depth : Nat} {item : Item} (h : item.fits depth = true) :
    item.isTerm = true := by
  cases item with
  | blank _ | disjunction => cases depth <;> cases h
  | _ => rfl

theorem allFit_cons {depth : Nat} {hasLeft : Bool} {item : Item} (h : item.isTerm = true)
    (rest : List Item) :
    allFit depth hasLeft (item :: rest) = (item.fits depth && allFit depth true rest) := by
  cases item with
  | blank _ | disjunction => cases h
  | _ => rfl

theorem allFit_blanks_append (depth : Nat) (hasLeft : Bool) (blanks : List Token)
    (items : List Item) :
    allFit depth hasLeft ((blanks.map fun token => .blank token.text) ++ items) =
      allFit depth hasLeft items := by
  induction blanks with
  | nil => rfl
  | cons token blanks ih => exact ih

theorem termNext_blanks_append (blanks : List Token) (items : List Item) :
    termNext ((blanks.map fun token => .blank token.text) ++ items) =
      termNext items := by
  induction blanks with
  | nil => rfl
  | cons token blanks ih => exact ih

theorem termNext_cons {item : Item} (h : item.isTerm = true) (rest : List Item) :
    termNext (item :: rest) = true := by
  cases item with
  | blank _ | disjunction => cases h
  | _ => rfl

theorem termNext_append {items : List Item} (h : termNext items = true)
    (rest : List Item) : termNext (items ++ rest) = true := by
  rw [termNext, Option.any_eq_true] at h ⊢
  obtain ⟨item, found, term⟩ := h
  exact ⟨item, by rw [List.find?_append, found, Option.some_or], term⟩

theorem filled_of_termNext {items : List Item} (h : termNext items = true) :
    items.all isBlank = false := by
  rw [termNext, Option.any_eq_true] at h
  obtain ⟨item, found, -⟩ := h
  rw [List.all_eq_false]
  exact ⟨item, List.mem_of_find?_eq_some found, by simpa using List.find?_some found⟩

mutual

theorem hasError_of_fits : (depth : Nat) → (item : Item) → item.fits depth = true →
    item.hasError = false
  | 0, _, h => by simp [fits] at h
  | _ + 1, plain value, h => by simpa [fits, hasError] using h
  | _ + 1, filter _ _ (some value), h => by simpa [fits, hasError] using h
  | depth + 1, negation operand, h => hasError_of_fits depth operand h
  | depth + 1, group items closed, h => by
    simp only [fits, Bool.and_eq_true, Bool.not_eq_true'] at h
    obtain ⟨⟨rfl, filled⟩, inner⟩ := h
    rw [hasError, filled, anyHasError_of_allFit depth false items inner]
    rfl

theorem anyHasError_of_allFit : (depth : Nat) → (hasLeft : Bool) → (items : List Item) →
    allFit depth hasLeft items = true → anyHasError items = false
  | _, _, [], _ => rfl
  | depth, hasLeft, item :: rest, h => by
    by_cases ht : item.isTerm = true
    · rw [allFit_cons ht, Bool.and_eq_true] at h
      rw [anyHasError, hasError_of_fits depth item h.1,
        anyHasError_of_allFit depth true rest h.2]
      rfl
    · cases item with
      | blank text => exact anyHasError_of_allFit depth hasLeft rest h
      | disjunction =>
        rw [allFit, Bool.and_eq_true] at h
        exact anyHasError_of_allFit depth false rest h.2
      | _ => exact absurd rfl ht

end

end Item

/-! ## What is read without errors -/

/-- Where a term comes next among the tokens, it does among the items read. -/
theorem termNext_sequence
    {term : (token : Token) → (rest : List Token) → Parsed Token Item rest.length}
    (isTerm : ∀ token rest, (term token rest).value.isTerm = true)
    (inGroup hasLeft : Bool) {tokens : List Token} (h : termFollows tokens = true) :
    Item.termNext (sequence term inGroup hasLeft tokens).value = true := by
  fun_induction sequence term inGroup hasLeft tokens with
  | case1 => cases h
  | case2 hasLeft text rest blank =>
    rw [termFollows, List.find?_eq_none.2] at h
    · cases h
    · simpa [Token.isBlank] using blank
  | case3 hasLeft text rest _ ih => exact ih h
  | case4 | case5 | case6 => cases h
  | case7 hasLeft token rest _ _ _ first _ ih =>
    exact Item.termNext_cons (isTerm token rest) _

/-- A row that is read without errors fits if its terms do. -/
theorem allFit_sequence {depth : Nat}
    {term : (token : Token) → (rest : List Token) → Parsed Token Item rest.length}
    (isTerm : ∀ token rest, (term token rest).value.isTerm = true)
    (fits : ∀ token rest, (term token rest).value.hasError = false →
      (term token rest).value.fits depth = true)
    (inGroup hasLeft : Bool) (tokens : List Token)
    (h : Item.anyHasError (sequence term inGroup hasLeft tokens).value = false) :
    Item.allFit depth hasLeft (sequence term inGroup hasLeft tokens).value = true := by
  fun_induction sequence term inGroup hasLeft tokens with
  | case1 | case2 | case4 => rfl
  | case3 hasLeft text rest _ ih => exact ih h
  | case5 hasLeft rest _ ih => cases h
  | case6 hasLeft rest ih =>
    rw [Parsed.cons_value, Item.anyHasError, Bool.or_eq_false_iff] at h
    obtain ⟨between, later⟩ := h
    rw [Parsed.cons_value]
    split at between
    · rename_i both
      rw [Bool.and_eq_true] at both
      rw [if_pos (Bool.and_eq_true_iff.2 both), Item.allFit, both.1, ih later,
        termNext_sequence isTerm inGroup false both.2]
      rfl
    · cases between
  | case7 hasLeft token rest _ _ _ first _ ih =>
    rw [Parsed.cons_value, Item.anyHasError, Bool.or_eq_false_iff] at h
    rw [Parsed.cons_value, Item.allFit_cons (isTerm token rest), fits token rest h.1, ih h.2]
    rfl

/-- A term that is read without errors fits. -/
theorem fits_term (depth : Nat) (token : Token) (rest : List Token)
    (h : (term depth token rest).value.hasError = false) :
    (term depth token rest).value.fits depth = true := by
  induction depth generalizing token rest with
  | zero => cases h
  | succ depth ih =>
    cases token with
    | minus =>
      cases rest with
      | nil => cases h
      | cons next rest =>
        rw [term] at h ⊢
        split at h
        · rename_i starts
          rw [if_pos starts]
          exact ih next rest h
        · cases h
    | parenOpen =>
      simp only [term, closeGroup, Item.hasError, Bool.or_eq_false_iff, Bool.not_eq_false'] at h
      obtain ⟨⟨closed, filled⟩, inner⟩ := h
      have row := allFit_sequence (isTerm_term depth) ih true false rest inner
      simp only [term, closeGroup, Item.fits, closed, filled, row]
      rfl
    | quote => simpa [term, Item.fits, Item.hasError] using h
    | word text => rfl
    | mark field mark =>
      simp only [term, Parsed.map_value] at h ⊢
      cases hv : (filterValue rest).value with
      | none =>
        rw [hv] at h
        cases h
      | some value =>
        rw [hv] at h
        simpa [Item.fits, Item.hasError] using h
    | parenClose | content _ | orKeyword | blank _ => cases h

/-! ## Reading what fits -/

section Sequences

variable (term : (token : Token) → (rest : List Token) → Parsed Token Item rest.length)
  (inGroup hasLeft : Bool) {token : Token} {blanks : List Token}

/-- A token that is no blank, no closing parenthesis and no `OR` begins a term. -/
theorem sequence_term (noBlank : token.isBlank = false) (noClosing : token ≠ .parenClose)
    (noOr : token ≠ .orKeyword) (rest : List Token) :
    (sequence term inGroup hasLeft (token :: rest)).value = (term token rest).value ::
        (sequence term inGroup true (term token rest).rest).value ∧
      (sequence term inGroup hasLeft (token :: rest)).rest =
        (sequence term inGroup true (term token rest).rest).rest := by
  rw [sequence]
  · exact ⟨rfl, rfl⟩
  · rintro text rfl
    cases noBlank
  · exact noClosing
  · exact noOr

theorem isBlank_of_operandStarts (h : operandStarts.contains token.kind = true) :
    token.isBlank = false := by
  cases token with
  | blank text => cases h
  | _ => rfl

theorem sequence_start (h : operandStarts.contains token.kind = true) (rest : List Token) :
    (sequence term inGroup hasLeft (token :: rest)).value = (term token rest).value ::
        (sequence term inGroup true (term token rest).rest).value ∧
      (sequence term inGroup hasLeft (token :: rest)).rest =
        (sequence term inGroup true (term token rest).rest).rest := by
  refine sequence_term term inGroup hasLeft (isBlank_of_operandStarts h) ?_ ?_ rest
  · rintro rfl
    cases h
  · rintro rfl
    cases h

theorem sequence_closing (rest : List Token) :
    (sequence term true hasLeft (.parenClose :: rest)).value = [] ∧
      (sequence term true hasLeft (.parenClose :: rest)).rest = .parenClose :: rest := by
  rw [sequence]
  exact ⟨rfl, rfl⟩

theorem sequence_blanks (h : blanks.all Token.isBlank = true) :
    (sequence term inGroup hasLeft blanks).value = [] ∧
      (sequence term inGroup hasLeft blanks).rest = blanks := by
  cases blanks with
  | nil => rw [sequence]; exact ⟨rfl, rfl⟩
  | cons token rest =>
    rw [List.all_cons, Bool.and_eq_true] at h
    cases token with
    | blank text => rw [sequence, if_pos h.2]; exact ⟨rfl, rfl⟩
    | _ => cases h.1

theorem sequence_blanks_append (blank : blanks.all Token.isBlank = true)
    (next : token.isBlank = false) (rest : List Token) :
    (sequence term inGroup hasLeft (blanks ++ token :: rest)).value =
        blanks.map (fun blank => .blank blank.text) ++
          (sequence term inGroup hasLeft (token :: rest)).value ∧
      (sequence term inGroup hasLeft (blanks ++ token :: rest)).rest =
        (sequence term inGroup hasLeft (token :: rest)).rest := by
  induction blanks with
  | nil => exact ⟨rfl, rfl⟩
  | cons first blanks ih =>
    rw [List.all_cons, Bool.and_eq_true] at blank
    obtain ⟨value, left⟩ := ih blank.2
    cases first with
    | blank text =>
      have more : ¬ (blanks ++ token :: rest).all Token.isBlank = true := by
        simp [next]
      rw [List.cons_append, sequence, if_neg more, Parsed.cons_value, Parsed.cons_rest, value,
        left]
      exact ⟨rfl, rfl⟩
    | _ => cases blank.1

end Sequences

theorem quotedValue_tokens (content : Option Text) (rest : List Token) :
    (quotedValue ((content.map Token.content).toList ++ .quote :: rest)).value =
        .quoted content true ∧
      (quotedValue ((content.map Token.content).toList ++ .quote :: rest)).rest = rest := by
  cases content <;> exact ⟨rfl, rfl⟩

/-- A value without errors is read behind the mark of a filter. -/
theorem filterValue_tokens {value : Value} (ok : value.isError = false) (rest : List Token) :
    (filterValue (value.tokens ++ rest)).value = some value ∧
      (filterValue (value.tokens ++ rest)).rest = rest := by
  cases value with
  | word text => exact ⟨rfl, rfl⟩
  | quoted content closed =>
    obtain rfl : closed = true := by simpa [Value.isError] using ok
    obtain ⟨value, left⟩ := quotedValue_tokens content rest
    rw [Value.tokens, if_pos rfl, List.cons_append, List.append_assoc, List.singleton_append,
      filterValue]
    simp only [Parsed.map_value, Parsed.map_rest, Parsed.widen_value, Parsed.widen_rest, value,
      left]
    trivial

theorem starts_of_fits {depth : Nat} {item : Item} (h : item.fits depth = true) :
    ∃ token tail, item.tokens = token :: tail ∧ operandStarts.contains token.kind = true := by
  cases depth with
  | zero => simp [Item.fits] at h
  | succ depth =>
    cases item with
    | plain value => cases value <;> exact ⟨_, _, rfl, rfl⟩
    | filter field mark value =>
      cases value <;> cases field <;> exact ⟨_, _, rfl, rfl⟩
    | negation _ | group _ _ => exact ⟨_, _, rfl, rfl⟩
    | blank _ | disjunction | stray _ | overflow _ => cases h

/-- Where a term comes next in a row that fits, it does among the row's tokens. -/
theorem termFollows_tokensAll {depth : Nat} {hasLeft : Bool} {items : List Item}
    (fits : Item.allFit depth hasLeft items = true) (h : Item.termNext items = true)
    (rest : List Token) : termFollows (Item.tokensAll items ++ rest) = true := by
  induction items with
  | nil => cases h
  | cons item items ih =>
    by_cases ht : item.isTerm = true
    · rw [Item.allFit_cons ht, Bool.and_eq_true] at fits
      obtain ⟨token, tail, tokens, starts⟩ := starts_of_fits fits.1
      rw [Item.tokensAll, tokens]
      cases token with
      | blank _ => cases starts
      | parenClose | content _ | orKeyword => cases starts
      | mark field _ => cases field <;> rfl
      | _ => rfl
    · cases item with
      | blank text => exact ih fits h
      | disjunction => cases h
      | _ => exact absurd rfl ht

/-- What may stand behind a row: nothing, or the parenthesis that closes it. -/
inductive EndsRow : (inGroup : Bool) → List Token → Prop
  | nil {inGroup : Bool} : EndsRow inGroup []
  | parenClose {rest : List Token} : EndsRow true (.parenClose :: rest)

/-- The items are read in front of `rest`, except for blanks at the very end, which
    are left. -/
def IsReadAs {bound : Nat} (row : Parsed Token (List Item) bound) (items : List Item)
    (rest : List Token) : Prop :=
  ∃ blanks : List Token, blanks.all Token.isBlank = true ∧ (rest ≠ [] → blanks = []) ∧
    row.rest = blanks ++ rest ∧ items = row.value ++ blanks.map fun token => .blank token.text

theorem IsReadAs.blank
    {term : (token : Token) → (rest : List Token) → Parsed Token Item rest.length}
    {inGroup hasLeft : Bool} {items : List Item} {rest : List Token}
    (h : IsReadAs (sequence term inGroup hasLeft (Item.tokensAll items ++ rest)) items rest)
    (ends : EndsRow inGroup rest) (text : Text) :
    IsReadAs (sequence term inGroup hasLeft (.blank text :: (Item.tokensAll items ++ rest)))
      (.blank text :: items) rest := by
  obtain ⟨blanks, blank, none, left, value⟩ := h
  rw [sequence]
  split
  · rename_i all
    -- All that follows is blank, so nothing of it was read.
    have nothing := sequence_blanks term inGroup hasLeft all
    rw [nothing.1, List.nil_append] at value
    rw [nothing.2] at left
    refine ⟨.blank text :: blanks, by rwa [List.all_cons], ?_, by rw [left]; rfl,
      by rw [value]; rfl⟩
    intro more
    cases ends with
    | nil => exact absurd rfl more
    | parenClose => simp [Token.isBlank] at all
  · exact ⟨blanks, blank, none, left, congrArg (.blank text :: ·) value⟩

mutual

/-- A term that fits is read back from its tokens, whatever follows them. -/
theorem term_tokens : (depth : Nat) → (item : Item) → item.fits depth = true →
    ∀ token tail, item.tokens = token :: tail → ∀ rest,
      (term depth token (tail ++ rest)).value = item ∧
        (term depth token (tail ++ rest)).rest = rest
  | 0, _, h => by simp [Item.fits] at h
  | _ + 1, .plain (.word text), _ => by
    rintro token tail tokens rest
    cases tokens
    exact ⟨rfl, rfl⟩
  | _ + 1, .plain (.quoted content closed), h => by
    rintro token tail tokens rest
    cases tokens
    obtain rfl : closed = true := by simpa [Item.fits, Value.isError] using h
    obtain ⟨value, left⟩ := quotedValue_tokens content rest
    rw [if_pos rfl, List.append_assoc, List.singleton_append, term, Parsed.map_value,
      Parsed.map_rest, value, left]
    exact ⟨rfl, rfl⟩
  | _ + 1, .filter field mark (some value), h => by
    rintro token tail tokens rest
    cases tokens
    obtain ⟨read, left⟩ :=
      filterValue_tokens (show value.isError = false by simpa [Item.fits] using h) rest
    rw [term, Parsed.map_value, Parsed.map_rest, read, left]
    exact ⟨rfl, rfl⟩
  | depth + 1, .negation operand, h => by
    rintro token tail tokens rest
    cases tokens
    obtain ⟨next, tail, inner, starts⟩ := starts_of_fits (show operand.fits depth = true from h)
    obtain ⟨value, left⟩ := term_tokens depth operand h next tail inner rest
    rw [inner, List.cons_append, term, if_pos starts]
    simp only [Parsed.map_value, Parsed.map_rest, Parsed.widen_value, Parsed.widen_rest, value,
      left]
    trivial
  | depth + 1, .group items closed, h => by
    rintro token tail tokens rest
    cases tokens
    simp only [Item.fits, Bool.and_eq_true] at h
    obtain ⟨⟨rfl, -⟩, inner⟩ := h
    obtain ⟨blanks, -, none, left, value⟩ := sequence_tokensAll depth false items inner
      (EndsRow.parenClose : EndsRow true (.parenClose :: rest))
    obtain rfl := none (List.cons_ne_nil _ _)
    rw [List.map_nil, List.append_nil] at value
    rw [if_pos rfl, List.append_assoc, List.singleton_append, term, closeGroup]
    simp only [left, List.nil_append, closes, if_true, List.tail_cons, ← value]
    trivial

/-- A row that fits is read back from its tokens. -/
theorem sequence_tokensAll : (depth : Nat) → (hasLeft : Bool) → (items : List Item) →
    Item.allFit depth hasLeft items = true → ∀ {inGroup : Bool} {rest : List Token},
    EndsRow inGroup rest →
    IsReadAs (sequence (term depth) inGroup hasLeft (Item.tokensAll items ++ rest)) items rest
  | _, _, [], _, _, rest, ends => by
    refine ⟨[], rfl, fun _ => rfl, ?_⟩
    cases ends <;>
      · rw [Item.tokensAll, List.nil_append, sequence]
        exact ⟨rfl, rfl⟩
  | depth, hasLeft, item :: items, h, inGroup, rest, ends => by
    by_cases ht : item.isTerm = true
    · rw [Item.allFit_cons ht, Bool.and_eq_true] at h
      obtain ⟨token, tail, tokens, starts⟩ := starts_of_fits h.1
      have read := term_tokens depth item h.1 token tail tokens (Item.tokensAll items ++ rest)
      have row := sequence_start (term depth) inGroup hasLeft starts
        (tail ++ (Item.tokensAll items ++ rest))
      obtain ⟨blanks, blank, none, left, value⟩ := sequence_tokensAll depth true items h.2 ends
      rw [read.1, read.2] at row
      rw [Item.tokensAll, tokens, List.append_assoc, List.cons_append]
      exact ⟨blanks, blank, none, by rw [row.2, left], by rw [row.1, List.cons_append, ← value]⟩
    · cases item with
      | blank text => exact (sequence_tokensAll depth hasLeft items h ends).blank ends text
      | disjunction =>
        simp only [Item.allFit, Bool.and_eq_true] at h
        obtain ⟨⟨leftTerm, next⟩, later⟩ := h
        obtain ⟨blanks, blank, none, left, value⟩ :=
          sequence_tokensAll depth false items later ends
        show IsReadAs (sequence _ _ _ (.orKeyword :: (Item.tokensAll items ++ rest))) _ _
        rw [sequence, leftTerm, termFollows_tokensAll later next]
        exact ⟨blanks, blank, none, left, congrArg (.disjunction :: ·) value⟩
      | _ => exact absurd rfl ht

end

/-- A row that fits is read back from its tokens as a whole query. -/
theorem ofTokens_tokensAll {limit : Nat} {items : List Item}
    (h : Item.allFit limit false items = true) :
    Program.ofTokens limit (Item.tokensAll items) = ⟨items⟩ := by
  obtain ⟨blanks, -, -, left, value⟩ :=
    sequence_tokensAll limit false items h (EndsRow.nil : EndsRow false [])
  rw [List.append_nil] at left value
  rw [List.append_nil] at left
  rw [Program.ofTokens, left, ← value]

/-! ## Whole queries -/

/-- Blanks at the end of a row do not matter to the terms in it. -/
theorem termNext_append_blanks (items : List Item) (blanks : List Token) :
    Item.termNext (items ++ blanks.map fun token => .blank token.text) = Item.termNext items := by
  have none : (blanks.map fun token => Item.blank token.text).find? (!·.isBlank) = none := by
    rw [List.find?_eq_none]
    intro item mem
    obtain ⟨token, -, rfl⟩ := List.mem_map.1 mem
    exact Bool.false_ne_true
  rw [Item.termNext, List.find?_append, none, Option.or_none]
  rfl

theorem allFit_append_blanks (depth : Nat) (hasLeft : Bool) (items : List Item)
    (blanks : List Token) :
    Item.allFit depth hasLeft (items ++ blanks.map fun token => .blank token.text) =
      Item.allFit depth hasLeft items := by
  induction items generalizing hasLeft with
  | nil =>
    rw [List.nil_append, ← List.append_nil (blanks.map _)]
    exact Item.allFit_blanks_append depth hasLeft blanks []
  | cons item items ih =>
    by_cases ht : item.isTerm = true
    · rw [List.cons_append, Item.allFit_cons ht, Item.allFit_cons ht, ih]
    · cases item with
      | blank text => exact ih hasLeft
      | disjunction =>
        rw [List.cons_append, Item.allFit, Item.allFit, termNext_append_blanks, ih]
      | _ => exact absurd rfl ht

/-- A query has no error node exactly when its items fit. -/
theorem hasErrorNode_parse (limit : Nat) (source : Text) :
    (parse limit source).tree.hasErrorNode = false ↔
      Item.allFit limit false (parse limit source).items = true := by
  rw [Program.tree, Tree.hasErrorNode_node, hasErrorNode_treeAll]
  constructor
  · intro h
    have clean : Item.anyHasError (parse limit source).items = false := h
    rw [parse, Program.ofTokens, Item.anyHasError_append, Bool.or_eq_false_iff] at clean
    rw [parse, Program.ofTokens, allFit_append_blanks]
    exact allFit_sequence (isTerm_term limit) (fits_term limit) false false _ clean.1
  · exact Item.anyHasError_of_allFit limit false _

end Flashcard.Query
