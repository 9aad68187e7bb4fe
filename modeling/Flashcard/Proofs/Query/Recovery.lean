import Flashcard.Proofs.Query.Fitting

/-!
# Items of any query

A query is read to its end whether or not something in it is malformed, and what is
malformed has few forms. A token that stands for itself is a closing parenthesis, a
minus sign or an `OR` that does not stand between two terms; an `OR` between two terms is
never one of them; and where terms are nested too deeply, what is left of the query is
one item, behind which nothing follows.

Results:
* `wholeStrings_tokenize`: in the tokens of a query no content stands outside a string.
* `isRead_term`, `rowIsRead_sequence`: what can be read of such tokens.
* `rowIsRead_parse`: the items of a query are a row that can be read.
-/

namespace Flashcard.Query

/-! ## Strings among tokens -/

/-- The token is part of a string in quotes. -/
def Token.inString : Token → Bool
  | quote | content _ => true
  | _ => false

/-- No content stands outside a string, when strings are read from their opening quotes, and
    each of them is as demanded. -/
inductive HasStrings (Demand : Value → Prop) : List Token → Prop
  | nil : HasStrings Demand []
  | string {rest : List Token} : Demand (quotedValue rest).value →
      HasStrings Demand (quotedValue rest).rest → HasStrings Demand (.quote :: rest)
  | other {token : Token} {rest : List Token} : token.inString = false →
      HasStrings Demand rest → HasStrings Demand (token :: rest)

namespace HasStrings

variable {Demand : Value → Prop}

theorem append {front rest : List Token} (outside : ∀ token ∈ front, token.inString = false)
    (h : HasStrings Demand rest) : HasStrings Demand (front ++ rest) := by
  induction front with
  | nil => exact h
  | cons token front ih =>
    rw [List.forall_mem_cons] at outside
    exact .other outside.1 (ih outside.2)

theorem tail {token : Token} {rest : List Token} (h : HasStrings Demand (token :: rest))
    (outside : token.inString = false) : HasStrings Demand rest := by
  cases h with
  | string _ _ => cases outside
  | other _ h => exact h

theorem drop {front rest : List Token}
    (h : HasStrings Demand (front ++ rest))
    (outside : ∀ token ∈ front, token.inString = false) : HasStrings Demand rest := by
  induction front with
  | nil => exact h
  | cons token front ih =>
    rw [List.forall_mem_cons] at outside
    exact ih (h.tail outside.1) outside.2

theorem behindQuote {rest : List Token} (h : HasStrings Demand (.quote :: rest)) :
    Demand (quotedValue rest).value ∧ HasStrings Demand (quotedValue rest).rest := by
  cases h with
  | string value h => exact ⟨value, h⟩
  | other outside _ => cases outside

end HasStrings

/-- No content stands outside a string. -/
abbrev WholeStrings : List Token → Prop := HasStrings fun _ => True

/-- A string without its closing quote reaches to the end of the query or of the
    line. -/
theorem StringBody.rest_of_unclosed (text : Text) (h : (read text).closed = false) :
    (read text).rest = [] ∨ ∃ later, (read text).rest = '\n' :: later := by
  fun_induction read text with
  | case1 => exact .inl rfl
  | case2 rest => cases h
  | case3 => exact .inl rfl
  | case4 rest => exact .inr ⟨rest, rfl⟩
  | case5 c rest _ ih => exact ih h
  | case6 c rest _ _ _ _ ih => exact ih h

/-- Behind such a string comes a blank, if anything. -/
theorem tokenize_behind_unclosed (text : Text) (h : (StringBody.read text).closed = false) :
    ∀ token ∈ (tokenize (StringBody.read text).rest).head?, token.isBlank = true := by
  obtain none | ⟨later, line⟩ := StringBody.rest_of_unclosed text h
  · rw [none, tokenize]
    simp
  · rw [line, tokenize, if_pos (by decide)]
    · rintro token ⟨⟩
      rfl
    all_goals decide

/-- The tokens of a string are read up to what follows it, and without an error if the string is
    closed. -/
theorem StringBody.quotedValue_tokens (body : StringBody) {later : List Token}
    (h : body.closed = false → ∀ token ∈ later.head?, token.isBlank = true) :
    (quotedValue (body.tokens ++ later)).value.isError = !body.closed ∧
      (quotedValue (body.tokens ++ later)).rest = later := by
  obtain ⟨content, closed, rest⟩ := body
  cases closed with
  | true => cases content <;> exact ⟨rfl, rfl⟩
  | false =>
    cases later with
    | nil => cases content <;> exact ⟨rfl, rfl⟩
    | cons token later =>
      have blank := h rfl token rfl
      cases token with
      | blank text => cases content <;> exact ⟨rfl, rfl⟩
      | _ => cases blank

theorem StringBody.isBlank_tokens (body : StringBody) :
    ∀ token ∈ body.tokens, token.isBlank = false := by
  obtain ⟨content, closed, rest⟩ := body
  cases content <;> cases closed <;> simp [tokens, Token.isBlank]

theorem class_wordTokens (text : Text) :
    ∀ token ∈ wordTokens text, token.inString = false ∧ token.isBlank = false := by
  rw [wordTokens]
  split
  · decide
  · split
    · exact List.forall_mem_singleton.2 ⟨rfl, rfl⟩
    · simp only
      split
      · exact List.forall_mem_singleton.2 ⟨rfl, rfl⟩
      · exact List.forall_mem_cons.2 ⟨⟨rfl, rfl⟩, List.forall_mem_singleton.2 ⟨rfl, rfl⟩⟩

/-- In the tokens of a query no content stands outside a string. -/
theorem wholeStrings_tokenize (source : Text) : WholeStrings (tokenize source) := by
  fun_induction tokenize source with
  | case1 => exact .nil
  | case2 rest ih => exact .other rfl ih
  | case3 rest ih => exact .other rfl ih
  | case4 rest ih => exact .other rfl ih
  | case5 rest ih =>
    refine .string trivial ?_
    obtain ⟨-, behind⟩ :=
      (StringBody.read rest).quotedValue_tokens (tokenize_behind_unclosed rest)
    rw [behind]
    exact ih
  | case6 c rest _ _ _ _ _ ih => exact .other rfl ih
  | case7 c rest _ _ _ _ _ ih => exact ih.append fun token mem => (class_wordTokens _ token mem).1

/-! ## Blanks among tokens -/

theorem isBlank_wordTokens (text : Text) : (wordTokens text).all Token.isBlank = false := by
  rw [wordTokens]
  split
  · rfl
  · split <;> rfl

theorem all_isBlank_tokenize (source : Text) :
    (tokenize source).all Token.isBlank = source.all Unicode.isBlank := by
  fun_induction tokenize source with
  | case1 => rfl
  | case2 rest _ | case3 rest _ | case4 rest _ => rfl
  | case5 rest _ => rfl
  | case6 c rest _ _ _ _ blank ih =>
    have whole := List.takeWhile_append_dropWhile (p := Unicode.isBlank) (l := rest)
    rw [List.all_cons, List.all_cons, ih, blank, ← congrArg (List.all · Unicode.isBlank) whole,
      List.all_append, List.all_takeWhile]
    rfl
  | case7 c rest _ _ _ _ word _ =>
    rw [List.all_append, isBlank_wordTokens, List.all_cons, Bool.eq_false_iff.2 word]
    rfl

/-! ## Items that can be read -/

namespace Item

mutual

/-- An item that can be read where terms may be nested `depth` deep, malformed or not. If
    it has `ended` the query, terms are nested too deeply in it, and it holds all that
    was left. -/
inductive IsRead : (depth : Nat) → (ended : Bool) → Item → Prop
  | plain {depth : Nat} (value : Value) : IsRead (depth + 1) false (.plain value)
  | filter {depth : Nat} (field : FilterField) (mark : Text) (value : Option Value) :
      IsRead (depth + 1) false (.filter field mark value)
  | minus {depth : Nat} : IsRead (depth + 1) false (.stray .minus)
  | negation {depth : Nat} {ended : Bool} {operand : Item} : IsRead depth ended operand →
      IsRead (depth + 1) ended (.negation operand)
  | group {depth : Nat} {ended closed : Bool} {items : List Item} :
      RowIsRead depth false ended items → (closed = true → ended = false) →
      IsRead (depth + 1) ended (.group items closed)
  | overflow {tokens : List Token} : tokens ≠ [] → IsRead 0 true (.overflow tokens)

/-- A row of items that can be read; `hasLeft` tells whether a term stands to the left.
    Nothing stands behind an item that has `ended` the query. -/
inductive RowIsRead : (depth : Nat) → (hasLeft ended : Bool) → List Item → Prop
  | nil {depth : Nat} {hasLeft : Bool} : RowIsRead depth hasLeft false []
  | blank {depth : Nat} {hasLeft ended : Bool} {rest : List Item} (text : Text) :
      RowIsRead depth hasLeft ended rest → RowIsRead depth hasLeft ended (.blank text :: rest)
  | disjunction {depth : Nat} {ended : Bool} {rest : List Item} : termNext rest = true →
      RowIsRead depth false ended rest → RowIsRead depth true ended (.disjunction :: rest)
  | stray {depth : Nat} {hasLeft ended : Bool} {token : Token} {rest : List Item} :
      token = .orKeyword ∨ token = .parenClose →
      RowIsRead depth (token = .parenClose) ended rest →
      RowIsRead depth hasLeft ended (.stray token :: rest)
  | term {depth : Nat} {hasLeft ended : Bool} {item : Item} {rest : List Item} :
      IsRead depth false item → RowIsRead depth true ended rest →
      RowIsRead depth hasLeft ended (item :: rest)
  | last {depth : Nat} {hasLeft : Bool} {item : Item} : IsRead depth true item →
      RowIsRead depth hasLeft true [item]

end

variable {depth : Nat} {hasLeft ended : Bool} {item : Item} {items : List Item}

theorem IsRead.isTerm (h : IsRead depth ended item) : item.isTerm = true := by
  cases h <;> rfl

/-- No row that can be read begins with an `OR` between two terms. -/
theorem RowIsRead.termNext_eq (h : RowIsRead depth false ended items) :
    termNext items = !items.all isBlank := by
  induction items with
  | nil => rfl
  | cons item items ih =>
    cases h with
    | blank text h => exact ih h
    | stray _ _ => rfl
    | term h _ | last h => cases h <;> rfl

theorem RowIsRead.append_blanks (h : RowIsRead depth hasLeft false items) (blanks : List Token) :
    RowIsRead depth hasLeft false (items ++ blanks.map fun token => .blank token.text) := by
  induction items generalizing hasLeft with
  | nil =>
    induction blanks with
    | nil => exact .nil
    | cons token blanks ih => exact .blank token.text ih
  | cons item items ih =>
    cases h with
    | blank text h => exact .blank text (ih h)
    | disjunction next h => exact .disjunction ((termNext_append_blanks _ _).trans next) (ih h)
    | stray token h => exact .stray token (ih h)
    | term first h => exact .term first (ih h)

end Item

/-! ## What is read -/

/-- What is read can be read; nothing is left if it has ended the query, and strings are
    whole in what is left. -/
def Recovers {α : Type} {bound : Nat} (CanBeRead : Bool → α → Prop)
    (parsed : Parsed Token α bound) : Prop :=
  ∃ ended, CanBeRead ended parsed.value ∧ (ended = true → parsed.rest = []) ∧
    WholeStrings parsed.rest

/-- Anything may be left of what has not ended the query. -/
theorem Recovers.intro {α : Type} {bound : Nat} {CanBeRead : Bool → α → Prop}
    {parsed : Parsed Token α bound} (read : CanBeRead false parsed.value)
    (left : WholeStrings parsed.rest) : Recovers CanBeRead parsed :=
  ⟨false, read, fun same => absurd same Bool.false_ne_true, left⟩

theorem operandStarts_of_whole {token : Token} {rest : List Token}
    (whole : WholeStrings (token :: rest)) (noBlank : ∀ text, token = .blank text → False)
    (noClosing : token = .parenClose → False) (noOr : token = .orKeyword → False) :
    operandStarts.contains token.kind = true := by
  cases token with
  | parenClose => exact absurd rfl noClosing
  | orKeyword => exact absurd rfl noOr
  | blank text => exact absurd rfl (noBlank text)
  | content text =>
    cases whole with
    | other outside _ => cases outside
  | mark field text => cases field <;> rfl
  | _ => rfl

/-- A row of items can be read if its terms can. -/
theorem rowIsRead_sequence {depth : Nat}
    {term : (token : Token) → (rest : List Token) → Parsed Token Item rest.length}
    (isRead : ∀ token rest, operandStarts.contains token.kind = true →
      WholeStrings (token :: rest) → Recovers (Item.IsRead depth) (term token rest))
    (isTerm : ∀ token rest, (term token rest).value.isTerm = true)
    (inGroup hasLeft : Bool) {tokens : List Token} (whole : WholeStrings tokens) :
    Recovers (Item.RowIsRead depth hasLeft) (sequence term inGroup hasLeft tokens) := by
  fun_induction sequence term inGroup hasLeft tokens with
  | case1 => exact .intro .nil .nil
  | case2 hasLeft text rest => exact .intro .nil whole
  | case3 hasLeft text rest _ ih =>
    obtain ⟨ended, row, done, left⟩ := ih (whole.tail rfl)
    exact ⟨ended, .blank text row, done, left⟩
  | case4 => exact .intro .nil whole
  | case5 hasLeft rest _ ih =>
    obtain ⟨ended, row, done, left⟩ := ih (whole.tail rfl)
    exact ⟨ended, .stray (.inr rfl) row, done, left⟩
  | case6 hasLeft rest ih =>
    obtain ⟨ended, row, done, left⟩ := ih (whole.tail rfl)
    refine ⟨ended, ?_, done, left⟩
    rw [Parsed.cons_value]
    split
    · rename_i between
      rw [Bool.and_eq_true] at between
      obtain ⟨rfl, follows⟩ := between
      exact .disjunction (termNext_sequence isTerm inGroup false follows) row
    · exact .stray (.inl rfl) row
  | case7 hasLeft token rest noBlank noClosing noOr first shorter ih =>
    have starts := operandStarts_of_whole whole noBlank noClosing noOr
    obtain ⟨ended, item, done, left⟩ := isRead token rest starts whole
    cases ended with
    | true =>
      -- The term has ended the query, so the row ends with it.
      have none : first.rest = [] := done rfl
      have row : (sequence term inGroup true first.rest).value = [] ∧
          (sequence term inGroup true first.rest).rest = [] := by
        rw [none, sequence]
        exact ⟨rfl, rfl⟩
      refine ⟨true, ?_, fun _ => row.2, ?_⟩
      · rw [Parsed.cons_value, row.1]
        exact .last item
      · rw [Parsed.cons_rest, row.2]
        exact .nil
    | false =>
      obtain ⟨ended, row, done, left⟩ := ih left
      exact ⟨ended, .term item row, done, left⟩

theorem wholeStrings_filterValue {tokens : List Token} (whole : WholeStrings tokens) :
    WholeStrings (filterValue tokens).rest := by
  unfold filterValue
  split
  · exact whole.tail rfl
  · exact whole.behindQuote.2
  · exact whole

theorem isRead_closeGroup {depth bound : Nat} {row : Parsed Token (List Item) bound}
    (h : Recovers (Item.RowIsRead depth false) row) :
    Recovers (Item.IsRead (depth + 1)) (closeGroup row) := by
  obtain ⟨items, rest, le⟩ := row
  obtain ⟨ended, row, done, left⟩ := h
  by_cases closed : closes rest = true
  · -- A parenthesis is left, so the row has not ended the query.
    cases ended with
    | true =>
      rw [show rest = [] from done rfl] at closed
      cases closed
    | false =>
      refine .intro (.group row fun _ => rfl) ?_
      simp only [closeGroup, if_pos closed]
      cases rest with
      | nil => exact .nil
      | cons token rest =>
        cases token with
        | parenClose => exact left.tail rfl
        | _ => cases closed
  · refine ⟨ended, .group row fun same => absurd same closed, ?_⟩
    simp only [closeGroup, if_neg closed]
    exact ⟨done, left⟩

/-- A term can be read. -/
theorem isRead_term (depth : Nat) (token : Token) (rest : List Token)
    (starts : operandStarts.contains token.kind = true) (whole : WholeStrings (token :: rest)) :
    Recovers (Item.IsRead depth) (term depth token rest) := by
  induction depth generalizing token rest with
  | zero => exact ⟨true, .overflow (List.cons_ne_nil token rest), fun _ => rfl, .nil⟩
  | succ depth ih =>
    cases token with
    | minus =>
      cases rest with
      | nil => exact .intro .minus .nil
      | cons next rest =>
        rw [term]
        split
        · rename_i operand
          obtain ⟨ended, item, done, left⟩ := ih next rest operand (whole.tail rfl)
          exact ⟨ended, .negation item, done, left⟩
        · exact .intro .minus (whole.tail rfl)
    | parenOpen =>
      exact isRead_closeGroup
        (rowIsRead_sequence ih (isTerm_term depth) true false (whole.tail rfl))
    | quote => exact .intro (.plain _) whole.behindQuote.2
    | word text => exact .intro (.plain _) (whole.tail rfl)
    | mark field mark =>
      exact .intro (.filter field mark _) (wholeStrings_filterValue (whole.tail rfl))
    | parenClose | content _ | orKeyword | blank _ => cases starts

/-- The items of a query are a row that can be read. -/
theorem rowIsRead_parse (limit : Nat) (source : Text) :
    ∃ ended, Item.RowIsRead limit false ended (parse limit source).items := by
  obtain ⟨ended, row, done, -⟩ := rowIsRead_sequence (isRead_term limit) (isTerm_term limit)
    false false (wholeStrings_tokenize source)
  refine ⟨ended, ?_⟩
  rw [parse, Program.ofTokens]
  cases ended with
  | false => exact row.append_blanks _
  | true =>
    simp only [done rfl, List.map_nil, List.append_nil]
    exact row

end Flashcard.Query
