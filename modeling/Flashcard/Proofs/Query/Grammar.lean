import Flashcard.Proofs.Query.Fitting

/-!
# The grammar of queries

```text
program = chain*
chain   = term ('OR' term)*
term    = '-' term | '(' chain+ ')' | value | ('tag:' | 'deck:' | 'template:') value
value   = word | '"' content? '"'
```

Blanks may stand in front of every token and at the very end, but not behind `-`,
behind the mark of a filter or inside a string. A term at the top has the depth
one, and each `-` and each group adds one.

Results:
* `derives_tokens`, `derives_tokensAll`: items that fit are derivable.
* `Derives.denotes`: what is derivable are the tokens of items that fit.
* `hasErrorNode_parse_iff`: a query is read without errors exactly when its tokens
  are derivable.
-/

namespace Flashcard.Query.Grammar

/-! ## Derivations -/

/-- The word or the string that a term asks for. -/
inductive IsValue : List Token → Prop
  | word {text : Text} : IsValue [.word text]
  | empty : IsValue [.quote, .quote]
  | string {content : Text} : IsValue [.quote, .content content, .quote]

/-- What the tokens of a query derive from. -/
inductive Symbol where
  | term
  | chain
  | program

/-- The tokens are blanks. -/
def Blank (tokens : List Token) : Prop := tokens.all Token.isBlank = true

/-- The tokens derive from a symbol, with terms nested at most `depth` deep. -/
inductive Derives : Symbol → (depth : Nat) → List Token → Prop
  | value {depth : Nat} {tokens : List Token} : IsValue tokens → Derives .term (depth + 1) tokens
  | filter {depth : Nat} {field : FilterField} {mark : Text} {tokens : List Token} :
      IsValue tokens → Derives .term (depth + 1) (.mark field mark :: tokens)
  | negation {depth : Nat} {operand : List Token} :
      Derives .term depth operand → Derives .term (depth + 1) (.minus :: operand)
  | group {depth : Nat} {blanks first others : List Token} :
      Blank blanks → Derives .chain depth first → Derives .program depth others →
      Derives .term (depth + 1) (.parenOpen :: (blanks ++ first ++ others ++ [.parenClose]))
  | single {depth : Nat} {term : List Token} :
      Derives .term depth term → Derives .chain depth term
  | link {depth : Nat} {chain before after term : List Token} :
      Derives .chain depth chain → Blank before → Blank after → Derives .term depth term →
      Derives .chain depth (chain ++ before ++ .orKeyword :: (after ++ term))
  | blanks {depth : Nat} {blanks : List Token} : Blank blanks → Derives .program depth blanks
  | cons {depth : Nat} {blanks first others : List Token} :
      Blank blanks → Derives .chain depth first → Derives .program depth others →
      Derives .program depth (blanks ++ first ++ others)

theorem Blank.append {a b : List Token} (ha : Blank a) (hb : Blank b) : Blank (a ++ b) := by
  rw [Blank, List.all_append, Bool.and_eq_true]
  exact ⟨ha, hb⟩

theorem Derives.blank_append {depth : Nat} {blanks tokens : List Token} (hb : Blank blanks)
    (h : Derives .program depth tokens) : Derives .program depth (blanks ++ tokens) := by
  cases h with
  | blanks ht => exact .blanks (hb.append ht)
  | cons ht first others =>
    rw [List.append_assoc, ← List.append_assoc, ← List.append_assoc]
    exact .cons (hb.append ht) first others

/-! ## Items that fit are derivable -/

/-- What stands in front of some items of a row: blanks, a chain that may go on, or
    a chain whose last `OR` still needs its right term. -/
inductive Front (depth : Nat) : (hasLeft pending : Bool) → List Token → Prop
  | blanks {blanks : List Token} : Blank blanks → Front depth false false blanks
  | chain {chain blanks : List Token} :
      Derives .chain depth chain → Blank blanks → Front depth true false (chain ++ blanks)
  | link {chain before after : List Token} :
      Derives .chain depth chain → Blank before → Blank after →
      Front depth false true (chain ++ before ++ .orKeyword :: after)

theorem Front.append {depth : Nat} {hasLeft pending : Bool} {front blanks : List Token}
    (h : Front depth hasLeft pending front) (hb : Blank blanks) :
    Front depth hasLeft pending (front ++ blanks) := by
  cases h with
  | blanks h => exact .blanks (h.append hb)
  | chain h before =>
    rw [List.append_assoc]
    exact .chain h (before.append hb)
  | link h before after =>
    rw [List.append_assoc, List.cons_append]
    exact .link h before (after.append hb)

/-- The tokens of a row that fits are not just blanks unless its items are. -/
theorem not_blank_tokensAll {depth : Nat} {hasLeft : Bool} {items : List Item}
    (fits : Item.allFit depth hasLeft items = true) (filled : items.all Item.isBlank = false) :
    ¬ Blank (Item.tokensAll items) := by
  induction items with
  | nil => cases filled
  | cons item items ih =>
    intro blank
    rw [Blank, Item.tokensAll, List.all_append, Bool.and_eq_true] at blank
    by_cases ht : item.isTerm = true
    · rw [Item.allFit_cons ht, Bool.and_eq_true] at fits
      obtain ⟨token, tail, tokens, starts⟩ := starts_of_fits fits.1
      rw [tokens, List.all_cons, Bool.and_eq_true] at blank
      cases token with
      | blank _ => cases starts
      | _ => cases blank.1.1
    · cases item with
      | blank text => exact ih fits filled blank.2
      | disjunction => cases blank.1
      | _ => exact absurd rfl ht

theorem isValue_tokens {value : Value} (ok : value.isError = false) : IsValue value.tokens := by
  cases value with
  | word text => exact .word
  | quoted content closed =>
    obtain rfl : closed = true := by simpa [Value.isError] using ok
    cases content with
    | none => exact .empty
    | some content => exact .string

mutual

/-- The tokens of an item that fits derive from a term. -/
theorem derives_tokens : (depth : Nat) → (item : Item) → item.fits depth = true →
    Derives .term depth item.tokens
  | 0, _, h => by simp [Item.fits] at h
  | _ + 1, .plain value, h => .value (isValue_tokens (by simpa [Item.fits] using h))
  | _ + 1, .filter field mark (some value), h =>
    .filter (isValue_tokens (by simpa [Item.fits] using h))
  | depth + 1, .negation operand, h => .negation (derives_tokens depth operand h)
  | depth + 1, .group items closed, h => by
    simp only [Item.fits, Bool.and_eq_true, Bool.not_eq_true'] at h
    obtain ⟨⟨rfl, filled⟩, inner⟩ := h
    have row := derives_tokensAll depth false items inner (.blanks (rfl : Blank []))
      (fun pending => absurd pending Bool.false_ne_true)
    rw [List.nil_append] at row
    rw [Item.tokens, if_pos rfl]
    have notBlank := not_blank_tokensAll inner filled
    generalize Item.tokensAll items = tokens at row notBlank
    cases row with
    | blanks blank => exact absurd blank notBlank
    | cons blank first others => exact .group blank first others

/-- The tokens of a row that fits derive from a program, together with what stands
    in front of it. -/
theorem derives_tokensAll : (depth : Nat) → (hasLeft : Bool) → (items : List Item) →
    Item.allFit depth hasLeft items = true → ∀ {pending : Bool} {front : List Token},
    Front depth hasLeft pending front → (pending = true → Item.termNext items = true) →
    Derives .program depth (front ++ Item.tokensAll items)
  | depth, hasLeft, [], _, pending, front, ahead, next => by
    rw [Item.tokensAll, List.append_nil]
    cases ahead with
    | blanks h => exact .blanks h
    | chain h blanks => exact .cons (rfl : Blank []) h (.blanks blanks)
    | link => cases next rfl
  | depth, hasLeft, item :: items, h, pending, front, ahead, next => by
    by_cases ht : item.isTerm = true
    · rw [Item.allFit_cons ht, Bool.and_eq_true] at h
      have term := derives_tokens depth item h.1
      have row {chain : List Token} (hc : Derives .chain depth chain) :
          Derives .program depth (chain ++ Item.tokensAll items) := by
        have := derives_tokensAll depth true items h.2 (.chain hc (rfl : Blank []))
          (fun pending => absurd pending Bool.false_ne_true)
        rwa [List.append_nil] at this
      rw [Item.tokensAll]
      cases ahead with
      | blanks hb => exact (row (.single term)).blank_append hb
      | chain hc hb =>
        rw [List.append_assoc]
        exact .cons (rfl : Blank []) hc ((row (.single term)).blank_append hb)
      | link hc before after =>
        have := row (.link hc before after term)
        simpa using this
    · cases item with
      | blank text =>
        have := derives_tokensAll depth hasLeft items h
          (ahead.append (rfl : Blank [.blank text])) next
        simpa [Item.tokensAll, Item.tokens] using this
      | disjunction =>
        simp only [Item.allFit, Bool.and_eq_true] at h
        obtain ⟨⟨rfl, term⟩, later⟩ := h
        cases ahead with
        | chain hc hb =>
          have := derives_tokensAll depth false items later (.link hc hb (rfl : Blank []))
            (fun _ => term)
          simpa [Item.tokensAll, Item.tokens] using this
      | _ => exact absurd rfl ht

end

/-! ## What is derivable are the tokens of items that fit -/

theorem exists_value {tokens : List Token} (h : IsValue tokens) :
    ∃ value : Value, value.isError = false ∧ value.tokens = tokens := by
  cases h with
  | word => exact ⟨.word _, rfl, rfl⟩
  | empty => exact ⟨.quoted none true, rfl, rfl⟩
  | string => exact ⟨.quoted (some _) true, rfl, rfl⟩

/-- The tokens are those of items that a symbol stands for: of a term that fits; of
    a chain, behind which a row goes on as behind a term; of a row that fits
    whatever is in front of it. -/
def Denotes (depth : Nat) (tokens : List Token) : Symbol → Prop
  | .term => ∃ item : Item, item.tokens = tokens ∧ item.fits depth = true
  | .chain => ∃ items, Item.tokensAll items = tokens ∧ Item.termNext items = true ∧
      ∀ hasLeft rest, Item.allFit depth hasLeft (items ++ rest) = Item.allFit depth true rest
  | .program => ∃ items, Item.tokensAll items = tokens ∧
      ∀ hasLeft, Item.allFit depth hasLeft items = true

/-- What derives from a symbol are the tokens of items that it stands for. -/
theorem Derives.denotes {symbol : Symbol} {depth : Nat} {tokens : List Token}
    (h : Derives symbol depth tokens) : Denotes depth tokens symbol := by
  induction h with
  | value h =>
    obtain ⟨value, ok, tokens⟩ := exists_value h
    exact ⟨.plain value, tokens, by rw [Item.fits, ok]; rfl⟩
  | @filter _ field mark _ h =>
    obtain ⟨value, ok, tokens⟩ := exists_value h
    exact ⟨.filter field mark (some value), by rw [Item.tokens, tokens],
      by rw [Item.fits, ok]; rfl⟩
  | negation _ ih =>
    obtain ⟨operand, tokens, fits⟩ := ih
    exact ⟨.negation operand, by rw [Item.tokens, tokens], fits⟩
  | @group _ blanks _ _ blank _ _ chain row =>
    obtain ⟨items, tokens, next, fits⟩ := chain
    obtain ⟨others, otherTokens, otherFits⟩ := row
    refine ⟨.group ((blanks.map fun token => .blank token.text) ++ (items ++ others)) true, ?_, ?_⟩
    · rw [Item.tokens, if_pos rfl, Item.tokensAll_append, Item.tokensAll_append,
        tokensAll_blanks blank, tokens, otherTokens, ← List.append_assoc]
    · rw [Item.fits, List.all_append, List.all_append, Item.filled_of_termNext next, Bool.false_and,
        Bool.and_false, Item.allFit_blanks_append, fits, otherFits]
      rfl
  | single _ ih =>
    obtain ⟨item, tokens, fits⟩ := ih
    have term := Item.isTerm_of_fits fits
    refine ⟨[item], by rw [Item.tokensAll, Item.tokensAll, List.append_nil, tokens],
      Item.termNext_cons term [], ?_⟩
    intro hasLeft rest
    rw [List.singleton_append, Item.allFit_cons term, fits, Bool.true_and]
  | @link _ _ before after _ _ beforeBlank afterBlank _ chain ih =>
    obtain ⟨items, tokens, next, fits⟩ := chain
    obtain ⟨item, itemTokens, itemFits⟩ := ih
    have term := Item.isTerm_of_fits itemFits
    refine ⟨items ++ ((before.map fun token => .blank token.text) ++
      .disjunction :: ((after.map fun token => .blank token.text) ++ [item])), ?_,
      Item.termNext_append next _, ?_⟩
    · simp only [Item.tokensAll_append, Item.tokensAll, Item.tokens, tokensAll_blanks beforeBlank,
        tokensAll_blanks afterBlank, tokens, itemTokens, List.append_nil, List.append_assoc,
        List.singleton_append]
    · intro hasLeft rest
      rw [List.append_assoc, fits, List.append_assoc, Item.allFit_blanks_append, List.cons_append,
        Item.allFit, List.append_assoc, Item.termNext_blanks_append, Item.allFit_blanks_append,
        List.singleton_append, Item.termNext_cons term, Item.allFit_cons term, itemFits]
      rfl
  | @blanks _ blanks blank =>
    refine ⟨blanks.map fun token => .blank token.text, tokensAll_blanks blank, ?_⟩
    intro hasLeft
    rw [← List.append_nil (blanks.map _), Item.allFit_blanks_append]
    rfl
  | @cons _ blanks _ _ blank _ _ chain row =>
    obtain ⟨items, tokens, -, fits⟩ := chain
    obtain ⟨others, otherTokens, otherFits⟩ := row
    refine ⟨(blanks.map fun token => .blank token.text) ++ (items ++ others), ?_, ?_⟩
    · rw [Item.tokensAll_append, Item.tokensAll_append, tokensAll_blanks blank, tokens,
        otherTokens, ← List.append_assoc]
    · intro hasLeft
      rw [Item.allFit_blanks_append, fits, otherFits]

/-! ## Whole queries -/

/-- Tokens are derivable exactly when what is read from them fits. -/
theorem derives_iff_allFit (limit : Nat) (tokens : List Token) :
    Derives .program limit tokens ↔
      Item.allFit limit false (Program.ofTokens limit tokens).items = true := by
  constructor
  · intro h
    obtain ⟨items, rfl, fits⟩ := h.denotes
    rw [ofTokens_tokensAll (fits false)]
    exact fits false
  · intro h
    have derives := derives_tokensAll limit false _ h (.blanks (rfl : Blank []))
      (fun pending => absurd pending Bool.false_ne_true)
    have whole := Program.tokens_ofTokens limit tokens
    rw [Program.tokens] at whole
    rwa [whole] at derives

/-- A query is read without an error node exactly when its tokens are derivable with
    terms nested no deeper than the limit. -/
theorem hasErrorNode_parse_iff (limit : Nat) (source : Text) :
    (parse limit source).tree.hasErrorNode = false ↔ Derives .program limit (tokenize source) :=
  (hasErrorNode_parse limit source).trans (derives_iff_allFit limit (tokenize source)).symm

end Flashcard.Query.Grammar
