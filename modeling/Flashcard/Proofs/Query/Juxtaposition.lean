import Flashcard.Proofs.Query.Border
import Flashcard.Proofs.Query.Lowering

/-!
# Two queries side by side

A query in which nothing is malformed may be put in front of any other one, malformed or
not: with a space between them, both are read as they are read alone, and their
predicates are joined by `AND`. Only an `OR` at the beginning of the second would reach
into the first.

Results:
* `sequence_tokensAll_append`: a row that fits is read back in front of more tokens.
* `ofItems_append`: the conditions of two rows are those of the one and then those of the
  other.
* `piecesAll_append`: so are their pieces, with an `AND` between them.
* `compile_beside`: the predicate of two queries side by side.
-/

namespace Flashcard.Query

/-! ## Rows without blanks at their ends -/

/-- The tokens end, and not with a blank. -/
def HasEnd (tokens : List Token) : Prop :=
  ∃ init token, tokens = init ++ [token] ∧ token.isBlank = false

theorem HasEnd.append {tokens : List Token} (h : HasEnd tokens) (front : List Token) :
    HasEnd (front ++ tokens) := by
  obtain ⟨init, token, rfl, unblank⟩ := h
  exact ⟨front ++ init, token, (List.append_assoc ..).symm, unblank⟩

theorem HasEnd.endsUnblank {tokens : List Token} (h : HasEnd tokens) : EndsUnblank tokens := by
  obtain ⟨init, token, rfl, unblank⟩ := h
  intro last mem
  rw [List.getLast?_concat, Option.mem_some_iff] at mem
  rw [← mem]
  exact unblank

theorem hasEnd_value {value : Value} (ok : value.isError = false) : HasEnd value.tokens := by
  cases value with
  | word text => exact ⟨[], .word text, rfl, rfl⟩
  | quoted content closed =>
    obtain rfl : closed = true := by simpa [Value.isError] using ok
    exact ⟨.quote :: (content.map Token.content).toList, .quote, rfl, rfl⟩

theorem hasEnd_of_fits {depth : Nat} {item : Item} (h : item.fits depth = true) :
    HasEnd item.tokens := by
  induction depth generalizing item with
  | zero => simp [Item.fits] at h
  | succ depth ih =>
    cases item with
    | plain value => exact hasEnd_value (by simpa [Item.fits] using h)
    | filter field mark value =>
      cases value with
      | none => cases h
      | some value =>
        exact (hasEnd_value (by simpa [Item.fits] using h)).append [.mark field mark]
    | negation operand => exact (ih h).append [.minus]
    | group items closed =>
      simp only [Item.fits, Bool.and_eq_true] at h
      obtain ⟨⟨rfl, -⟩, -⟩ := h
      exact ⟨.parenOpen :: Item.tokensAll items, .parenClose, rfl, rfl⟩
    | blank _ | disjunction | stray _ | overflow _ => cases h

theorem hasEnd_of_allFit {depth : Nat} {hasLeft : Bool} {items : List Item} {last : Item}
    (h : Item.allFit depth hasLeft items = true) (ends : items.getLast? = some last)
    (unblank : last.isBlank = false) : HasEnd (Item.tokensAll items) := by
  induction items generalizing hasLeft with
  | nil => cases ends
  | cons item items ih =>
    cases items with
    | nil =>
      obtain rfl : item = last := Option.some.inj ends
      rw [Item.tokensAll, Item.tokensAll, List.append_nil]
      by_cases ht : item.isTerm = true
      · rw [Item.allFit_cons ht, Bool.and_eq_true] at h
        exact hasEnd_of_fits h.1
      · cases item with
        | blank text => cases unblank
        | disjunction => exact ⟨[], .orKeyword, rfl, rfl⟩
        | _ => exact absurd rfl ht
    | cons next items =>
      rw [List.getLast?_cons_cons] at ends
      have later : ∃ hasLeft, Item.allFit depth hasLeft (next :: items) = true := by
        by_cases ht : item.isTerm = true
        · rw [Item.allFit_cons ht, Bool.and_eq_true] at h
          exact ⟨true, h.2⟩
        · cases item with
          | blank text => exact ⟨hasLeft, h⟩
          | disjunction =>
            rw [Item.allFit, Bool.and_eq_true] at h
            exact ⟨false, h.2⟩
          | _ => exact absurd rfl ht
      obtain ⟨hasLeft, later⟩ := later
      exact (ih later ends).append item.tokens

theorem exists_trimmed (items : List Item) : ∃ (trimmed : List Item) (blanks : List Token),
    items = trimmed ++ blanks.map (fun token => .blank token.text) ∧
      blanks.all Token.isBlank = true ∧ ∀ item ∈ trimmed.getLast?, item.isBlank = false := by
  induction items with
  | nil => exact ⟨[], [], rfl, rfl, by simp⟩
  | cons item items ih =>
    obtain ⟨trimmed, blanks, rfl, blank, ends⟩ := ih
    cases trimmed with
    | nil =>
      cases item with
      | blank text => exact ⟨[], .blank text :: blanks, rfl, blank, by simp⟩
      | _ => exact ⟨[_], blanks, rfl, blank, by rintro item ⟨⟩; rfl⟩
    | cons first trimmed =>
      exact ⟨item :: first :: trimmed, blanks, rfl, blank, by rwa [List.getLast?_cons_cons]⟩

/-! ## Reading a row in front of more tokens -/

/-- A row that fits is read back in front of more tokens, if they are not just blanks. What
    follows is read as behind a term or not. -/
theorem sequence_tokensAll_append {depth : Nat} {hasLeft : Bool} {items : List Item}
    (h : Item.allFit depth hasLeft items = true) (inGroup : Bool) {later : List Token}
    (goesOn : later.all Token.isBlank = false) :
    ∃ next, (sequence (term depth) inGroup hasLeft (Item.tokensAll items ++ later)).value =
        items ++ (sequence (term depth) inGroup next later).value ∧
      (sequence (term depth) inGroup hasLeft (Item.tokensAll items ++ later)).rest =
        (sequence (term depth) inGroup next later).rest := by
  induction items generalizing hasLeft with
  | nil => exact ⟨hasLeft, rfl, rfl⟩
  | cons item items ih =>
    by_cases ht : item.isTerm = true
    · rw [Item.allFit_cons ht, Bool.and_eq_true] at h
      obtain ⟨token, tail, tokens, starts⟩ := starts_of_fits h.1
      have read := term_tokens depth item h.1 token tail tokens (Item.tokensAll items ++ later)
      have row := sequence_start (term depth) inGroup hasLeft starts
        (tail ++ (Item.tokensAll items ++ later))
      rw [read.1, read.2] at row
      obtain ⟨next, value, left⟩ := ih h.2
      rw [Item.tokensAll, tokens, List.append_assoc, List.cons_append]
      exact ⟨next, by rw [row.1, value]; rfl, by rw [row.2, left]⟩
    · cases item with
      | blank text =>
        obtain ⟨next, value, left⟩ := ih h
        have more : ¬ (Item.tokensAll items ++ later).all Token.isBlank = true := by
          rw [List.all_append, goesOn, Bool.and_false]
          exact Bool.false_ne_true
        refine ⟨next, ?_, ?_⟩
        · show (sequence _ _ _ (.blank text :: (Item.tokensAll items ++ later))).value = _
          rw [sequence, if_neg more, Parsed.cons_value, value]
          rfl
        · show (sequence _ _ _ (.blank text :: (Item.tokensAll items ++ later))).rest = _
          rw [sequence, if_neg more, Parsed.cons_rest, left]
      | disjunction =>
        simp only [Item.allFit, Bool.and_eq_true] at h
        obtain ⟨⟨leftTerm, next⟩, fits⟩ := h
        obtain ⟨further, value, left⟩ := ih fits
        have follows := termFollows_tokensAll fits next later
        refine ⟨further, ?_, ?_⟩
        · show (sequence _ _ _ (.orKeyword :: (Item.tokensAll items ++ later))).value = _
          rw [sequence, leftTerm, follows, Parsed.cons_value, value]
          rfl
        · show (sequence _ _ _ (.orKeyword :: (Item.tokensAll items ++ later))).rest = _
          rw [sequence, Parsed.cons_rest, left]
      | _ => exact absurd rfl ht

/-- Behind blanks, a row that begins with neither a blank nor an `OR` is read alike whatever
    stands to its left, and begins with a term. -/
theorem sequence_first (depth : Nat) {token : Token} (noBlank : token.isBlank = false)
    (noOr : token ≠ .orKeyword) (rest : List Token) :
    ∃ (item : Item) (items : List Item) (left : List Token), item.isTerm = true ∧
      ∀ (blanks : List Token) (hasLeft : Bool), blanks.all Token.isBlank = true →
        (sequence (term depth) false hasLeft (blanks ++ token :: rest)).value =
            blanks.map (fun blank => .blank blank.text) ++ item :: items ∧
          (sequence (term depth) false hasLeft (blanks ++ token :: rest)).rest = left := by
  have alone : ∃ (item : Item) (items : List Item) (left : List Token), item.isTerm = true ∧
      ∀ hasLeft, (sequence (term depth) false hasLeft (token :: rest)).value = item :: items ∧
        (sequence (term depth) false hasLeft (token :: rest)).rest = left := by
    by_cases closing : token = .parenClose
    · subst closing
      refine ⟨.stray .parenClose, (sequence (term depth) false true rest).value,
        (sequence (term depth) false true rest).rest, rfl, fun hasLeft => ?_⟩
      rw [sequence]
      exact ⟨rfl, rfl⟩
    · exact ⟨_, _, _, isTerm_term depth token rest, fun hasLeft =>
        sequence_term (term depth) false hasLeft noBlank closing noOr rest⟩
  obtain ⟨item, items, left, isTerm, read⟩ := alone
  refine ⟨item, items, left, isTerm, fun blanks hasLeft blank => ?_⟩
  obtain ⟨value, behind⟩ := sequence_blanks_append (term depth) false hasLeft blank noBlank rest
  rw [value, behind, (read hasLeft).1, (read hasLeft).2]
  exact ⟨rfl, rfl⟩

/-! ## Conditions of two rows -/

theorem ofItems_left {items : List Item} (h : Item.termNext items = true)
    (left : Option Condition) : Condition.ofItems left false items =
      left.toList ++ Condition.ofItems none false items := by
  induction items with
  | nil => cases h
  | cons item items ih =>
    by_cases ht : item.isTerm = true
    · rw [ofItems_term left false ht, ofItems_term none false ht]
      cases left <;> rfl
    · cases item with
      | blank text => exact ih h
      | disjunction => cases h
      | _ => exact absurd rfl ht

theorem ofItems_blanks_append (blanks : List Token) (items : List Item) :
    Condition.ofItems none false ((blanks.map fun token => .blank token.text) ++ items) =
      Condition.ofItems none false items := by
  induction blanks with
  | nil => rfl
  | cons token blanks ih => exact ih

theorem ofItems_append_blanks (left : Option Condition) (pending : Bool) (items : List Item)
    (blanks : List Token) :
    Condition.ofItems left pending (items ++ blanks.map fun token => .blank token.text) =
      Condition.ofItems left pending items := by
  induction items generalizing left pending with
  | nil =>
    induction blanks with
    | nil => rfl
    | cons token blanks ih => exact ih
  | cons item items ih =>
    by_cases ht : item.isTerm = true
    · rw [List.cons_append, ofItems_term left pending ht, ofItems_term left pending ht, ih]
    · cases item with
      | blank text => exact ih left pending
      | disjunction => exact ih left true
      | _ => exact absurd rfl ht

/-- Behind a row that fits, no `OR` is pending, so that the conditions of what follows are
    its own if it begins with a term. -/
theorem ofItems_append {depth : Nat} {hasLeft : Bool} {items later : List Item}
    (h : Item.allFit depth hasLeft items = true) (next : Item.termNext later = true)
    (left : Option Condition) {pending : Bool}
    (right : pending = true → Item.termNext items = true) :
    Condition.ofItems left pending (items ++ later) =
      Condition.ofItems left pending items ++ Condition.ofItems none false later := by
  induction items generalizing hasLeft left pending with
  | nil =>
    cases pending with
    | true => cases right rfl
    | false => exact ofItems_left next left
  | cons item items ih =>
    by_cases ht : item.isTerm = true
    · rw [Item.allFit_cons ht, Bool.and_eq_true] at h
      rw [List.cons_append, ofItems_term left pending ht, ofItems_term left pending ht,
        ih h.2 _ (fun same => absurd same Bool.false_ne_true), Condition.push, Condition.push,
        List.append_assoc]
    · cases item with
      | blank text => exact ih h left right
      | disjunction =>
        simp only [Item.allFit, Bool.and_eq_true] at h
        exact ih h.2 left fun _ => h.1.2
      | _ => exact absurd rfl ht

theorem piecesAll_cons {rest : List Condition} (h : rest ≠ []) (condition : Condition) :
    Condition.piecesAll (condition :: rest) =
      condition.pieces ++ [.and] ++ Condition.piecesAll rest := by
  rw [Condition.piecesAll]
  exact h

theorem piecesAll_append {a b : List Condition} (ha : a ≠ []) (hb : b ≠ []) :
    Condition.piecesAll (a ++ b) =
      Condition.piecesAll a ++ [.and] ++ Condition.piecesAll b := by
  induction a with
  | nil => exact absurd rfl ha
  | cons condition a ih =>
    cases a with
    | nil => exact piecesAll_cons hb condition
    | cons next a =>
      have some : next :: a ≠ [] := List.cons_ne_nil next a
      rw [List.cons_append, piecesAll_cons (List.append_ne_nil_of_left_ne_nil some b), ih some,
        piecesAll_cons some]
      simp only [List.append_assoc]

theorem parametersAll_append (a b : List Condition) :
    Condition.parametersAll (a ++ b) = Condition.parametersAll a ++ Condition.parametersAll b := by
  induction a with
  | nil => rfl
  | cons condition a ih =>
    rw [List.cons_append, Condition.parametersAll, ih, Condition.parametersAll, List.append_assoc]

/-! ## Two queries -/

/-- The first of two queries as it is read in front of the second: a row that fits, without
    the blanks at its end. -/
theorem exists_front {limit : Nat} {a : Text}
    (clean : (parse limit a).tree.hasErrorNode = false) :
    ∃ items : List Item, Item.allFit limit false items = true ∧
      (parse limit a).conditions = Condition.ofItems none false items ∧
      CutsAs a (Item.tokensAll items) := by
  have fits := (hasErrorNode_parse limit a).1 clean
  have tokens := tokensAll_parse limit a
  have closed := closedStrings_row limit false _ fits (.nil : ClosedStrings [])
  rw [List.append_nil, tokens] at closed
  obtain ⟨items, blanks, trimmed, blank, ends⟩ := exists_trimmed (parse limit a).items
  rw [trimmed, allFit_append_blanks] at fits
  rw [trimmed, Item.tokensAll_append, tokensAll_blanks blank] at tokens
  refine ⟨items, fits, ?_, tokenize_append_space closed tokens.symm blank ?_⟩
  · rw [Program.conditions, trimmed, ofItems_append_blanks]
  · cases last : items.getLast? with
    | none =>
      rw [List.getLast?_eq_none_iff.1 last]
      intro token mem
      cases mem
    | some item => exact (hasEnd_of_allFit fits last (ends item last)).endsUnblank

/-- Behind blanks, the second of two queries begins with a token that is no `OR`. -/
theorem exists_first {b : Text} (filled : b.all Unicode.isBlank = false)
    (noOr : (tokenize b).find? (!·.isBlank) ≠ some .orKeyword) {lead tokens : List Token}
    (leadBlank : lead.all Token.isBlank = true) (whole : tokenize b = lead ++ tokens) :
    ∃ (between : List Token) (token : Token) (rest : List Token),
      tokens = between ++ token :: rest ∧ between.all Token.isBlank = true ∧
        token.isBlank = false ∧ token ≠ .orKeyword := by
  obtain ⟨token, found⟩ : ∃ token, (tokenize b).find? (!·.isBlank) = some token := by
    rw [← all_isBlank_tokenize, List.all_eq_false] at filled
    obtain ⟨token, mem, unblank⟩ := filled
    rw [← Option.isSome_iff_exists, List.find?_isSome]
    exact ⟨token, mem, by simpa using unblank⟩
  have other : token ≠ .orKeyword := fun same => noOr (same ▸ found)
  have none : lead.find? (!·.isBlank) = none := by
    rw [List.find?_eq_none]
    intro token mem
    simpa using List.all_eq_true.1 leadBlank token mem
  rw [whole, List.find?_append, none, Option.none_or, List.find?_eq_some_iff_append] at found
  obtain ⟨unblank, between, rest, rfl, blank⟩ := found
  refine ⟨between, token, rest, rfl, ?_, by simpa using unblank, other⟩
  rw [List.all_eq_true]
  intro token mem
  simpa using blank token mem

/-- The conditions of two queries side by side are those of the one and then those of the
    other. -/
theorem conditions_beside {limit : Nat} {a b : Text}
    (clean : (parse limit a).tree.hasErrorNode = false) (filled : b.all Unicode.isBlank = false)
    (noOr : (tokenize b).find? (!·.isBlank) ≠ some .orKeyword) :
    (parse limit (a ++ ' ' :: b)).conditions =
      (parse limit a).conditions ++ (parse limit b).conditions := by
  obtain ⟨front, fits, conditions, cut⟩ := exists_front clean
  obtain ⟨text, lead, tokens, leadBlank, whole, border⟩ := tokenize_border cut b
  obtain ⟨between, token, rest, rfl, betweenBlank, noBlank, other⟩ :=
    exists_first filled noOr leadBlank whole
  obtain ⟨item, items, left, isTerm, read⟩ := sequence_first limit noBlank other rest
  have second : (parse limit b).conditions =
      Condition.ofItems none false
        (item :: items ++ left.map fun token => .blank token.text) := by
    obtain ⟨value, behind⟩ := read (lead ++ between) false (by
      rw [List.all_append, leadBlank, betweenBlank]; rfl)
    rw [Program.conditions, parse, Program.ofTokens, whole, ← List.append_assoc]
    simp only [value, behind]
    rw [List.append_assoc, ofItems_blanks_append]
  have both : (parse limit (a ++ ' ' :: b)).conditions =
      Condition.ofItems none false (front ++ (((Token.blank text :: between).map
        fun token => .blank token.text) ++
          (item :: items ++ left.map fun token => .blank token.text))) := by
    have goesOn : (.blank text :: (between ++ token :: rest)).all Token.isBlank = false := by
      simp [noBlank]
    obtain ⟨next, value, behind⟩ := sequence_tokensAll_append fits false goesOn
    obtain ⟨later, last⟩ := read (.blank text :: between) next betweenBlank
    rw [List.cons_append] at later last
    rw [Program.conditions, parse, Program.ofTokens, border]
    simp only [value, behind, later, last]
    rw [List.append_assoc, List.append_assoc]
  rw [both, ofItems_append fits _ none (fun same => absurd same Bool.false_ne_true), conditions,
    ofItems_blanks_append, second]
  rw [Item.termNext_blanks_append]
  exact Item.termNext_cons isTerm _

theorem conditions_ne_nil {limit : Nat} {source : Text}
    (term : (parse limit source).tree.children.any isTerm = true) :
    (parse limit source).conditions ≠ [] := by
  have found (items : List Item) (h : (Item.treeAll items).any isTerm = true) :
      ∃ item ∈ items, item.isTerm = true := by
    induction items with
    | nil => cases h
    | cons item items ih =>
      by_cases ht : item.isTerm = true
      · exact ⟨item, List.mem_cons_self, ht⟩
      · have later : (Item.treeAll items).any isTerm = true := by
          cases item with
          | blank _ | disjunction => exact h
          | _ => exact absurd rfl ht
        obtain ⟨other, mem, isTerm⟩ := ih later
        exact ⟨other, List.mem_cons_of_mem _ mem, isTerm⟩
  exact ofItems_ne_nil (.inr (found _ term))

/-- Behind a query with a term in which nothing is malformed, and a space, any query is
    compiled as if it stood alone, if it is not blank and does not begin with an `OR`: both
    predicates are joined by `AND`, and the values for the second follow those for the
    first. -/
theorem compile_beside {limit : Nat} {a b : Text}
    (clean : (parse limit a).tree.hasErrorNode = false)
    (term : (parse limit a).tree.children.any isTerm = true)
    (filled : b.all Unicode.isBlank = false)
    (noOr : (tokenize b).find? (!·.isBlank) ≠ some .orKeyword) (fragments : Fragments) :
    (parse limit (a ++ ' ' :: b)).compile fragments =
      ⟨((parse limit a).compile fragments).text ++ " AND ".toList ++
          ((parse limit b).compile fragments).text,
        ((parse limit a).compile fragments).parameters ++
          ((parse limit b).compile fragments).parameters⟩ := by
  have first := conditions_ne_nil term
  have second : (parse limit b).conditions ≠ [] := by
    intro none
    have always : .one ∈ Condition.piecesAll (parse limit b).conditions := by
      rw [none]
      exact List.mem_singleton_self _
    rw [one_mem_piecesAll_parse, filled] at always
    cases always
  simp only [Program.compile, conditions_beside clean filled noOr]
  rw [piecesAll_append first second, parametersAll_append, List.flatMap_append,
    List.flatMap_append]
  rfl

/-- A query that ends in a blank, with a group and an `OR`, in front of one that is malformed
    at both of its ends. -/
theorem compile_beside_strayParen :
    let a := "-(x OR tag:T) \"p\\\" q\" ".toList
    let b := " ) OR y (deck:D \"r".toList
    (parse 3 a).tree.hasErrorNode = false ∧
      (parse 3 a).tree.children.any isTerm = true ∧ b.all Unicode.isBlank = false ∧
      (tokenize b).find? (!·.isBlank) ≠ some .orKeyword ∧
      (parse 3 (a ++ ' ' :: b)).compile .standard =
        ⟨((parse 3 a).compile .standard).text ++ " AND ".toList ++
            ((parse 3 b).compile .standard).text,
          ((parse 3 a).compile .standard).parameters ++
            ((parse 3 b).compile .standard).parameters⟩ ∧
      ((parse 3 (a ++ ' ' :: b)).compile .standard).parameters =
        ["%x%".toList, "t".toList, "%p\" q%".toList, "%y%".toList] := by
  intro a b
  have clean : (parse 3 a).tree.hasErrorNode = false := by decide +kernel
  have term : (parse 3 a).tree.children.any isTerm = true := by decide +kernel
  have filled : b.all Unicode.isBlank = false := by decide +kernel
  have noOr : (tokenize b).find? (!·.isBlank) ≠ some .orKeyword := by decide +kernel
  exact ⟨clean, term, filled, noOr, compile_beside clean term filled noOr .standard,
    by decide +kernel⟩

end Flashcard.Query
