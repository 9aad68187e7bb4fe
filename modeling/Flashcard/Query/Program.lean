import Flashcard.Query.Item
import Flashcard.Syntax.Parsed

/-!
# Reading a query

```text
program  = (term | or)*
term     = not | group | quoted | simple | filter
not      = '-' term            nothing between
group    = '(' program ')'
filter   = ('tag:' | 'deck:' | 'template:') (simple | quoted)    nothing between
or       = 'OR'                a term on each side
```

Blanks may stand between the items of a program. Every row of tokens can be
read: a token that fits nowhere becomes an error of its own, and where terms
are nested more deeply than the limit allows, all that is left becomes one
error.

Results:
* `tokensAll_sequence`, `tokens_term`: what is read and what is left make up
  the tokens.
* `tokens_ofTokens`: a program has the tokens it was read from.
* `text_tree_parse`: the tree of a parsed query holds the query.
-/

namespace Flashcard.Query

/-! ## Grammar -/

/-- A string, after its opening quote. -/
def quotedValue (tokens : List Token) : Parsed Token Value tokens.length :=
  match tokens with
  | .content content :: .quote :: rest =>
    ⟨.quoted (some content) true, rest, by simp only [List.length_cons]; omega⟩
  | .content content :: rest => ⟨.quoted (some content) false, rest, by simp⟩
  | .quote :: rest => ⟨.quoted none true, rest, by simp⟩
  | rest => ⟨.quoted none false, rest, Nat.le_refl _⟩

/-- The value after a filter mark, if one touches it. -/
def filterValue (tokens : List Token) : Parsed Token (Option Value) tokens.length :=
  match tokens with
  | .word text :: rest => ⟨some (.word text), rest, by simp⟩
  | .quote :: rest =>
    ((quotedValue rest).map some).widen (Nat.le_succ _)
  | rest => ⟨none, rest, Nat.le_refl _⟩

/-- A term comes next, blanks aside. -/
def termFollows (tokens : List Token) : Bool :=
  (tokens.find? (!·.isBlank)).any (termStarts.contains ·.kind)

/-- A row of items, up to the end or, in a group, to its closing parenthesis.
    `term` reads a term from its first token and the ones after it; `hasLeft`
    tells whether a term stands to the left. Blanks at the very end are left
    to the program. -/
def sequence (term : (token : Token) → (rest : List Token) → Parsed Token Item rest.length)
    (inGroup hasLeft : Bool) (tokens : List Token) : Parsed Token (List Item) tokens.length :=
  match tokens with
  | [] => ⟨[], [], Nat.le_refl _⟩
  | .blank text :: rest =>
    if rest.all Token.isBlank then ⟨[], .blank text :: rest, Nat.le_refl _⟩
    else (sequence term inGroup hasLeft rest).cons (.blank text) (by simp)
  | .parenClose :: rest =>
    if inGroup then ⟨[], .parenClose :: rest, Nat.le_refl _⟩
    else (sequence term inGroup true rest).cons (.stray .parenClose) (by simp)
  | .orKeyword :: rest =>
    (sequence term inGroup false rest).cons
      (if hasLeft && termFollows rest then .disjunction else .stray .orKeyword) (by simp)
  | token :: rest =>
    let first := term token rest
    have shorter : first.rest.length < rest.length + 1 := Nat.lt_succ_of_le first.rest_le
    (sequence term inGroup true first.rest).cons first.value (Nat.le_of_lt shorter)
termination_by tokens.length
decreasing_by
  all_goals
    simp only [List.length_cons]
    omega

/-- A closing parenthesis comes next. -/
def closes : List Token → Bool
  | .parenClose :: _ => true
  | _ => false

/-- The group around a row of items, with its closing parenthesis if that is
    what comes next. -/
def closeGroup {bound : Nat} (row : Parsed Token (List Item) bound) : Parsed Token Item bound :=
  ⟨.group row.value (closes row.rest), if closes row.rest then row.rest.tail else row.rest, by
    have := row.rest_le
    split
    · rw [List.length_tail]
      omega
    · exact this⟩

/-- A term, from its first token; `depth` is how deeply terms may still be
    nested. -/
def term : (depth : Nat) → (token : Token) → (rest : List Token) → Parsed Token Item rest.length
  | 0, token, rest => ⟨.overflow (token :: rest), [], Nat.zero_le _⟩
  | depth + 1, token, rest =>
    match token, rest with
    | .minus, next :: rest =>
      if operandStarts.contains next.kind then
        ((term depth next rest).map .negation).widen (Nat.le_succ _)
      else ⟨.stray .minus, next :: rest, Nat.le_refl _⟩
    | .parenOpen, rest => closeGroup (sequence (term depth) true false rest)
    | .quote, rest => (quotedValue rest).map .plain
    | .word text, rest => ⟨.plain (.word text), rest, Nat.le_refl _⟩
    | .mark field mark, rest => (filterValue rest).map (.filter field mark)
    | token, rest => ⟨.stray token, rest, Nat.le_refl _⟩

/-! ## Programs -/

/-- A whole query. -/
structure Program where
  items : List Item

/-- How deeply terms may be nested unless something else is asked for. -/
def defaultNesting : Nat := 256

namespace Program

/-- Reads the tokens of a query, with terms nested at most `limit` deep. -/
def ofTokens (limit : Nat) (tokens : List Token) : Program :=
  let parsed := sequence (term limit) false false tokens
  ⟨parsed.value ++ parsed.rest.map fun token => .blank token.text⟩

/-- Tokens of a query. -/
def tokens (program : Program) : List Token := Item.tokensAll program.items

/-- Syntax tree of a query. -/
def tree (program : Program) : Tree Kind := .node .program (Item.treeAll program.items)

end Program

/-- Reads a query, with terms nested at most `limit` deep. -/
def parse (limit : Nat) (source : Text) : Program := Program.ofTokens limit (tokenize source)

/-! ## Nothing is lost -/

theorem tokens_quotedValue (tokens : List Token) :
    (quotedValue tokens).value.tokens ++ (quotedValue tokens).rest = .quote :: tokens := by
  unfold quotedValue
  split <;> rfl

theorem tokens_filterValue (field : FilterField) (mark : Text) (tokens : List Token) :
    (Item.filter field mark (filterValue tokens).value).tokens ++ (filterValue tokens).rest =
      .mark field mark :: tokens := by
  unfold filterValue
  split
  · rfl
  · simp [Item.tokens, tokens_quotedValue]
  · rfl

/-- A row of items and what is left of the tokens make up the tokens, if every
    term does. -/
theorem tokensAll_sequence
    {term : (token : Token) → (rest : List Token) → Parsed Token Item rest.length}
    (whole : ∀ token rest, (term token rest).value.tokens ++ (term token rest).rest =
      token :: rest)
    (inGroup hasLeft : Bool) (tokens : List Token) :
    Item.tokensAll (sequence term inGroup hasLeft tokens).value ++
      (sequence term inGroup hasLeft tokens).rest = tokens := by
  fun_induction sequence term inGroup hasLeft tokens with
  | case1 => rfl
  | case2 => rfl
  | case3 hasLeft text rest _ ih => simp [Item.tokensAll, Item.tokens, ih]
  | case4 => rfl
  | case5 hasLeft rest _ ih => simp [Item.tokensAll, Item.tokens, ih]
  | case6 hasLeft rest ih =>
    simp only [Parsed.cons_value, Parsed.cons_rest, Item.tokensAll]
    split <;> simp [Item.tokens, ih]
  | case7 hasLeft token rest _ _ _ first _ ih =>
    simp only [Parsed.cons_value, Parsed.cons_rest, Item.tokensAll, List.append_assoc, ih]
    exact whole token rest

theorem tokens_closeGroup {bound : Nat} (row : Parsed Token (List Item) bound) :
    (closeGroup row).value.tokens ++ (closeGroup row).rest =
      .parenOpen :: (Item.tokensAll row.value ++ row.rest) := by
  cases row with
  | mk items rest _ =>
    unfold closeGroup
    fun_cases closes rest <;> simp_all [closes, Item.tokens]

/-- A term and what is left of the tokens make up the tokens. -/
theorem tokens_term (depth : Nat) (token : Token) (rest : List Token) :
    (term depth token rest).value.tokens ++ (term depth token rest).rest = token :: rest := by
  induction depth generalizing token rest with
  | zero => simp [term, Item.tokens]
  | succ depth ih =>
    unfold term
    split
    · split
      · simp [Item.tokens, ih]
      · rfl
    · rw [tokens_closeGroup, tokensAll_sequence ih]
    · simp [Item.tokens, tokens_quotedValue]
    · rfl
    · simp [tokens_filterValue]
    · rfl

/-- What a row of items outside groups leaves are blanks. -/
theorem rest_sequence_all_isBlank
    (term : (token : Token) → (rest : List Token) → Parsed Token Item rest.length)
    (hasLeft : Bool) (tokens : List Token) :
    (sequence term false hasLeft tokens).rest.all Token.isBlank = true := by
  fun_induction sequence term false hasLeft tokens <;> simp_all [Token.isBlank]

theorem tokensAll_blanks {blanks : List Token} (h : blanks.all Token.isBlank = true) :
    Item.tokensAll (blanks.map fun token => .blank token.text) = blanks := by
  induction blanks with
  | nil => rfl
  | cons token blanks ih =>
    rw [List.all_cons, Bool.and_eq_true] at h
    obtain ⟨hb, hr⟩ := h
    cases token <;> simp_all [Token.isBlank, Item.tokensAll, Item.tokens, Token.text]

/-- A program has the tokens that it was read from. -/
theorem Program.tokens_ofTokens (limit : Nat) (tokens : List Token) :
    (Program.ofTokens limit tokens).tokens = tokens := by
  have blanks := rest_sequence_all_isBlank (term limit) false tokens
  have whole := tokensAll_sequence (tokens_term limit) false false tokens
  simp only [Program.tokens, Program.ofTokens, Item.tokensAll_append]
  rw [tokensAll_blanks blanks, whole]

/-- The items of a parsed query have its tokens. -/
theorem tokensAll_parse (limit : Nat) (source : Text) :
    Item.tokensAll (parse limit source).items = tokenize source :=
  Program.tokens_ofTokens limit (tokenize source)

/-- The tree of a parsed query holds the query. -/
theorem text_tree_parse (limit : Nat) (source : Text) :
    (parse limit source).tree.text = source := by
  rw [Program.tree, Tree.text_node, Item.textAll_treeAll, tokensAll_parse, textAll_tokenize]

end Flashcard.Query
