import Flashcard.Proofs.Query.Lexical
import Flashcard.Query.Item

/-!
# Printing a query

A query as it is meant, without its blanks, and how it is printed: one space
between terms, `OR` between the terms of a chain, `-` in front of a negated term,
parentheses around a group. A text stands in quotes, with a backslash in front of
each quote and backslash, or without them where it is no other token then.

Results:
* `unescape_escape`: an escaped text stands for the text.
* `Row.tokenize_print`: what is printed is cut into the tokens of its items.
-/

namespace Flashcard.Query.Abstract

/-! ## Abstract queries -/

/-- A text that needs no quotes behind the mark of a filter. -/
structure IsBareValue (text : Text) : Prop where
  nonempty : text ≠ []
  letters : text.all isWordChar = true

/-- A text that needs no quotes as a term. -/
structure IsBareText (text : Text) : Prop extends IsBareValue text where
  noMinus : text.head? ≠ some '-'
  noKeyword : text ≠ "OR".toList
  /-- It begins with the mark of no filter, in any case. -/
  noMark : ∀ field : FilterField,
    (text.take field.mark.length).map Char.toLower ≠ field.mark

theorem ofStart?_eq_none_iff (text : Text) : FilterField.ofStart? text = none ↔
    ∀ field : FilterField, (text.take field.mark.length).map Char.toLower ≠ field.mark := by
  have all (field : FilterField) : field ∈ [.tag, .deck, .template] := by cases field <;> decide
  simp only [FilterField.ofStart?, List.find?_eq_none, FilterField.begins, decide_eq_true_eq]
  exact ⟨fun h field => h field (all field), fun h field _ => h field⟩

instance (text : Text) : Decidable (IsBareValue text) :=
  decidable_of_iff (text ≠ [] ∧ text.all isWordChar = true)
    ⟨fun h => ⟨h.1, h.2⟩, fun h => ⟨h.nonempty, h.letters⟩⟩

instance (text : Text) : Decidable (IsBareText text) :=
  decidable_of_iff (IsBareValue text ∧ text.head? ≠ some '-' ∧ text ≠ "OR".toList ∧
      FilterField.ofStart? text = none)
    ⟨fun h => ⟨h.1, h.2.1, h.2.2.1, (ofStart?_eq_none_iff text).1 h.2.2.2⟩,
      fun h => ⟨h.toIsBareValue, h.noMinus, h.noKeyword, (ofStart?_eq_none_iff text).2 h.noMark⟩⟩

/-- A text, and whether it is to stand in quotes. -/
inductive Literal (IsBare : Text → Prop) where
  | bare (text : Text) (ok : IsBare text)
  | quoted (text : Text)

mutual

/-- A term of a query. -/
inductive Term where
  | text (literal : Literal IsBareText)
  | filter (field : FilterField) (literal : Literal IsBareValue)
  | negation (operand : Term)
  | group (row : Row)

/-- Terms joined by `OR`. -/
inductive Chain where
  | last (term : Term)
  | link (term : Term) (rest : Chain)

/-- Chains side by side. -/
inductive Row where
  | last (chain : Chain)
  | next (chain : Chain) (rest : Row)

end

/-- A whole query: a row, or nothing at all. -/
abbrev Search := Option Row

/-! ## Printing -/

/-- A text with a backslash in front of each quote and backslash. -/
def escape (text : Text) : Text :=
  text.flatMap fun c => if c = '"' ∨ c = '\\' then ['\\', c] else [c]

/-- The literal as it is written. -/
def Literal.print {IsBare : Text → Prop} : Literal IsBare → Text
  | bare text _ => text
  | quoted text => '"' :: (escape text ++ ['"'])

mutual

/-- The term as it is written. -/
def Term.print : Term → Text
  | .text literal => literal.print
  | .filter field literal => field.mark ++ literal.print
  | .negation operand => '-' :: operand.print
  | .group row => '(' :: (row.print ++ [')'])

/-- The chain as it is written. -/
def Chain.print : Chain → Text
  | .last term => term.print
  | .link term rest => term.print ++ " OR ".toList ++ rest.print

/-- The row as it is written. -/
def Row.print : Row → Text
  | .last chain => chain.print
  | .next chain rest => chain.print ++ " ".toList ++ rest.print

end

/-- The query as it is written. -/
def Search.print (query : Search) : Text := query.elim [] Row.print

/-! ## Items of a query -/

/-- What a literal is read as. -/
def Literal.value {IsBare : Text → Prop} : Literal IsBare → Value
  | bare text _ => .word text
  | quoted text => .quoted (if text = [] then none else some (escape text)) true

/-- The blank that separates what is printed. -/
def space : Item := .blank [' ']

mutual

/-- What a term is read as. -/
def Term.item : Term → Item
  | .text literal => .plain literal.value
  | .filter field literal => .filter field field.mark (some literal.value)
  | .negation operand => .negation operand.item
  | .group row => .group row.items true

/-- What a chain is read as. -/
def Chain.items : Chain → List Item
  | .last term => [term.item]
  | .link term rest => term.item :: space :: .disjunction :: space :: rest.items

/-- What a row is read as. -/
def Row.items : Row → List Item
  | .last chain => chain.items
  | .next chain rest => chain.items ++ space :: rest.items

end

/-- What a query is read as. -/
def Search.items (query : Search) : List Item := query.elim [] Row.items

/-! ## Texts in quotes -/

@[simp] theorem escape_nil : escape [] = [] := rfl

theorem escape_cons (c : Char) (text : Text) :
    escape (c :: text) = (if c = '"' ∨ c = '\\' then ['\\', c] else [c]) ++ escape text := rfl

/-- An escaped text stands for the text. -/
theorem unescape_escape (text : Text) : Value.unescape (escape text) = text := by
  induction text with
  | nil => rfl
  | cons c text ih =>
    rw [escape_cons]
    split
    · rename_i special
      rcases special with rfl | rfl <;> exact congrArg (_ :: ·) ih
    · rename_i plain
      rw [not_or] at plain
      rw [List.singleton_append, Value.unescape, ih]
      · rintro _ rfl
        exact absurd rfl plain.2
      · rintro _ rfl
        exact absurd rfl plain.2

theorem body_escape (text : Text) : Lexical.Body (escape text) := by
  induction text with
  | nil => exact .nil
  | cons c text ih =>
    rw [escape_cons]
    split
    · rename_i special
      exact .escape (by rcases special with rfl | rfl <;> decide) ih
    · rename_i plain
      rw [not_or] at plain
      exact .plain plain.1 plain.2 ih

theorem escape_ne_nil {text : Text} (h : text ≠ []) : escape text ≠ [] := by
  intro empty
  rw [← unescape_escape text, empty] at h
  exact h rfl

/-! ## Cutting what is printed -/

/-- No word goes on in the text. -/
def EndsWord (text : Text) : Prop := ∀ c ∈ text.head?, isWordChar c = false

/-- The text begins with something that is no blank. -/
def Unblank (text : Text) : Prop := ∃ c ∈ text.head?, Unicode.isBlank c = false

theorem Unblank.append {text : Text} (h : Unblank text) (rest : Text) : Unblank (text ++ rest) := by
  obtain ⟨c, head, unblank⟩ := h
  exact ⟨c, by rw [List.head?_append, show text.head? = some c from head]; rfl, unblank⟩

theorem tokenize_space {rest : Text} (h : Unblank rest) :
    tokenize (' ' :: rest) = .blank [' '] :: tokenize rest := by
  obtain ⟨c, head, unblank⟩ := h
  obtain ⟨tail, rfl⟩ : ∃ tail, rest = c :: tail := List.head?_eq_some_iff.1 head
  rw [tokenize, if_pos (by decide)]
  · rw [List.takeWhile_cons_of_neg (by rw [unblank]; exact Bool.false_ne_true),
      List.dropWhile_cons_of_neg (by rw [unblank]; exact Bool.false_ne_true)]
  all_goals decide

theorem tokenize_word {c : Char} {text rest : Text} (hc : isWordChar c = true) (minus : c ≠ '-')
    (letters : text.all isWordChar = true) (h : EndsWord rest) :
    tokenize (c :: (text ++ rest)) = wordTokens (c :: text) ++ tokenize rest := by
  obtain ⟨blank, opening, closing, quote⟩ := Lexical.ne_of_isWordChar hc
  have letters := List.all_eq_true.1 letters
  have ends : rest.takeWhile isWordChar = [] ∧ rest.dropWhile isWordChar = rest := by
    cases rest with
    | nil => exact ⟨rfl, rfl⟩
    | cons d rest =>
      have := h d rfl
      exact ⟨List.takeWhile_cons_of_neg (by rw [this]; exact Bool.false_ne_true),
        List.dropWhile_cons_of_neg (by rw [this]; exact Bool.false_ne_true)⟩
  rw [tokenize, if_neg (by rw [blank]; exact Bool.false_ne_true),
    List.takeWhile_append_of_pos letters, List.dropWhile_append_of_pos letters, ends.1, ends.2,
    List.append_nil]
  all_goals assumption

theorem tokenize_quoted (text rest : Text) :
    tokenize ('"' :: (escape text ++ '"' :: rest)) =
      (Literal.quoted text : Literal IsBareText).value.tokens ++ tokenize rest := by
  rw [tokenize, (body_escape text).read_append, StringBody.read]
  by_cases empty : text = []
  · subst empty
    rfl
  · simp [StringBody.tokens, StringBody.extend, Literal.value, Value.tokens, empty,
      escape_ne_nil empty]

/-- The literals of both sorts are cut alike when they stand in quotes. -/
theorem print_quoted_append {IsBare : Text → Prop} (text rest : Text) :
    (Literal.quoted text : Literal IsBare).print ++ rest = '"' :: (escape text ++ '"' :: rest) := by
  rw [Literal.print, List.cons_append, List.append_assoc, List.singleton_append]

theorem wordTokens_bare {text : Text} (h : IsBareText text) : wordTokens text = [.word text] := by
  rw [wordTokens, if_neg (show text ≠ ['O', 'R'] from h.noKeyword),
    (ofStart?_eq_none_iff text).2 h.noMark]

/-- The mark of a filter is cut off what follows it. -/
theorem wordTokens_mark (field : FilterField) (value : Text) :
    wordTokens (field.mark ++ value) =
      .mark field field.mark :: if value = [] then [] else [.word value] := by
  cases field <;> rfl

theorem mark_eq_cons (field : FilterField) : ∃ c tail, field.mark = c :: tail ∧
    isWordChar c = true ∧ c ≠ '-' ∧ tail.all isWordChar = true := by
  cases field <;> exact ⟨_, _, rfl, by decide, by decide, by decide⟩

theorem tokenize_mark (field : FilterField) {value rest : Text}
    (letters : value.all isWordChar = true) (h : EndsWord rest) :
    tokenize (field.mark ++ value ++ rest) =
      .mark field field.mark :: ((if value = [] then [] else [.word value]) ++ tokenize rest) := by
  rw [← List.cons_append, ← wordTokens_mark]
  obtain ⟨c, tail, mark, hc, minus, tailLetters⟩ := mark_eq_cons field
  rw [mark, List.cons_append, List.cons_append]
  refine tokenize_word hc minus ?_ h
  rw [List.all_append, tailLetters, letters]
  rfl

theorem tokenize_or {rest : Text} (h : Unblank rest) :
    tokenize (" OR ".toList ++ rest) =
      .blank [' '] :: .orKeyword :: .blank [' '] :: tokenize rest := by
  show tokenize (' ' :: ('O' :: (['R'] ++ ' ' :: rest))) = _
  have ends : EndsWord (' ' :: rest) := by
    rintro c ⟨⟩
    decide
  rw [tokenize_space ⟨'O', rfl, by decide⟩, tokenize_word (by decide) (by decide) (by decide) ends,
    tokenize_space h]
  rfl

/-! ## What is printed begins with no blank -/

theorem unblank_of_isWordChar {text : Text} (nonempty : text ≠ [])
    (letters : text.all isWordChar = true) : Unblank text := by
  cases text with
  | nil => exact absurd rfl nonempty
  | cons c text =>
    rw [List.all_cons, Bool.and_eq_true] at letters
    exact ⟨c, rfl, (Lexical.ne_of_isWordChar letters.1).1⟩

theorem Term.unblank_print (term : Term) : Unblank term.print := by
  cases term with
  | text literal =>
    cases literal with
    | bare text ok => exact unblank_of_isWordChar ok.nonempty ok.letters
    | quoted text => exact ⟨'"', rfl, by decide⟩
  | filter field literal =>
    obtain ⟨c, tail, mark, hc, -⟩ := mark_eq_cons field
    exact ⟨c, by rw [Term.print, mark]; rfl, (Lexical.ne_of_isWordChar hc).1⟩
  | negation operand => exact ⟨'-', rfl, by decide⟩
  | group row => exact ⟨'(', rfl, by decide⟩

theorem Chain.unblank_print (chain : Chain) : Unblank chain.print := by
  cases chain with
  | last term => exact term.unblank_print
  | link term rest => exact (term.unblank_print.append _).append _

theorem Row.unblank_print (row : Row) : Unblank row.print := by
  cases row with
  | last chain => exact chain.unblank_print
  | next chain rest => exact (chain.unblank_print.append _).append _

/-! ## What is printed is cut into its tokens -/

/-- A term that is a text is cut into the tokens of its value. -/
theorem tokenize_text (literal : Literal IsBareText) {rest : Text} (h : EndsWord rest) :
    tokenize (literal.print ++ rest) = literal.value.tokens ++ tokenize rest := by
  cases literal with
  | bare text ok =>
    obtain ⟨c, tail, rfl⟩ := List.exists_cons_of_ne_nil ok.nonempty
    have letters := ok.letters
    rw [List.all_cons, Bool.and_eq_true] at letters
    have minus : c ≠ '-' := fun h => ok.noMinus (congrArg some h)
    rw [Literal.print, List.cons_append, tokenize_word letters.1 minus letters.2 h,
      wordTokens_bare ok]
    rfl
  | quoted text => rw [print_quoted_append, tokenize_quoted]

/-- A filter is cut into its mark and the tokens of its value. -/
theorem tokenize_filter (field : FilterField) (literal : Literal IsBareValue) {rest : Text}
    (h : EndsWord rest) :
    tokenize (field.mark ++ literal.print ++ rest) =
      .mark field field.mark :: (literal.value.tokens ++ tokenize rest) := by
  cases literal with
  | bare text ok =>
    rw [Literal.print, tokenize_mark field ok.letters h, if_neg ok.nonempty]
    rfl
  | quoted text =>
    have ends : EndsWord ('"' :: (escape text ++ '"' :: rest)) := by
      rintro c ⟨⟩
      decide
    have mark : tokenize (field.mark ++ [] ++ _) = _ := tokenize_mark field rfl ends
    rw [List.append_nil] at mark
    rw [List.append_assoc, print_quoted_append, mark, tokenize_quoted]
    rfl

mutual

/-- What a term is printed as is cut into the tokens of its item. -/
theorem Term.tokenize_print : (term : Term) → ∀ {rest : Text}, EndsWord rest →
    tokenize (term.print ++ rest) = term.item.tokens ++ tokenize rest
  | .text literal, _, h => tokenize_text literal h
  | .filter field literal, _, h => tokenize_filter field literal h
  | .negation operand, rest, h => by
    rw [Term.print, List.cons_append, tokenize, operand.tokenize_print h]
    rfl
  | .group row, rest, h => by
    have close : EndsWord (')' :: rest) := by
      rintro c ⟨⟩
      decide
    rw [Term.print, List.cons_append, List.append_assoc, List.singleton_append, tokenize,
      row.tokenize_print close, tokenize, Term.item, Item.tokens, if_pos rfl, List.cons_append,
      List.append_assoc, List.singleton_append]

/-- What a chain is printed as is cut into the tokens of its items. -/
theorem Chain.tokenize_print : (chain : Chain) → ∀ {rest : Text}, EndsWord rest →
    tokenize (chain.print ++ rest) = Item.tokensAll chain.items ++ tokenize rest
  | .last term, rest, h => by
    rw [Chain.print, term.tokenize_print h, Chain.items, Item.tokensAll, Item.tokensAll,
      List.append_nil]
  | .link term others, rest, h => by
    have space (rest : Text) : EndsWord (" OR ".toList ++ rest) := by
      rintro c ⟨⟩
      decide
    rw [Chain.print, List.append_assoc, List.append_assoc, term.tokenize_print (space _),
      tokenize_or (others.unblank_print.append _), others.tokenize_print h, Chain.items,
      Item.tokensAll, List.append_assoc]
    rfl

/-- What a row is printed as is cut into the tokens of its items. -/
theorem Row.tokenize_print : (row : Row) → ∀ {rest : Text}, EndsWord rest →
    tokenize (row.print ++ rest) = Item.tokensAll row.items ++ tokenize rest
  | .last chain, _, h => chain.tokenize_print h
  | .next chain others, rest, h => by
    have blank (rest : Text) : EndsWord (" ".toList ++ rest) := by
      rintro c ⟨⟩
      decide
    rw [Row.print, List.append_assoc, List.append_assoc, chain.tokenize_print (blank _),
      show " ".toList ++ (others.print ++ rest) = ' ' :: (others.print ++ rest) from rfl,
      tokenize_space (others.unblank_print.append _), others.tokenize_print h, Row.items,
      Item.tokensAll_append, List.append_assoc]
    rfl

end

/-- What a query is printed as is cut into the tokens of its items. -/
theorem Search.tokenize_print (query : Search) :
    tokenize query.print = Item.tokensAll query.items := by
  cases query with
  | none => rw [Search.print, Option.elim_none, tokenize]; rfl
  | some row =>
    have nothing : EndsWord [] := nofun
    have tokens := row.tokenize_print nothing
    rwa [List.append_nil, tokenize, List.append_nil] at tokens

end Flashcard.Query.Abstract
