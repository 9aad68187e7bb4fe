import Flashcard.Proofs.Query.Lexical
import Flashcard.Proofs.Query.Recovery

/-!
# Where one query follows another

Behind a space a query is cut as if it began there, provided that the query in front of
the space leaves no string open. Only the blanks at the end of the one, the space and the
blanks at the beginning of the other become a single token.

Results:
* `closedStrings_item`, `closedStrings_row`: where nothing is malformed, strings are
  closed.
* `tokenize_append_space`: how a query is cut in front of a space.
* `tokenize_border`: the tokens of both, with one run of blanks between them.
-/

namespace Flashcard.Query

/-! ## Closed strings -/

/-- All strings have their closing quotes. -/
abbrev ClosedStrings : List Token → Prop := HasStrings fun value => value.isError = false

theorem closedStrings_value {value : Value} (ok : value.isError = false) {rest : List Token}
    (h : ClosedStrings rest) : ClosedStrings (value.tokens ++ rest) := by
  cases value with
  | word text => exact .other rfl h
  | quoted content closed =>
    obtain rfl : closed = true := by simpa [Value.isError] using ok
    obtain ⟨value, left⟩ := quotedValue_tokens content rest
    rw [Value.tokens, if_pos rfl, List.cons_append, List.append_assoc, List.singleton_append]
    exact .string (by rw [value]; rfl) (by rw [left]; exact h)

mutual

/-- The strings of an item that fits are closed. -/
theorem closedStrings_item : (depth : Nat) → (item : Item) → item.fits depth = true →
    ∀ {rest : List Token}, ClosedStrings rest → ClosedStrings (item.tokens ++ rest)
  | 0, _, h, _, _ => by simp [Item.fits] at h
  | _ + 1, .plain value, h, _, left =>
    closedStrings_value (by simpa [Item.fits] using h) left
  | _ + 1, .filter _ _ (some value), h, _, left =>
    .other rfl (closedStrings_value (by simpa [Item.fits] using h) left)
  | depth + 1, .negation operand, h, _, left => .other rfl (closedStrings_item depth operand h left)
  | depth + 1, .group items closed, h, rest, left => by
    simp only [Item.fits, Bool.and_eq_true] at h
    obtain ⟨⟨rfl, -⟩, inner⟩ := h
    rw [Item.tokens, if_pos rfl, List.cons_append, List.append_assoc]
    exact .other rfl (closedStrings_row depth false items inner (.other rfl left))

/-- The strings of a row that fits are closed. -/
theorem closedStrings_row : (depth : Nat) → (hasLeft : Bool) → (items : List Item) →
    Item.allFit depth hasLeft items = true → ∀ {rest : List Token}, ClosedStrings rest →
    ClosedStrings (Item.tokensAll items ++ rest)
  | _, _, [], _, _, left => left
  | depth, hasLeft, item :: items, h, rest, left => by
    rw [Item.tokensAll, List.append_assoc]
    by_cases ht : item.isTerm = true
    · rw [Item.allFit_cons ht, Bool.and_eq_true] at h
      exact closedStrings_item depth item h.1 (closedStrings_row depth true items h.2 left)
    · cases item with
      | blank text => exact .other rfl (closedStrings_row depth hasLeft items h left)
      | disjunction =>
        rw [Item.allFit, Bool.and_eq_true] at h
        exact .other rfl (closedStrings_row depth false items h.2 left)
      | _ => exact absurd rfl ht

end

/-! ## Blanks between tokens -/

/-- Tokens that are no blanks stand in front of those behind which only blanks follow. -/
theorem exists_behind {first later front blanks : List Token}
    (unblank : ∀ token ∈ first, token.isBlank = false) (blank : blanks.all Token.isBlank = true)
    (same : first ++ later = front ++ blanks) :
    ∃ behind, front = first ++ behind ∧ later = behind ++ blanks := by
  induction first generalizing front with
  | nil => exact ⟨front, rfl, same⟩
  | cons token first ih =>
    rw [List.forall_mem_cons] at unblank
    cases front with
    | nil =>
      rw [List.nil_append] at same
      rw [← same, List.cons_append, List.all_cons, unblank.1] at blank
      cases blank
    | cons other front =>
      obtain ⟨rfl, others⟩ := List.cons.inj same
      obtain ⟨behind, rfl, later⟩ := ih unblank.2 others
      exact ⟨behind, rfl, later⟩

/-- The last token, if there is one, is no blank. -/
def EndsUnblank (tokens : List Token) : Prop := ∀ token ∈ tokens.getLast?, token.isBlank = false

theorem EndsUnblank.of_append (first : List Token) {behind : List Token}
    (h : EndsUnblank (first ++ behind)) : EndsUnblank behind := by
  intro token last
  refine h token ?_
  rw [List.getLast?_append, last]
  rfl

/-! ## Cutting in front of a space -/

/-- A string that is closed stays as it is when more follows. -/
theorem StringBody.read_append (text : Text) (h : (read text).closed = true) (more : Text) :
    read (text ++ more) = ⟨(read text).content, true, (read text).rest ++ more⟩ := by
  fun_induction read text with
  | case1 => cases h
  | case2 rest => rfl
  | case3 => cases h
  | case4 rest => cases h
  | case5 c rest line ih =>
    rw [List.cons_append, List.cons_append, read]
    · rw [ih h]
      rfl
    · exact line
  | case6 c rest quote alone line escape ih =>
    have plain : c ≠ '\\' := by
      rintro rfl
      cases rest with
      | nil => exact alone rfl rfl
      | cons d rest => exact escape d rest rfl rfl
    rw [List.cons_append, read]
    · rw [ih h]
      rfl
    · exact quote
    · exact fun same _ => plain same
    · exact fun _ same _ => plain same
    · exact fun _ _ same _ => plain same

/-- In front of a space the source is cut into these tokens and then into what blanks and the
    space make up with what follows. -/
def CutsAs (source : Text) (front : List Token) : Prop :=
  ∃ gap : Text, gap.all Unicode.isBlank = true ∧
    ∀ more, tokenize (source ++ ' ' :: more) = front ++ tokenize (gap ++ ' ' :: more)

theorem CutsAs.append {source rest : Text} {behind : List Token} (h : CutsAs rest behind)
    (first : List Token)
    (cut : ∀ more, tokenize (source ++ ' ' :: more) = first ++ tokenize (rest ++ ' ' :: more)) :
    CutsAs source (first ++ behind) := by
  obtain ⟨gap, blank, tokens⟩ := h
  exact ⟨gap, blank, fun more => by rw [cut, tokens, List.append_assoc]⟩

theorem CutsAs.of_blank {source : Text} (blank : (tokenize source).all Token.isBlank = true) :
    CutsAs source [] :=
  ⟨source, all_isBlank_tokenize source ▸ blank, fun _ => rfl⟩

/-- A source is cut as the rest of it, behind first tokens that are no blanks. -/
theorem CutsAs.step {source rest : Text} {front blanks : List Token} (first : List Token)
    (unblank : ∀ token ∈ first, token.isBlank = false) (blank : blanks.all Token.isBlank = true)
    (tokens : first ++ tokenize rest = front ++ blanks) (ends : EndsUnblank front)
    (h : ∀ {front : List Token}, tokenize rest = front ++ blanks → EndsUnblank front →
      CutsAs rest front)
    (cut : ∀ more, tokenize (source ++ ' ' :: more) = first ++ tokenize (rest ++ ' ' :: more)) :
    CutsAs source front := by
  obtain ⟨behind, rfl, later⟩ := exists_behind unblank blank tokens
  exact (h later (ends.of_append first)).append first cut

theorem tokenize_blank {c : Char} (blank : Unicode.isBlank c = true) (rest : Text) :
    tokenize (c :: rest) = .blank (c :: rest.takeWhile Unicode.isBlank) ::
      tokenize (rest.dropWhile Unicode.isBlank) := by
  obtain ⟨opening, closing, minus, quote⟩ := Lexical.ne_of_isBlank blank
  rw [tokenize, if_pos blank] <;> assumption

/-- A query without open strings is cut in front of a space as it is cut alone, up to the
    blanks at its end. -/
theorem tokenize_append_space {source : Text} (closed : ClosedStrings (tokenize source))
    {front blanks : List Token} (tokens : tokenize source = front ++ blanks)
    (blank : blanks.all Token.isBlank = true) (ends : EndsUnblank front) :
    CutsAs source front := by
  fun_induction tokenize source generalizing front with
  | case1 =>
    obtain ⟨rfl, -⟩ := List.append_eq_nil_iff.1 tokens.symm
    exact .of_blank (by rw [tokenize]; rfl)
  | case2 rest ih =>
    refine .step [.parenOpen] (by decide) blank tokens ends (ih (closed.tail rfl)) fun more => ?_
    rw [List.cons_append, tokenize]
    rfl
  | case3 rest ih =>
    refine .step [.parenClose] (by decide) blank tokens ends (ih (closed.tail rfl)) fun more => ?_
    rw [List.cons_append, tokenize]
    rfl
  | case4 rest ih =>
    refine .step [.minus] (by decide) blank tokens ends (ih (closed.tail rfl)) fun more => ?_
    rw [List.cons_append, tokenize]
    rfl
  | case5 rest ih =>
    obtain ⟨value, left⟩ := closed.behindQuote
    obtain ⟨error, behind⟩ :=
      (StringBody.read rest).quotedValue_tokens (tokenize_behind_unclosed rest)
    rw [error, Bool.not_eq_false'] at value
    rw [behind] at left
    refine .step (.quote :: (StringBody.read rest).tokens) ?_ blank tokens ends (ih left)
      fun more => ?_
    · exact List.forall_mem_cons.2 ⟨rfl, (StringBody.read rest).isBlank_tokens⟩
    · rw [List.cons_append, tokenize, StringBody.read_append rest value, StringBody.tokens,
        StringBody.tokens, value]
      rfl
  | case6 c rest opening closing minus quote blankHead ih =>
    cases front with
    | nil =>
      rw [List.nil_append] at tokens
      exact .of_blank (by rw [tokenize_blank blankHead, tokens]; exact blank)
    | cons token behind =>
      obtain ⟨rfl, later⟩ := List.cons.inj tokens
      have goesOn : rest.dropWhile Unicode.isBlank ≠ [] := by
        intro none
        rw [none, tokenize] at later
        obtain ⟨rfl, -⟩ := List.append_eq_nil_iff.1 later.symm
        exact absurd (ends _ rfl) (Bool.false_ne_true ∘ Eq.symm)
      refine (ih (closed.tail rfl) later (EndsUnblank.of_append [_] ends)).append [_] fun more => ?_
      obtain ⟨taken, dropped⟩ := Text.run_append rest (' ' :: more) (.inl goesOn)
      rw [List.cons_append, tokenize_blank blankHead, taken, dropped]
      rfl
  | case7 c rest opening closing minus quote word ih =>
    refine .step (wordTokens _) (fun token mem => (class_wordTokens _ token mem).2) blank tokens
      ends (ih (closed.drop fun token mem => (class_wordTokens _ token mem).1)) fun more => ?_
    have stop : ∀ c ∈ (' ' :: more).head?, isWordChar c = false := by
      rintro c ⟨⟩
      decide
    obtain ⟨taken, dropped⟩ := Text.run_append rest (' ' :: more) (.inr stop)
    rw [List.cons_append, tokenize, if_neg word, taken, dropped] <;> assumption

/-! ## Behind a space -/

theorem exists_lead (source : Text) : ∃ lead : List Token, lead.all Token.isBlank = true ∧
    tokenize source = lead ++ tokenize (source.dropWhile Unicode.isBlank) := by
  cases source with
  | nil => exact ⟨[], rfl, rfl⟩
  | cons c rest =>
    by_cases blank : Unicode.isBlank c = true
    · refine ⟨[.blank (c :: rest.takeWhile Unicode.isBlank)], rfl, ?_⟩
      rw [tokenize_blank blank, List.dropWhile_cons_of_pos blank]
      rfl
    · exact ⟨[], rfl, by rw [List.dropWhile_cons_of_neg blank]; rfl⟩

/-- Blanks and a space make up a single token with the blanks behind them. -/
theorem exists_gap {gap : Text} (blank : gap.all Unicode.isBlank = true) (more : Text) :
    ∃ text, tokenize (gap ++ ' ' :: more) =
      .blank text :: tokenize (more.dropWhile Unicode.isBlank) := by
  have space : Unicode.isBlank ' ' = true := by decide
  cases gap with
  | nil => exact ⟨_, tokenize_blank space more⟩
  | cons c gap =>
    rw [List.all_cons, Bool.and_eq_true] at blank
    have run := tokenize_blank blank.1 (gap ++ ' ' :: more)
    rw [List.dropWhile_append_of_pos (List.all_eq_true.1 blank.2),
      List.dropWhile_cons_of_pos space] at run
    exact ⟨_, run⟩

/-- Behind a space a query is cut as if it began there, but for the blanks at its
    beginning. -/
theorem tokenize_border {a : Text} {front : List Token} (cut : CutsAs a front) (b : Text) :
    ∃ (text : Text) (lead tokens : List Token), lead.all Token.isBlank = true ∧
      tokenize b = lead ++ tokens ∧ tokenize (a ++ ' ' :: b) = front ++ .blank text :: tokens := by
  obtain ⟨gap, blank, tokens⟩ := cut
  obtain ⟨text, run⟩ := exists_gap blank b
  obtain ⟨lead, blanks, behind⟩ := exists_lead b
  exact ⟨text, lead, _, blanks, behind, by rw [tokens, run]⟩

end Flashcard.Query
