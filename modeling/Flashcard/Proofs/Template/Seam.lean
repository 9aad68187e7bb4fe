import Flashcard.Proofs.Template.Lossless

/-!
# Templates put together

Where a template ends outside tags and not in an opening brace, its tokens stay as
they are when more follows, except that a text at its end goes on. What follows and
begins with a brace is cut by itself, even if the template ends inside a tag.

Results:
* `tokenize_run`: a text is cut up to the next opening brace.
* `FirstToken`: what is cut off first, and when more that follows does not matter for it.
* `exists_seam`: the tokens of two templates that are put together.
* `tokenizeFrom_append_brace`: in front of a brace, nothing changes at all.
-/

namespace Flashcard.Template

/-! ## Texts at the end -/

/-- A text as tokens, if it is not empty. -/
def plainRun (text : Text) : List Token := if text = [] then [] else [.plain text]

theorem tokenize_nil : tokenize [] = [] := by
  rw [tokenize, tokenizeFrom]

theorem tokenizeFrom_text {c : Char} (brace : c ≠ '{') (rest : Text) :
    tokenizeFrom false (c :: rest) =
      .plain (c :: rest.takeWhile (· ≠ '{')) :: tokenizeFrom false (rest.dropWhile (· ≠ '{')) := by
  rw [tokenizeFrom]
  · rintro later rfl
    exact absurd rfl brace
  · rintro later rfl
    exact absurd rfl brace
  · exact brace

theorem tokenizeFrom_name {c : Char} (named : isNameChar c = true) (rest : Text) :
    tokenizeFrom true (c :: rest) =
      .name (c :: rest.takeWhile isNameChar) :: tokenizeFrom true (rest.dropWhile isNameChar) := by
  obtain ⟨colon, -, brace, hash, caret, -⟩ := Lexical.ne_of_isNameChar named
  rw [tokenizeFrom, if_pos named]
  · rintro later rfl
    exact absurd rfl brace
  · exact brace
  · exact colon
  · exact hash
  · exact caret

theorem tokenizeFrom_break {c : Char} (unnamed : ¬isNameChar c = true) {rest : Text}
    (brace : c = '}' → False) (colon : c = ':' → False) (hash : c = '#' → False)
    (caret : c = '^' → False) :
    tokenizeFrom true (c :: rest) = tokenizeFrom false (c :: rest) := by
  generalize outside : tokenizeFrom false (c :: rest) = tokens
  rw [tokenizeFrom, if_neg unnamed, outside]
  · rintro later rfl
    exact (brace rfl).elim
  · exact brace
  · exact colon
  · exact hash
  · exact caret

/-- A text without opening braces goes on up to the next one. -/
theorem tokenize_run {text : Text} (noBrace : '{' ∉ text) (more : Text) :
    tokenize (text ++ more) =
      plainRun (text ++ more.takeWhile (· ≠ '{')) ++ tokenize (more.dropWhile (· ≠ '{')) := by
  have inside : ∀ c ∈ text, decide (c ≠ '{') = true := by
    intro c mem
    exact decide_eq_true fun brace => noBrace (brace ▸ mem)
  cases text with
  | nil =>
    cases more with
    | nil => rfl
    | cons c more =>
      by_cases brace : c = '{'
      · rw [brace]
        rfl
      · rw [List.nil_append, List.nil_append,
          List.takeWhile_cons_of_pos (p := (· ≠ '{')) (decide_eq_true brace),
          List.dropWhile_cons_of_pos (p := (· ≠ '{')) (decide_eq_true brace)]
        exact tokenizeFrom_text brace more
  | cons c text =>
    rw [List.forall_mem_cons] at inside
    rw [List.cons_append, tokenize, tokenizeFrom_text (of_decide_eq_true inside.1),
      List.takeWhile_append_of_pos inside.2, List.dropWhile_append_of_pos inside.2]
    rfl

/-! ## The first token -/

variable {inTag next : Bool} {source rest text more : Text} {token : Token}

/-- The source is cut into a token and what `rest` is cut into. What follows the source changes
    nothing about the token, unless nothing is left of the source and the token goes on there; only
    the end of a tag never does, and no token goes on with an opening brace. -/
structure FirstToken (inTag : Bool) (source : Text) (token : Token) (next : Bool) (rest : Text) :
    Prop where
  suffix : rest <:+ source
  behind : ∀ more : Text, (rest ≠ [] ∨ token = .tagEnd ∨ ∀ c ∈ more.head?, c = '{') →
    tokenizeFrom inTag (source ++ more) = token :: tokenizeFrom next (rest ++ more)

theorem FirstToken.alone (h : FirstToken inTag source token next rest) :
    tokenizeFrom inTag source = token :: tokenizeFrom next rest := by
  have behind := h.behind [] (.inr (.inr fun _ mem => nomatch mem))
  rwa [List.append_nil, List.append_nil] at behind

theorem FirstToken.getLast?_ne (h : FirstToken inTag source token next rest)
    (noBrace : source.getLast? ≠ some '{') : rest.getLast? ≠ some '{' := by
  obtain ⟨front, rfl⟩ := h.suffix
  intro last
  rw [List.getLast?_append, last] at noBrace
  exact noBrace rfl

/-- What follows a token does not go on with it, if that is not so for an opening brace. -/
theorem stops_of_brace {p : Char → Prop}
    (h : rest ≠ [] ∨ token = .tagEnd ∨ ∀ c ∈ more.head?, c = '{') (goesOn : token ≠ .tagEnd)
    (brace : p '{') : rest ≠ [] ∨ ∀ c ∈ more.head?, p c := by
  obtain some | ended | first := h
  · exact .inl some
  · exact absurd ended goesOn
  · exact .inr fun c mem => first c mem ▸ brace

/-- A source that does not begin with a character does not when more follows. -/
theorem append_ne_cons {c : Char} (h : rest ≠ [] ∨ ∀ d ∈ more.head?, d ≠ c)
    (other : ∀ later, rest = c :: later → False) (later : Text) :
    rest ++ more = c :: later → False := by
  intro same
  cases rest with
  | nil =>
    have differs := h.resolve_left (absurd rfl)
    rw [show more = c :: later from same] at differs
    exact differs c rfl rfl
  | cons d rest =>
    obtain ⟨rfl, -⟩ := List.cons.inj same
    exact other rest rfl

theorem first_closeTagStart (rest : Text) :
    FirstToken false ('{' :: '{' :: '/' :: rest) .closeTagStart true rest where
  suffix := ⟨['{', '{', '/'], rfl⟩
  behind more _ := by
    rw [List.cons_append, List.cons_append, List.cons_append, tokenizeFrom]

theorem first_tagStart (slash : ∀ later, rest = '/' :: later → False) :
    FirstToken false ('{' :: '{' :: rest) .tagStart true rest where
  suffix := ⟨['{', '{'], rfl⟩
  behind more stops := by
    rw [List.cons_append, List.cons_append, tokenizeFrom]
    exact append_ne_cons (stops_of_brace stops (by decide) (by decide)) slash

theorem first_openingBrace (some : rest ≠ []) (brace : ∀ later, rest = '{' :: later → False) :
    FirstToken false ('{' :: rest) (.plain ['{']) false rest where
  suffix := List.suffix_cons _ _
  behind more _ := by
    rw [List.cons_append, tokenizeFrom]
    · intro later same
      exact append_ne_cons (.inl some) brace _ same
    · exact append_ne_cons (.inl some) brace

theorem first_text {c : Char} (brace : c ≠ '{') (rest : Text) :
    FirstToken false (c :: rest) (.plain (c :: rest.takeWhile (· ≠ '{'))) false
      (rest.dropWhile (· ≠ '{')) where
  suffix := (List.dropWhile_suffix _).trans (List.suffix_cons c rest)
  behind more stops := by
    obtain ⟨taken, dropped⟩ := Text.run_append rest more (stops_of_brace stops nofun (by decide))
    rw [List.cons_append, tokenizeFrom_text brace, taken, dropped]

theorem first_tagEnd (rest : Text) : FirstToken true ('}' :: '}' :: rest) .tagEnd false rest where
  suffix := ⟨['}', '}'], rfl⟩
  behind more _ := by rw [List.cons_append, List.cons_append, tokenizeFrom]

theorem first_closingBrace (brace : ∀ later, rest = '}' :: later → False) :
    FirstToken true ('}' :: rest) .brace true rest where
  suffix := List.suffix_cons _ _
  behind more stops := by
    rw [List.cons_append, tokenizeFrom]
    exact append_ne_cons (stops_of_brace stops (by decide) (by decide)) brace

theorem first_colon (rest : Text) : FirstToken true (':' :: rest) .colon true rest where
  suffix := List.suffix_cons _ _
  behind more _ := by rw [List.cons_append, tokenizeFrom]

theorem first_mark (condition : Condition) (rest : Text) :
    FirstToken true (condition.token.text ++ rest) condition.token true rest where
  suffix := List.suffix_append _ _
  behind more _ := by
    cases condition with
    | ifFilled =>
      show tokenizeFrom true ('#' :: (rest ++ more)) = _
      rw [tokenizeFrom]
      rfl
    | unlessFilled =>
      show tokenizeFrom true ('^' :: (rest ++ more)) = _
      rw [tokenizeFrom]
      rfl

theorem first_name {c : Char} (named : isNameChar c = true) (rest : Text) :
    FirstToken true (c :: rest) (.name (c :: rest.takeWhile isNameChar)) true
      (rest.dropWhile isNameChar) where
  suffix := (List.dropWhile_suffix _).trans (List.suffix_cons c rest)
  behind more stops := by
    obtain ⟨taken, dropped⟩ := Text.run_append rest more (stops_of_brace stops nofun (by decide))
    rw [List.cons_append, tokenizeFrom_name named, taken, dropped]

/-! ## Where a template ends -/

/-- What follows the token stands inside a tag, unless the tag breaks off there. -/
def Token.leadsInside : Token → Bool
  | .tagEnd | .plain _ => false
  | _ => true

/-- What follows the tokens stands inside a tag; `inTag` tells so for the first one. -/
def insideBehind (inTag : Bool) : List Token → Bool
  | [] => inTag
  | token :: rest => insideBehind token.leadsInside rest

theorem insideBehind_append (inTag : Bool) (a b : List Token) :
    insideBehind inTag (a ++ b) = insideBehind (insideBehind inTag a) b := by
  induction a generalizing inTag with
  | nil => rfl
  | cons token a ih => exact ih token.leadsInside

theorem insideBehind_of_ne_nil {tokens : List Token} (h : tokens ≠ []) (inTag next : Bool) :
    insideBehind inTag tokens = insideBehind next tokens := by
  cases tokens with
  | nil => exact absurd rfl h
  | cons => rfl

theorem ne_nil_of_outside (h : insideBehind true (tokenizeFrom true source) = false) :
    source ≠ [] := by
  rintro rfl
  simp [tokenizeFrom, insideBehind] at h

/-- The tokens of the source end in a text without opening braces, perhaps an empty
    one, and nothing in front of it depends on what follows the source. -/
structure Seam (inTag : Bool) (source : Text) (front : List Token) (text : Text) : Prop where
  noBrace : '{' ∉ text
  tokens : tokenizeFrom inTag source = front ++ plainRun text
  behind : ∀ more, tokenizeFrom inTag (source ++ more) = front ++ tokenize (text ++ more)

theorem seam_text (noBrace : '{' ∉ source) : Seam false source [] source := by
  refine ⟨noBrace, ?_, fun _ => rfl⟩
  have cut := tokenize_run noBrace []
  rwa [List.takeWhile_nil, List.dropWhile_nil, List.append_nil, tokenize_nil, List.append_nil]
    at cut

/-- A source has a seam if what follows its first token does, and the token does not go on. -/
theorem FirstToken.exists_seam (first : FirstToken inTag source token next rest)
    (stops : rest ≠ [] ∨ token = .tagEnd) (h : ∃ front text, Seam next rest front text) :
    ∃ front text, Seam inTag source front text := by
  obtain ⟨front, text, seam⟩ := h
  refine ⟨token :: front, text, seam.noBrace, ?_, fun more => ?_⟩
  · rw [first.alone, seam.tokens]
    rfl
  · rw [first.behind more (stops.imp_right .inl), seam.behind]
    rfl

/-- A source that ends outside tags and not in an opening brace has a seam. -/
theorem exists_seam (inTag : Bool) (source : Text)
    (outside : insideBehind inTag (tokenizeFrom inTag source) = false)
    (noBrace : source.getLast? ≠ some '{') : ∃ front text, Seam inTag source front text := by
  -- What follows a token that leads inside a tag does not end there.
  have inside {inTag : Bool} {source rest : Text} {token : Token}
      (first : FirstToken inTag source token true rest)
      (outside : insideBehind true (tokenizeFrom true rest) = false)
      (noBrace : source.getLast? ≠ some '{')
      (ih : insideBehind true (tokenizeFrom true rest) = false → rest.getLast? ≠ some '{' →
        ∃ front text, Seam true rest front text) : ∃ front text, Seam inTag source front text :=
    first.exists_seam (.inl (ne_nil_of_outside outside)) (ih outside (first.getLast?_ne noBrace))
  fun_induction tokenizeFrom inTag source with
  | case1 inTag =>
    obtain rfl : inTag = false := outside
    exact ⟨[], [], seam_text List.not_mem_nil⟩
  | case2 rest ih => exact inside (first_closeTagStart rest) outside noBrace ih
  | case3 rest slash ih => exact inside (first_tagStart slash) outside noBrace ih
  | case4 rest slash brace ih =>
    have some : rest ≠ [] := by
      rintro rfl
      exact noBrace rfl
    have first := first_openingBrace some brace
    exact first.exists_seam (.inl some) (ih outside (first.getLast?_ne noBrace))
  | case5 c rest _ _ brace ih =>
    by_cases goesOn : '{' ∈ rest
    · have first := first_text brace rest
      have left : rest.dropWhile (· ≠ '{') ≠ [] := by
        intro none
        have whole := List.takeWhile_append_dropWhile (p := (· ≠ '{')) (l := rest)
        rw [none, List.append_nil] at whole
        rw [← whole] at goesOn
        have text := List.all_eq_true.1 (List.all_takeWhile (p := (· ≠ '{'))) _ goesOn
        exact absurd rfl (of_decide_eq_true text)
      exact first.exists_seam (.inl left) (ih outside (first.getLast?_ne noBrace))
    · -- No brace follows, so that all of the source is the text at the seam.
      have none : '{' ∉ c :: rest := by
        rw [List.mem_cons, not_or]
        exact ⟨fun same => brace same.symm, goesOn⟩
      exact ⟨[], c :: rest, seam_text none⟩
  | case6 rest ih =>
    have first := first_tagEnd rest
    exact first.exists_seam (.inr rfl) (ih outside (first.getLast?_ne noBrace))
  | case7 rest brace ih => exact inside (first_closingBrace brace) outside noBrace ih
  | case8 rest ih => exact inside (first_colon rest) outside noBrace ih
  | case9 rest ih => exact inside (first_mark .ifFilled rest) outside noBrace ih
  | case10 rest ih => exact inside (first_mark .unlessFilled rest) outside noBrace ih
  | case11 c rest _ _ _ _ _ named ih => exact inside (first_name named rest) outside noBrace ih
  | case12 c rest _ brace colon hash caret other ih =>
    have some : tokenizeFrom false (c :: rest) ≠ [] := by
      intro none
      have whole := textAll_tokenizeFrom false (c :: rest)
      rw [none] at whole
      cases whole
    rw [insideBehind_of_ne_nil some true false] at outside
    obtain ⟨front, text, seam⟩ := ih outside noBrace
    refine ⟨front, text, seam.noBrace, ?_, fun more => ?_⟩
    · rw [tokenizeFrom_break other brace colon hash caret, seam.tokens]
    · rw [List.cons_append, tokenizeFrom_break other brace colon hash caret, ← List.cons_append,
        seam.behind]

/-! ## In front of a brace -/

/-- Where nothing changes behind the first token, nothing changes at all. -/
theorem FirstToken.append_brace (first : FirstToken inTag source token next rest)
    (noBrace : source.getLast? ≠ some '{')
    (ih : rest.getLast? ≠ some '{' →
      tokenizeFrom next (rest ++ '{' :: more) = tokenizeFrom next rest ++ tokenize ('{' :: more)) :
    tokenizeFrom inTag (source ++ '{' :: more) =
      token :: tokenizeFrom next rest ++ tokenize ('{' :: more) := by
  have stops : ∀ c ∈ ('{' :: more).head?, c = '{' := by
    intro c mem
    exact (Option.some.inj mem).symm
  rw [first.behind _ (.inr (.inr stops)), ih (first.getLast?_ne noBrace), List.cons_append]

/-- In front of a brace nothing changes at all, inside tags or outside. -/
theorem tokenizeFrom_append_brace (inTag : Bool) (source : Text)
    (noBrace : source.getLast? ≠ some '{') (more : Text) :
    tokenizeFrom inTag (source ++ '{' :: more) =
      tokenizeFrom inTag source ++ tokenize ('{' :: more) := by
  fun_induction tokenizeFrom inTag source with
  | case1 inTag =>
    cases inTag with
    | false => rfl
    | true =>
      exact tokenizeFrom_break (by decide) (by decide) (by decide) (by decide) (by decide)
  | case2 rest ih => exact (first_closeTagStart rest).append_brace noBrace ih
  | case3 rest slash ih => exact (first_tagStart slash).append_brace noBrace ih
  | case4 rest slash brace ih =>
    have some : rest ≠ [] := by
      rintro rfl
      exact noBrace rfl
    exact (first_openingBrace some brace).append_brace noBrace ih
  | case5 c rest _ _ brace ih => exact (first_text brace rest).append_brace noBrace ih
  | case6 rest ih => exact (first_tagEnd rest).append_brace noBrace ih
  | case7 rest brace ih => exact (first_closingBrace brace).append_brace noBrace ih
  | case8 rest ih => exact (first_colon rest).append_brace noBrace ih
  | case9 rest ih => exact (first_mark .ifFilled rest).append_brace noBrace ih
  | case10 rest ih => exact (first_mark .unlessFilled rest).append_brace noBrace ih
  | case11 c rest _ _ _ _ _ named ih => exact (first_name named rest).append_brace noBrace ih
  | case12 c rest _ brace colon hash caret unnamed ih =>
    rw [List.cons_append, tokenizeFrom_break unnamed brace colon hash caret, ← List.cons_append,
      ih noBrace]

theorem tokenize_append_brace (noBrace : source.getLast? ≠ some '{') (more : Text) :
    tokenize (source ++ '{' :: more) = tokenize source ++ tokenize ('{' :: more) :=
  tokenizeFrom_append_brace false source noBrace more

end Flashcard.Template
