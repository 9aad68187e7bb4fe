import Flashcard.Template.Token

/-!
# Cutting a template in rounds

Two sets of patterns cut a template, one outside tags and one inside. A round
goes through text up to the beginning of a tag and then through the tag, each
time by the longest match. A tag ends where its end is found, where the template
does, or where no pattern matches: what stands there is left for the next round,
so that a tag may take nothing at all, but a round never does.

Results:
* `Matches.length_le`: no piece is longer than the one that is read.
* `LongestMatch.unique`: there is one longest match.
* `Round.length_lt`: every round leaves less than it began with.
* `lexes_iff`: cutting a template in rounds gives its tokens, and nothing else.
-/

namespace Flashcard.Template

/-- Kind and text of a token. -/
def Token.pair (token : Token) : Kind × Text := (token.kind, token.text)

namespace Lexical

/-! ## Patterns -/

/-- A pattern of this kind matches a text; `inTag` tells which patterns count. -/
inductive Matches : (inTag : Bool) → Kind → Text → Prop
  | tagStart : Matches false .tagStart ['{', '{']
  | closeTagStart : Matches false .closeTagStart ['{', '{', '/']
  /-- `[^{]+` -/
  | run {c : Char} {rest : Text} : (c :: rest).all (· ≠ '{') = true →
      Matches false .textContent (c :: rest)
  | openingBrace : Matches false .textContent ['{']
  | tagEnd : Matches true .tagEnd ['}', '}']
  | colon : Matches true .colon [':']
  | ifMark : Matches true .ifMark ['#']
  | unlessMark : Matches true .unlessMark ['^']
  | closingBrace : Matches true .garbage ['}']
  /-- `[^:{}#^\r\n]+` -/
  | name {c : Char} {rest : Text} : (c :: rest).all isNameChar = true →
      Matches true .name (c :: rest)

/-- The source begins with `text`, followed by `rest`, and no pattern matches
    more of it. -/
structure LongestMatch (inTag : Bool) (source : Text) (kind : Kind) (text rest : Text) :
    Prop where
  isMatch : Matches inTag kind text
  begins : source = text ++ rest
  longest : ∀ {other : Kind} {piece : Text},
    Matches inTag other piece → piece <+: source → piece.length ≤ text.length

/-- No pattern matches where the source begins. -/
def Unmatched (inTag : Bool) (source : Text) : Prop :=
  ∀ kind text, Matches inTag kind text → ¬ text <+: source

/-! ## Rounds -/

/-- The tokens up to the beginning of a tag, and what follows them. What no
    pattern matches would count as text. -/
inductive TextPhase : Text → List (Kind × Text) → Text → Prop
  | done : TextPhase [] [] []
  | plain {source text rest tag : Text} {tokens : List (Kind × Text)} :
      LongestMatch false source .textContent text rest → TextPhase rest tokens tag →
      TextPhase source ((.textContent, text) :: tokens) tag
  | unmatched {source text rest tag : Text} {tokens : List (Kind × Text)} :
      source ≠ [] → Unmatched false source → source = text ++ rest →
      TextPhase rest tokens tag → TextPhase source ((.textContent, text) :: tokens) tag
  | opens {source text tag : Text} {kind : Kind} :
      LongestMatch false source kind text tag → kind ≠ .textContent →
      TextPhase source [(kind, text)] tag

/-- The tokens inside a tag, and what follows them. Where no pattern matches the
    tag breaks off. -/
inductive TagPhase : Text → List (Kind × Text) → Text → Prop
  | done : TagPhase [] [] []
  | inside {source text rest after : Text} {kind : Kind} {tokens : List (Kind × Text)} :
      LongestMatch true source kind text rest → kind ≠ .tagEnd →
      TagPhase rest tokens after → TagPhase source ((kind, text) :: tokens) after
  | ends {source text rest : Text} :
      LongestMatch true source .tagEnd text rest → TagPhase source [(.tagEnd, text)] rest
  | broken {source : Text} : source ≠ [] → Unmatched true source → TagPhase source [] source

/-- A round: text up to a tag, and the tag. -/
inductive Round : Text → List (Kind × Text) → Text → Prop
  | mk {source tag rest : Text} {tokens inside : List (Kind × Text)} :
      source ≠ [] → TextPhase source tokens tag → TagPhase tag inside rest →
      Round source (tokens ++ inside) rest

/-- The source has these tokens: rounds go on until nothing is left. -/
inductive Lexes : Text → List (Kind × Text) → Prop
  | done : Lexes [] []
  | round {source rest : Text} {tokens others : List (Kind × Text)} :
      Round source tokens rest → Lexes rest others → Lexes source (tokens ++ others)

variable {source text rest tag : Text} {kind : Kind} {tokens : List (Kind × Text)}

/-! ## The longest match -/

theorem Matches.ne_nil {inTag : Bool} (h : Matches inTag kind text) : text ≠ [] := by
  cases h <;> exact List.cons_ne_nil _ _

/-- The kind of the piece that a text is, if it is one. -/
def kindOf : (inTag : Bool) → Text → Kind
  | false, ['{', '{'] => .tagStart
  | false, ['{', '{', '/'] => .closeTagStart
  | false, _ => .textContent
  | true, ['}', '}'] => .tagEnd
  | true, [':'] => .colon
  | true, ['#'] => .ifMark
  | true, ['^'] => .unlessMark
  | true, ['}'] => .garbage
  | true, _ => .name

/-- Number of characters of the piece that a text begins with. -/
def reach : (inTag : Bool) → Text → Nat
  | false, '{' :: '{' :: '/' :: _ => 3
  | false, '{' :: '{' :: _ => 2
  | false, '{' :: _ => 1
  | false, text => (text.takeWhile (· ≠ '{')).length
  | true, '}' :: '}' :: _ => 2
  | true, '}' :: _ => 1
  | true, ':' :: _ => 1
  | true, '#' :: _ => 1
  | true, '^' :: _ => 1
  | true, text => (text.takeWhile isNameChar).length

theorem ne_of_isNameChar {c : Char} (h : isNameChar c = true) :
    c ≠ ':' ∧ c ≠ '{' ∧ c ≠ '}' ∧ c ≠ '#' ∧ c ≠ '^' ∧ c ≠ '\r' ∧ c ≠ '\n' := by
  simpa [isNameChar, and_assoc] using h

theorem reach_run {c : Char} (brace : c ≠ '{') (rest : Text) :
    reach false (c :: rest) = ((c :: rest).takeWhile (· ≠ '{')).length := by
  rw [reach] <;> simp_all

theorem reach_name {c : Char} (h : isNameChar c = true) (rest : Text) :
    reach true (c :: rest) = ((c :: rest).takeWhile isNameChar).length := by
  obtain ⟨colon, -, brace, hash, caret, -⟩ := ne_of_isNameChar h
  rw [reach] <;> simp_all

theorem Matches.eq_kindOf {inTag : Bool} (h : Matches inTag kind text) :
    kind = kindOf inTag text := by
  cases h with
  | @run c rest all =>
    have brace : c ≠ '{' := by simpa using List.all_eq_true.1 all c (List.mem_cons_self ..)
    simp [kindOf, brace]
  | @name c rest all =>
    obtain ⟨colon, -, brace, hash, caret, -⟩ :=
      ne_of_isNameChar (List.all_eq_true.1 all c (List.mem_cons_self ..))
    simp [kindOf, colon, brace, hash, caret]
  | _ => rfl

/-- No piece at the start of a text is longer than the one that is read. -/
theorem Matches.length_le {inTag : Bool} (h : Matches inTag kind text) (behind : Text) :
    text.length ≤ reach inTag (text ++ behind) := by
  have run {p : Char → Bool} {text : Text} (all : text.all p = true) :
      text.length ≤ ((text ++ behind).takeWhile p).length := by
    rw [List.takeWhile_append_of_pos (List.all_eq_true.1 all), List.length_append]
    omega
  cases h with
  | tagStart | openingBrace | closingBrace =>
    unfold reach
    split <;> grind
  | @run c rest all =>
    have brace : c ≠ '{' := by simpa using List.all_eq_true.1 all c (List.mem_cons_self ..)
    rw [List.cons_append, reach_run brace, ← List.cons_append]
    exact run all
  | @name c rest all =>
    rw [List.cons_append, reach_name (List.all_eq_true.1 all c (List.mem_cons_self ..)),
      ← List.cons_append]
    exact run all
  | _ => exact Nat.le_refl _

/-- A piece that is all that is read is the longest match. -/
theorem longestMatch {inTag : Bool} (h : Matches inTag kind text) (rest : Text)
    (all : reach inTag (text ++ rest) = text.length) :
    LongestMatch inTag (text ++ rest) kind text rest := by
  refine ⟨h, rfl, ?_⟩
  rintro other piece isMatch ⟨behind, begins⟩
  have longest := isMatch.length_le behind
  rw [begins, all] at longest
  exact longest

theorem longestMatch_run {inTag : Bool} {c : Char} {p : Char → Bool}
    (h : Matches inTag kind (c :: rest.takeWhile p)) (first : p c = true)
    (all : reach inTag (c :: rest) = ((c :: rest).takeWhile p).length) :
    LongestMatch inTag (c :: rest) kind (c :: rest.takeWhile p) (rest.dropWhile p) := by
  rw [List.takeWhile_cons_of_pos first] at all
  have longest := longestMatch h (rest.dropWhile p)
  rw [List.cons_append, List.takeWhile_append_dropWhile] at longest
  exact longest all

/-- There is one longest match. -/
theorem LongestMatch.unique {inTag : Bool} {other : Kind} {piece behind : Text}
    (h : LongestMatch inTag source kind text rest)
    (h' : LongestMatch inTag source other piece behind) :
    kind = other ∧ text = piece ∧ rest = behind := by
  have length : text.length = piece.length :=
    Nat.le_antisymm (h'.longest h.isMatch ⟨rest, h.begins.symm⟩)
      (h.longest h'.isMatch ⟨behind, h'.begins.symm⟩)
  obtain ⟨rfl, rfl⟩ := List.append_inj (h.begins.symm.trans h'.begins) length
  exact ⟨h.isMatch.eq_kindOf.trans h'.isMatch.eq_kindOf.symm, rfl, rfl⟩

theorem LongestMatch.ne_nil {inTag : Bool} (h : LongestMatch inTag source kind text rest) :
    source ≠ [] := by
  rw [h.begins]
  exact List.append_ne_nil_of_left_ne_nil h.isMatch.ne_nil _

theorem LongestMatch.length_lt {inTag : Bool} (h : LongestMatch inTag source kind text rest) :
    rest.length < source.length := by
  have := List.length_pos_iff.2 h.isMatch.ne_nil
  rw [h.begins, List.length_append]
  omega

theorem LongestMatch.not_unmatched {inTag : Bool}
    (h : LongestMatch inTag source kind text rest) : ¬ Unmatched inTag source :=
  fun none => none kind text h.isMatch ⟨rest, h.begins.symm⟩

/-- Outside tags some pattern matches any character. -/
theorem eq_nil_of_unmatched (h : Unmatched false source) : source = [] := by
  cases source with
  | nil => rfl
  | cons c rest =>
    by_cases brace : c = '{'
    · rw [brace] at h
      exact absurd ⟨rest, rfl⟩ (h _ _ .openingBrace)
    · have run : Matches false .textContent [c] := .run (by simpa using brace)
      exact absurd ⟨rest, rfl⟩ (h _ _ run)

/-! ## A template is cut in one way -/

theorem TextPhase.unique {others : List (Kind × Text)} {other : Text}
    (h : TextPhase source tokens tag) (h' : TextPhase source others other) :
    tokens = others ∧ tag = other := by
  induction h generalizing others with
  | done =>
    cases h' with
    | done => exact ⟨rfl, rfl⟩
    | plain longest _ | opens longest _ => exact absurd rfl longest.ne_nil
    | unmatched some _ _ _ => exact absurd rfl some
  | unmatched some none _ _ _ => exact absurd (eq_nil_of_unmatched none) some
  | plain longest _ ih =>
    cases h' with
    | done => exact absurd rfl longest.ne_nil
    | unmatched some none _ _ => exact absurd (eq_nil_of_unmatched none) some
    | plain longest' later =>
      obtain ⟨-, rfl, rfl⟩ := longest.unique longest'
      obtain ⟨rfl, rfl⟩ := ih later
      exact ⟨rfl, rfl⟩
    | opens longest' kind => exact absurd (longest.unique longest').1.symm kind
  | opens longest kind =>
    cases h' with
    | done => exact absurd rfl longest.ne_nil
    | unmatched some none _ _ => exact absurd (eq_nil_of_unmatched none) some
    | plain longest' _ => exact absurd (longest.unique longest').1 kind
    | opens longest' _ =>
      obtain ⟨rfl, rfl, rfl⟩ := longest.unique longest'
      exact ⟨rfl, rfl⟩

theorem TagPhase.unique {others : List (Kind × Text)} {other : Text}
    (h : TagPhase source tokens rest) (h' : TagPhase source others other) :
    tokens = others ∧ rest = other := by
  induction h generalizing others with
  | done =>
    cases h' with
    | done => exact ⟨rfl, rfl⟩
    | inside longest _ _ | ends longest => exact absurd rfl longest.ne_nil
    | broken some _ => exact absurd rfl some
  | inside longest kind _ ih =>
    cases h' with
    | done => exact absurd rfl longest.ne_nil
    | inside longest' _ later =>
      obtain ⟨rfl, rfl, rfl⟩ := longest.unique longest'
      obtain ⟨rfl, rfl⟩ := ih later
      exact ⟨rfl, rfl⟩
    | ends longest' => exact absurd (longest.unique longest').1 kind
    | broken _ none => exact absurd none longest.not_unmatched
  | ends longest =>
    cases h' with
    | done => exact absurd rfl longest.ne_nil
    | inside longest' kind _ => exact absurd (longest.unique longest').1.symm kind
    | ends longest' =>
      obtain ⟨-, rfl, rfl⟩ := longest.unique longest'
      exact ⟨rfl, rfl⟩
    | broken _ none => exact absurd none longest.not_unmatched
  | broken some none =>
    cases h' with
    | done => exact absurd rfl some
    | inside longest _ _ | ends longest => exact absurd none longest.not_unmatched
    | broken _ _ => exact ⟨rfl, rfl⟩

theorem Round.unique {others : List (Kind × Text)} {other : Text}
    (h : Round source tokens rest) (h' : Round source others other) :
    tokens = others ∧ rest = other := by
  obtain ⟨-, text, inside⟩ := h
  obtain ⟨-, text', inside'⟩ := h'
  obtain ⟨rfl, rfl⟩ := text.unique text'
  obtain ⟨rfl, rfl⟩ := inside.unique inside'
  exact ⟨rfl, rfl⟩

theorem Lexes.unique {others : List (Kind × Text)} (h : Lexes source tokens)
    (h' : Lexes source others) : tokens = others := by
  induction h generalizing others with
  | done =>
    cases h' with
    | done => rfl
    | round first _ =>
      obtain ⟨some, -, -⟩ := first
      exact absurd rfl some
  | round first _ ih =>
    cases h' with
    | done =>
      obtain ⟨some, -, -⟩ := first
      exact absurd rfl some
    | round first' later =>
      obtain ⟨rfl, rfl⟩ := first.unique first'
      rw [ih later]

/-! ## Every round advances -/

theorem TextPhase.length_le (h : TextPhase source tokens tag) : tag.length ≤ source.length := by
  induction h with
  | done => exact Nat.le_refl _
  | plain longest _ ih => exact Nat.le_trans ih (Nat.le_of_lt longest.length_lt)
  | unmatched _ _ split _ ih =>
    rw [split, List.length_append]
    omega
  | opens longest _ => exact Nat.le_of_lt longest.length_lt

theorem TextPhase.length_lt (h : TextPhase source tokens tag) (some : source ≠ []) :
    tag.length < source.length := by
  cases h with
  | done => exact absurd rfl some
  | plain longest later =>
    have shorter := longest.length_lt
    have := later.length_le
    omega
  | unmatched _ none _ _ => exact absurd (eq_nil_of_unmatched none) some
  | opens longest _ => exact longest.length_lt

/-- The tag leaves no more than it began with. -/
theorem TagPhase.length_le (h : TagPhase source tokens rest) : rest.length ≤ source.length := by
  induction h with
  | done | broken => exact Nat.le_refl _
  | inside longest _ _ ih => exact Nat.le_trans ih (Nat.le_of_lt longest.length_lt)
  | ends longest => exact Nat.le_of_lt longest.length_lt

/-- A round leaves less than it began with, though its tag may take nothing. -/
theorem Round.length_lt (h : Round source tokens rest) : rest.length < source.length := by
  obtain ⟨some, text, inside⟩ := h
  exact Nat.lt_of_le_of_lt inside.length_le (text.length_lt some)

/-! ## Tokens -/

/-- The tokens from a place inside a tag. -/
def LexesTag (source : Text) (found : List (Kind × Text)) : Prop :=
  ∃ inside rest others, TagPhase source inside rest ∧ Lexes rest others ∧ found = inside ++ others

/-- The tokens from a place outside of tags. -/
def LexesText (source : Text) (found : List (Kind × Text)) : Prop :=
  ∃ tokens tag others, TextPhase source tokens tag ∧ LexesTag tag others ∧ found = tokens ++ others

variable {found : List (Kind × Text)}

theorem LexesText.lexes (h : LexesText source found) : Lexes source found := by
  obtain ⟨tokens, tag, _, text, ⟨inside, rest, others, inTag, later, rfl⟩, rfl⟩ := h
  by_cases some : source = []
  · subst some
    cases text with
    | done =>
      cases inTag with
      | done => exact later
      | inside longest _ _ | ends longest => exact absurd rfl longest.ne_nil
      | broken some _ => exact absurd rfl some
    | plain longest _ | opens longest _ => exact absurd rfl longest.ne_nil
    | unmatched some _ _ _ => exact absurd rfl some
  · rw [← List.append_assoc]
    exact .round (.mk some text inTag) later

theorem LexesText.plain (h : LongestMatch false source .textContent text rest)
    (later : LexesText rest found) : LexesText source ((.textContent, text) :: found) := by
  obtain ⟨tokens, tag, others, phase, inTag, rfl⟩ := later
  exact ⟨_, tag, others, .plain h phase, inTag, rfl⟩

/-- The tokens of a tag, with its beginning in front of them. -/
theorem LexesText.opens (h : LongestMatch false source kind text rest) (hk : kind ≠ .textContent)
    (later : LexesTag rest found) : LexesText source ((kind, text) :: found) :=
  ⟨_, rest, found, .opens h hk, later, rfl⟩

theorem LexesTag.inside (h : LongestMatch true source kind text rest) (hk : kind ≠ .tagEnd)
    (later : LexesTag rest found) : LexesTag source ((kind, text) :: found) := by
  obtain ⟨inside, behind, others, phase, lexes, rfl⟩ := later
  exact ⟨_, behind, others, .inside h hk phase, lexes, rfl⟩

theorem LexesTag.ends (h : LongestMatch true source .tagEnd text rest)
    (later : LexesText rest found) : LexesTag source ((.tagEnd, text) :: found) :=
  ⟨_, rest, found, .ends h, later.lexes, rfl⟩

/-- The tokens of a text, where a tag breaks off. -/
theorem LexesTag.broken (some : source ≠ []) (none : Unmatched true source)
    (later : LexesText source found) : LexesTag source found :=
  ⟨[], source, found, .broken some none, later.lexes, rfl⟩

theorem unmatched_tag {c : Char} (brace : c ≠ '}') (colon : c ≠ ':') (hash : c ≠ '#')
    (caret : c ≠ '^') (name : isNameChar c = false) : Unmatched true (c :: rest) := by
  rintro kind text isMatch ⟨behind, begins⟩
  cases isMatch with
  | tagEnd | closingBrace => exact brace (List.cons.inj begins).1.symm
  | colon => exact colon (List.cons.inj begins).1.symm
  | ifMark => exact hash (List.cons.inj begins).1.symm
  | unlessMark => exact caret (List.cons.inj begins).1.symm
  | name all =>
    obtain rfl := (List.cons.inj begins).1
    rw [List.all_cons, name] at all
    cases all

/-- The tokens of a template are found in rounds, from a place inside or outside a
    tag. -/
theorem lexes_tokenizeFrom (inTag : Bool) (source : Text) :
    (if inTag then LexesTag else LexesText) source
      ((tokenizeFrom inTag source).map Token.pair) := by
  fun_induction tokenizeFrom inTag source with
  | case1 inTag =>
    cases inTag with
    | false => exact ⟨[], [], [], .done, ⟨[], [], [], .done, .done, rfl⟩, rfl⟩
    | true => exact ⟨[], [], [], .done, .done, rfl⟩
  | case2 rest ih =>
    exact LexesText.opens (longestMatch .closeTagStart rest rfl) Kind.noConfusion ih
  | case3 rest slash ih =>
    exact LexesText.opens (longestMatch .tagStart rest (by simp [reach])) Kind.noConfusion ih
  | case4 rest slash brace ih =>
    exact LexesText.plain (longestMatch .openingBrace rest (by simp [reach])) ih
  | case5 c rest _ _ brace ih =>
    have all : (c :: rest.takeWhile (· ≠ '{')).all (· ≠ '{') = true := by
      rw [List.all_cons, List.all_takeWhile]
      simpa using brace
    exact LexesText.plain
      (longestMatch_run (.run all) (by simpa using brace) (reach_run brace rest)) ih
  | case6 rest ih => exact LexesTag.ends (longestMatch .tagEnd rest rfl) ih
  | case7 rest brace ih =>
    exact LexesTag.inside (longestMatch .closingBrace rest (by simp [reach])) Kind.noConfusion ih
  | case8 rest ih => exact LexesTag.inside (longestMatch .colon rest rfl) Kind.noConfusion ih
  | case9 rest ih => exact LexesTag.inside (longestMatch .ifMark rest rfl) Kind.noConfusion ih
  | case10 rest ih => exact LexesTag.inside (longestMatch .unlessMark rest rfl) Kind.noConfusion ih
  | case11 c rest _ _ _ _ _ name ih =>
    have all : (c :: rest.takeWhile isNameChar).all isNameChar = true := by
      rw [List.all_cons, name, List.all_takeWhile]
      rfl
    exact LexesTag.inside (longestMatch_run (.name all) name (reach_name name rest))
      Kind.noConfusion ih
  | case12 c rest _ brace colon hash caret name ih =>
    exact LexesTag.broken (List.cons_ne_nil _ _)
      (unmatched_tag brace colon hash caret (Bool.eq_false_iff.2 name)) ih

/-- Cutting a template in rounds gives its tokens, and nothing else. -/
theorem lexes_iff (source : Text) (found : List (Kind × Text)) :
    Lexes source found ↔ found = (tokenize source).map Token.pair := by
  have lexes : Lexes source ((tokenize source).map Token.pair) :=
    LexesText.lexes (lexes_tokenizeFrom false source)
  constructor
  · intro h
    exact h.unique lexes
  · rintro rfl
    exact lexes

end Lexical

end Flashcard.Template
