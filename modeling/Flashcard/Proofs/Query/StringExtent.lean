import Flashcard.Proofs.Query.Lexical
import Flashcard.Proofs.Text.Place
import Mathlib.Data.List.TakeWhile

/-!
# Where strings end

A string begins at a double quote. It should end at the first quote that no backslash
escapes, and reach to the end of the query where there is none. It does so unless a
backslash comes before a line feed that it would have to escape: there the string is
over, without a closing quote.

Results:
* `Lexical.Reaches.tokenize`: the tokens in front of a place where a token begins, and
  those behind it.
* `EndsUnescaped.append_iff`: what is escaped does not depend on a part in front that
  leaves nothing escaped.
* `ends_read`: the quote, the line feed or the end at which reading a string stops.
* `tokenize_string`: the extent of every string, and when it is the one that it should
  have.
-/

namespace Flashcard.Query

open Text (FirstPlace HasPlace)

/-! ## Places where a token begins -/

namespace Lexical

/-- Cutting a source piece by piece leads to the place between `before` and `rest`,
    where the next piece begins. -/
inductive Reaches : Text → Text → Text → Prop
  | start {source : Text} : Reaches source [] source
  | piece {source : Text} {kind : Kind} {text behind before rest : Text} :
      LongestMatch source kind text behind → Reaches behind before rest →
      Reaches source (text ++ before) rest
  | unmatched {c : Char} {behind before rest : Text} :
      (∀ {kind : Kind} {text after : Text}, Matches kind text → c :: behind ≠ text ++ after) →
      Reaches behind before rest → Reaches (c :: behind) (c :: before) rest

theorem exists_matches (c : Char) : ∃ kind, Matches kind [c] := by
  by_cases opening : c = '('
  · exact ⟨.parenOpen, opening ▸ .parenOpen⟩
  by_cases closing : c = ')'
  · exact ⟨.parenClose, closing ▸ .parenClose⟩
  by_cases minus : c = '-'
  · exact ⟨.minus, minus ▸ .minus⟩
  by_cases quote : c = '"'
  · exact ⟨.unterminatedStringLiteral, quote ▸ .unclosed .nil⟩
  by_cases blank : Unicode.isBlank c = true
  · exact ⟨.whitespace, .blank blank rfl⟩
  · have word : isWordChar c = true := by
      rw [isWordChar, Bool.eq_false_iff.2 blank]
      simpa using ⟨⟨opening, closing⟩, quote⟩
    exact ⟨.word, .word word minus rfl⟩

end Lexical

/-- The token of a kind with a text. -/
def Token.ofPair? : Kind × Text → Option Token
  | (.parenOpen, _) => some parenOpen
  | (.parenClose, _) => some parenClose
  | (.minus, _) => some minus
  | (.doubleQuote, _) => some quote
  | (.stringContent, text) => some (content text)
  | (.word, text) => some (word text)
  | (.orKeyword, _) => some orKeyword
  | (.tagMark, text) => some (mark .tag text)
  | (.deckMark, text) => some (mark .deck text)
  | (.templateMark, text) => some (mark .template text)
  | (.whitespace, text) => some (blank text)
  | _ => none

theorem Token.ofPair?_pair (token : Token) : ofPair? token.pair = some token := by
  cases token with
  | mark field => cases field <;> rfl
  | _ => rfl

theorem Token.pair_injective (a b : Token) (h : a.pair = b.pair) : a = b := by
  have same := congrArg ofPair? h
  rw [ofPair?_pair, ofPair?_pair] at same
  exact Option.some.inj same

namespace Lexical

/-- The tokens of a piece stand in front of those of what follows it. -/
theorem LongestMatch.tokenize {source : Text} {kind : Kind} {text rest : Text}
    (h : LongestMatch source kind text rest) :
    ∃ front, Token.textAll front = text ∧ tokenize source = front ++ tokenize rest := by
  obtain ⟨pieces, cuts, found⟩ := cuts_tokenize rest
  have all := (lexes_iff source _).1 ⟨_, .piece h cuts, rfl⟩
  rw [List.flatMap_cons, found] at all
  obtain ⟨front, behind, tokens, -, same⟩ := List.map_eq_append_iff.1 all.symm
  obtain rfl := (List.map_inj_right Token.pair_injective).1 same
  refine ⟨front, ?_, tokens⟩
  have whole := textAll_tokenize source
  rw [tokens, Token.textAll_append, textAll_tokenize] at whole
  exact List.append_cancel_right (whole.trans h.begins)

/-- The tokens in front of a place where a token begins make up what is before it, and
    those behind it do not depend on that. -/
theorem Reaches.tokenize {source before rest : Text} (h : Reaches source before rest) :
    ∃ front, Token.textAll front = before ∧ tokenize source = front ++ tokenize rest := by
  induction h with
  | start => exact ⟨[], rfl, rfl⟩
  | piece match' _ ih =>
    obtain ⟨front, text, tokens⟩ := ih
    obtain ⟨first, text', tokens'⟩ := match'.tokenize
    refine ⟨first ++ front, ?_, ?_⟩
    · rw [Token.textAll_append, text, text']
    · rw [tokens', tokens, List.append_assoc]
  | @unmatched c behind _ _ none _ _ =>
    obtain ⟨kind, found⟩ := exists_matches c
    exact absurd rfl (none found)

end Lexical

/-! ## Backslashes -/

/-- Number of backslashes that a text ends with. -/
def endBackslashes (text : Text) : Nat := (text.reverse.takeWhile (· = '\\')).length

/-- The backslashes at the end of a text come in pairs, so that none of them escapes
    what follows. -/
def EndsUnescaped (text : Text) : Prop := endBackslashes text % 2 = 0

instance (text : Text) : Decidable (EndsUnescaped text) :=
  inferInstanceAs (Decidable (endBackslashes text % 2 = 0))

/-- Backslashes at the end go on in front of a text that consists of them. -/
theorem endBackslashes_append (front text : Text) :
    endBackslashes (front ++ text) =
      if text.all (· = '\\') then text.length + endBackslashes front
      else endBackslashes text := by
  have all : (text.reverse.takeWhile (· = '\\')).length = text.reverse.length ↔
      text.all (· = '\\') = true := by
    rw [← List.all_reverse]
    constructor
    · intro length
      rw [← (List.takeWhile_prefix _).eq_of_length length]
      exact List.all_takeWhile
    · intro every
      rw [List.takeWhile_eq_self_iff.2 (List.all_eq_true.1 every)]
  rw [endBackslashes, List.reverse_append, List.takeWhile_append]
  simp only [all]
  split
  · rw [List.length_append, List.length_reverse]
    rfl
  · rfl

/-- What is escaped does not depend on a part in front that leaves nothing escaped. -/
theorem EndsUnescaped.append_iff {front : Text} (h : EndsUnescaped front) (text : Text) :
    EndsUnescaped (front ++ text) ↔ EndsUnescaped text := by
  have alone := endBackslashes_append [] text
  rw [List.nil_append] at alone
  unfold EndsUnescaped at h ⊢
  rw [endBackslashes_append, alone]
  split
  · rw [show endBackslashes [] = 0 from rfl]
    omega
  · rfl

theorem endsUnescaped_nil : EndsUnescaped [] := rfl

theorem endsUnescaped_plain {c : Char} (h : c ≠ '\\') : EndsUnescaped [c] := by
  simp [EndsUnescaped, endBackslashes, h]

theorem endsUnescaped_escape (c : Char) : EndsUnescaped ['\\', c] := by
  by_cases h : c = '\\' <;> simp [EndsUnescaped, endBackslashes, h]

/-! ## Extent of a string -/

/-- A quote that no backslash escapes follows. -/
def ClosesAt (before rest : Text) : Prop := EndsUnescaped before ∧ ['"'] <+: rest

/-- A backslash that escapes follows, and behind it a line feed. -/
def BreaksAt (before rest : Text) : Prop := EndsUnescaped before ∧ ['\\', '\n'] <+: rest

/-- The string cannot go on here. -/
def StopsAt (before rest : Text) : Prop := ClosesAt before rest ∨ BreaksAt before rest

/-- Extent that the string in front of a text should have: to the first quote that is
    not escaped, or else to the end. -/
inductive Extent (text : Text) : StringBody → Prop
  | closed {content rest : Text} :
      FirstPlace ClosesAt text content ('"' :: rest) → Extent text ⟨content, true, rest⟩
  | unclosed : ¬ HasPlace ClosesAt text → Extent text ⟨text, false, []⟩

/-- Extent that it has. Before a line feed a backslash ends the string. -/
inductive Ends (text : Text) : StringBody → Prop
  | closed {content rest : Text} :
      FirstPlace StopsAt text content ('"' :: rest) → Ends text ⟨content, true, rest⟩
  | broken {content rest : Text} : FirstPlace StopsAt text content ('\\' :: '\n' :: rest) →
      Ends text ⟨content ++ ['\\'], false, '\n' :: rest⟩
  | unclosed : ¬ HasPlace StopsAt text → Ends text ⟨text, false, []⟩

/-- Behind a part that leaves nothing escaped a string can go on where it could before. -/
theorem stopsAt_append {front : Text} (h : EndsUnescaped front) {before rest : Text} :
    StopsAt (front ++ before) rest ↔ StopsAt before rest := by
  rw [StopsAt, ClosesAt, BreaksAt, h.append_iff]
  rfl

/-- A string ends where it did behind a part that leaves nothing escaped and in which it
    goes on. -/
theorem Ends.extend {text front : Text} {body : StringBody} (h : Ends text body)
    (unescaped : EndsUnescaped front)
    (inside : ∀ {b r : Text}, front ++ text = b ++ r → b.length < front.length → ¬ StopsAt b r) :
    Ends (front ++ text) (body.extend front) := by
  cases h with
  | closed first => exact .closed (first.behind (stopsAt_append unescaped) inside)
  | broken first =>
    have still := Ends.broken (first.behind (stopsAt_append unescaped) inside)
    rwa [List.append_assoc] at still
  | unclosed none =>
    exact .unclosed (Text.not_hasPlace_behind none (stopsAt_append unescaped) inside)

/-- A string stops at once at a quote, and at a backslash before a line feed. -/
theorem stopsAt_nil_iff {text : Text} :
    StopsAt [] text ↔ ['"'] <+: text ∨ ['\\', '\n'] <+: text := by
  simp only [StopsAt, ClosesAt, BreaksAt, endsUnescaped_nil, true_and]

theorem not_stopsAt_plain {c : Char} {text : Text} (quote : c ≠ '"') (backslash : c ≠ '\\') :
    ¬ StopsAt [] (c :: text) := by
  rw [stopsAt_nil_iff, List.cons_prefix_cons, List.cons_prefix_cons]
  rintro (⟨same, -⟩ | ⟨same, -⟩)
  · exact quote same.symm
  · exact backslash same.symm

theorem not_stopsAt_escape {text b r : Text} (h : ¬ ['\n'] <+: text)
    (split : '\\' :: text = b ++ r) (inside : b.length < 2) : ¬ StopsAt b r := by
  obtain _ | ⟨c, _ | ⟨d, b⟩⟩ := b
  · obtain rfl : '\\' :: text = r := split
    rw [stopsAt_nil_iff, List.cons_prefix_cons, List.cons_prefix_cons]
    rintro (⟨same, -⟩ | ⟨-, feed⟩)
    · exact absurd same (by decide)
    · exact h feed
  · obtain ⟨rfl, rfl⟩ := List.cons.inj split
    -- The backslash escapes what follows it.
    rintro (⟨unescaped, -⟩ | ⟨unescaped, -⟩) <;> exact absurd unescaped (by decide)
  · rw [List.length_cons, List.length_cons] at inside
    omega

/-- Where a string stops at once is the first place. -/
theorem firstPlace_nil {text : Text} (h : StopsAt [] text) : FirstPlace StopsAt text [] text :=
  ⟨rfl, h, fun _ _ _ _ => Nat.zero_le _⟩

/-- Reading a string stops at the first quote that is not escaped, at the first line feed
    that is, or at the end. -/
theorem ends_read (text : Text) : Ends text (StringBody.read text) := by
  fun_induction StringBody.read text with
  | case1 =>
    refine .unclosed ?_
    rintro ⟨before, rest, split, stops⟩
    obtain ⟨rfl, rfl⟩ := List.append_eq_nil_iff.1 split.symm
    exact absurd stops (by simp [stopsAt_nil_iff])
  | case2 rest => exact .closed (firstPlace_nil (stopsAt_nil_iff.2 (.inl ⟨rest, rfl⟩)))
  | case3 =>
    refine .unclosed ?_
    rintro ⟨before, rest, split, stops⟩
    have length : 1 = before.length + rest.length := by
      rw [← List.length_append, ← split]
      rfl
    exact not_stopsAt_escape (by simp) split (by omega) stops
  | case4 rest => exact .broken (firstPlace_nil (stopsAt_nil_iff.2 (.inr ⟨rest, rfl⟩)))
  | case5 c rest lineFeed ih =>
    refine ih.extend (endsUnescaped_escape c) fun split inside => ?_
    refine not_stopsAt_escape ?_ split inside
    rintro ⟨_, same⟩
    exact lineFeed (List.cons.inj same).1.symm
  | case6 c rest quote single feed escape ih =>
    have backslash : c ≠ '\\' := by
      rintro rfl
      cases rest with
      | nil => exact single rfl rfl
      | cons d rest => exact escape d rest rfl rfl
    refine ih.extend (endsUnescaped_plain backslash) fun split inside => ?_
    obtain rfl := List.eq_nil_of_length_eq_zero (Nat.lt_one_iff.1 inside)
    obtain rfl := split
    exact not_stopsAt_plain (fun same => quote same) backslash

theorem Extent.unique {text : Text} {body other : StringBody} (h : Extent text body)
    (h' : Extent text other) : body = other := by
  cases h with
  | closed first =>
    cases h' with
    | closed first' =>
      obtain ⟨rfl, same⟩ := first.unique first'
      rw [(List.cons.inj same).2]
    | unclosed none => exact absurd first.hasPlace none
  | unclosed none =>
    cases h' with
    | closed first' => exact absurd first'.hasPlace none
    | unclosed => rfl

/-- A string ends where it should, unless it stops at a line feed. -/
theorem Ends.extent_iff {text : Text} {body : StringBody} (h : Ends text body) :
    Extent text body ↔
      ¬ ∃ content rest, FirstPlace StopsAt text content rest ∧ BreaksAt content rest := by
  constructor
  · rintro extent ⟨content, rest, stop, broken⟩
    obtain ⟨behind, rfl⟩ := broken.2
    cases h with
    | closed first => cases (first.unique stop).2
    | broken => cases extent
    | unclosed none => exact none stop.hasPlace
  · intro whole
    cases h with
    | closed first =>
      have closes : ClosesAt _ _ := first.holds.resolve_right fun broken =>
        whole ⟨_, _, first, broken⟩
      exact .closed ⟨first.split, closes, fun _ _ split closes => first.first _ _ split (.inl closes)⟩
    | @broken content rest first =>
      have broken : BreaksAt content ('\\' :: '\n' :: rest) := by
        refine first.holds.resolve_left fun closes => ?_
        exact absurd (List.cons_prefix_cons.1 closes.2).1 (by decide)
      exact absurd ⟨_, _, first, broken⟩ whole
    | unclosed none =>
      exact .unclosed fun ⟨content, rest, split, closes⟩ =>
        none ⟨content, rest, split, .inl closes⟩

/-! ## Strings of a query -/

/-- Wherever a token begins at a quote, the query goes on with a string: a quote, what the
    string holds unless that is empty, a quote again where one closes the string, and the
    tokens of what is left. The string has the extent that it should have, unless it
    stops at a backslash before a line feed. -/
theorem tokenize_string {source before text : Text}
    (h : Lexical.Reaches source before ('"' :: text)) :
    ∃ front body, Token.textAll front = before ∧
      tokenize source = front ++ .quote :: (body.tokens ++ tokenize body.rest) ∧
      Ends text body ∧
      (Extent text body ↔
        ¬ ∃ content rest, FirstPlace StopsAt text content rest ∧ BreaksAt content rest) := by
  obtain ⟨front, whole, tokens⟩ := h.tokenize
  have ends := ends_read text
  refine ⟨front, StringBody.read text, whole, ?_, ends, ends.extent_iff⟩
  rw [tokens, tokenize]

/-- A string behind a word, with a quote and a backslash escaped in it, ends before the
    blank. -/
theorem tokenize_string_behindWord :
    let text := ['\\', '"', '\\', '\\', '"', ' ', 'b']
    let source := 'a' :: '"' :: text
    Lexical.Reaches source ['a'] ('"' :: text) ∧
      (∃ front body, Token.textAll front = ['a'] ∧
        tokenize source = front ++ .quote :: (body.tokens ++ tokenize body.rest) ∧
        Ends text body ∧ Extent text body) ∧
      tokenize source =
        [.word ['a'], .quote, .content ['\\', '"', '\\', '\\'], .quote, .blank [' '],
          .word ['b']] := by
  intro text source
  have word : Lexical.LongestMatch source .word ['a'] ('"' :: text) :=
    Lexical.longestMatch (.word (by decide) (by decide) rfl) rfl (by decide)
  have reaches : Lexical.Reaches source (['a'] ++ []) ('"' :: text) := .piece word .start
  obtain ⟨front, body, before, tokens, ends, extent⟩ := tokenize_string reaches
  have unbroken :
      ¬ ∃ content rest, FirstPlace StopsAt text content rest ∧ BreaksAt content rest := by
    rintro ⟨content, _, stop, -, rest, rfl⟩
    have feed : '\n' ∈ text := by
      rw [stop.split]
      simp
    exact absurd feed (by decide)
  exact ⟨reaches, ⟨front, body, before, tokens, ends, extent.2 unbroken⟩, by decide +kernel⟩

/-- A string that has a backslash before a line feed is over there, although a quote
    follows. -/
theorem tokenize_string_lineFeed :
    let text := ['a', '\\', '\n', '"']
    Lexical.Reaches ('"' :: text) [] ('"' :: text) ∧
      Extent text ⟨['a', '\\', '\n'], true, []⟩ ∧
      tokenize ('"' :: text) = [.quote, .content ['a', '\\'], .blank ['\n'], .quote] ∧
      ∀ body, Extent text body →
        tokenize ('"' :: text) ≠ .quote :: (body.tokens ++ tokenize body.rest) := by
  intro text
  have extent : Extent text ⟨['a', '\\', '\n'], true, []⟩ := by
    refine .closed ⟨rfl, ⟨by decide, [], rfl⟩, ?_⟩
    intro before rest split closes
    obtain ⟨behind, rfl⟩ := closes.2
    obtain _ | ⟨_, _ | ⟨_, _ | ⟨_, before⟩⟩⟩ := before
    · simp [text] at split
    · simp [text] at split
    · simp [text] at split
    · simp
  have tokens :
      tokenize ('"' :: text) = [.quote, .content ['a', '\\'], .blank ['\n'], .quote] := by
    decide +kernel
  refine ⟨.start, extent, tokens, ?_⟩
  intro body should
  rw [tokens, should.unique extent]
  decide +kernel

end Flashcard.Query
