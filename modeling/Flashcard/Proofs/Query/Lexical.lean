import Flashcard.Proofs.Syntax.Tiling
import Flashcard.Query.Token

/-!
# Longest pieces of a query

A query is cut where the longest piece that a pattern matches ends, and then
again behind that piece. Only afterwards are strings cut at their quotes and
words at the mark of a filter. A character that begins no piece would be garbage,
together with those around it.

Results:
* `Body.read_append`: reading a string goes through any body in front of it.
* `Matches.length_le`: no piece is longer than the one that is read.
* `Cuts.unique`: a query is cut in one way.
* `lexes_iff`: cutting a query piece by piece gives its tokens.
-/

namespace Flashcard.Query

/-- Kind and text of a token. -/
def Token.pair (token : Token) : Kind × Text := (token.kind, token.text)

theorem eq_content {token : Token} (h : token.kind = .stringContent) :
    ∃ text, token = .content text := by
  cases token with
  | content text => exact ⟨text, rfl⟩
  | mark field text => cases field <;> cases h
  | _ => cases h

theorem eq_word {token : Token} (h : token.kind = .word) : ∃ text, token = .word text := by
  cases token with
  | word text => exact ⟨text, rfl⟩
  | mark field text => cases field <;> cases h
  | _ => cases h

theorem eq_blank {token : Token} (h : token.kind = .whitespace) :
    ∃ text, token = .blank text := by
  cases token with
  | blank text => exact ⟨text, rfl⟩
  | mark field text => cases field <;> cases h
  | _ => cases h

namespace Lexical

/-! ## Patterns -/

/-- Inside of a string, `(?:[^"\\]|\\.)*`: no bare quote, and a backslash comes
    with the character that it escapes, which is no line feed. -/
inductive Body : Text → Prop
  | nil : Body []
  | plain {c : Char} {rest : Text} : c ≠ '"' → c ≠ '\\' → Body rest → Body (c :: rest)
  | escape {c : Char} {rest : Text} : c ≠ '\n' → Body rest → Body ('\\' :: c :: rest)

/-- The pattern of a kind matches a text. Kinds that are not listed have no
    pattern. -/
inductive Matches : Kind → Text → Prop
  | parenOpen : Matches .parenOpen ['(']
  | parenClose : Matches .parenClose [')']
  | minus : Matches .minus ['-']
  /-- `"(?:[^"\\]|\\.)*"` -/
  | closed {body : Text} : Body body → Matches .stringLiteral ('"' :: (body ++ ['"']))
  /-- `"(?:[^"\\]|\\.)*\\?` without the last backslash. -/
  | unclosed {body : Text} : Body body → Matches .unterminatedStringLiteral ('"' :: body)
  /-- The same pattern with the last backslash. -/
  | dangling {body : Text} : Body body →
      Matches .unterminatedStringLiteral ('"' :: (body ++ ['\\']))
  /-- `[^\s()"\-][^\s()"]*` -/
  | word {c : Char} {rest : Text} : isWordChar c = true → c ≠ '-' →
      rest.all isWordChar = true → Matches .word (c :: rest)
  /-- `\s+` -/
  | blank {c : Char} {rest : Text} : Unicode.isBlank c = true →
      rest.all Unicode.isBlank = true → Matches .whitespace (c :: rest)

/-! ## Cutting a query -/

/-- The source begins with `text`, followed by `rest`, and no pattern matches
    more of it. -/
structure LongestMatch (source : Text) (kind : Kind) (text rest : Text) : Prop where
  isMatch : Matches kind text
  begins : source = text ++ rest
  longest : ∀ {other : Kind} {piece behind : Text},
    Matches other piece → source = piece ++ behind → piece.length ≤ text.length

/-- A character that begins no piece joins the garbage behind it. -/
def addGarbage (c : Char) : List (Kind × Text) → List (Kind × Text)
  | (.garbage, text) :: rest => (.garbage, c :: text) :: rest
  | pieces => (.garbage, [c]) :: pieces

/-- The source falls into these pieces, each one the longest match behind the
    pieces before it. -/
inductive Cuts : Text → List (Kind × Text) → Prop
  | done : Cuts [] []
  | piece {source : Text} {kind : Kind} {text rest : Text} {pieces : List (Kind × Text)} :
      LongestMatch source kind text rest → Cuts rest pieces → Cuts source ((kind, text) :: pieces)
  | unmatched {c : Char} {rest : Text} {pieces : List (Kind × Text)} :
      (∀ {kind : Kind} {text behind : Text}, Matches kind text → c :: rest ≠ text ++ behind) →
      Cuts rest pieces → Cuts (c :: rest) (addGarbage c pieces)

/-- Kind of the mark of a filter. -/
def markKind : FilterField → Kind
  | .tag => .tagMark
  | .deck => .deckMark
  | .template => .templateMark

/-- Parts of a text before and after the mark of a filter, if it begins with that
    mark in any case. As many bytes as the mark has must end between characters. -/
def cutMark? (text : Text) (field : FilterField) : Option (FilterField × Text × Text) :=
  (text.splitAt? field.mark.size).bind fun (mark, value) =>
    if mark.map Char.toLower = field.mark then some (field, mark, value) else none

/-- A token, unless it would be empty. -/
def unlessEmpty (kind : Kind) (text : Text) : List (Kind × Text) :=
  if text = [] then [] else [(kind, text)]

/-- A word as tokens: the keyword, the mark of a filter and its value, or a word
    as it is. -/
def splitWord (text : Text) : List (Kind × Text) :=
  if text = "OR".toList then [(.orKeyword, text)]
  else
    match [.tag, .deck, .template].findSome? (cutMark? text) with
    | some (field, mark, value) => (markKind field, mark) :: unlessEmpty .word value
    | none => [(.word, text)]

/-- A piece as tokens. A string is cut behind its first quote and before its last
    one. -/
def split : Kind × Text → List (Kind × Text)
  | (.stringLiteral, text) =>
    (.doubleQuote, text.take 1) :: (unlessEmpty .stringContent text.tail.dropLast ++
      [(.doubleQuote, text.drop (text.length - 1))])
  | (.unterminatedStringLiteral, text) =>
    (.doubleQuote, text.take 1) :: unlessEmpty .stringContent text.tail
  | (.word, text) => splitWord text
  | piece => [piece]

/-- The source has these tokens. -/
def Lexes (source : Text) (found : List (Kind × Text)) : Prop :=
  ∃ pieces, Cuts source pieces ∧ found = pieces.flatMap split

/-! ## Strings -/

/-- Reading a string goes through a body in front of it. -/
theorem Body.read_append {body : Text} (h : Body body) (rest : Text) :
    StringBody.read (body ++ rest) = (StringBody.read rest).extend body := by
  induction h with
  | nil => rfl
  | @plain c body quote backslash _ ih =>
    rw [List.cons_append, StringBody.read, ih]
    · rfl
    all_goals simp_all
  | @escape c body lineFeed _ ih =>
    rw [List.cons_append, List.cons_append, StringBody.read, ih]
    · rfl
    · exact fun h => lineFeed h

theorem Body.append {a b : Text} (ha : Body a) (hb : Body b) : Body (a ++ b) := by
  induction ha with
  | nil => exact hb
  | plain quote backslash _ ih => exact .plain quote backslash ih
  | escape lineFeed _ ih => exact .escape lineFeed ih

/-- What is read as a string is a body, with a backslash behind it perhaps if
    nothing closes the string. -/
theorem body_read (text : Text) :
    Body (StringBody.read text).content ∨ (StringBody.read text).closed = false ∧
      ∃ body, Body body ∧ (StringBody.read text).content = body ++ ['\\'] := by
  have extend {part : Text} (hp : Body part) {body : StringBody}
      (h : Body body.content ∨ body.closed = false ∧
        ∃ inner, Body inner ∧ body.content = inner ++ ['\\']) :
      Body (body.extend part).content ∨ (body.extend part).closed = false ∧
        ∃ inner, Body inner ∧ (body.extend part).content = inner ++ ['\\'] := by
    obtain whole | ⟨unclosed, inner, hi, content⟩ := h
    · exact .inl (hp.append whole)
    · refine .inr ⟨unclosed, part ++ inner, hp.append hi, ?_⟩
      rw [StringBody.extend_content, content, List.append_assoc]
  fun_induction StringBody.read text with
  | case1 => exact .inl .nil
  | case2 rest => exact .inl .nil
  | case3 => exact .inr ⟨rfl, [], .nil, rfl⟩
  | case4 rest => exact .inr ⟨rfl, [], .nil, rfl⟩
  | case5 c rest lineFeed ih => exact extend (.escape (fun h => lineFeed h) .nil) ih
  | case6 c rest quote single feed escape ih =>
    refine extend (.plain (fun h => quote h) (fun h => ?_) .nil) ih
    subst h
    cases rest with
    | nil => exact single rfl rfl
    | cons d rest => exact escape d rest rfl rfl

/-! ## The longest match -/

theorem Matches.ne_nil {kind : Kind} {text : Text} (h : Matches kind text) : text ≠ [] := by
  cases h <;> exact List.cons_ne_nil _ _

/-- Number of characters of the piece that a text begins with, after its first
    one. -/
def reach (c : Char) (rest : Text) : Nat :=
  if c = '(' ∨ c = ')' ∨ c = '-' then 0
  else if c = '"' then
    (StringBody.read rest).content.length + (StringBody.read rest).close.length
  else if Unicode.isBlank c then (rest.takeWhile Unicode.isBlank).length
  else (rest.takeWhile isWordChar).length

/-- The kind of the piece that a text is, if it is one. -/
def kindOf : Text → Kind
  | [] => .garbage
  | c :: rest =>
    if c = '(' then .parenOpen
    else if c = ')' then .parenClose
    else if c = '-' then .minus
    else if c = '"' then
      if (StringBody.read rest).closed then .stringLiteral else .unterminatedStringLiteral
    else if Unicode.isBlank c then .whitespace
    else .word

theorem ne_of_isWordChar {c : Char} (h : isWordChar c = true) :
    Unicode.isBlank c = false ∧ c ≠ '(' ∧ c ≠ ')' ∧ c ≠ '"' := by
  simpa [isWordChar, and_assoc] using h

theorem ne_of_isBlank {c : Char} (h : Unicode.isBlank c = true) :
    c ≠ '(' ∧ c ≠ ')' ∧ c ≠ '-' ∧ c ≠ '"' := by
  refine ⟨?_, ?_, ?_, ?_⟩ <;> rintro rfl <;> exact absurd h (by decide)

theorem Matches.eq_kindOf {kind : Kind} {text : Text} (h : Matches kind text) :
    kind = kindOf text := by
  cases h with
  | parenOpen | parenClose | minus => rfl
  | @closed body hb =>
    simp [kindOf, hb.read_append, StringBody.read]
  | @unclosed body hb =>
    have := hb.read_append []
    rw [List.append_nil] at this
    simp [kindOf, this, StringBody.read]
  | @dangling body hb =>
    simp [kindOf, hb.read_append, StringBody.read]
  | @word c rest hc minus _ =>
    obtain ⟨blank, opening, closing, quote⟩ := ne_of_isWordChar hc
    simp [kindOf, blank, opening, closing, quote, minus]
  | @blank c rest hc _ =>
    obtain ⟨opening, closing, minus, quote⟩ := ne_of_isBlank hc
    simp [kindOf, hc, opening, closing, quote, minus]

theorem length_le_takeWhile {p : Char → Bool} {text : Text} (h : text.all p = true)
    (behind : Text) : text.length ≤ ((text ++ behind).takeWhile p).length := by
  rw [List.takeWhile_append_of_pos (List.all_eq_true.1 h), List.length_append]
  omega

/-- No piece at the start of a text is longer than the one that is read. -/
theorem Matches.length_le {kind : Kind} {c : Char} {piece : Text} (h : Matches kind (c :: piece))
    (behind : Text) : piece.length ≤ reach c (piece ++ behind) := by
  cases h with
  | parenOpen | parenClose | minus => exact Nat.zero_le _
  | @closed body hb =>
    rw [List.append_assoc, reach, hb.read_append]
    simp [StringBody.read, StringBody.close]
  | unclosed hb =>
    rw [reach, hb.read_append]
    simp
    omega
  | @dangling body hb =>
    have one : 1 ≤ (StringBody.read ('\\' :: behind)).content.length := by
      obtain _ | ⟨d, behind⟩ := behind
      · exact Nat.le_refl _
      · by_cases feed : d = '\n'
        · subst feed
          exact Nat.le_refl _
        · rw [StringBody.read]
          · simp
          · exact feed
    rw [List.append_assoc, reach, hb.read_append]
    simp
    omega
  | word hc minus all =>
    obtain ⟨blank, opening, closing, quote⟩ := ne_of_isWordChar hc
    rw [reach]
    simp only [blank, opening, closing, quote, minus, or_self, if_false, Bool.false_eq_true]
    exact length_le_takeWhile all behind
  | blank hc all =>
    obtain ⟨opening, closing, minus, quote⟩ := ne_of_isBlank hc
    rw [reach]
    simp only [hc, opening, closing, quote, minus, or_self, if_false, if_true]
    exact length_le_takeWhile all behind

/-- A piece that is all that is read is the longest match. -/
theorem longestMatch {kind : Kind} {c : Char} {piece behind rest : Text}
    (h : Matches kind (c :: piece)) (begins : piece ++ behind = rest)
    (all : reach c rest ≤ piece.length) : LongestMatch (c :: rest) kind (c :: piece) behind := by
  refine ⟨h, by rw [List.cons_append, begins], ?_⟩
  intro other found after hm hf
  obtain ⟨d, found, rfl⟩ := List.exists_cons_of_ne_nil hm.ne_nil
  obtain ⟨rfl, rfl⟩ := List.cons.inj hf
  exact Nat.succ_le_succ (Nat.le_trans (hm.length_le after) all)

/-- There is one longest match. -/
theorem LongestMatch.unique {source : Text} {kind other : Kind} {text rest piece behind : Text}
    (h : LongestMatch source kind text rest) (h' : LongestMatch source other piece behind) :
    kind = other ∧ text = piece ∧ rest = behind := by
  have length : text.length = piece.length :=
    Nat.le_antisymm (h'.longest h.isMatch h.begins) (h.longest h'.isMatch h'.begins)
  obtain ⟨rfl, rfl⟩ := List.append_inj (h.begins.symm.trans h'.begins) length
  exact ⟨h.isMatch.eq_kindOf.trans h'.isMatch.eq_kindOf.symm, rfl, rfl⟩

/-- A query is cut in one way. -/
theorem Cuts.unique {source : Text} {pieces others : List (Kind × Text)}
    (h : Cuts source pieces) (h' : Cuts source others) : pieces = others := by
  induction h generalizing others with
  | done =>
    cases h' with
    | done => rfl
    | piece hm _ => exact absurd (List.append_eq_nil_iff.1 hm.begins.symm).1 hm.isMatch.ne_nil
  | piece hm _ ih =>
    cases h' with
    | done => exact absurd (List.append_eq_nil_iff.1 hm.begins.symm).1 hm.isMatch.ne_nil
    | piece hm' tail =>
      obtain ⟨rfl, rfl, rfl⟩ := hm.unique hm'
      rw [ih tail]
    | unmatched other _ => exact absurd hm.begins (other hm.isMatch)
  | unmatched other _ ih =>
    cases h' with
    | piece hm _ => exact absurd hm.begins (other hm.isMatch)
    | unmatched _ tail => rw [ih tail]

/-! ## Pieces as tokens -/

theorem utf8Size_toLower (c : Char) : c.toLower.utf8Size = c.utf8Size := by
  by_cases upper : c.val ≥ 'A'.val ∧ c.val ≤ 'Z'.val
  · have lower : c.toLower.val = c.val + ('a'.val - 'A'.val) := congrArg Char.val (dif_pos upper)
    have ascii : c.val ≤ 127 := UInt32.le_trans upper.2 (by decide)
    have lowered : c.toLower.val ≤ 127 := by
      have := UInt32.le_iff_toNat_le.1 upper.2
      rw [lower, UInt32.le_iff_toNat_le, UInt32.toNat_add]
      simp at this ⊢
      omega
    rw [Char.utf8Size_eq_one_iff.2 ascii, Char.utf8Size_eq_one_iff.2 lowered]
  · rw [show c.toLower = c from dif_neg upper]

theorem size_map_toLower (text : Text) : Text.size (text.map Char.toLower) = text.size := by
  induction text with
  | nil => rfl
  | cons c text ih => rw [List.map_cons, Text.size_cons, Text.size_cons, ih, utf8Size_toLower]

theorem cutMark?_eq (text : Text) (field : FilterField) :
    cutMark? text field =
      if field.begins text then
        some (field, text.take field.mark.length, text.drop field.mark.length)
      else none := by
  rw [cutMark?]
  by_cases h : field.begins text = true
  · have head : (text.take field.mark.length).map Char.toLower = field.mark := of_decide_eq_true h
    have size : Text.size (text.take field.mark.length) = field.mark.size := by
      rw [← size_map_toLower, head]
    have cut := Text.splitAt?_append (text.take field.mark.length) (text.drop field.mark.length)
    rw [List.take_append_drop, size] at cut
    rw [cut, if_pos h]
    exact if_pos head
  · rw [if_neg h, Option.bind_eq_none_iff]
    rintro ⟨mark, value⟩ cut
    obtain ⟨rfl, -⟩ := Text.splitAt?_eq_some cut
    refine if_neg fun head => h ?_
    have length : field.mark.length = mark.length := by rw [← head, List.length_map]
    rw [FilterField.begins, length, List.take_left, head]
    exact decide_eq_true rfl

theorem unlessEmpty_eq {kind : Kind} {make : Text → Token}
    (h : ∀ text, (make text).pair = (kind, text)) (text : Text) :
    unlessEmpty kind text = (if text = [] then [] else [make text]).map Token.pair := by
  rw [unlessEmpty]
  split
  · rfl
  · rw [List.map_singleton, h]

theorem splitWord_eq (text : Text) : splitWord text = (wordTokens text).map Token.pair := by
  rw [splitWord, wordTokens]
  by_cases keyword : text = ['O', 'R']
  · subst keyword
    rfl
  · have found : [FilterField.tag, .deck, .template].findSome? (cutMark? text) =
        (FilterField.ofStart? text).map fun field =>
          (field, text.take field.mark.length, text.drop field.mark.length) := by
      rw [FilterField.ofStart?, List.find?_eq_findSome?_guard, List.map_findSome?]
      congr 1
      funext field
      rw [cutMark?_eq, Function.comp, Option.guard]
      split <;> rfl
    rw [if_neg keyword, if_neg (by simpa using keyword), found]
    cases FilterField.ofStart? text with
    | none => rfl
    | some field =>
      show _ :: _ = _ :: _
      rw [unlessEmpty_eq (fun text => show (Token.word text).pair = _ from rfl)]
      cases field <;> rfl

/-- Kind of a string. -/
def stringKind (body : StringBody) : Kind :=
  if body.closed then .stringLiteral else .unterminatedStringLiteral

/-- Characters of a string. -/
def stringText (body : StringBody) : Text := '"' :: (body.content ++ body.close)

theorem split_string (body : StringBody) :
    split (stringKind body, stringText body) = (Token.quote :: body.tokens).map Token.pair := by
  obtain ⟨content, closed, rest⟩ := body
  rw [List.map_cons, StringBody.tokens, List.map_append,
    ← unlessEmpty_eq fun text => show (Token.content text).pair = _ from rfl]
  cases closed with
  | true =>
    show _ :: (unlessEmpty _ (content ++ ['"']).dropLast ++ [(_, List.drop _ _)]) = _
    rw [List.dropLast_concat]
    simp [stringText, StringBody.close, Token.pair, Token.kind, Token.text]
  | false =>
    show _ :: unlessEmpty _ (content ++ []) = _
    rw [List.append_nil]
    exact congrArg _ (List.append_nil _).symm

/-! ## Tokens -/

/-- A string is the longest match behind its quote. -/
theorem longestMatch_string (rest : Text) :
    LongestMatch ('"' :: rest) (stringKind (StringBody.read rest))
      (stringText (StringBody.read rest)) (StringBody.read rest).rest := by
  have isMatch :
      Matches (stringKind (StringBody.read rest)) (stringText (StringBody.read rest)) := by
    rw [stringKind, stringText, StringBody.close]
    cases closed : (StringBody.read rest).closed with
    | true =>
      obtain whole | ⟨unclosed, -⟩ := body_read rest
      · exact .closed whole
      · exact absurd (closed.symm.trans unclosed) Bool.noConfusion
    | false =>
      rw [if_neg Bool.false_ne_true, if_neg Bool.false_ne_true, List.append_nil]
      obtain whole | ⟨-, body, hb, content⟩ := body_read rest
      · exact .unclosed whole
      · rw [content]
        exact .dangling hb
  have text := StringBody.content_close_rest rest
  rw [← List.append_assoc] at text
  refine longestMatch isMatch text ?_
  rw [List.length_append]
  exact Nat.le_refl _

theorem longestMatch_run {kind : Kind} {c : Char} {rest : Text} {p : Char → Bool}
    (h : Matches kind (c :: rest.takeWhile p)) (all : reach c rest = (rest.takeWhile p).length) :
    LongestMatch (c :: rest) kind (c :: rest.takeWhile p) (rest.dropWhile p) :=
  longestMatch h List.takeWhile_append_dropWhile (Nat.le_of_eq all)

/-- The pieces of the rest, with the longest match in front of them. -/
theorem cuts_cons {source : Text} {kind : Kind} {text rest : Text} {others : List Token}
    (h : LongestMatch source kind text rest) (tokens : List Token)
    (first : split (kind, text) = tokens.map Token.pair)
    (pieces : ∃ pieces, Cuts rest pieces ∧ pieces.flatMap split = others.map Token.pair) :
    ∃ pieces, Cuts source pieces ∧ pieces.flatMap split = (tokens ++ others).map Token.pair := by
  obtain ⟨pieces, cuts, found⟩ := pieces
  refine ⟨(kind, text) :: pieces, .piece h cuts, ?_⟩
  rw [List.flatMap_cons, first, found, List.map_append]

/-- The pieces of a query as tokens are its tokens. -/
theorem cuts_tokenize (source : Text) :
    ∃ pieces, Cuts source pieces ∧ pieces.flatMap split = (tokenize source).map Token.pair := by
  fun_induction tokenize source with
  | case1 => exact ⟨[], .done, rfl⟩
  | case2 rest ih =>
    exact cuts_cons (longestMatch .parenOpen rfl (Nat.le_refl 0)) [.parenOpen] rfl ih
  | case3 rest ih =>
    exact cuts_cons (longestMatch .parenClose rfl (Nat.le_refl 0)) [.parenClose] rfl ih
  | case4 rest ih =>
    exact cuts_cons (longestMatch .minus rfl (Nat.le_refl 0)) [.minus] rfl ih
  | case5 rest ih => exact cuts_cons (longestMatch_string rest) (.quote :: _) (split_string _) ih
  | case6 c rest opening closing minus quote blank ih =>
    have all : reach c rest = (rest.takeWhile Unicode.isBlank).length := by
      rw [reach, if_neg (not_or.2 ⟨opening, not_or.2 ⟨closing, minus⟩⟩), if_neg quote, if_pos blank]
    have run := longestMatch_run (.blank blank List.all_takeWhile) all
    exact cuts_cons run [.blank _] rfl ih
  | case7 c rest opening closing minus quote blank ih =>
    have all : reach c rest = (rest.takeWhile isWordChar).length := by
      rw [reach, if_neg (not_or.2 ⟨opening, not_or.2 ⟨closing, minus⟩⟩), if_neg quote, if_neg blank]
    have word : isWordChar c = true := by
      rw [isWordChar, Bool.eq_false_iff.2 blank]
      simpa using ⟨⟨opening, closing⟩, quote⟩
    have run := longestMatch_run (.word word minus List.all_takeWhile) all
    exact cuts_cons run _ (splitWord_eq _) ih

/-- Cutting a query piece by piece, and then strings and words, gives its
    tokens. -/
theorem lexes_iff (source : Text) (found : List (Kind × Text)) :
    Lexes source found ↔ found = (tokenize source).map Token.pair := by
  obtain ⟨pieces, cuts, tokens⟩ := cuts_tokenize source
  constructor
  · rintro ⟨others, h, rfl⟩
    rw [h.unique cuts, tokens]
  · rintro rfl
    exact ⟨pieces, cuts, tokens.symm⟩

end Lexical

end Flashcard.Query
