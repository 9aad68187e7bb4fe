import Flashcard.Proofs.Query.Border
import Flashcard.Proofs.Query.Fragment
import Flashcard.Proofs.Query.Printing

/-!
# Replacing the end of a query

Where a token of a query begins, something else can be put in place of all that follows. The
tokens in front stay as they are if the new text begins with a character of the same class: a
run of blanks or letters would go on otherwise, and the line feed behind a string that is not
closed has to stay. Only a word behind the mark of a filter does not begin a new token.

Results:
* `StringBody.read_replace`: a string does not depend on what follows it.
* `tokenize_replace`: the tokens in front of what is replaced.
-/

namespace Flashcard.Query

/-! ## Texts that begin alike -/

/-- Characters that go on with a token, or end one, in the same way. -/
structure Alike (c d : Char) : Prop where
  isBlank_eq : Unicode.isBlank d = Unicode.isBlank c
  isWordChar_eq : isWordChar d = isWordChar c
  lineFeed : c = '\n' → d = '\n'

/-- Both texts begin with a character, and these are alike. -/
def BeginAlike (a b : Text) : Prop := ∃ c ∈ a.head?, ∃ d ∈ b.head?, Alike c d

theorem BeginAlike.append {a b : Text} (h : BeginAlike a b) (more : Text) :
    BeginAlike (a ++ more) b := by
  obtain ⟨c, first, d, other, alike⟩ := h
  refine ⟨c, ?_, d, other, alike⟩
  rw [List.head?_append, Option.mem_def.1 first]
  rfl

theorem BeginAlike.behind {a b : Text} (h : BeginAlike a b) (front : Text) :
    BeginAlike (front ++ a) (front ++ b) := by
  cases front with
  | nil => exact h
  | cons c front => exact ⟨c, rfl, c, rfl, rfl, rfl, id⟩

/-- A property of the first character that both texts share. -/
theorem BeginAlike.head {a b : Text} (h : BeginAlike a b) {p : Char → Bool}
    (same : ∀ {c d}, Alike c d → p d = p c) (stop : ∀ c ∈ a.head?, p c = false) :
    ∀ d ∈ b.head?, p d = false := by
  intro d first
  obtain ⟨c, head, other, here, alike⟩ := h
  obtain rfl := Option.mem_unique first here
  rw [same alike, stop c head]

/-! ## Strings -/

/-- A string does not depend on what follows it, but for the line feed behind a backslash. -/
theorem StringBody.read_replace {text more : Text} (h : BeginAlike (read text).rest more) :
    read ((read text).content ++ ((read text).close ++ more)) =
      ⟨(read text).content, (read text).closed, more⟩ := by
  fun_induction read text with
  | case1 | case3 =>
    obtain ⟨c, none, -⟩ := h
    cases none
  | case2 rest => rfl
  | case4 rest =>
    obtain ⟨c, line, d, first, alike⟩ := h
    obtain rfl := alike.lineFeed (Option.some.inj line).symm
    obtain ⟨more, rfl⟩ := List.head?_eq_some_iff.1 first
    rfl
  | case5 c rest line ih =>
    show read ('\\' :: c :: ((read rest).content ++ ((read rest).close ++ more))) = _
    rw [read, ih h]
    · rfl
    · exact line
  | case6 c rest quote alone line escape ih =>
    have plain : c ≠ '\\' := by
      rintro rfl
      cases rest with
      | nil => exact alone rfl rfl
      | cons d rest => exact escape d rest rfl rfl
    show read (c :: ((read rest).content ++ ((read rest).close ++ more))) = _
    rw [read, ih h]
    · rfl
    · exact quote
    · exact fun same _ => plain same
    · exact fun _ same _ => plain same
    · exact fun _ _ same _ => plain same

/-! ## Tokens in front -/

theorem exists_part {first later front behind : List Token} {next : Token}
    (h : first ++ later = front ++ next :: behind) :
    (∃ between, front = first ++ between ∧ later = between ++ next :: behind) ∨
      ∃ between, first = front ++ next :: between := by
  obtain ⟨between, rfl, rest⟩ | ⟨between, rfl, rest⟩ := List.append_eq_append_iff.1 h
  · exact .inl ⟨between, rfl, rest⟩
  · cases between with
    | nil => exact .inl ⟨[], by rw [List.append_nil, List.append_nil], rest.symm⟩
    | cons token between =>
      obtain ⟨rfl, -⟩ := List.cons.inj rest
      exact .inr ⟨between, rfl⟩

/-- The text behind the first tokens, and another one in the place of its end. -/
theorem beginAlike_rest {rest more : Text} {front behind : List Token} {next : Token}
    (h : tokenize rest = front ++ next :: behind) (alike : BeginAlike next.text more) :
    BeginAlike rest (Token.textAll front ++ more) := by
  rw [← textAll_tokenize rest, h, Token.textAll_append, Token.textAll_cons]
  exact (alike.append _).behind _

/-- Kinds of the marks of filters. -/
def markKinds : List Kind := [.tagMark, .deckMark, .templateMark]

theorem StringBody.kind_of_mem_tokens (body : StringBody) :
    ∀ token ∈ body.tokens, token.kind = .stringContent ∨ token.kind = .doubleQuote := by
  obtain ⟨content, closed, rest⟩ := body
  cases content <;> cases closed <;> simp [tokens, Token.kind]

theorem tokenize_quote_append {rest more : Text} (h : BeginAlike (StringBody.read rest).rest more) :
    tokenize ('"' :: (Token.textAll (StringBody.read rest).tokens ++ more)) =
      .quote :: ((StringBody.read rest).tokens ++ tokenize more) := by
  rw [StringBody.textAll_tokens, List.append_assoc, tokenize, StringBody.read_replace h]
  rfl

theorem tokenize_blank_run {c : Char} (blank : Unicode.isBlank c = true) {run more : Text}
    (all : run.all Unicode.isBlank = true) (stop : ∀ d ∈ more.head?, Unicode.isBlank d = false) :
    tokenize (c :: (run ++ more)) = .blank (c :: run) :: tokenize more := by
  have ends : more.takeWhile Unicode.isBlank = [] ∧ more.dropWhile Unicode.isBlank = more := by
    cases more with
    | nil => exact ⟨rfl, rfl⟩
    | cons d more =>
      have unblank : ¬ Unicode.isBlank d = true := Bool.eq_false_iff.1 (stop d rfl)
      exact ⟨List.takeWhile_cons_of_neg unblank, List.dropWhile_cons_of_neg unblank⟩
  rw [List.all_eq_true] at all
  rw [tokenize_blank blank, List.takeWhile_append_of_pos all, List.dropWhile_append_of_pos all,
    ends.1, ends.2, List.append_nil]

/-- In front of a token that a word is cut into stands nothing, or the mark of a filter and the
    token is what is left of the word. -/
theorem nil_or_mark_of_wordTokens {text : Text} {front behind : List Token} {next : Token}
    (h : wordTokens text = front ++ next :: behind) :
    front = [] ∨ next.kind = .word ∧ ∃ last ∈ front.getLast?, last.kind ∈ markKinds := by
  cases front with
  | nil => exact .inl rfl
  | cons first front =>
    right
    rw [wordTokens] at h
    split at h
    · cases front <;> cases (List.cons.inj h).2
    · split at h
      · cases front <;> cases (List.cons.inj h).2
      · rename_i field _
        obtain ⟨rfl, value⟩ := List.cons.inj h
        split at value
        · cases front <;> cases value
        · cases front with
          | nil =>
            obtain ⟨rfl, -⟩ := List.cons.inj value
            refine ⟨rfl, _, rfl, ?_⟩
            cases field <;> exact of_decide_eq_true rfl
          | cons second front => cases front <;> cases (List.cons.inj value).2

/-- The tokens of a query in front of a word or a run of blanks stay as they are when something
    that begins alike is put in place of all that follows. -/
theorem tokenize_replace {source more : Text} {front behind : List Token} {next : Token}
    (h : tokenize source = front ++ next :: behind)
    (kind : next.kind = .word ∨ next.kind = .whitespace)
    (free : next.kind = .word → ∀ last ∈ front.getLast?, last.kind ∉ markKinds)
    (alike : BeginAlike next.text more) :
    tokenize (Token.textAll front ++ more) = front ++ tokenize more := by
  have behindFirst (first : List Token) {between : List Token}
      (unbound : next.kind = .word → ∀ last ∈ (first ++ between).getLast?, last.kind ∉ markKinds) :
      next.kind = .word → ∀ last ∈ between.getLast?, last.kind ∉ markKinds := by
    intro word last mem
    refine unbound word last ?_
    rw [List.getLast?_append, Option.mem_def.1 mem]
    rfl
  fun_induction tokenize source generalizing front with
  | case1 => cases front <;> cases h
  | case2 rest ih | case3 rest ih | case4 rest ih =>
    cases front with
    | nil => rfl
    | cons first front =>
      obtain ⟨rfl, later⟩ := List.cons.inj h
      show tokenize (_ :: (Token.textAll front ++ more)) = _
      rw [tokenize, ih later (behindFirst [_] free)]
      rfl
  | case5 rest ih =>
    cases front with
    | nil => rfl
    | cons first front =>
      obtain ⟨rfl, later⟩ := List.cons.inj h
      obtain ⟨between, rfl, others⟩ | ⟨between, inString⟩ := exists_part later
      · have goesOn := ih others (behindFirst (.quote :: (StringBody.read rest).tokens) free)
        have cut := tokenize_quote_append (beginAlike_rest others alike)
        rw [goesOn] at cut
        rw [Token.textAll_cons, Token.textAll_append, List.append_assoc, List.append_assoc]
        rw [List.cons_append, List.append_assoc, ← cut]
        rfl
      · have mem : next ∈ (StringBody.read rest).tokens := by
          rw [inString]
          exact List.mem_append_right _ List.mem_cons_self
        have inside := StringBody.kind_of_mem_tokens _ next mem
        obtain kind | kind := kind <;> simp [kind] at inside
  | case6 c rest opening closing minus quote blank ih =>
    cases front with
    | nil => rfl
    | cons first front =>
      obtain ⟨rfl, later⟩ := List.cons.inj h
      have run : (rest.takeWhile Unicode.isBlank).all Unicode.isBlank = true := List.all_takeWhile
      have stop := (beginAlike_rest later alike).head Alike.isBlank_eq eq_false_of_head?_dropWhile
      have cut := tokenize_blank_run blank run stop
      rw [ih later (behindFirst [_] free)] at cut
      rw [Token.textAll_cons, List.append_assoc, List.cons_append, ← cut]
      rfl
  | case7 c rest opening closing minus quote blank ih =>
    obtain ⟨between, rfl, later⟩ | ⟨between, inWord⟩ := exists_part h
    · have hc : isWordChar c = true := by
        rw [isWordChar, Bool.eq_false_iff.2 blank]
        simpa using ⟨⟨opening, closing⟩, quote⟩
      have stop := (beginAlike_rest later alike).head Alike.isWordChar_eq eq_false_of_head?_dropWhile
      have letters : (rest.takeWhile isWordChar).all isWordChar = true := List.all_takeWhile
      have cut := Abstract.tokenize_word hc minus letters stop
      rw [ih later (behindFirst (wordTokens _) free)] at cut
      rw [Token.textAll_append, textAll_wordTokens, List.append_assoc, List.append_assoc, ← cut]
      rfl
    · obtain rfl | ⟨word, last, mem, mark⟩ := nil_or_mark_of_wordTokens inWord
      · rfl
      · exact absurd mark (free word last mem)

end Flashcard.Query
