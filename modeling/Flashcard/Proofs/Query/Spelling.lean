import Flashcard.Proofs.Query.Lossless

/-!
# Characters of the tokens of a query

Which characters a token of a query consists of. Only the content of a string may hold any
characters; a run of blanks holds blanks, and a word and the mark of a filter hold characters
of words.

Results:
* `spelled_of_mem`: the characters of every token of a query.
* `exists_cons_of_mem`: no token begins with a blank but a run of blanks and the content of a
  string.
-/

namespace Flashcard.Query

/-- The characters that a token of its sort consists of. -/
def Token.Spelled : Token → Prop
  | blank text => text.all Unicode.isBlank = true
  | word text => text.all isWordChar = true
  | mark field text => text.all isWordChar = true ∧ text.map Char.toLower = field.mark
  | _ => True

theorem StringBody.spelled_tokens (body : StringBody) :
    ∀ token ∈ body.tokens, token.Spelled := by
  obtain ⟨content, closed, rest⟩ := body
  cases content <;> cases closed <;> simp [tokens, Token.Spelled]

/-- What a word is cut into consists of its characters. -/
theorem spelled_wordTokens {text : Text} (h : text.all isWordChar = true) :
    ∀ token ∈ wordTokens text, token.Spelled := by
  have part {part : Text} (sub : part ⊆ text) : part.all isWordChar = true :=
    List.all_eq_true.2 fun c mem => List.all_eq_true.1 h c (sub mem)
  rw [wordTokens]
  split
  · exact List.forall_mem_singleton.2 trivial
  · split
    · exact List.forall_mem_singleton.2 h
    · rename_i field start
      have begins := List.find?_some start
      refine List.forall_mem_cons.2
        ⟨⟨part (List.take_subset ..), of_decide_eq_true begins⟩, fun token mem => ?_⟩
      split at mem
      · cases mem
      · rw [List.mem_singleton.1 mem]
        exact part (List.drop_subset ..)

/-- Every token of a query consists of characters of its sort. -/
theorem spelled_of_mem {source : Text} {token : Token} (h : token ∈ tokenize source) :
    token.Spelled := by
  fun_induction tokenize source with
  | case1 => cases h
  | case2 rest ih | case3 rest ih | case4 rest ih =>
    obtain rfl | behind := List.mem_cons.1 h
    · trivial
    · exact ih behind
  | case5 rest ih =>
    obtain rfl | behind := List.mem_cons.1 h
    · trivial
    · obtain body | behind := List.mem_append.1 behind
      · exact (StringBody.read rest).spelled_tokens token body
      · exact ih behind
  | case6 c rest _ _ _ _ blank ih =>
    obtain rfl | behind := List.mem_cons.1 h
    · show (c :: rest.takeWhile Unicode.isBlank).all Unicode.isBlank = true
      rw [List.all_cons, blank, List.all_takeWhile]
      rfl
    · exact ih behind
  | case7 c rest opening closing minus quote blank ih =>
    obtain word | behind := List.mem_append.1 h
    · refine spelled_wordTokens ?_ token word
      have first : isWordChar c = true := by
        rw [isWordChar, Bool.eq_false_iff.2 blank]
        simpa using ⟨⟨opening, closing⟩, quote⟩
      rw [List.all_cons, first, List.all_takeWhile]
      rfl
    · exact ih behind

theorem isBlank_of_isWordChar {c : Char} (h : isWordChar c = true) : Unicode.isBlank c = false :=
  (Lexical.ne_of_isWordChar h).1

/-- A token begins with a character that is no blank, unless it is a run of blanks or the
    content of a string. -/
theorem exists_cons_of_mem {source : Text} {token : Token} (h : token ∈ tokenize source)
    (noBlank : token.isBlank = false) (noContent : token.kind ≠ .stringContent) :
    ∃ c rest, token.text = c :: rest ∧ Unicode.isBlank c = false := by
  have spelled := spelled_of_mem h
  have filled := text_ne_nil h
  have ofWord {text : Text} (some : text ≠ []) (all : text.all isWordChar = true) :
      ∃ c rest, text = c :: rest ∧ Unicode.isBlank c = false := by
    obtain ⟨c, rest, rfl⟩ := List.exists_cons_of_ne_nil some
    rw [List.all_cons, Bool.and_eq_true] at all
    exact ⟨c, rest, rfl, isBlank_of_isWordChar all.1⟩
  cases token with
  | blank text => cases noBlank
  | content text => exact absurd rfl noContent
  | word text => exact ofWord filled spelled
  | mark field text => exact ofWord filled spelled.1
  | parenOpen | parenClose | minus | quote | orKeyword => exact ⟨_, _, rfl, by decide⟩

end Flashcard.Query
