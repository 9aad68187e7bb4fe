import Flashcard.Proofs.Query.Recovery
import Flashcard.Proofs.Query.Spelling
import Flashcard.Query.Completion
import Mathlib.Data.List.Chain

/-!
# Fragments of words

What a completion replaces is read from the text alone: the letters, digits and underscores to
the left of the cursor. Blanks, brackets, quotes and minus signs are none of these, and neither
is the colon of a mark. A word never stands right behind another one, so this run of characters
does not go on in front of the word that the cursor stands in.

Results:
* `isFragmentChar_of_isBlank`: a blank belongs to no word that is completed.
* `exists_fragment`: the longest run of word characters at the end of a text.
* `isChain_tokenize`: which tokens can stand right in front of a word.
* `fragmentBefore_in_word`: within a word, the run lies in the word.
-/

namespace Flashcard

namespace Unicode

theorem exists_of_inRanges {table : List (Nat × Nat)} {c : Char} (h : inRanges table c = true) :
    ∃ range ∈ table, range.1 ≤ c.toNat ∧ c.toNat ≤ range.2 := by
  induction table with
  | nil => cases h
  | cons range table ih =>
    obtain ⟨low, inside⟩ := Bool.and_eq_true_iff.1 h
    obtain high | later := Bool.or_eq_true_iff.1 inside
    · exact ⟨range, List.mem_cons_self, of_decide_eq_true low, of_decide_eq_true high⟩
    · obtain ⟨other, mem, bounds⟩ := ih later
      exact ⟨other, List.mem_cons_of_mem _ mem, bounds⟩

/-- No code point lies in both tables. -/
def disjointRanges (a b : List (Nat × Nat)) : Bool :=
  a.all fun r => b.all fun s => r.2 < s.1 || s.2 < r.1

theorem inRanges_of_disjointRanges {a b : List (Nat × Nat)} (h : disjointRanges a b = true)
    {c : Char} (mem : inRanges a c = true) : inRanges b c = false := by
  rw [Bool.eq_false_iff]
  intro also
  obtain ⟨r, inA, lowA, highA⟩ := exists_of_inRanges mem
  obtain ⟨s, inB, lowB, highB⟩ := exists_of_inRanges also
  have apart := List.all_eq_true.1 (List.all_eq_true.1 h r inA) s inB
  rw [Bool.or_eq_true, decide_eq_true_eq, decide_eq_true_eq] at apart
  omega

end Unicode

namespace Query

/-! ## Characters -/

/-- A blank belongs to no word that is completed. -/
theorem isFragmentChar_of_isBlank {c : Char} (h : Unicode.isBlank c = true) :
    isFragmentChar c = false := by
  have apart : Unicode.disjointRanges Unicode.blankRanges Unicode.alphanumericRanges = true := by
    decide +kernel
  have noLetter : Unicode.isAlphanumeric c = false := Unicode.inRanges_of_disjointRanges apart h
  have noUnderscore : c ≠ '_' := by
    rintro rfl
    exact absurd h (by decide)
  rw [isFragmentChar, noLetter, Bool.false_or]
  exact decide_eq_false noUnderscore

theorem eq_colon_of_toLower {c : Char} (h : c.toLower = ':') : c = ':' := by
  by_cases upper : c.val ≥ 'A'.val ∧ c.val ≤ 'Z'.val
  · have lower : c.toLower.val = c.val + ('a'.val - 'A'.val) := congrArg Char.val (dif_pos upper)
    rw [h] at lower
    have first := UInt32.le_iff_toNat_le.1 upper.1
    have last := UInt32.le_iff_toNat_le.1 upper.2
    have sum := congrArg UInt32.toNat lower
    rw [UInt32.toNat_add] at sum
    simp at first last sum
    omega
  · have same : c.toLower = c := dif_neg upper
    rw [← same, h]

/-! ## Runs of word characters -/

theorem eq_false_of_head?_dropWhile {p : Char → Bool} {text : Text} :
    ∀ c ∈ (text.dropWhile p).head?, p c = false := by
  intro c first
  have stop := List.head?_dropWhile_not p text
  rwa [Option.mem_def.1 first] at stop

/-- The longest run of word characters at the end of a text. -/
theorem exists_fragment (before : Text) :
    ∃ front, before = front ++ fragmentBefore before ∧
      (fragmentBefore before).all isFragmentChar = true ∧
      ∀ c ∈ front.getLast?, isFragmentChar c = false := by
  refine ⟨(before.reverse.dropWhile isFragmentChar).reverse, ?_, ?_, ?_⟩
  · rw [fragmentBefore, ← List.reverse_append, List.takeWhile_append_dropWhile,
      List.reverse_reverse]
  · rw [fragmentBefore, List.all_reverse, List.all_takeWhile]
  · intro c last
    rw [List.getLast?_reverse] at last
    exact eq_false_of_head?_dropWhile c last

/-- A run of word characters does not go on in front of a character that is none. -/
theorem fragmentBefore_append {a b : Text} (h : ∀ c ∈ a.getLast?, isFragmentChar c = false) :
    fragmentBefore (a ++ b) = fragmentBefore b := by
  rw [fragmentBefore, List.reverse_append,
    (Text.run_append b.reverse a.reverse (.inr ?_)).1, fragmentBefore]
  rwa [List.head?_reverse]

/-! ## Tokens in front of a word -/

/-- The first token may stand right in front of the second one: in front of a word stands
    neither a word nor a string without its closing quote. -/
def Token.Borders (first second : Token) : Prop :=
  second.kind = .word → first.kind ∉ [.word, .orKeyword, .stringContent]

theorem exists_of_head_word {source : Text} {token : Token}
    (h : token ∈ (tokenize source).head?) (word : token.kind = .word) :
    ∃ c rest, source = c :: rest ∧ isWordChar c = true := by
  obtain ⟨tokens, lexed⟩ := List.head?_eq_some_iff.1 h
  have mem : token ∈ tokenize source := by
    rw [lexed]
    exact List.mem_cons_self
  have spelled := spelled_of_mem mem
  have filled := text_ne_nil mem
  have whole := textAll_tokenize source
  rw [lexed, Token.textAll_cons] at whole
  cases token with
  | word text =>
    obtain ⟨c, rest, rfl⟩ := List.exists_cons_of_ne_nil filled
    rw [Token.Spelled, List.all_cons, Bool.and_eq_true] at spelled
    exact ⟨c, rest ++ Token.textAll tokens, whole.symm, spelled.1⟩
  | mark field _ => cases field <;> cases word
  | _ => cases word

/-- Where no character of words comes first, any token may stand in front. -/
theorem borders_head {source : Text} (first : Token)
    (h : ∀ c ∈ source.head?, isWordChar c = false) :
    ∀ second ∈ (tokenize source).head?, first.Borders second := by
  intro second mem word
  obtain ⟨c, rest, rfl, inWord⟩ := exists_of_head_word mem word
  rw [h c rfl] at inWord
  cases inWord

theorem isChain_wordTokens (text : Text) : (wordTokens text).IsChain Token.Borders := by
  rw [wordTokens]
  split
  · exact .singleton _
  · split
    · exact .singleton _
    · rename_i field _
      show List.IsChain _ (_ :: if _ then _ else _)
      split
      · exact .singleton _
      · refine .cons_cons (fun _ => ?_) (.singleton _)
        cases field <;> exact of_decide_eq_true rfl

/-- The tokens of a string, and what stands behind it. -/
theorem StringBody.isChain_tokens (body : StringBody) {later : List Token}
    (h : later.IsChain Token.Borders)
    (unclosed : body.closed = false → ∀ token ∈ later.head?, token.isBlank = true) :
    (body.tokens ++ later).IsChain Token.Borders := by
  obtain ⟨content, closed, rest⟩ := body
  have close : ((if closed then [Token.quote] else []) ++ later).IsChain Token.Borders := by
    cases closed with
    | true => exact List.isChain_cons.2 ⟨fun _ _ _ => by decide, h⟩
    | false => exact h
  rw [tokens, List.append_assoc]
  split
  · exact close
  · refine List.isChain_cons.2 ⟨fun next mem word => ?_, close⟩
    cases closed with
    | true =>
      obtain rfl : Token.quote = next := Option.some.inj mem
      cases word
    | false =>
      have blank := unclosed rfl next mem
      cases next <;> cases blank
      cases word

/-- The tokens in front of each other in a query. -/
theorem isChain_tokenize (source : Text) : (tokenize source).IsChain Token.Borders := by
  have behind {first : Token} {source : Text}
      (unbound : first.kind ∉ [.word, .orKeyword, .stringContent])
      (h : (tokenize source).IsChain Token.Borders) :
      (first :: tokenize source).IsChain Token.Borders :=
    List.isChain_cons.2 ⟨fun _ _ _ => unbound, h⟩
  fun_induction tokenize source with
  | case1 => exact .nil
  | case2 rest ih | case3 rest ih | case4 rest ih => exact behind (by decide) ih
  | case5 rest ih =>
    have string := (StringBody.read rest).isChain_tokens ih (tokenize_behind_unclosed rest)
    exact List.isChain_cons.2 ⟨fun _ _ _ => by decide, string⟩
  | case6 c rest opening closing minus quote blank ih =>
    exact behind (of_decide_eq_true rfl) ih
  | case7 c rest opening closing minus quote blank ih =>
    refine List.isChain_append.2 ⟨isChain_wordTokens _, ih, fun first _ => borders_head first ?_⟩
    exact eq_false_of_head?_dropWhile

/-- Nothing that stands right in front of a word ends with a character of a word that is
    completed. -/
theorem getLast_before_word {source : Text} {front behind : List Token} {text : Text}
    (h : tokenize source = front ++ .word text :: behind) :
    ∀ c ∈ (Token.textAll front).getLast?, isFragmentChar c = false := by
  intro c last
  obtain rfl | ⟨front, token, rfl⟩ := List.eq_nil_or_concat front
  · cases last
  · rw [List.concat_append] at h
    have mem : token ∈ tokenize source := by
      rw [h]
      exact List.mem_append_right _ List.mem_cons_self
    have borders : token.Borders (.word text) := by
      have chain := isChain_tokenize source
      rw [h] at chain
      exact (List.isChain_append_cons_cons.1 chain).2.1
    have allowed := borders rfl
    have filled := text_ne_nil mem
    have spelled := spelled_of_mem mem
    rw [List.concat_eq_append, Token.textAll_append, Token.textAll_cons, Token.textAll_nil,
      List.append_nil, List.getLast?_append_of_ne_nil _ filled] at last
    have inToken : c ∈ token.text := List.mem_of_getLast? last
    cases token with
    | blank text => exact isFragmentChar_of_isBlank (List.all_eq_true.1 spelled c inToken)
    | mark field text =>
      have lower : c.toLower ∈ field.mark.getLast? := by
        have final : text.getLast? = some c := last
        rw [← spelled.2, List.getLast?_map, final]
        rfl
      have colon : c.toLower = ':' := by
        cases field <;> exact (Option.some.inj lower).symm
      rw [eq_colon_of_toLower colon]
      decide
    | word _ | orKeyword | content _ => exact absurd (of_decide_eq_true rfl) allowed
    | parenOpen | parenClose | minus | quote =>
      rw [List.mem_singleton.1 inToken]
      decide

/-- Where a cursor stands in a word, the run of word characters before it lies in the word. -/
theorem fragmentBefore_in_word {source : Text} {front behind : List Token} {text : Text}
    (h : tokenize source = front ++ .word text :: behind) (left : Text) :
    fragmentBefore (Token.textAll front ++ left) = fragmentBefore left :=
  fragmentBefore_append (getLast_before_word h)

end Query

end Flashcard
