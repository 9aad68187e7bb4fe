import Flashcard.Proofs.Template.Deletion
import Flashcard.Proofs.Text.Place

/-!
# Marks in a text and among its tokens

What begins or ends a marker can be looked for in a text or among its tokens. Both find
the same: no token runs across the beginning of a marker, nor across the first closing
braces of a text.

Results:
* `tokenize_split`: parts of the tokens are the tokens of the parts.
* `tokenize_opener`, `opener_mem_iff`: wherever a text has the beginning of a marker, it
  is a token.
* `tokenize_firstCloser`, `closer_mem_iff`: the first closing braces of a text are its
  first closing token.
-/

namespace Flashcard.Cloze

open Text (FirstPlace HasPlace exists_firstPlace)

/-! ## Tokens in front and tokens behind -/

/-- A token that comes first in front of a text does so in front of its beginning. -/
theorem Cut.shorten {token : Token} {rest behind : Text} (h : Cut token (rest ++ behind)) :
    Cut token rest := by
  cases h with
  | mark mark => exact .mark mark
  | run all stop => exact .run all fun d next => stop d (next.trans (List.prefix_append _ _))
  | @single c _ special none =>
    exact .single special fun token mark front =>
      none token mark (front.trans (List.prefix_append (c :: rest) behind))

/-- Parts of the tokens of a value are the tokens of its parts. -/
theorem tokenize_split {value : Text} {front back : List Token}
    (h : tokenize value = front ++ back) :
    value = front.flatMap Token.text ++ back.flatMap Token.text ∧
      tokenize (front.flatMap Token.text) = front ∧
      tokenize (back.flatMap Token.text) = back := by
  induction value using cutInduction generalizing front with
  | nil =>
    obtain ⟨rfl, rfl⟩ := List.append_eq_nil_iff.1 (h.symm.trans (by simp [tokenize]))
    exact ⟨rfl, by simp [tokenize], by simp [tokenize]⟩
  | cut token rest first ih =>
    rw [tokenize_cut first] at h
    cases front with
    | nil =>
      obtain rfl : token :: tokenize rest = back := h
      rw [List.flatMap_cons, flatMap_text_tokenize]
      exact ⟨rfl, by simp [tokenize], tokenize_cut first⟩
    | cons token' front =>
      obtain ⟨rfl, tokens⟩ := List.cons.inj h
      obtain ⟨text, inFront, behind⟩ := ih tokens
      rw [text] at first
      rw [List.flatMap_cons, tokenize_cut first.shorten, inFront, List.append_assoc, ← text]
      exact ⟨rfl, rfl, behind⟩

/-! ## Where markers begin -/

/-- Digits that a marker can have. -/
structure IsNumber (digits : Text) : Prop where
  nonempty : digits ≠ []
  digits : digits.all Char.isDigit = true

/-- The beginning of a marker is a token wherever it is. -/
theorem tokenize_opener {digits : Text} (h : IsNumber digits) (before rest : Text) :
    tokenize (before ++ ((Token.opener digits).text ++ rest)) =
      tokenize before ++ .opener digits :: tokenize rest := by
  rw [tokenize_append (apart_opener _ _ _), tokenize_cut (.mark (.opener h.nonempty h.digits))]

theorem isNumber_of_mem {digits value : Text} (h : .opener digits ∈ tokenize value) :
    IsNumber digits := by
  obtain ⟨_, cut⟩ := exists_cut_of_mem h
  cases cut with
  | mark mark =>
    cases mark with
    | opener nonempty all => exact ⟨nonempty, all⟩

/-- The beginning of a marker is among the tokens of a text if it is in the text. -/
theorem opener_mem_iff {digits value : Text} :
    .opener digits ∈ tokenize value ↔
      IsNumber digits ∧ ∃ before rest, value = before ++ ((Token.opener digits).text ++ rest) := by
  constructor
  · intro mem
    obtain ⟨before, rest, text⟩ := text_isInfix_of_mem mem
    rw [List.append_assoc] at text
    exact ⟨isNumber_of_mem mem, before, rest, text.symm⟩
  · rintro ⟨number, before, rest, rfl⟩
    rw [tokenize_opener number]
    exact List.mem_append_right _ (List.mem_cons_self ..)

/-! ## Where markers end -/

/-- Two closing braces follow. -/
def ClosesAt (_before rest : Text) : Prop := ['}', '}'] <+: rest

theorem hasPlace_closesAt_iff {text : Text} :
    HasPlace ClosesAt text ↔ ['}', '}'] <:+: text := by
  constructor
  · rintro ⟨before, rest, rfl, closes⟩
    exact closes.isInfix.trans (List.suffix_append _ _).isInfix
  · rintro ⟨before, rest, text⟩
    exact ⟨before, _, by rw [← text, List.append_assoc], List.prefix_append _ rest⟩

/-- The first closing braces of a text are a token, and the first closing one. -/
theorem tokenize_firstCloser {text body behind : Text}
    (h : FirstPlace ClosesAt text body ('}' :: '}' :: behind)) :
    tokenize text = tokenize body ++ .closer :: tokenize behind ∧ .closer ∉ tokenize body := by
  constructor
  · rw [h.split, tokenize_append (apart_closer ?_ behind)]
    · exact congrArg _ (tokenize_cut (.mark .closer))
    · -- With one more brace in front the first place would be one earlier.
      rintro ⟨front, rfl⟩
      have least := h.first front ('}' :: '}' :: '}' :: behind)
        (by rw [h.split, List.append_assoc]; rfl) ⟨_, rfl⟩
      rw [List.length_append, List.length_singleton] at least
      omega
  · intro mem
    obtain ⟨front, rest, rfl⟩ := text_isInfix_of_mem mem
    have least := h.first front (Token.closer.text ++ (rest ++ '}' :: '}' :: behind))
      (by rw [h.split, List.append_assoc, List.append_assoc]) (List.prefix_append _ _)
    simp only [List.length_append, Token.text, List.length_cons] at least
    omega

/-- The text has a closing token if it has closing braces. -/
theorem closer_mem_iff {text : Text} : .closer ∈ tokenize text ↔ ['}', '}'] <:+: text := by
  constructor
  · exact text_isInfix_of_mem
  · intro inside
    obtain ⟨body, rest, first⟩ := exists_firstPlace (hasPlace_closesAt_iff.2 inside)
    obtain ⟨behind, rfl⟩ := first.holds
    rw [(tokenize_firstCloser first).1]
    exact List.mem_append_right _ (List.mem_cons_self ..)

end Flashcard.Cloze
