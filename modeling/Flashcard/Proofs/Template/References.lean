import Flashcard.Template.Document
import Flashcard.Unicode.Blank
import Mathlib.Data.List.DropRight

/-!
# Field references of a template

Tags that stand for a field can be nested in blocks however deeply. Their names
are tokens of the template, so they are made of characters that a name can have.

Results:
* `name_mem_tokens`: the name of a reference is a token of what it stands in.
* `trim_trim`: a text without the blanks around it has none around it.
* `all_isNameChar_trim`: the field that a parsed reference names has neither braces nor colons.
-/

namespace Flashcard.Template

namespace Content

mutual

/-- The tags in a content that stand for a field, in order. -/
def references : Content → List Reference
  | plain _ => []
  | field reference => [reference]
  | block _ _ contents _ => referencesAll contents
  | malformed _ => []

/-- The tags in a row of contents that stand for a field. -/
def referencesAll : List Content → List Reference
  | [] => []
  | content :: rest => references content ++ referencesAll rest

end

end Content

/-- The tags of a template that stand for a field, in order. -/
def Document.references (document : Document) : List Reference :=
  Content.referencesAll document.contents

theorem Reference.name_mem_tokens (reference : Reference) :
    Token.name reference.name ∈ reference.tokens :=
  List.mem_append_right _ (List.mem_singleton_self _)

namespace Content

mutual

/-- The name of a reference is a token of the content that it stands in. -/
theorem name_mem_tokens {reference : Reference} : (content : Content) →
    reference ∈ content.references → Token.name reference.name ∈ content.tokens
  | .plain _, h => by cases h
  | .field other, h => by
    obtain rfl := List.mem_singleton.1 h
    exact List.mem_cons_of_mem _ (List.mem_append_left _ reference.name_mem_tokens)
  | .block condition other contents close, h => by
    have inside := name_mem_tokensAll contents h
    rw [tokens, List.mem_append, List.mem_append]
    exact .inl (.inr inside)
  | .malformed _, h => by cases h

/-- The name of a reference is a token of the row of contents that it stands in. -/
theorem name_mem_tokensAll {reference : Reference} : (contents : List Content) →
    reference ∈ referencesAll contents → Token.name reference.name ∈ tokensAll contents
  | [], h => by cases h
  | content :: rest, h => by
    rw [referencesAll, List.mem_append] at h
    rw [tokensAll, List.mem_append]
    obtain h | h := h
    · exact .inl (name_mem_tokens content h)
    · exact .inr (name_mem_tokensAll rest h)

end

end Content

/-! ## Names -/

theorem all_isNameChar_of_mem {inTag : Bool} {source text : Text}
    (h : Token.name text ∈ tokenizeFrom inTag source) : text.all isNameChar = true := by
  fun_induction tokenizeFrom inTag source
  case case11 c rest _ _ _ _ isName ih =>
    obtain here | later := List.mem_cons.1 h
    · rw [Token.name.inj here, List.all_cons, isName, List.all_takeWhile]
      rfl
    · exact ih later
  all_goals simp_all

theorem mem_of_mem_trim {text : Text} {c : Char} (h : c ∈ Unicode.trim text) : c ∈ text := by
  unfold Unicode.trim Unicode.trimEnd at h
  rw [List.mem_reverse] at h
  have h := (List.dropWhile_sublist _).mem h
  rw [List.mem_reverse] at h
  exact (List.dropWhile_sublist _).mem h

/-- A text without the blanks around it has none around it. -/
theorem trim_trim (text : Text) : Unicode.trim (Unicode.trim text) = Unicode.trim text := by
  have front : Unicode.trim text <+: Unicode.trimStart text :=
    List.rdropWhile_prefix Unicode.isBlank (Unicode.trimStart text)
  have first : Unicode.trimStart (Unicode.trim text) = Unicode.trim text := by
    cases trimmed : Unicode.trim text with
    | nil => rfl
    | cons c rest =>
      obtain ⟨later, whole⟩ := front
      have head := List.head?_dropWhile_not Unicode.isBlank text
      rw [trimmed] at whole
      rw [show List.dropWhile Unicode.isBlank text = _ from whole.symm] at head
      have notBlank : ¬Unicode.isBlank c = true := Bool.eq_false_iff.1 head
      exact List.dropWhile_cons_of_neg notBlank
  show Unicode.trimEnd (Unicode.trimStart (Unicode.trim text)) = Unicode.trim text
  rw [first]
  exact List.rdropWhile_idempotent Unicode.isBlank (Unicode.trimStart text)

/-- The field that a reference of a template names is made of characters that a
    name can have. -/
theorem all_isNameChar_trim {limit : Nat} {source : Text} {reference : Reference}
    (h : reference ∈ (parse limit source).references) :
    (Unicode.trim reference.name).all isNameChar = true := by
  have found := Content.name_mem_tokensAll _ h
  rw [tokensAll_parse] at found
  have all := all_isNameChar_of_mem found
  rw [List.all_eq_true] at all ⊢
  intro c hc
  exact all c (mem_of_mem_trim hc)

end Flashcard.Template
