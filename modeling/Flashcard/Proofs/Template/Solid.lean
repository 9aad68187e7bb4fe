import Flashcard.Proofs.Template.Cutting
import Flashcard.Proofs.Template.Lossless

/-!
# No part of a template is empty

No token of a template is empty, and no part of it is made of no tokens: neither a name in a
tag nor what breaks the grammar, and where blocks are nested too deeply only something that is
left over makes an error. So every node that a problem can be about has a range that is not
empty.

Results:
* `solid_parse`: no name in the contents of a template is empty, and no malformed part.
-/

namespace Flashcard.Template

/-- No name of the tag is empty. -/
structure Reference.Solid (reference : Reference) : Prop where
  transformers : ∀ name ∈ reference.transformers, name ≠ []
  name : reference.name ≠ []

/-- No name in the content is empty, and no malformed part. -/
inductive Content.Solid : Content → Prop
  | plain {text : Text} : Solid (.plain text)
  | field {reference : Reference} : reference.Solid → Solid (.field reference)
  | block {condition : Condition} {reference : Reference} {contents : List Content}
      {close : Option Text} : reference.Solid → (∀ content ∈ contents, Solid content) →
      Solid (.block condition reference contents close)
  | malformed {part : Malformed} : Token.textAll part.tokens ≠ [] → Solid (.malformed part)

theorem Token.textAll_ne_nil {tokens : List Token} (nonempty : tokens ≠ [])
    (filled : ∀ token ∈ tokens, token.text ≠ []) : Token.textAll tokens ≠ [] := by
  obtain ⟨token, rest, rfl⟩ := List.exists_cons_of_ne_nil nonempty
  rw [Token.textAll_cons]
  exact List.append_ne_nil_of_left_ne_nil (filled token List.mem_cons_self) _

theorem Reference.solid {reference : Reference}
    (filled : ∀ token ∈ reference.tokens, token.text ≠ []) : reference.Solid where
  transformers name mem := by
    have token : Token.name name ∈ reference.tokens :=
      List.mem_append_left _ (List.mem_flatMap.2 ⟨name, mem, List.mem_cons_self⟩)
    exact filled _ token
  name := filled _ (List.mem_append_right _ List.mem_cons_self)

theorem Malformed.IsBroken.tokens_ne_nil {part : Malformed} (h : part.IsBroken) :
    part.tokens ≠ [] := by
  cases h <;> exact List.cons_ne_nil _ _

/-- What is left over where blocks are nested too deeply is not empty. -/
theorem solid_overflowContents {tokens : List Token} (filled : ∀ token ∈ tokens, token.text ≠ []) :
    ∀ content ∈ overflowContents tokens, content.Solid := by
  intro content mem
  unfold overflowContents at mem
  split at mem
  · cases mem
  · rename_i nonempty
    rw [List.mem_singleton.1 mem]
    exact .malformed (Token.textAll_ne_nil nonempty filled)

mutual

theorem solid_of_wellFormed {depth : Nat} : (content : Content) → content.WellFormed depth →
    (∀ token ∈ content.tokens, token.text ≠ []) → content.Solid
  | .plain _, _, _ => .plain
  | .field reference, _, filled => by
    refine .field (Reference.solid fun token mem => filled token ?_)
    exact List.mem_cons_of_mem _ (List.mem_append_left _ mem)
  | .block condition reference contents close, h, filled => by
    have tag : ∀ token ∈ reference.tokens, token.text ≠ [] := by
      intro token mem
      refine filled token (List.mem_append_left _ (List.mem_append_left _ ?_))
      exact List.mem_cons_of_mem _ (List.mem_cons_of_mem _ (List.mem_append_left _ mem))
    have inner : ∀ token ∈ Content.tokensAll contents, token.text ≠ [] := by
      intro token mem
      exact filled token (List.mem_append_left _ (List.mem_append_right _ mem))
    refine .block (Reference.solid tag) ?_
    cases h with
    | block inside => exact solidAll_of_wellFormed contents inside inner
    | @overflow _ _ tokens =>
      rw [tokensAll_overflowContents] at inner
      exact solid_overflowContents inner
  | .malformed part, h, filled => by
    cases h with
    | malformed broken => exact .malformed (Token.textAll_ne_nil broken.tokens_ne_nil filled)

theorem solidAll_of_wellFormed {depth : Nat} : (contents : List Content) →
    (∀ content ∈ contents, content.WellFormed depth) →
      (∀ token ∈ Content.tokensAll contents, token.text ≠ []) →
      ∀ content ∈ contents, content.Solid
  | [], _, _ => nofun
  | content :: rest, h, filled => by
    obtain ⟨wellFormed, later⟩ := List.forall_mem_cons.1 h
    obtain ⟨first, behind⟩ := List.forall_mem_append.1 filled
    exact List.forall_mem_cons.2 ⟨solid_of_wellFormed content wellFormed first,
      solidAll_of_wellFormed rest later behind⟩

end

/-- No name in the contents of a template is empty, and no malformed part. -/
theorem solid_parse (limit : Nat) (source : Text) :
    ∀ content ∈ (parse limit source).contents, content.Solid := by
  refine solidAll_of_wellFormed _ (wellFormed_parse limit source) ?_
  intro token mem
  rw [tokensAll_parse] at mem
  exact text_ne_nil mem

end Flashcard.Template
