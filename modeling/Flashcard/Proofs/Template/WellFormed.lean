import Flashcard.Template.Document

/-!
# Contents as they are read

In a template the tokens of a tag follow its beginning, up to its end or to where
it breaks off, and nowhere else do such tokens stand. So no token of a template
fits nowhere, a tag that is kept as broken is broken, and only where blocks are
nested more deeply than the limit allows something is left over.

Results:
* `alternates_tokenizeFrom`: the tokens of a tag stand inside tags alone.
* `readTag_ok`: a tag that is well formed is read as such.
* `readContents_sound`, `readElement_sound`: what is read is well formed, and text
  or another tag follows it.
* `wellFormed_parse`: the contents of a template are well formed.
-/

namespace Flashcard.Template

/-! ## Tokens in turn -/

/-- The token stands inside a tag, before its end. -/
def Token.isInside (token : Token) : Bool := token.isTagToken && token ≠ .tagEnd

/-- The tokens come in turn: those of a tag stand behind its beginning or, where
    `inTag` holds, in front of everything else. -/
inductive Alternates : (inTag : Bool) → List Token → Prop
  | nil {inTag : Bool} : Alternates inTag []
  | plain {inTag : Bool} {text : Text} {rest : List Token} :
      Alternates false rest → Alternates inTag (.plain text :: rest)
  | tagStart {inTag : Bool} {rest : List Token} :
      Alternates true rest → Alternates inTag (.tagStart :: rest)
  | closeTagStart {inTag : Bool} {rest : List Token} :
      Alternates true rest → Alternates inTag (.closeTagStart :: rest)
  | inside {token : Token} {rest : List Token} :
      token.isInside = true → Alternates true rest → Alternates true (token :: rest)
  | tagEnd {rest : List Token} : Alternates false rest → Alternates true (.tagEnd :: rest)

theorem Alternates.widen {tokens : List Token} (h : Alternates false tokens) :
    Alternates true tokens := by
  cases h with
  | nil => exact .nil
  | plain later => exact .plain later
  | tagStart later => exact .tagStart later
  | closeTagStart later => exact .closeTagStart later

/-- The tokens of a template come in turn. -/
theorem alternates_tokenizeFrom (inTag : Bool) (source : Text) :
    Alternates inTag (tokenizeFrom inTag source) := by
  fun_induction tokenizeFrom inTag source with
  | case1 => exact .nil
  | case2 rest ih => exact .closeTagStart ih
  | case3 rest _ ih => exact .tagStart ih
  | case4 rest _ _ ih => exact .plain ih
  | case5 c rest _ _ _ ih => exact .plain ih
  | case6 rest ih => exact .tagEnd ih
  | case7 rest _ ih => exact .inside rfl ih
  | case8 rest ih | case9 rest ih | case10 rest ih => exact .inside rfl ih
  | case11 c rest _ _ _ _ _ _ ih => exact .inside rfl ih
  | case12 c rest _ _ _ _ _ _ ih => exact ih.widen

/-! ## The rest of a tag -/

/-- Tokens of a tag behind its beginning, to its end if it has one. -/
inductive IsTail : List Token → Prop
  | nil : IsTail []
  | tagEnd : IsTail [.tagEnd]
  | inside {token : Token} {rest : List Token} :
      token.isInside = true → IsTail rest → IsTail (token :: rest)

theorem IsTail.append {front rest : List Token} (inside : ∀ token ∈ front, token.isInside = true)
    (h : IsTail rest) : IsTail (front ++ rest) := by
  induction front with
  | nil => exact h
  | cons token front ih =>
    obtain ⟨first, later⟩ := List.forall_mem_cons.1 inside
    exact .inside first (ih later)

/-- The rest of a tag is made of tokens inside it, with its end perhaps. -/
theorem IsTail.exists_inside {tokens : List Token} (h : IsTail tokens) :
    ∃ inside : List Token, (∀ token ∈ inside, token.isInside = true) ∧
      (tokens = inside ∨ tokens = inside ++ [.tagEnd]) := by
  induction h with
  | nil => exact ⟨[], by simp, .inl rfl⟩
  | tagEnd => exact ⟨[], by simp, .inr rfl⟩
  | @inside token rest first _ ih =>
    obtain ⟨inside, all, whole⟩ := ih
    refine ⟨token :: inside, List.forall_mem_cons.2 ⟨first, all⟩, ?_⟩
    obtain rfl | rfl := whole
    · exact .inl rfl
    · exact .inr rfl

theorem isInside_chain (transformers : List Text) (name : Option Text) :
    ∀ token ∈ transformerTokens transformers ++ (name.map Token.name).toList,
      token.isInside = true := by
  intro token h
  obtain h | h := List.mem_append.1 h
  · obtain ⟨text, -, h⟩ := List.mem_flatMap.1 h
    obtain rfl | h := List.mem_cons.1 h
    · rfl
    · rw [List.mem_singleton.1 h]
      rfl
  · cases name with
    | none => cases h
    | some name =>
      rw [List.mem_singleton.1 h]
      rfl

theorem Alternates.drop {front rest : List Token}
    (inside : ∀ token ∈ front, token.isInside = true) (h : Alternates true (front ++ rest)) :
    Alternates true rest := by
  induction front with
  | nil => exact h
  | cons token front ih =>
    obtain ⟨first, later⟩ := List.forall_mem_cons.1 inside
    cases h with
    | inside _ h => exact ih later h
    | plain | tagStart | closeTagStart | tagEnd => cases first

theorem isTail_brokenTail (tokens : List Token) : IsTail (brokenTail tokens) := by
  induction tokens with
  | nil => exact .nil
  | cons token rest ih =>
    unfold brokenTail
    split
    · rename_i ending
      rw [ending]
      exact .tagEnd
    · rename_i ending
      split
      · rename_i tagToken
        exact .inside (by simp [Token.isInside, tagToken, ending]) ih
      · exact .nil

/-- Behind a broken tag there is text, or another tag. -/
theorem Alternates.afterBroken {tokens : List Token} (h : Alternates true tokens) :
    Alternates false (afterBroken tokens) := by
  unfold Template.afterBroken
  induction tokens with
  | nil => exact .nil
  | cons token rest ih =>
    unfold brokenTail
    cases h with
    | plain later => exact .plain later
    | tagStart later => exact .tagStart later
    | closeTagStart later => exact .closeTagStart later
    | tagEnd later => exact later
    | inside inside later =>
      obtain ⟨tagToken, ending⟩ := Bool.and_eq_true_iff.1 inside
      rw [if_neg (of_decide_eq_true ending), if_pos tagToken]
      exact ih later

/-! ## Tags -/

theorem readChain_append (reference : Reference) (rest : List Token) :
    readChain (reference.tokens ++ .tagEnd :: rest) =
      ⟨reference.transformers, some reference.name, .tagEnd :: rest⟩ := by
  obtain ⟨transformers, name⟩ := reference
  induction transformers with
  | nil => rfl
  | cons text transformers ih =>
    show readChain (.name text :: .colon ::
      ((Reference.mk transformers name).tokens ++ .tagEnd :: rest)) = _
    rw [readChain, ih]
    rfl

/-- A tag that is well formed is read as such. -/
theorem readTag_ok (reference : Reference) (rest : List Token) :
    (readTag (reference.tokens ++ .tagEnd :: rest)).value = .ok reference := by
  rw [readTag, Parsed.widen_value, readChain_append]
  rfl

theorem readTag_error {tokens : List Token} {tag : BrokenTag}
    (h : (readTag tokens).value = .error tag) :
    IsTail tag.tokens ∧ ∀ reference : Reference, tag.tokens ≠ reference.tokens ++ [.tagEnd] := by
  constructor
  · simp only [readTag, Parsed.widen_value, Chain.toTag] at h
    split at h
    · cases h
    · obtain rfl := Except.error.inj h
      exact .append (isInside_chain _ _) (isTail_brokenTail _)
  · intro reference same
    have whole := tagTokens_readTag tokens
    rw [h, tagTokens, same, List.append_assoc, List.singleton_append] at whole
    rw [← whole, readTag_ok] at h
    cases h

/-- Behind a tag there is text, or another tag. -/
theorem Alternates.readTag {tokens : List Token} (h : Alternates true tokens) :
    Alternates false (readTag tokens).rest := by
  have whole := tokens_readChain tokens
  rw [← List.append_assoc] at whole
  rw [← whole] at h
  have behind := h.drop (isInside_chain _ _)
  simp only [Template.readTag, Parsed.widen_rest, Chain.toTag]
  split
  · rename_i closed
    rw [eq_of_ends closed] at behind
    cases behind with
    | tagEnd later => exact later
    | inside inside _ => cases inside
  · exact behind.afterBroken

/-! ## Contents -/

/-- The part is broken: a tag up to its end or to where it breaks off, but not one
    that stands for a field. -/
inductive Malformed.IsBroken : Malformed → Prop
  | closeTag {name : Option Text} {tail : List Token} :
      IsTail ((name.map Token.name).toList ++ tail) → IsBroken (.closeTag name tail)
  | field {tag : BrokenTag} : IsTail tag.tokens →
      (∀ reference : Reference, tag.tokens ≠ reference.tokens ++ [.tagEnd]) →
      IsBroken (.field tag)
  | block {condition : Condition} {tag : BrokenTag} : IsTail tag.tokens →
      IsBroken (.block condition tag)

/-- The content is as it is read where blocks may be nested `depth` deep. -/
inductive Content.WellFormed : (depth : Nat) → Content → Prop
  | plain {depth : Nat} {text : Text} : WellFormed depth (.plain text)
  | field {depth : Nat} {reference : Reference} : WellFormed depth (.field reference)
  | malformed {depth : Nat} {part : Malformed} : part.IsBroken →
      WellFormed depth (.malformed part)
  | block {depth : Nat} {condition : Condition} {reference : Reference} {contents : List Content}
      {close : Option Text} : (∀ content ∈ contents, WellFormed depth content) →
      WellFormed (depth + 1) (.block condition reference contents close)
  /-- What is nested too deeply is left over. -/
  | overflow {condition : Condition} {reference : Reference} {tokens : List Token} :
      WellFormed 0 (.block condition reference (overflowContents tokens) none)

/-- The reader reads well formed contents, up to text or another tag. -/
def TagReader.IsSound (reader : TagReader) (depth : Nat) : Prop :=
  ∀ tokens, Alternates true tokens →
    (reader tokens).value.WellFormed depth ∧ Alternates false (reader tokens).rest

theorem readStrayClose_sound {tokens : List Token} (h : Alternates true tokens) :
    (readStrayClose tokens).value.IsBroken ∧ Alternates false (readStrayClose tokens).rest := by
  unfold readStrayClose
  split
  · constructor
    · exact .closeTag (.inside rfl .tagEnd)
    · cases h with
      | inside _ later =>
        cases later with
        | tagEnd later => exact later
        | inside inside _ => cases inside
  · exact ⟨.closeTag (isTail_brokenTail _), h.afterBroken⟩

/-- Contents are well formed if the elements in them are. -/
theorem readContents_sound {depth : Nat} {readElement : TagReader}
    (sound : readElement.IsSound depth) (enclosing : Option Text) {tokens : List Token}
    (h : Alternates false tokens) :
    (∀ content ∈ (readContents readElement enclosing tokens).value, content.WellFormed depth) ∧
      Alternates false (readContents readElement enclosing tokens).rest := by
  fun_induction readContents readElement enclosing tokens with
  | case1 => exact ⟨by simp, .nil⟩
  | case2 text rest ih =>
    cases h with
    | plain later =>
      obtain ⟨contents, behind⟩ := ih later
      exact ⟨List.forall_mem_cons.2 ⟨.plain, contents⟩, behind⟩
  | case3 rest element _ ih =>
    cases h with
    | tagStart later =>
      obtain ⟨first, next⟩ := sound rest later
      obtain ⟨contents, behind⟩ := ih next
      exact ⟨List.forall_mem_cons.2 ⟨first, contents⟩, behind⟩
  | case4 => exact ⟨by simp, h⟩
  | case5 rest _ stray _ ih =>
    cases h with
    | closeTagStart later =>
      obtain ⟨first, next⟩ := readStrayClose_sound later
      obtain ⟨contents, behind⟩ := ih next
      exact ⟨List.forall_mem_cons.2 ⟨.malformed first, contents⟩, behind⟩
  | case6 token rest plain tagStart closeTagStart ih =>
    cases h with
    | plain => exact absurd rfl (plain _)
    | tagStart => exact absurd rfl tagStart
    | closeTagStart => exact absurd rfl closeTagStart

theorem readField_sound (depth : Nat) : readField.IsSound depth := by
  intro tokens h
  refine ⟨?_, h.readTag⟩
  rw [readField, Parsed.map_value]
  cases tag : (readTag tokens).value with
  | ok reference => exact .field
  | error broken =>
    obtain ⟨tail, noField⟩ := readTag_error tag
    exact .malformed (.field tail noField)

theorem Alternates.drop_close {tokens : List Token} {name : Text} (h : Alternates false tokens)
    (close : closeName tokens = some name) : Alternates false (tokens.drop 3) := by
  rw [eq_of_closeName close] at h
  cases h with
  | closeTagStart later =>
    cases later with
    | inside _ later =>
      cases later with
      | tagEnd later => exact later
      | inside inside _ => cases inside

/-- What reads the tags inside a block, where blocks may be nested `depth` deep. -/
inductive IsInner : Option TagReader → (depth : Nat) → Prop
  | none : IsInner none 0
  | some {reader : TagReader} {depth : Nat} : reader.IsSound depth →
      IsInner (some reader) (depth + 1)

variable {inner : Option TagReader} {depth : Nat}

/-- A block is well formed, or broken. -/
theorem readBlock_sound (h : IsInner inner depth) (condition : Condition) :
    (readBlock inner condition).IsSound depth := by
  intro tokens turn
  have behind := turn.readTag
  simp only [readBlock]
  split
  · rename_i broken _ tag
    exact ⟨.malformed (.block (readTag_error tag).1), behind⟩
  · cases h with
    | none => exact ⟨.overflow, .nil⟩
  · rename_i reference reader _
    cases h with
    | some sound =>
      obtain ⟨contents, next⟩ :=
        readContents_sound sound (some (Unicode.trim reference.name)) behind
      refine ⟨.block contents, ?_⟩
      show Alternates false (if _ then _ else _)
      split
      · rename_i closed
        obtain ⟨name, close⟩ := Option.isSome_iff_exists.1 closed
        exact next.drop_close close
      · exact next

/-- What a tag stands for is well formed. -/
theorem readElement_sound (depth : Nat) : (readElement depth).IsSound depth := by
  have step {inner : Option TagReader} {depth : Nat} (h : IsInner inner depth) :
      TagReader.IsSound (readElement.readWith inner) depth := by
    intro tokens turn
    unfold readElement.readWith
    split
    · cases turn with
      | inside _ later => exact readBlock_sound h .ifFilled _ later
    · cases turn with
      | inside _ later => exact readBlock_sound h .unlessFilled _ later
    · exact readField_sound depth _ turn
  induction depth with
  | zero => exact step .none
  | succ depth ih => exact step (.some ih)

/-- The contents of a template are well formed. -/
theorem wellFormed_parse (limit : Nat) (source : Text) :
    ∀ content ∈ (parse limit source).contents, content.WellFormed limit :=
  (readContents_sound (readElement_sound limit) none (alternates_tokenizeFrom false source)).1

end Flashcard.Template
