import Flashcard.Syntax.Parsed
import Flashcard.Template.Content

/-!
# Reading a template

A document is a row of contents. A content is a text, a tag that stands for a
field, or a block: an open tag, contents, and the close tag with the same name
if there is one. Inside a tag stands a chain of names separated by colons; the
last one is the field, those before it are transformers.

Every row of tokens can be read. A tag that is not well formed is an error up
to its end, a close tag that closes nothing is an error of its own, and where
blocks are nested more deeply than the limit allows, all that is left becomes
one error.

Results:
* `tokens_ofTokens`: a document has the tokens it was read from.
* `text_tree_parse`: the tree of a parsed template holds the template.
-/

namespace Flashcard.Template

/-! ## Tags -/

/-- The transformers and the name that a tag begins with. -/
structure Chain where
  transformers : List Text
  name : Option Text
  rest : List Token

/-- The chain with one more transformer in front. -/
def Chain.prepend (name : Text) (chain : Chain) : Chain :=
  { chain with transformers := name :: chain.transformers }

/-- Reads names as long as a colon follows each, and the one after them. -/
def readChain : List Token → Chain
  | .name text :: .colon :: rest => (readChain rest).prepend text
  | .name text :: rest => ⟨[], some text, rest⟩
  | rest => ⟨[], none, rest⟩

theorem length_rest_readChain_le (tokens : List Token) :
    (readChain tokens).rest.length ≤ tokens.length := by
  fun_induction readChain tokens with
  | case1 text rest ih => exact Nat.le_trans ih (Nat.le_add_right _ 2)
  | case2 text rest _ => exact Nat.le_succ _
  | case3 rest _ _ => exact Nat.le_refl _

/-- The tokens that still belong to a broken tag: all that can only stand
    inside a tag, up to its end. -/
def brokenTail : List Token → List Token
  | [] => []
  | token :: rest =>
    if token = .tagEnd then [token]
    else if token.isTagToken then token :: brokenTail rest
    else []

/-- What follows the tail of a broken tag. -/
def afterBroken (tokens : List Token) : List Token := tokens.drop (brokenTail tokens).length

/-- The end of a tag comes next. -/
def ends : List Token → Bool
  | .tagEnd :: _ => true
  | _ => false

/-- The tag that begins with a chain: a reference if a name and then the end
    of the tag come next. -/
def Chain.toTag (chain : Chain) : Parsed Token (Except BrokenTag Reference) chain.rest.length :=
  match chain.name, ends chain.rest with
  | some name, true =>
    ⟨.ok ⟨chain.transformers, name⟩, chain.rest.tail, by
      rw [List.length_tail]
      omega⟩
  | name, _ =>
    ⟨.error ⟨chain.transformers, name, brokenTail chain.rest⟩, afterBroken chain.rest, by
      rw [afterBroken, List.length_drop]
      omega⟩

/-- Reads a tag after its beginning. -/
def readTag (tokens : List Token) : Parsed Token (Except BrokenTag Reference) tokens.length :=
  (readChain tokens).toTag.widen (length_rest_readChain_le tokens)

/-! ## Contents -/

/-- Reads what follows the beginning of a tag. -/
abbrev TagReader := (tokens : List Token) → Parsed Token Content tokens.length

/-- Name in the close tag that comes next, if that is well formed. -/
def closeName : List Token → Option Text
  | .closeTagStart :: .name text :: .tagEnd :: _ => some text
  | _ => none

/-- The close tag of the enclosing block comes next. -/
def closesBlock (enclosing : Option Text) (tokens : List Token) : Bool :=
  match enclosing, closeName tokens with
  | some name, some text => Unicode.trim text = name
  | _, _ => false

/-- Reads a close tag that closes nothing, after its beginning. -/
def readStrayClose (tokens : List Token) : Parsed Token Malformed tokens.length :=
  match tokens with
  | .name text :: .tagEnd :: rest =>
    ⟨.closeTag (some text) [.tagEnd], rest, by simp only [List.length_cons]; omega⟩
  | rest =>
    ⟨.closeTag none (brokenTail rest), afterBroken rest, by
      rw [afterBroken, List.length_drop]
      omega⟩

/-- Reads contents up to the end, or to the close tag of the block around
    them; `readElement` reads what a tag stands for. -/
def readContents (readElement : TagReader) (enclosing : Option Text) (tokens : List Token) :
    Parsed Token (List Content) tokens.length :=
  match tokens with
  | [] => ⟨[], [], Nat.le_refl _⟩
  | .plain text :: rest =>
    (readContents readElement enclosing rest).cons (.plain text) (Nat.le_succ _)
  | .tagStart :: rest =>
    let element := readElement rest
    have shorter : element.rest.length < rest.length + 1 := Nat.lt_succ_of_le element.rest_le
    (readContents readElement enclosing element.rest).cons element.value (Nat.le_of_lt shorter)
  | .closeTagStart :: rest =>
    if closesBlock enclosing (.closeTagStart :: rest) then
      ⟨[], .closeTagStart :: rest, Nat.le_refl _⟩
    else
      let stray := readStrayClose rest
      have shorter : stray.rest.length < rest.length + 1 := Nat.lt_succ_of_le stray.rest_le
      (readContents readElement enclosing stray.rest).cons (.malformed stray.value)
        (Nat.le_of_lt shorter)
  | token :: rest =>
    (readContents readElement enclosing rest).cons (.malformed (.stray token)) (Nat.le_succ _)
termination_by tokens.length
decreasing_by
  all_goals
    simp only [List.length_cons]
    omega

/-- The contents of a block that is nested too deeply. -/
def overflowContents (tokens : List Token) : List Content :=
  if tokens = [] then [] else [.malformed (.overflow tokens)]

/-- The block around contents, with the close tag that comes next if one
    does. -/
def closeBlock (condition : Condition) (reference : Reference) {bound : Nat}
    (contents : Parsed Token (List Content) bound) : Parsed Token Content bound :=
  ⟨.block condition reference contents.value (closeName contents.rest),
    if (closeName contents.rest).isSome then contents.rest.drop 3 else contents.rest, by
    have := contents.rest_le
    split
    · rw [List.length_drop]
      omega
    · exact this⟩

/-- Reads a block after its mark; `inner` reads the tags inside it, unless it
    is nested too deeply. -/
def readBlock (inner : Option TagReader) (condition : Condition) : TagReader := fun tokens =>
  let tag := readTag tokens
  match tag.value, inner with
  | .error broken, _ => tag.map fun _ => .malformed (.block condition broken)
  | .ok reference, none =>
    ⟨.block condition reference (overflowContents tag.rest) none, [], Nat.zero_le _⟩
  | .ok reference, some readElement =>
    (closeBlock condition reference
      (readContents readElement (some (Unicode.trim reference.name)) tag.rest)).widen tag.rest_le

/-- Reads the tag of a field. -/
def readField : TagReader := fun tokens =>
  (readTag tokens).map fun
    | .ok reference => .field reference
    | .error broken => .malformed (.field broken)

/-- Reads what a tag stands for; `depth` is how deeply blocks may still be
    nested. -/
def readElement : (depth : Nat) → TagReader
  | 0, tokens => readWith none tokens
  | depth + 1, tokens => readWith (some (readElement depth)) tokens
where
  /-- Reads a block or a field, with `inner` for the tags inside a block. -/
  readWith (inner : Option TagReader) : TagReader
    | .ifMark :: rest => (readBlock inner .ifFilled rest).widen (Nat.le_succ _)
    | .unlessMark :: rest => (readBlock inner .unlessFilled rest).widen (Nat.le_succ _)
    | rest => readField rest

/-! ## Documents -/

/-- A whole template. -/
structure Document where
  contents : List Content

/-- How deeply blocks may be nested unless something else is asked for. -/
def defaultNesting : Nat := 256

namespace Document

/-- Reads the tokens of a template, with blocks nested at most `limit` deep. -/
def ofTokens (limit : Nat) (tokens : List Token) : Document :=
  ⟨(readContents (readElement limit) none tokens).value⟩

/-- Tokens of a template. -/
def tokens (document : Document) : List Token := Content.tokensAll document.contents

/-- Syntax tree of a template. -/
def tree (document : Document) : Tree Kind := .node .document (Content.treeAll document.contents)

end Document

/-- Reads a template, with blocks nested at most `limit` deep. -/
def parse (limit : Nat) (source : Text) : Document := Document.ofTokens limit (tokenize source)

/-! ## Nothing is lost -/

theorem brokenTail_append_afterBroken (tokens : List Token) :
    brokenTail tokens ++ afterBroken tokens = tokens := by
  unfold afterBroken
  induction tokens with
  | nil => rfl
  | cons token rest ih =>
    unfold brokenTail
    split
    · simp
    · split
      · simpa using ih
      · simp

theorem tokens_readChain (tokens : List Token) :
    transformerTokens (readChain tokens).transformers ++
      (((readChain tokens).name.map Token.name).toList ++ (readChain tokens).rest) = tokens := by
  fun_induction readChain tokens <;>
    simp_all [Chain.prepend, transformerTokens]

theorem eq_of_ends {tokens : List Token} (h : ends tokens = true) :
    tokens = .tagEnd :: tokens.tail := by
  unfold ends at h
  split at h
  · rfl
  · cases h

theorem eq_of_closeName {tokens : List Token} {name : Text} (h : closeName tokens = some name) :
    tokens = .closeTagStart :: .name name :: .tagEnd :: tokens.drop 3 := by
  unfold closeName at h
  split at h
  · cases h
    rfl
  · cases h

/-- Tokens of a tag after its beginning. -/
def tagTokens : Except BrokenTag Reference → List Token
  | .ok reference => reference.tokens ++ [.tagEnd]
  | .error broken => broken.tokens

theorem tagTokens_readTag (tokens : List Token) :
    tagTokens (readTag tokens).value ++ (readTag tokens).rest = tokens := by
  have whole := tokens_readChain tokens
  simp only [readTag, Parsed.widen_value, Parsed.widen_rest, Chain.toTag]
  generalize readChain tokens = chain at whole
  split
  · rename_i name name_eq closed
    rw [eq_of_ends closed, name_eq] at whole
    simpa [tagTokens, Reference.tokens] using whole
  · have kept := brokenTail_append_afterBroken chain.rest
    simp only [tagTokens, BrokenTag.tokens, List.append_assoc, kept]
    exact whole

theorem tokens_readStrayClose (tokens : List Token) :
    (readStrayClose tokens).value.tokens ++ (readStrayClose tokens).rest =
      .closeTagStart :: tokens := by
  unfold readStrayClose
  split
  · rfl
  · simp [Malformed.tokens, brokenTail_append_afterBroken]

/-- Contents and what is left of the tokens make up the tokens, if every
    element does. -/
theorem tokensAll_readContents {readElement : TagReader}
    (whole : ∀ tokens, (readElement tokens).value.tokens ++ (readElement tokens).rest =
      .tagStart :: tokens)
    (enclosing : Option Text) (tokens : List Token) :
    Content.tokensAll (readContents readElement enclosing tokens).value ++
      (readContents readElement enclosing tokens).rest = tokens := by
  fun_induction readContents readElement enclosing tokens with
  | case1 => rfl
  | case2 text rest ih => simp [Content.tokensAll, Content.tokens, ih]
  | case3 rest element _ ih =>
    simp only [Parsed.cons_value, Parsed.cons_rest, Content.tokensAll, List.append_assoc, ih]
    exact whole rest
  | case4 => rfl
  | case5 rest _ stray _ ih =>
    simp only [Parsed.cons_value, Parsed.cons_rest, Content.tokensAll, List.append_assoc, ih,
      Content.tokens]
    exact tokens_readStrayClose rest
  | case6 token rest _ _ _ ih =>
    simp [Content.tokensAll, Content.tokens, Malformed.tokens, ih]

theorem tokens_closeBlock (condition : Condition) (reference : Reference) {bound : Nat}
    (contents : Parsed Token (List Content) bound) :
    (closeBlock condition reference contents).value.tokens ++
        (closeBlock condition reference contents).rest =
      .tagStart :: condition.token :: (reference.tokens ++ [.tagEnd]) ++
        (Content.tokensAll contents.value ++ contents.rest) := by
  simp only [closeBlock]
  cases h : closeName contents.rest with
  | none => simp [closeTokens, Content.tokens]
  | some name =>
    have rest := eq_of_closeName h
    simp only [Content.tokens, closeTokens, Option.isSome_some, if_true]
    simp [← rest]

theorem tokens_readField (tokens : List Token) :
    (readField tokens).value.tokens ++ (readField tokens).rest = .tagStart :: tokens := by
  have whole := tagTokens_readTag tokens
  simp only [readField, Parsed.map_value, Parsed.map_rest]
  generalize readTag tokens = tag at whole
  split <;> simp_all [tagTokens, Content.tokens, Malformed.tokens]

theorem tokens_readBlock {inner : Option TagReader}
    (whole : ∀ reader ∈ inner, ∀ tokens, (reader tokens).value.tokens ++ (reader tokens).rest =
      .tagStart :: tokens)
    (condition : Condition) (tokens : List Token) :
    (readBlock inner condition tokens).value.tokens ++ (readBlock inner condition tokens).rest =
      .tagStart :: condition.token :: tokens := by
  have tag := tagTokens_readTag tokens
  simp only [readBlock]
  split
  · rename_i broken _ h
    rw [h] at tag
    simpa [tagTokens, Content.tokens, Malformed.tokens] using tag
  · rename_i reference h
    rw [h] at tag
    simp only [tagTokens] at tag
    have contents (rest : List Token) : Content.tokensAll (overflowContents rest) = rest := by
      unfold overflowContents
      split <;> simp_all [Content.tokensAll, Content.tokens, Malformed.tokens]
    simp [Content.tokens, contents, closeTokens, ← tag]
  · rename_i reference reader h
    rw [h] at tag
    simp only [tagTokens] at tag
    simp only [Parsed.widen_value, Parsed.widen_rest, tokens_closeBlock]
    rw [tokensAll_readContents (whole reader rfl)]
    simp [← tag]

theorem tokens_readElement (depth : Nat) (tokens : List Token) :
    (readElement depth tokens).value.tokens ++ (readElement depth tokens).rest =
      .tagStart :: tokens := by
  have step (inner : Option TagReader)
      (whole : ∀ reader ∈ inner, ∀ tokens,
        (reader tokens).value.tokens ++ (reader tokens).rest = .tagStart :: tokens)
      (tokens : List Token) :
      (readElement.readWith inner tokens).value.tokens ++
        (readElement.readWith inner tokens).rest = .tagStart :: tokens := by
    unfold readElement.readWith
    split
    · rename_i rest
      exact tokens_readBlock whole .ifFilled rest
    · rename_i rest
      exact tokens_readBlock whole .unlessFilled rest
    · exact tokens_readField _
  induction depth generalizing tokens with
  | zero => exact step none (by simp) tokens
  | succ depth ih =>
    refine step (some (readElement depth)) ?_ tokens
    intro reader h tokens
    cases h
    exact ih tokens

theorem rest_readContents_none (readElement : TagReader) (tokens : List Token) :
    (readContents readElement none tokens).rest = [] := by
  fun_induction readContents readElement none tokens <;> simp_all [closesBlock]

/-- A document has the tokens that it was read from. -/
theorem Document.tokens_ofTokens (limit : Nat) (tokens : List Token) :
    (Document.ofTokens limit tokens).tokens = tokens := by
  have whole := tokensAll_readContents (tokens_readElement limit) none tokens
  rw [rest_readContents_none, List.append_nil] at whole
  exact whole

/-- The contents of a parsed template have its tokens. -/
theorem tokensAll_parse (limit : Nat) (source : Text) :
    Content.tokensAll (parse limit source).contents = tokenize source :=
  Document.tokens_ofTokens limit (tokenize source)

/-- The tree of a parsed template holds the template. -/
theorem text_tree_parse (limit : Nat) (source : Text) :
    (parse limit source).tree.text = source := by
  rw [Document.tree, Tree.text_node, Content.textAll_treeAll, tokensAll_parse, textAll_tokenize]

end Flashcard.Template
