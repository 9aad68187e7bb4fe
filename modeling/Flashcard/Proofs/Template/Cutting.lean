import Flashcard.Proofs.Syntax.Limit
import Flashcard.Template.Document

/-!
# Templates cut off at the limit of nesting

Where blocks are nested too deeply, all that is left of a template is one content of the block
that has no room any more. So what is read up to a limit is what is read with room to spare,
cut off behind the open tag of the first block that is nested too deeply: that block and those
around it end there, without their close tags.

Results:
* `limits_readContents`, `limits_readElement`: what is read up to a limit is what is read with
  more room, cut off.
* `parse_cut`: the same for whole templates.
* `depthAll_parse_le`: no template needs more room than it has tokens.
-/

namespace Flashcard.Template

namespace Content

/-! ## Depth of blocks -/

mutual

/-- How deeply blocks are nested in a content. -/
def depth : Content → Nat
  | plain _ | field _ | malformed _ => 0
  | block _ _ contents _ => depthAll contents + 1

/-- How deeply blocks are nested in a row of contents. -/
def depthAll : List Content → Nat
  | [] => 0
  | content :: rest => max content.depth (depthAll rest)

end

theorem depth_le_of_mem {content : Content} {contents : List Content} (h : content ∈ contents) :
    content.depth ≤ depthAll contents := by
  induction contents with
  | nil => cases h
  | cons first rest ih =>
    rw [depthAll]
    obtain rfl | later := List.mem_cons.1 h
    · exact Nat.le_max_left _ _
    · exact Nat.le_trans (ih later) (Nat.le_max_right _ _)

mutual

/-- No block is nested more deeply than there are tokens. -/
theorem depth_le_length_tokens : (content : Content) → content.depth ≤ content.tokens.length
  | plain _ | field _ | malformed _ => Nat.zero_le _
  | block _ _ contents _ => by
    have inner := depthAll_le_length_tokens contents
    simp only [depth, tokens, List.length_append, List.length_cons]
    omega

theorem depthAll_le_length_tokens : (contents : List Content) →
    depthAll contents ≤ (tokensAll contents).length
  | [] => Nat.le_refl _
  | content :: rest => by
    have first := depth_le_length_tokens content
    have row := depthAll_le_length_tokens rest
    rw [depthAll, tokensAll, List.length_append]
    omega

end

/-! ## Cutting off -/

mutual

/-- A content that is cut off behind the open tag of the first block in it that is nested more
    than `room` deep. What comes from there on is left over, and so is what stands `behind` the
    content. -/
def cut : (room : Nat) → Content → (behind : List Token) → Content
  | 0, block condition reference contents close, behind =>
    .block condition reference
      (overflowContents (tokensAll contents ++ (closeTokens close ++ behind))) none
  | room + 1, block condition reference contents close, behind =>
    .block condition reference (cutAll room contents (closeTokens close ++ behind)) none
  | _, content, _ => content

/-- A row of contents that is cut off in the first one in which blocks are nested too deeply. -/
def cutAll (room : Nat) : List Content → (behind : List Token) → List Content
  | [], _ => []
  | content :: rest, behind =>
    if content.depth ≤ room then content :: cutAll room rest behind
    else [cut room content (tokensAll rest ++ behind)]

end

end Content

/-! ## Reading up to the limit -/

/-- A content that is read up to a limit, against the one that is read with more room. -/
abbrev ElementLimits (room : Nat) {bound : Nat} (whole limited : Parsed Token Content bound) :
    Prop :=
  Parsed.Limits Content.depth Content.cut room whole limited

/-- A row that is read up to a limit, against the one that is read with more room. -/
abbrev RowLimits (room : Nat) {bound : Nat} (whole limited : Parsed Token (List Content) bound) :
    Prop :=
  Parsed.Limits Content.depthAll Content.cutAll room whole limited

variable {room : Nat}

theorem RowLimits.cons {bound larger : Nat} {whole limited : Parsed Token (List Content) bound}
    (h : RowLimits room whole limited) {content : Content} (shallow : content.depth ≤ room)
    (le : bound ≤ larger) : RowLimits room (whole.cons content le) (limited.cons content le) := by
  refine Parsed.Limits.cons h (fun contents => ?_) (fun contents behind => ?_) le
  · rw [Content.depthAll]
    omega
  · rw [Content.cutAll, if_pos shallow]

/-- Contents are read up to the limit if the elements in them are. -/
theorem limits_readContents {whole limited : TagReader}
    (tokens_whole : ∀ tokens, (whole tokens).value.tokens ++ (whole tokens).rest =
      .tagStart :: tokens)
    (limits : ∀ tokens, ElementLimits room (whole tokens) (limited tokens))
    (enclosing : Option Text) (tokens : List Token) :
    RowLimits room (readContents whole enclosing tokens)
      (readContents limited enclosing tokens) := by
  fun_induction readContents whole enclosing tokens with
  | case1 =>
    rw [readContents]
    exact .refl (Nat.zero_le _)
  | case2 text rest ih =>
    rw [readContents]
    exact ih.cons (Nat.zero_le _) _
  | case3 rest element shorter ih =>
    have first := limits rest
    have step : readContents limited enclosing (.tagStart :: rest) =
        (readContents limited enclosing (limited rest).rest).cons (limited rest).value
          (Nat.le_succ_of_le (limited rest).rest_le) := by
      rw [readContents]
    rw [step]
    by_cases shallow : element.value.depth ≤ room
    · rw [first.same shallow]
      exact ih.cons shallow _
    · -- The row ends with the element, since nothing is left of the tokens.
      obtain ⟨value, none⟩ := first.short (Nat.not_le.1 shallow)
      have rest_whole := tokensAll_readContents tokens_whole enclosing element.rest
      constructor
      · intro deep
        rw [Parsed.cons_value, Content.depthAll] at deep
        omega
      · intro _
        simp only [Parsed.cons_value, Parsed.cons_rest, Content.cutAll, if_neg shallow]
        rw [rest_whole, value, none, readContents]
        exact ⟨rfl, rfl⟩
  | case4 rest closing =>
    rw [readContents, if_pos closing]
    exact .refl (Nat.zero_le _)
  | case5 rest other stray shorter ih =>
    rw [readContents, if_neg other]
    exact ih.cons (Nat.zero_le _) _
  | case6 token rest plain tagStart closeTagStart ih =>
    rw [readContents]
    · exact ih.cons (Nat.zero_le _) _
    · exact plain
    · exact tagStart
    · exact closeTagStart

theorem limits_closeBlock (condition : Condition) (reference : Reference) {bound : Nat}
    {whole limited : Parsed Token (List Content) bound} (h : RowLimits room whole limited) :
    ElementLimits (room + 1) (closeBlock condition reference whole)
      (closeBlock condition reference limited) where
  same shallow := by
    rw [h.same (Nat.le_of_succ_le_succ shallow)]
  short deep := by
    obtain ⟨value, none⟩ := h.short (Nat.lt_of_succ_lt_succ deep)
    simp only [closeBlock, value, none, Content.cut]
    refine ⟨?_, rfl⟩
    -- The close tag behind the contents is left over with the rest.
    cases close : closeName whole.rest with
    | none => rfl
    | some name =>
      have rest := eq_of_closeName close
      simp only [Option.isSome_some, if_true, closeTokens, List.cons_append, List.nil_append]
      rw [← rest]
      rfl

theorem tokensAll_overflowContents (tokens : List Token) :
    Content.tokensAll (overflowContents tokens) = tokens := by
  unfold overflowContents
  split
  · rename_i none
    rw [none]
    rfl
  · exact List.append_nil _

theorem readBlock_ok {inner : Option TagReader}
    (tokens_inner : ∀ reader ∈ inner, ∀ tokens,
      (reader tokens).value.tokens ++ (reader tokens).rest = .tagStart :: tokens)
    (condition : Condition) {tokens : List Token} {reference : Reference}
    (tag : (readTag tokens).value = .ok reference) :
    ∃ contents close,
      (readBlock inner condition tokens).value = .block condition reference contents close ∧
        Content.tokensAll contents ++
            (closeTokens close ++ (readBlock inner condition tokens).rest) =
          (readTag tokens).rest := by
  cases inner with
  | none =>
    simp only [readBlock, tag]
    refine ⟨_, _, rfl, ?_⟩
    rw [tokensAll_overflowContents, closeTokens, List.append_nil, List.append_nil]
  | some reader =>
    simp only [readBlock, tag, Parsed.widen_value, Parsed.widen_rest]
    refine ⟨_, _, rfl, ?_⟩
    have whole := tokensAll_readContents (tokens_inner reader rfl)
      (some (Unicode.trim reference.name)) (readTag tokens).rest
    generalize readContents reader (some (Unicode.trim reference.name)) (readTag tokens).rest =
      contents at whole
    refine Eq.trans (congrArg _ ?_) whole
    simp only [closeBlock]
    cases close : closeName contents.rest with
    | none => rfl
    | some name => exact (eq_of_closeName close).symm

/-- Without any room, a block holds what is left over, however it is read with more. -/
theorem limits_readBlock_none {inner : Option TagReader}
    (tokens_inner : ∀ reader ∈ inner, ∀ tokens,
      (reader tokens).value.tokens ++ (reader tokens).rest = .tagStart :: tokens)
    (condition : Condition) (tokens : List Token) :
    ElementLimits 0 (readBlock inner condition tokens) (readBlock none condition tokens) := by
  cases tag : (readTag tokens).value with
  | error broken =>
    simp only [readBlock, tag]
    exact .refl (Nat.zero_le 0)
  | ok reference =>
    obtain ⟨contents, close, value, whole⟩ := readBlock_ok tokens_inner condition tag
    constructor
    · intro shallow
      rw [value] at shallow
      exact absurd shallow (Nat.not_succ_le_zero _)
    · intro _
      rw [value, Content.cut, whole]
      constructor <;> simp only [readBlock, tag]

theorem limits_readBlock_some {whole limited : TagReader}
    (tokens_whole : ∀ tokens, (whole tokens).value.tokens ++ (whole tokens).rest =
      .tagStart :: tokens)
    (limits : ∀ tokens, ElementLimits room (whole tokens) (limited tokens))
    (condition : Condition) (tokens : List Token) :
    ElementLimits (room + 1) (readBlock (some whole) condition tokens)
      (readBlock (some limited) condition tokens) := by
  cases tag : (readTag tokens).value with
  | error broken =>
    simp only [readBlock, tag]
    exact .refl (Nat.zero_le (room + 1))
  | ok reference =>
    simp only [readBlock, tag]
    exact (limits_closeBlock condition reference
      (limits_readContents tokens_whole limits _ _)).widen _

theorem limits_readWith {whole limited : Option TagReader}
    (limits : ∀ condition tokens,
      ElementLimits room (readBlock whole condition tokens) (readBlock limited condition tokens))
    (tokens : List Token) :
    ElementLimits room (readElement.readWith whole tokens)
      (readElement.readWith limited tokens) := by
  unfold readElement.readWith
  split
  · exact (limits .ifFilled _).widen _
  · exact (limits .unlessFilled _).widen _
  · refine .refl ?_
    rw [readField, Parsed.map_value]
    split <;> exact Nat.zero_le _

/-- What a tag stands for is read up to the limit. -/
theorem limits_readElement {depth : Nat} (le : room ≤ depth) (tokens : List Token) :
    ElementLimits room (readElement depth tokens) (readElement room tokens) := by
  induction room generalizing depth tokens with
  | zero =>
    cases depth with
    | zero =>
      refine limits_readWith (limits_readBlock_none ?_) tokens
      rintro reader ⟨⟩
    | succ depth =>
      refine limits_readWith (limits_readBlock_none ?_) tokens
      rintro reader ⟨⟩
      exact tokens_readElement depth
  | succ room ih =>
    obtain _ | depth := depth
    · exact absurd le (Nat.not_succ_le_zero _)
    · have inner := limits_readBlock_some (tokens_readElement depth)
        (ih (Nat.le_of_succ_le_succ le))
      exact limits_readWith inner tokens

/-! ## Whole templates -/

/-- A template that is read up to a limit is the template read with more room, cut off where
    blocks are nested too deeply. -/
theorem parse_cut {depth : Nat} (le : room ≤ depth) (source : Text) :
    (Content.depthAll (parse depth source).contents ≤ room →
        parse room source = parse depth source) ∧
      (room < Content.depthAll (parse depth source).contents →
        (parse room source).contents = Content.cutAll room (parse depth source).contents []) := by
  have row := limits_readContents (tokens_readElement depth) (limits_readElement le) none
    (tokenize source)
  constructor
  · intro shallow
    rw [parse, Document.ofTokens, row.same shallow]
    rfl
  · intro deep
    have cut := (row.short deep).1
    rwa [rest_readContents_none] at cut

/-- No template needs more room than it has tokens. -/
theorem depthAll_parse_le (limit : Nat) (source : Text) :
    Content.depthAll (parse limit source).contents ≤ (tokenize source).length := by
  have bound := Content.depthAll_le_length_tokens (parse limit source).contents
  rwa [tokensAll_parse] at bound

/-- A limit that no block of a template is nested beyond makes no difference. -/
theorem parse_eq_parse {limit enough : Nat} {source : Text}
    (le : (tokenize source).length ≤ enough)
    (room : Content.depthAll (parse enough source).contents ≤ limit) :
    parse limit source = parse enough source := by
  obtain small | large := Nat.le_total limit enough
  · exact (parse_cut small source).1 room
  · exact ((parse_cut large source).1 (Nat.le_trans (depthAll_parse_le limit source) le)).symm

end Flashcard.Template
