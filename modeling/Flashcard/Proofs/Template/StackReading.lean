import Flashcard.Proofs.Template.TagStack
import Flashcard.Template.Card

/-!
# Reading follows the stack

Blocks are read by recursion: contents go up to the close tag with the name of the
block around them. That is what the stack of open blocks says, tag by tag, as long
as no more blocks are open at once than may be nested.

Results:
* `chainName?_tagBody`: a tag has a name exactly if it is read as a reference.
* `readField_follows`, `readBlock_follows`, `readStrayClose_follows`: a tag is read as
  what it does to the stack.
* `readContents_follows`, `readElement_follows`: so are contents, and blocks with what
  is in them.
* `parse_follows`: so is a whole template.
-/

namespace Flashcard.Template

/-! ## Tags as they are read -/

theorem tagBody_cons {token : Token} (h : token.isInside = true) (rest : List Token) :
    tagBody (token :: rest) = token :: tagBody rest := by
  rw [tagBody, List.takeWhile_cons_of_pos h, List.dropWhile_cons_of_pos h]
  rfl

theorem tagBody_append {front : List Token} (h : ∀ token ∈ front, token.isInside = true)
    (rest : List Token) : tagBody (front ++ rest) = front ++ tagBody rest := by
  induction front with
  | nil => rfl
  | cons token front ih =>
    obtain ⟨first, later⟩ := List.forall_mem_cons.1 h
    rw [List.cons_append, tagBody_cons first, ih later, List.cons_append]

theorem brokenTail_eq (tokens : List Token) : brokenTail tokens = tagBody tokens := by
  induction tokens with
  | nil => rfl
  | cons token rest ih =>
    rw [brokenTail, ih]
    split
    · rename_i ending
      subst ending
      rfl
    · rename_i ending
      have inside : token.isInside = token.isTagToken := by
        rw [Token.isInside, decide_eq_true ending, Bool.and_true]
      split
      · rename_i tagToken
        exact (tagBody_cons (inside.trans tagToken) rest).symm
      · rename_i noTagToken
        have outside : ¬ token.isInside = true := by rwa [inside]
        have open_ : ends (token :: rest) = false := by
          cases token with
          | tagEnd => exact absurd rfl ending
          | _ => rfl
        rw [tagBody, List.takeWhile_cons_of_neg outside, List.dropWhile_cons_of_neg outside, open_]
        rfl

theorem afterBroken_eq (tokens : List Token) : afterBroken tokens = behindTag tokens := by
  rw [afterBroken, brokenTail_eq, behindTag]

theorem tagBody_append_behindTag (tokens : List Token) :
    tagBody tokens ++ behindTag tokens = tokens := by
  rw [← brokenTail_eq, ← afterBroken_eq, brokenTail_append_afterBroken]

/-- A tag is read to its end, whether or not it is well formed. -/
theorem tagTokens_eq (tokens : List Token) : tagTokens (readTag tokens).value = tagBody tokens := by
  have names := tokens_readChain tokens
  have body := tagBody_append (isInside_chain (readChain tokens).transformers
    (readChain tokens).name) (readChain tokens).rest
  rw [List.append_assoc, names] at body
  simp only [readTag, Parsed.widen_value, Chain.toTag]
  generalize readChain tokens = chain at body
  split
  · rename_i name name_eq closed
    have ending : tagBody chain.rest = [.tagEnd] := by
      rw [eq_of_ends closed]
      rfl
    rw [body, ending, name_eq, tagTokens, Reference.tokens]
    rfl
  · rw [body, tagTokens, BrokenTag.tokens, brokenTail_eq]

theorem behindTag_eq (tokens : List Token) : behindTag tokens = (readTag tokens).rest := by
  have whole := tagTokens_readTag tokens
  rw [tagTokens_eq] at whole
  have same := whole.trans (tagBody_append_behindTag tokens).symm
  exact (List.append_cancel_left same).symm

theorem chainName?_tokens (reference : Reference) :
    chainName? (reference.tokens ++ [.tagEnd]) = some reference.name := by
  obtain ⟨transformers, name⟩ := reference
  induction transformers with
  | nil => rfl
  | cons text transformers ih => exact ih

theorem chainName?_eq_some {body : List Token} {name : Text} (h : chainName? body = some name) :
    ∃ reference : Reference, reference.name = name ∧ body = reference.tokens ++ [.tagEnd] := by
  fun_induction chainName? body with
  | case1 last =>
    obtain rfl := Option.some.inj h
    exact ⟨⟨[], last⟩, rfl, rfl⟩
  | case2 text rest ih =>
    obtain ⟨reference, named, rfl⟩ := ih h
    exact ⟨⟨text :: reference.transformers, reference.name⟩, named, rfl⟩
  | case3 => cases h

/-- The name of a tag is that of the reference that is read, if one is. -/
theorem chainName?_tagBody (tokens : List Token) :
    chainName? (tagBody tokens) = (readTag tokens).value.toOption.map Reference.name := by
  rw [← tagTokens_eq]
  cases read : (readTag tokens).value with
  | ok reference => exact chainName?_tokens reference
  | error broken =>
    obtain ⟨-, noReference⟩ := readTag_error read
    cases named : chainName? (tagTokens (.error broken)) with
    | none => rfl
    | some name =>
      obtain ⟨reference, -, same⟩ := chainName?_eq_some named
      exact absurd same (noReference reference)

/-! ## What happens in contents -/

/-- The block that the open tag with a reference opens at the byte `start`. -/
def Reference.opened (reference : Reference) (start : Nat) : OpenBlock :=
  ⟨reference.openTagSpan start, Unicode.trim reference.name⟩

theorem around_opened (reference : Reference) (start : Nat) (stack : List OpenBlock) :
    around (reference.opened start :: stack) = (.element, start) := rfl

/-- Shape of the tag that is malformed, if it is one. -/
def Malformed.shape? : Malformed → Option Shape
  | .stray _ | .overflow _ => none
  | .closeTag _ _ => some .closeTag
  | .field _ => some .selfClosingTag
  | .block _ _ => some .openTag

namespace Content

mutual

/-- What happens at the tags of a content that begins at the byte `start`. -/
def events (around : Kind × Nat) (start : Nat) : Content → List Event
  | .plain _ | .field _ => []
  | .block _ reference contents close =>
    let inner := (reference.openTagSpan start).stop
    .push (reference.opened start) :: (eventsAll (.element, start) inner contents ++
      (close.map fun name =>
        .pop start (inner + sizeAll contents) (Unicode.trim name)).toList)
  | .malformed part => [.reject around start part.shape? (part.tokens.map Token.pair)]

/-- What happens at the tags of contents in a row. -/
def eventsAll (around : Kind × Nat) (start : Nat) : List Content → List Event
  | [] => []
  | content :: rest => events around start content ++ eventsAll around (start + content.size) rest

end

mutual

/-- The blocks in a content that are not closed, outer ones first. -/
def unclosed (start : Nat) : Content → List OpenBlock
  | .plain _ | .field _ | .malformed _ => []
  | .block _ reference contents close =>
    (if close.isSome then [] else [reference.opened start]) ++
      unclosedAll (reference.openTagSpan start).stop contents

/-- The blocks in contents in a row that are not closed. -/
def unclosedAll (start : Nat) : List Content → List OpenBlock
  | [] => []
  | content :: rest => unclosed start content ++ unclosedAll (start + content.size) rest

end

/-- Close tags have the names of the blocks that they close. -/
inductive ClosedByName : Content → Prop
  | plain {text : Text} : ClosedByName (.plain text)
  | field {reference : Reference} : ClosedByName (.field reference)
  | malformed {part : Malformed} : ClosedByName (.malformed part)
  | block {condition : Condition} {reference : Reference} {contents : List Content}
      {close : Option Text} : (∀ content ∈ contents, ClosedByName content) →
      (∀ name ∈ close, Unicode.trim name = Unicode.trim reference.name) →
      ClosedByName (.block condition reference contents close)

end Content

/-- The tokens are read as contents with the rest left, and the tags do the same to
    the stack as reading does. Only at the very end a block is left open. -/
structure IsRead (stack : List OpenBlock) (start : Nat) (tokens : List Token)
    (contents : List Content) (rest : List Token) : Prop where
  leads : Leads ⟨stack, start, tokens⟩ (Content.eventsAll (around stack) start contents)
    ⟨(Content.unclosedAll start contents).reverse ++ stack, start + Content.sizeAll contents, rest⟩
  ended : Content.unclosedAll start contents = [] ∨ rest = []
  named : ∀ content ∈ contents, content.ClosedByName

variable {stack : List OpenBlock} {start : Nat} {tokens rest : List Token}

theorem IsRead.nil : IsRead stack start tokens [] tokens := by
  refine ⟨?_, .inl rfl, by simp⟩
  exact Leads.refl _

theorem IsRead.unclosed_eq_nil {content : Content}
    (h : IsRead stack start tokens [content] rest) (more : rest ≠ []) :
    content.unclosed start = [] := by
  have closed := h.ended.resolve_right more
  rwa [Content.unclosedAll, Content.unclosedAll, List.append_nil] at closed

/-- Where more follows a content, the stack is the same behind it. -/
theorem IsRead.leads_more {content : Content} (h : IsRead stack start tokens [content] rest)
    (more : rest ≠ []) :
    Leads ⟨stack, start, tokens⟩ (content.events (around stack) start)
      ⟨stack, start + content.size, rest⟩ := by
  have leads := h.leads
  rwa [Content.eventsAll, Content.eventsAll, List.append_nil, Content.unclosedAll,
    Content.unclosedAll, List.append_nil, h.unclosed_eq_nil more, Content.sizeAll,
    Content.sizeAll] at leads

/-- No more blocks are open behind a content than were on the way. -/
theorem IsRead.deepest_le {content : Content} (h : IsRead stack start tokens [content] rest)
    {bound : Nat} (deep : deepest stack (tagsFrom start tokens) ≤ bound) :
    deepest stack (tagsFrom (start + content.size) rest) ≤ bound := by
  by_cases more : rest = []
  · subst more
    rw [tagsFrom, deepest]
    exact Nat.le_trans (length_le_deepest stack _) deep
  · exact Nat.le_trans (h.leads_more more).deepest_le deep

theorem IsRead.cons {content : Content} {contents : List Content} {later : List Token}
    (first : IsRead stack start tokens [content] rest)
    (second : IsRead stack (start + content.size) rest contents later)
    (nothing : rest = [] → contents = [] ∧ later = []) :
    IsRead stack start tokens (content :: contents) later := by
  by_cases more : rest = []
  · obtain ⟨rfl, rfl⟩ := nothing more
    rw [more] at first
    exact first
  · have closed := first.unclosed_eq_nil more
    refine ⟨?_, ?_, ?_⟩
    · rw [Content.eventsAll, Content.unclosedAll, closed, List.nil_append, Content.sizeAll,
        ← Nat.add_assoc]
      exact (first.leads_more more).trans second.leads
    · rw [Content.unclosedAll, closed, List.nil_append]
      exact second.ended
    · exact List.forall_mem_cons.2 ⟨first.named content (List.mem_singleton.2 rfl), second.named⟩

/-- A tag that is as long as a content ends where the content does. -/
theorem stop_span {tag : Tag} {content : Content} (h : content.tokens = tag.tokens) :
    tag.span.stop = tag.start + content.size := by
  rw [Content.size_eq, h]
  rfl

/-- A tag that is rejected is read as a malformed part with its tokens. -/
theorem IsRead.rejected (tag : Tag) (body : tag.body = tagBody rest) {part : Malformed}
    (tokens_eq : part.tokens = tag.tokens) {shape : Shape} (shape_eq : part.shape? = some shape)
    (step_eq : step stack tag = (stack, step.rejected stack tag shape)) :
    IsRead stack tag.start (tag.opening :: rest) [.malformed part] (behindTag rest) := by
  have leads := Leads.tag stack body
  rw [step_eq, stop_span (show (Content.malformed part).tokens = _ from tokens_eq)] at leads
  refine ⟨?_, .inl rfl, ?_⟩
  · rw [Content.eventsAll, Content.eventsAll, List.append_nil, Content.events, shape_eq, tokens_eq]
    exact leads
  · rw [List.forall_mem_singleton]
    exact .malformed

/-- A tag that neither opens a block nor is broken does nothing. -/
theorem IsRead.shown (tag : Tag) (body : tag.body = tagBody rest) {reference : Reference}
    (tokens_eq : (Content.field reference).tokens = tag.tokens) (role : tag.role = .shows) :
    IsRead stack tag.start (tag.opening :: rest) [.field reference] (behindTag rest) := by
  have leads := Leads.tag stack body
  rw [step_shows role, stop_span tokens_eq] at leads
  refine ⟨leads, .inl rfl, ?_⟩
  rw [List.forall_mem_singleton]
  exact .field

/-! ## Reading tags -/

/-- Reading follows the stack, as long as no more than `depth` blocks are opened on
    top of those that are open. -/
def TagReader.Follows (reader : TagReader) (depth : Nat) : Prop :=
  ∀ (stack : List OpenBlock) (start : Nat) (tokens : List Token), Alternates true tokens →
    deepest stack (tagsFrom start (.tagStart :: tokens)) ≤ stack.length + depth →
    IsRead stack start (.tagStart :: tokens) [(reader tokens).value] (reader tokens).rest

theorem role_field (start : Nat) {tokens : List Token}
    (noMark : ∀ (condition : Condition) (rest : List Token), tokens ≠ condition.token :: rest) :
    (Tag.mk start false (tagBody tokens)).role =
      match (readTag tokens).value with
      | .ok _ => .shows
      | .error _ => .broken .selfClosingTag := by
  have named := chainName?_tagBody tokens
  have whole := tagBody_append_behindTag tokens
  generalize tagBody tokens = body at named whole
  have role : (Tag.mk start false body).role =
      chainRole (fun _ => .shows) .selfClosingTag body := by
    cases body with
    | nil => rfl
    | cons token rest =>
      cases token with
      | ifMark => exact absurd whole.symm (noMark .ifFilled _)
      | unlessMark => exact absurd whole.symm (noMark .unlessFilled _)
      | _ => rfl
  rw [role, chainRole, named]
  cases (readTag tokens).value <;> rfl

theorem role_block (start : Nat) (condition : Condition) (tokens : List Token) :
    (Tag.mk start false (condition.token :: tagBody tokens)).role =
      match (readTag tokens).value with
      | .ok reference => .opens (Unicode.trim reference.name)
      | .error _ => .broken .openTag := by
  have role : (Tag.mk start false (condition.token :: tagBody tokens)).role =
      chainRole (fun name => .opens (Unicode.trim name)) .openTag (tagBody tokens) := by
    cases condition <;> rfl
  rw [role, chainRole, chainName?_tagBody]
  cases (readTag tokens).value <;> rfl

/-- The tag of a field is shown or rejected. -/
theorem readField_follows (stack : List OpenBlock) (start : Nat) {tokens : List Token}
    (noMark : ∀ (condition : Condition) (rest : List Token), tokens ≠ condition.token :: rest) :
    IsRead stack start (.tagStart :: tokens) [(readField tokens).value]
      (readField tokens).rest := by
  have role := role_field start noMark
  have body := tagTokens_eq tokens
  rw [readField, Parsed.map_value, Parsed.map_rest, ← behindTag_eq]
  cases read : (readTag tokens).value with
  | ok reference =>
    rw [read] at role body
    refine IsRead.shown ⟨start, false, tagBody tokens⟩ rfl ?_ role
    rw [Content.tokens, Tag.tokens, ← body]
    rfl
  | error broken =>
    rw [read] at role body
    refine IsRead.rejected ⟨start, false, tagBody tokens⟩ rfl ?_ rfl (step_broken role)
    rw [Malformed.tokens, Tag.tokens, ← body]
    rfl

/-- The name that a close tag must have next. -/
def topName (stack : List OpenBlock) : Option Text := stack.head?.map OpenBlock.name

theorem closesBlock_topName (top : OpenBlock) (stack : List OpenBlock) (tokens : List Token) :
    closesBlock (topName (top :: stack)) tokens =
      (closeName tokens).any fun name => Unicode.trim name = top.name := by
  rw [topName, List.head?_cons, Option.map_some, closesBlock.eq_def]
  cases closeName tokens <;> rfl

/-- A close tag that does not close the block on top of the stack is rejected. -/
theorem readStrayClose_follows (stack : List OpenBlock) (start : Nat) (tokens : List Token)
    (other : closesBlock (topName stack) (.closeTagStart :: tokens) = false) :
    IsRead stack start (.closeTagStart :: tokens) [.malformed (readStrayClose tokens).value]
      (readStrayClose tokens).rest := by
  unfold readStrayClose
  split
  · rename_i text rest
    have role : (Tag.mk start true (tagBody (.name text :: .tagEnd :: rest))).role =
        .closes (Unicode.trim text) := rfl
    have differs : ∀ top ∈ stack.head?, Unicode.trim text ≠ top.name := by
      intro top head same
      obtain ⟨below, rfl⟩ := List.head?_eq_some_iff.1 head
      rw [closesBlock_topName] at other
      exact of_decide_eq_false other same
    exact IsRead.rejected ⟨start, true, tagBody (.name text :: .tagEnd :: rest)⟩ rfl rfl rfl
      (step_closes_other role differs)
  · rename_i noName
    have role : (Tag.mk start true (tagBody tokens)).role = .broken .closeTag := by
      have whole := tagBody_append_behindTag tokens
      unfold Tag.role
      split
      · rename_i name _ body
        rw [show tagBody tokens = _ from body] at whole
        exact absurd whole.symm (noName name _)
      · rfl
      all_goals cases ‹Tag.closes _ = false›
    show IsRead stack start _ [.malformed (.closeTag none (brokenTail tokens))] (afterBroken tokens)
    rw [brokenTail_eq, afterBroken_eq]
    exact IsRead.rejected ⟨start, true, tagBody tokens⟩ rfl rfl rfl (step_broken role)

/-- The tokens are read up to the end, or to the close tag of the block around
    them. -/
structure IsRow (stack : List OpenBlock) (start : Nat) (tokens : List Token) {bound : Nat}
    (row : Parsed Token (List Content) bound) : Prop where
  read : IsRead stack start tokens row.value row.rest
  behind : row.rest = [] ∨ closesBlock (topName stack) row.rest = true

/-- Contents are read up to the close tag of the block around them. -/
theorem readContents_follows {readElement : TagReader} {depth : Nat}
    (follows : readElement.Follows depth) (sound : readElement.IsSound depth)
    {stack : List OpenBlock} {enclosing : Option Text} (top : topName stack = enclosing)
    (start : Nat) {tokens : List Token} (turn : Alternates false tokens)
    (deep : deepest stack (tagsFrom start tokens) ≤ stack.length + depth) :
    IsRow stack start tokens (readContents readElement enclosing tokens) := by
  -- One content in front of a row. Where no tokens are left, the row is empty.
  have cons {start : Nat} {tokens rest : List Token} {content : Content} {larger : Nat}
      (first : IsRead stack start tokens [content] rest) (le : rest.length ≤ larger)
      (deep : deepest stack (tagsFrom start tokens) ≤ stack.length + depth)
      (ih : deepest stack (tagsFrom (start + content.size) rest) ≤ stack.length + depth →
        IsRow stack (start + content.size) rest (readContents readElement enclosing rest)) :
      IsRow stack start tokens ((readContents readElement enclosing rest).cons content le) := by
    obtain ⟨second, behind⟩ := ih (first.deepest_le deep)
    refine ⟨first.cons second ?_, behind⟩
    rintro rfl
    rw [readContents]
    exact ⟨rfl, rfl⟩
  fun_induction readContents readElement enclosing tokens generalizing start with
  | case1 => exact ⟨.nil, .inl rfl⟩
  | case2 text rest ih =>
    cases turn with
    | plain turn =>
      have first : IsRead stack start (.plain text :: rest) [.plain text] rest := by
        refine ⟨Leads.plain stack start text rest, .inl rfl, ?_⟩
        rw [List.forall_mem_singleton]
        exact .plain
      exact cons first _ deep (ih _ turn)
  | case3 rest element _ ih =>
    cases turn with
    | tagStart turn =>
      exact cons (follows stack start rest turn deep) _ deep (ih _ (sound rest turn).2)
  | case4 rest closes => exact ⟨.nil, .inr (top ▸ closes)⟩
  | case5 rest other stray _ ih =>
    cases turn with
    | closeTagStart turn =>
      rw [← top, Bool.not_eq_true] at other
      exact cons (readStrayClose_follows stack start rest other) _ deep
        (ih _ (readStrayClose_sound turn).2)
  | case6 token rest plain tagStart closeTagStart ih =>
    cases turn with
    | plain => exact absurd rfl (plain _)
    | tagStart => exact absurd rfl tagStart
    | closeTagStart => exact absurd rfl closeTagStart

/-! ## Reading blocks -/

theorem tagBody_mark (condition : Condition) (tokens : List Token) :
    tagBody (condition.token :: tokens) = condition.token :: tagBody tokens := by
  cases condition <;> exact tagBody_cons rfl tokens

theorem behindTag_mark (condition : Condition) (tokens : List Token) :
    behindTag (condition.token :: tokens) = behindTag tokens := by
  rw [behindTag, tagBody_mark]
  rfl

theorem span_openTag (start : Nat) (condition : Condition) (reference : Reference) :
    (Tag.mk start false (condition.token :: (reference.tokens ++ [.tagEnd]))).span =
      reference.openTagSpan start := by
  have size : (Token.textAll (.tagStart :: condition.token ::
      (reference.tokens ++ [.tagEnd]))).size = (Token.textAll reference.tokens).size + 5 := by
    simp only [Token.textAll_cons, Token.textAll_append, Text.size_append, Token.textAll_nil,
      Text.size_nil, Content.size_tagStart, Content.size_tagEnd, Content.size_conditionToken]
    omega
  rw [Tag.span, Reference.openTagSpan, ← size]
  rfl

theorem Leads.opened (stack : List OpenBlock) (start : Nat) (condition : Condition)
    {tokens : List Token} {reference : Reference} (read : (readTag tokens).value = .ok reference) :
    Leads ⟨stack, start, .tagStart :: condition.token :: tokens⟩ [.push (reference.opened start)]
      ⟨reference.opened start :: stack, (reference.openTagSpan start).stop,
        (readTag tokens).rest⟩ := by
  have body : reference.tokens ++ [.tagEnd] = tagBody tokens := by
    rw [← tagTokens_eq, read]
    rfl
  have role := role_block start condition tokens
  have leads := Leads.tag stack
    (show (Tag.mk start false _).body = _ from (tagBody_mark condition tokens).symm)
  rw [read] at role
  rw [step_opens role, ← body, span_openTag, behindTag_mark, behindTag_eq] at leads
  exact leads

theorem Leads.closed (stack : List OpenBlock) (top : OpenBlock) (start : Nat) {name : Text}
    (rest : List Token) (same : Unicode.trim name = top.name) :
    Leads ⟨top :: stack, start, .closeTagStart :: .name name :: .tagEnd :: rest⟩
      [.pop top.span.start start (Unicode.trim name)]
      ⟨stack, start + (Token.textAll (closeTokens (some name))).size, rest⟩ := by
  have body : (Tag.mk start true [.name name, .tagEnd]).body =
      tagBody (.name name :: .tagEnd :: rest) := rfl
  have role : (Tag.mk start true [.name name, .tagEnd]).role = .closes (Unicode.trim name) := rfl
  have leads := Leads.tag (top :: stack) body
  rw [step_closes role same] at leads
  exact leads

/-- What was read in a block is closed by the close tag that comes next, or the
    block is left open. -/
theorem IsRow.closeBlock {condition : Condition} {reference : Reference} {whole : List Token}
    {bound : Nat} {row : Parsed Token (List Content) bound}
    (opened : Leads ⟨stack, start, whole⟩ [.push (reference.opened start)]
      ⟨reference.opened start :: stack, (reference.openTagSpan start).stop, tokens⟩)
    (h : IsRow (reference.opened start :: stack) (reference.openTagSpan start).stop tokens row) :
    IsRead stack start whole [(closeBlock condition reference row).value]
      (closeBlock condition reference row).rest := by
  have leads := opened.trans h.read.leads
  rw [around_opened] at leads
  show IsRead stack start whole [.block condition reference row.value (closeName row.rest)]
    (if (closeName row.rest).isSome then row.rest.drop 3 else row.rest)
  cases close : closeName row.rest with
  | none =>
    have unclosed : closesBlock (topName (reference.opened start :: stack)) row.rest = false := by
      rw [closesBlock_topName, close]
      rfl
    have last : row.rest = [] := by
      refine h.behind.resolve_right ?_
      rw [unclosed]
      exact Bool.false_ne_true
    refine ⟨?_, .inr last, ?_⟩
    · have size : start + Content.sizeAll [.block condition reference row.value none] =
          (reference.openTagSpan start).stop + Content.sizeAll row.value := by
        simp only [Content.sizeAll, Content.size, Span.stop, Reference.openTagSpan, closeTokens,
          Token.textAll_nil, Text.size_nil]
        omega
      rw [size]
      simpa [Content.eventsAll, Content.events, Content.unclosedAll, Content.unclosed] using leads
    · rw [List.forall_mem_singleton]
      refine .block h.read.named ?_
      intro text mem
      cases mem
  | some name =>
    have rest := eq_of_closeName close
    have more : row.rest ≠ [] := by
      rw [rest]
      exact List.cons_ne_nil _ _
    have same : Unicode.trim name = Unicode.trim reference.name := by
      have closes := h.behind.resolve_left more
      rw [closesBlock_topName, close] at closes
      exact of_decide_eq_true closes
    have noneOpen := h.read.ended.resolve_right more
    have none' : Content.unclosedAll start
        [.block condition reference row.value (some name)] = [] := by
      rw [Content.unclosedAll, Content.unclosed, noneOpen]
      rfl
    refine ⟨?_, .inl none', ?_⟩
    · have size : start + Content.sizeAll [.block condition reference row.value (some name)] =
          (reference.openTagSpan start).stop + Content.sizeAll row.value +
            (Token.textAll (closeTokens (some name))).size := by
        simp only [Content.sizeAll, Content.size, Span.stop, Reference.openTagSpan]
        omega
      rw [noneOpen, rest] at leads
      have closed := Leads.closed stack (reference.opened start)
        ((reference.openTagSpan start).stop + Content.sizeAll row.value) (row.rest.drop 3) same
      rw [size, none']
      rw [show (reference.opened start).span.start = start from rfl] at closed
      simpa [Content.eventsAll, Content.events] using leads.trans closed
    · rw [List.forall_mem_singleton]
      refine .block h.read.named ?_
      intro text mem
      rwa [← Option.some.inj mem]

/-- What reads the tags inside a block follows the stack. -/
inductive InnerFollows : Option TagReader → (depth : Nat) → Prop
  | none : InnerFollows none 0
  | some {reader : TagReader} {depth : Nat} : reader.Follows depth → reader.IsSound depth →
      InnerFollows (some reader) (depth + 1)

/-- A block is read to its close tag, or left open, unless its open tag is broken. -/
theorem readBlock_follows {inner : Option TagReader} {depth : Nat} (h : InnerFollows inner depth)
    (condition : Condition) (stack : List OpenBlock) (start : Nat) {tokens : List Token}
    (turn : Alternates true tokens)
    (deep : deepest stack (tagsFrom start (.tagStart :: condition.token :: tokens)) ≤
      stack.length + depth) :
    IsRead stack start (.tagStart :: condition.token :: tokens)
      [(readBlock inner condition tokens).value] (readBlock inner condition tokens).rest := by
  have behind := turn.readTag
  cases read : (readTag tokens).value with
  | error broken =>
    have body : broken.tokens = tagBody tokens := by
      rw [← tagTokens_eq, read]
      rfl
    have role := role_block start condition tokens
    rw [read] at role
    have rejected : IsRead stack start (.tagStart :: condition.token :: tokens)
        [.malformed (.block condition broken)] (behindTag (condition.token :: tokens)) := by
      refine IsRead.rejected ⟨start, false, condition.token :: tagBody tokens⟩
        (tagBody_mark condition tokens).symm ?_ rfl (step_broken role)
      rw [Malformed.tokens, body]
      rfl
    rw [behindTag_mark, behindTag_eq] at rejected
    simp only [readBlock, read]
    exact rejected
  | ok reference =>
    have opened := Leads.opened stack start condition read
    have deeper := Nat.le_trans opened.deepest_le deep
    cases h with
    | none => exact absurd (Nat.le_trans (length_le_deepest _ _) deeper) (Nat.not_succ_le_self _)
    | @some reader depth follows sound =>
      have row := readContents_follows follows sound
        (show topName (reference.opened start :: stack) = some (Unicode.trim reference.name) from rfl)
        (reference.openTagSpan start).stop behind (by
          rw [List.length_cons, Nat.add_right_comm]
          exact deeper)
      simp only [readBlock, read]
      exact row.closeBlock opened

/-- Reading what a tag stands for follows the stack. -/
theorem readElement_follows (depth : Nat) : (readElement depth).Follows depth := by
  have step {inner : Option TagReader} {depth : Nat} (h : InnerFollows inner depth) :
      TagReader.Follows (readElement.readWith inner) depth := by
    intro stack start tokens turn deep
    unfold readElement.readWith
    split
    · cases turn with
      | inside _ turn => exact readBlock_follows h .ifFilled stack start turn deep
    · cases turn with
      | inside _ turn => exact readBlock_follows h .unlessFilled stack start turn deep
    · rename_i noIf noUnless
      refine readField_follows stack start ?_
      intro condition rest
      cases condition with
      | ifFilled => exact noIf rest
      | unlessFilled => exact noUnless rest
  induction depth with
  | zero => exact step .none
  | succ depth ih => exact step (.some ih (readElement_sound depth))

/-! ## Whole templates -/

/-- Tags of a template. -/
def tags (source : Text) : List Tag := tagsFrom 0 (tokenize source)

/-- Where no more blocks are open at once than may be nested, the contents of a
    template are what its tags do to the stack. -/
theorem parse_follows {limit : Nat} {source : Text} (h : deepest [] (tags source) ≤ limit) :
    let contents := (parse limit source).contents
    events [] (tags source) = Content.eventsAll (.document, 0) 0 contents ∧
      stackBehind [] (tags source) = (Content.unclosedAll 0 contents).reverse ∧
      ∀ content ∈ contents, content.ClosedByName := by
  intro contents
  have turn := alternates_tokenizeFrom false source
  have row := readContents_follows (readElement_follows limit) (readElement_sound limit)
    (show topName [] = none from rfl) 0 turn (by
      rw [List.length_nil, Nat.zero_add]
      exact h)
  have leads := row.read.leads
  rw [rest_readContents_none, List.append_nil] at leads
  refine ⟨?_, ?_, row.read.named⟩
  · have found := leads.events_eq
    rw [Place.tags, Place.tags, tagsFrom.eq_def _ [], Template.events, List.append_nil] at found
    exact found
  · have left := leads.stack_eq
    rw [Place.tags, Place.tags, tagsFrom.eq_def _ [], Template.stackBehind] at left
    exact left

end Flashcard.Template
