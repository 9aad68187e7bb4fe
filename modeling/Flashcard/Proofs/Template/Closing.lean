import Flashcard.Proofs.Template.Cutting
import Flashcard.Proofs.Template.Fitting

/-!
# A close tag behind a template

A tag that is not ended breaks off in front of a close tag, so what stands in front of a close tag
is read as it is alone. Where blocks are left open, the reader is inside the innermost of them at
the end, and a close tag with the name of that block closes it and nothing else.

Results:
* `leaves_readTag`, `leaves_readStrayClose`: a tag is read in front of a close tag as alone.
* `closing_readContents`, `closing_readElement`: what is read alone, and in front of a close tag.
* `closing_parse`: the close tag closes the innermost block of a template that is not closed.
-/

namespace Flashcard

namespace Parsed

variable {τ α β : Type} {bound larger : Nat}

/-- What is read where more tokens follow, `followed`, is what is read where none do, `alone`, and
    what follows is left over. -/
structure Leaves (behind : List τ) (alone : Parsed τ α bound) (followed : Parsed τ α larger) :
    Prop where
  value : followed.value = alone.value
  rest : followed.rest = alone.rest ++ behind

namespace Leaves

variable {behind : List τ} {alone : Parsed τ α bound} {followed : Parsed τ α larger}

theorem map (h : Leaves behind alone followed) (f : α → β) :
    Leaves behind (alone.map f) (followed.map f) :=
  ⟨congrArg f h.value, h.rest⟩

theorem widen (h : Leaves behind alone followed) {n m : Nat} (le : bound ≤ n) (le' : larger ≤ m) :
    Leaves behind (alone.widen le) (followed.widen le') :=
  ⟨h.value, h.rest⟩

end Leaves

end Parsed

namespace Template

open Parsed (Leaves)

/-! ## Tags in front of a close tag -/

section Tags

variable (name : Text)

theorem readChain_behind (tokens : List Token) :
    readChain (tokens ++ closeTokens (some name)) =
      { readChain tokens with rest := (readChain tokens).rest ++ closeTokens (some name) } := by
  fun_induction readChain tokens with
  | case1 text rest ih =>
    rw [List.cons_append, List.cons_append, readChain, ih]
    rfl
  | case2 text rest noColon =>
    rw [List.cons_append, readChain]
    intro later same
    cases rest with
    | nil => cases same
    | cons token rest =>
      obtain ⟨rfl, -⟩ := List.cons.inj same
      exact noColon rest rfl
  | case3 tokens noChain noName =>
    cases tokens with
    | nil => rfl
    | cons token rest =>
      cases token with
      | name text => exact absurd rfl (noName text rest)
      | _ => rfl

theorem brokenTail_behind (tokens : List Token) :
    brokenTail (tokens ++ closeTokens (some name)) = brokenTail tokens := by
  induction tokens with
  | nil => rfl
  | cons token rest ih => rw [List.cons_append, brokenTail, ih, brokenTail]

theorem afterBroken_behind (tokens : List Token) :
    afterBroken (tokens ++ closeTokens (some name)) =
      afterBroken tokens ++ closeTokens (some name) := by
  have alone := brokenTail_append_afterBroken tokens
  have whole := brokenTail_append_afterBroken (tokens ++ closeTokens (some name))
  rw [brokenTail_behind] at whole
  have both : brokenTail tokens ++ afterBroken (tokens ++ closeTokens (some name)) =
      brokenTail tokens ++ (afterBroken tokens ++ closeTokens (some name)) := by
    rw [whole, ← List.append_assoc, alone]
  exact List.append_cancel_left both

theorem ends_behind (tokens : List Token) :
    ends (tokens ++ closeTokens (some name)) = ends tokens := by
  cases tokens with
  | nil => rfl
  | cons token rest => cases token <;> rfl

theorem leaves_toTag (chain : Chain) :
    Leaves (closeTokens (some name)) chain.toTag
      (Chain.toTag { chain with rest := chain.rest ++ closeTokens (some name) }) := by
  obtain ⟨transformers, last, rest⟩ := chain
  have same := ends_behind name rest
  have tail := brokenTail_behind name rest
  have after := afterBroken_behind name rest
  cases last with
  | none => exact ⟨by simp only [Chain.toTag, tail], after⟩
  | some last =>
    cases closed : ends rest with
    | true =>
      rw [eq_of_ends closed]
      exact ⟨rfl, rfl⟩
    | false =>
      rw [closed] at same
      simp only [Chain.toTag, closed, same]
      exact ⟨by rw [tail], after⟩

/-- A tag is read in front of a close tag as it is alone. -/
theorem leaves_readTag (tokens : List Token) :
    Leaves (closeTokens (some name)) (readTag tokens)
      (readTag (tokens ++ closeTokens (some name))) := by
  have tag := leaves_toTag name (readChain tokens)
  rw [← readChain_behind] at tag
  exact tag.widen _ _

theorem leaves_readField (tokens : List Token) :
    Leaves (closeTokens (some name)) (readField tokens)
      (readField (tokens ++ closeTokens (some name))) :=
  (leaves_readTag name tokens).map _

theorem leaves_readStrayClose (tokens : List Token) :
    Leaves (closeTokens (some name)) (readStrayClose tokens)
      (readStrayClose (tokens ++ closeTokens (some name))) := by
  fun_cases readStrayClose tokens with
  | case1 text rest => exact ⟨rfl, rfl⟩
  | case2 tokens noName =>
    have followed : ∀ text rest, tokens ++ closeTokens (some name) = .name text :: .tagEnd :: rest →
        False := by
      intro text rest same
      match tokens, same with
      | [.name _], same => cases same
      | .name other :: token :: later, same =>
        obtain ⟨-, same⟩ := List.cons.inj same
        obtain ⟨rfl, -⟩ := List.cons.inj same
        exact noName other later rfl
    rw [readStrayClose.eq_2 _ followed, readStrayClose.eq_2 _ noName]
    exact ⟨congrArg _ (brokenTail_behind name tokens), afterBroken_behind name tokens⟩

theorem closeName_behind (token : Token) (tokens : List Token) :
    closeName (token :: (tokens ++ closeTokens (some name))) = closeName (token :: tokens) := by
  cases token with
  | closeTagStart =>
    cases tokens with
    | nil => rfl
    | cons first tokens =>
      cases first with
      | name text =>
        cases tokens with
        | nil => rfl
        | cons second tokens => cases second <;> rfl
      | _ => rfl
  | _ => rfl

theorem closesBlock_behind (enclosing : Option Text) (token : Token) (tokens : List Token) :
    closesBlock enclosing (token :: (tokens ++ closeTokens (some name))) =
      closesBlock enclosing (token :: tokens) := by
  rw [closesBlock.eq_def, closesBlock.eq_def, closeName_behind]

end Tags

/-! ## Blocks that are closed -/

namespace Content

mutual

/-- The content `closed` is `content`, which begins at the byte `start`, but the innermost block
    in it that is not closed, `block`, has a close tag with the name `name`. -/
inductive Closes (name : Text) (block : OpenBlock) :
    (start : Nat) → (content closed : Content) → Prop
  | here {start : Nat} {condition : Condition} {reference : Reference} {contents : List Content} :
      unclosedAll (reference.openTagSpan start).stop contents = [] →
      reference.opened start = block →
      Closes name block start (.block condition reference contents none)
        (.block condition reference contents (some name))
  | inside {start : Nat} {condition : Condition} {reference : Reference}
      {contents closed : List Content} :
      ClosesAll name block (reference.openTagSpan start).stop contents closed →
      Closes name block start (.block condition reference contents none)
        (.block condition reference closed none)

/-- The same for contents in a row: the last one is not closed. -/
inductive ClosesAll (name : Text) (block : OpenBlock) :
    (start : Nat) → (contents closed : List Content) → Prop
  | last {start : Nat} {content closed : Content} :
      Closes name block start content closed → ClosesAll name block start [content] [closed]
  | cons {start : Nat} {content : Content} {rest closed : List Content} :
      content.unclosed start = [] → ClosesAll name block (start + content.size) rest closed →
      ClosesAll name block start (content :: rest) (content :: closed)

end

end Content

/-! ## Reading in front of a close tag -/

variable {name : Text} {start : Nat}

/-- A content and what is left of the tokens, as they are read alone (`content`, `rest`) and in
    front of a close tag (`followed`, `left`). -/
structure ElementClosing (name : Text) (start : Nat) (content : Content) (rest : List Token)
    (followed : Content) (left : List Token) : Prop where
  /-- Where all blocks are closed, the close tag is left. -/
  leaves : content.unclosed start = [] →
    followed = content ∧ left = rest ++ closeTokens (some name)
  /-- Blocks are open only at the end. -/
  ended : content.unclosed start = [] ∨ rest = []
  /-- The close tag closes the innermost of them, if it has the name of that one. -/
  closes : ∀ block, (content.unclosed start).getLast? = some block →
    Unicode.trim name = block.name → content.Closes name block start followed ∧ left = []

/-- A row of contents and what is left of the tokens, in the same way. Where all blocks are closed,
    the row goes on with what is read in front of the close tag from there. -/
structure RowClosing (reader : TagReader) (enclosing : Option Text) (name : Text) (start : Nat)
    (contents : List Content) (rest : List Token) (followed : List Content) (left : List Token) :
    Prop where
  leaves : Content.unclosedAll start contents = [] →
    let behind := readContents reader enclosing (rest ++ closeTokens (some name))
    followed = contents ++ behind.value ∧ left = behind.rest
  ended : Content.unclosedAll start contents = [] ∨ rest = []
  closes : ∀ block, (Content.unclosedAll start contents).getLast? = some block →
    Unicode.trim name = block.name →
      Content.ClosesAll name block start contents followed ∧ left = []

theorem ElementClosing.of_closed {content : Content} (closed : content.unclosed start = [])
    (rest : List Token) :
    ElementClosing name start content rest content (rest ++ closeTokens (some name)) where
  leaves _ := ⟨rfl, rfl⟩
  ended := .inl closed
  closes block last := by
    rw [closed] at last
    cases last

theorem ElementClosing.of_leaves {bound larger : Nat} {alone : Parsed Token Content bound}
    {followed : Parsed Token Content larger} (h : Leaves (closeTokens (some name)) alone followed)
    (closed : alone.value.unclosed start = []) :
    ElementClosing name start alone.value alone.rest followed.value followed.rest := by
  rw [h.value, h.rest]
  exact .of_closed closed _

/-- What a reader takes for a tag in front of a close tag, as long as blocks are not nested more
    than `room` deep. -/
def TagReader.Closing (reader : TagReader) (name : Text) (room : Nat) : Prop :=
  ∀ start tokens, (reader tokens).value.depth ≤ room →
    ElementClosing name start (reader tokens).value (reader tokens).rest
      (reader (tokens ++ closeTokens (some name))).value
      (reader (tokens ++ closeTokens (some name))).rest

section Rows

variable {reader : TagReader} {enclosing : Option Text} {contents followed : List Content}
  {content first : Content} {rest left : List Token}

theorem RowClosing.nil (tokens : List Token) :
    RowClosing reader enclosing name start [] tokens
      (readContents reader enclosing (tokens ++ closeTokens (some name))).value
      (readContents reader enclosing (tokens ++ closeTokens (some name))).rest where
  leaves _ := ⟨rfl, rfl⟩
  ended := .inl rfl
  closes _ last := nomatch last

/-- A content in which all blocks are closed stays in front of a row. -/
theorem RowClosing.cons (closed : content.unclosed start = [])
    (h : RowClosing reader enclosing name (start + content.size) contents rest followed left) :
    RowClosing reader enclosing name start (content :: contents) rest (content :: followed)
      left := by
  have same : Content.unclosedAll start (content :: contents) =
      Content.unclosedAll (start + content.size) contents := by
    rw [Content.unclosedAll, closed, List.nil_append]
  constructor
  · intro allClosed
    obtain ⟨value, rest⟩ := h.leaves (same ▸ allClosed)
    exact ⟨congrArg (content :: ·) value, rest⟩
  · exact same ▸ h.ended
  · intro block last named
    obtain ⟨closes, ended⟩ := h.closes block (same ▸ last) named
    exact ⟨.cons closed closes, ended⟩

theorem ElementClosing.cons (element : ElementClosing name start content rest first left)
    (row : RowClosing reader enclosing name (start + content.size)
      (readContents reader enclosing rest).value (readContents reader enclosing rest).rest
      (readContents reader enclosing (rest ++ closeTokens (some name))).value
      (readContents reader enclosing (rest ++ closeTokens (some name))).rest) :
    RowClosing reader enclosing name start (content :: (readContents reader enclosing rest).value)
      (readContents reader enclosing rest).rest
      (first :: (readContents reader enclosing left).value)
      (readContents reader enclosing left).rest := by
  by_cases closed : content.unclosed start = []
  · obtain ⟨rfl, rfl⟩ := element.leaves closed
    exact row.cons closed
  · -- The row ends with the element, since nothing is left of the tokens.
    obtain rfl := element.ended.resolve_left closed
    have none : readContents reader enclosing [] = ⟨[], [], Nat.le_refl _⟩ := by rw [readContents]
    have alone : Content.unclosedAll start [content] = content.unclosed start := List.append_nil _
    rw [none]
    constructor
    · intro allClosed
      exact absurd (alone ▸ allClosed) closed
    · exact .inr rfl
    · intro block last named
      obtain ⟨closes, rfl⟩ := element.closes block (alone ▸ last) named
      rw [none]
      exact ⟨.last closes, rfl⟩

/-- Contents in front of a close tag, if what is read for a tag is known. -/
theorem closing_readContents {room : Nat} (elements : reader.Closing name room) (start : Nat)
    (enclosing : Option Text) (tokens : List Token)
    (shallow : Content.depthAll (readContents reader enclosing tokens).value ≤ room) :
    RowClosing reader enclosing name start (readContents reader enclosing tokens).value
      (readContents reader enclosing tokens).rest
      (readContents reader enclosing (tokens ++ closeTokens (some name))).value
      (readContents reader enclosing (tokens ++ closeTokens (some name))).rest := by
  fun_induction readContents reader enclosing tokens generalizing start with
  | case1 => exact .nil []
  | case2 text rest ih =>
    rw [List.cons_append, readContents]
    exact .cons rfl (ih _ (Nat.le_trans (Nat.le_max_right _ _) shallow))
  | case3 rest element _ ih =>
    rw [List.cons_append, readContents]
    exact (elements start rest (Nat.le_trans (Nat.le_max_left _ _) shallow)).cons
      (ih _ (Nat.le_trans (Nat.le_max_right _ _) shallow))
  | case4 rest closes => exact .nil _
  | case5 rest other stray _ ih =>
    have closeTag := (leaves_readStrayClose name rest).map Content.malformed
    rw [← closesBlock_behind name] at other
    rw [List.cons_append, readContents, if_neg other]
    exact (ElementClosing.of_leaves closeTag rfl).cons
      (ih _ (Nat.le_trans (Nat.le_max_right _ _) shallow))
  | case6 token rest plain tagStart closeTagStart ih =>
    rw [List.cons_append, readContents]
    · exact .cons rfl (ih _ (Nat.le_trans (Nat.le_max_right _ _) shallow))
    · exact plain
    · exact tagStart
    · exact closeTagStart

/-- A block is closed by the close tag if all blocks in it are closed and it is not. -/
theorem RowClosing.block {reference : Reference} (condition : Condition)
    (h : RowClosing reader (some (Unicode.trim reference.name)) name
      (reference.openTagSpan start).stop contents rest followed left)
    (stop : rest = [] ∨ closesBlock (some (Unicode.trim reference.name)) rest = true) :
    ElementClosing name start (.block condition reference contents (closeName rest))
      (if (closeName rest).isSome then rest.drop 3 else rest)
      (.block condition reference followed (closeName left))
      (if (closeName left).isSome then left.drop 3 else left) := by
  cases close : closeName rest with
  | some text =>
    have whole := eq_of_closeName close
    have more : rest ≠ [] := whole ▸ List.cons_ne_nil _ _
    have closed := h.ended.resolve_right more
    have same : Unicode.trim text = Unicode.trim reference.name := by
      have closes := stop.resolve_left more
      rw [closesBlock.eq_def, close] at closes
      exact of_decide_eq_true closes
    generalize rest.drop 3 = later at whole
    subst whole
    -- The row ends in front of its own close tag.
    obtain ⟨none, tokens⟩ := readContents_close reader same (later ++ closeTokens (some name))
    obtain ⟨value, rest⟩ := h.leaves closed
    obtain rfl := value.trans ((congrArg _ none).trans (List.append_nil _))
    obtain rfl := rest.trans tokens
    have allClosed : (Content.block condition reference followed (some text)).unclosed start = [] :=
      closed
    exact .of_closed allClosed later
  | none =>
    have last : rest = [] := by
      refine stop.resolve_right fun closes => ?_
      rw [closesBlock.eq_def, close] at closes
      cases closes
    subst last
    constructor
    · intro closed
      cases closed
    · exact .inr rfl
    · intro block last named
      have unclosed : (Content.block condition reference contents none).unclosed start =
          reference.opened start ::
            Content.unclosedAll (reference.openTagSpan start).stop contents := rfl
      rw [unclosed] at last
      by_cases closed : Content.unclosedAll (reference.openTagSpan start).stop contents = []
      · -- The row goes on up to the close tag, which closes this block.
        have own : reference.opened start = block := by
          rw [closed] at last
          exact Option.some.inj last
        have same : Unicode.trim name = Unicode.trim reference.name := by
          rw [named, ← own]
          rfl
        obtain ⟨none, tokens⟩ := readContents_close reader same []
        obtain ⟨value, rest⟩ := h.leaves closed
        obtain rfl := value.trans ((congrArg _ none).trans (List.append_nil _))
        obtain rfl := rest.trans tokens
        exact ⟨.here closed own, rfl⟩
      · have inner : (Content.unclosedAll (reference.openTagSpan start).stop contents).getLast? =
            some block := by
          rwa [List.getLast?_cons_of_ne_nil closed] at last
        obtain ⟨closes, rfl⟩ := h.closes block inner named
        exact ⟨.inside closes, rfl⟩

end Rows

/-! ## Elements and whole templates -/

theorem unclosed_readField (start : Nat) (tokens : List Token) :
    (readField tokens).value.unclosed start = [] := by
  rw [readField, Parsed.map_value]
  cases (readTag tokens).value <;> rfl

/-- A block with a broken open tag is read in front of a close tag as alone. -/
theorem closing_readBlock_error {inner : Option TagReader} (condition : Condition)
    {tokens : List Token} {broken : BrokenTag} (tag : (readTag tokens).value = .error broken) :
    ElementClosing name start (readBlock inner condition tokens).value
      (readBlock inner condition tokens).rest
      (readBlock inner condition (tokens ++ closeTokens (some name))).value
      (readBlock inner condition (tokens ++ closeTokens (some name))).rest := by
  have leaves := leaves_readTag name tokens
  have followed := leaves.value.trans tag
  simp only [readBlock, tag, followed]
  exact ElementClosing.of_leaves (leaves.map _) rfl

/-- Without any room, only a block with a broken open tag is not nested too deeply. -/
theorem closing_readBlock_none (condition : Condition) :
    (readBlock none condition).Closing name 0 := by
  intro start tokens shallow
  cases tag : (readTag tokens).value with
  | error broken => exact closing_readBlock_error condition tag
  | ok reference =>
    simp only [readBlock, tag] at shallow
    exact absurd shallow (Nat.not_succ_le_zero _)

theorem closing_readBlock_some {reader : TagReader} {room : Nat}
    (elements : reader.Closing name room) (condition : Condition) :
    (readBlock (some reader) condition).Closing name (room + 1) := by
  intro start tokens shallow
  cases tag : (readTag tokens).value with
  | error broken => exact closing_readBlock_error condition tag
  | ok reference =>
    have leaves := leaves_readTag name tokens
    have followed := leaves.value.trans tag
    obtain ⟨value, rest⟩ := readBlock_reference reader condition tag
    obtain ⟨value', rest'⟩ := readBlock_reference reader condition followed
    rw [value, Content.depth] at shallow
    rw [value, rest, value', rest', leaves.rest]
    have row := closing_readContents elements (reference.openTagSpan start).stop
      (some (Unicode.trim reference.name)) (readTag tokens).rest (Nat.le_of_succ_le_succ shallow)
    exact row.block condition (rest_readContents _ _ _)

/-- What a tag stands for in front of a close tag, if blocks are known. -/
theorem closing_readWith {inner : Option TagReader} {room : Nat}
    (blocks : ∀ condition, (readBlock inner condition).Closing name room) :
    TagReader.Closing (readElement.readWith inner) name room := by
  intro start tokens shallow
  have field := ElementClosing.of_leaves (leaves_readField name tokens)
    (unclosed_readField start tokens)
  cases tokens with
  | nil => exact field
  | cons token rest =>
    cases token with
    | ifMark => exact blocks .ifFilled start rest shallow
    | unlessMark => exact blocks .unlessFilled start rest shallow
    | _ => exact field

/-- What a tag stands for in front of a close tag, where blocks are not nested too deeply. -/
theorem closing_readElement (name : Text) (depth : Nat) :
    (readElement depth).Closing name depth := by
  induction depth with
  | zero => exact closing_readWith closing_readBlock_none
  | succ depth ih => exact closing_readWith (closing_readBlock_some ih)

/-- A close tag behind a template closes the innermost block that is not closed, if it has the name
    of that block and blocks are not nested too deeply. -/
theorem closing_parse {limit : Nat} {source closed : Text} {block : OpenBlock}
    (tokens : tokenize closed = tokenize source ++ closeTokens (some name))
    (shallow : Content.depthAll (parse limit source).contents ≤ limit)
    (last : (Content.unclosedAll 0 (parse limit source).contents).getLast? = some block)
    (named : Unicode.trim name = block.name) :
    Content.ClosesAll name block 0 (parse limit source).contents (parse limit closed).contents := by
  have row := closing_readContents (closing_readElement name limit) 0 none (tokenize source) shallow
  rw [← tokens] at row
  exact (row.closes block last named).1

end Template

end Flashcard
