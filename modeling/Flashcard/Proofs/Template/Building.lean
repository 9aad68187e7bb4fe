import Flashcard.Proofs.Template.BuildingTags
import Flashcard.Proofs.Template.Lossless

/-!
# What the parser of templates builds

The parser of templates panics at no step, and the nodes that it builds are those of the
template that is read. Where blocks are nested too deeply, all tokens that are left go
into one error, and every node around it is finished behind the end.

Results:
* `moves_parseContents`: contents, if what tags stand for is built as it is read.
* `buildsBody_limit`, `buildsBody_of_elements`: what follows the open tag of a block.
* `buildsElement_parseElement`: what a tag stands for, however deeply it is nested.
* `moves_parseDocument`, `runParser_eq`: a whole template.
-/

namespace Flashcard.Template

open Parsing

namespace Machine

variable {tokens rest : List Token} {token : Token} {parents : List (Kind × Nat)}
  {children : List (Tree Kind)} {depth room : Nat}

/-! ## Contents -/

/-- What a tag stands for is built as it is read, wherever it stands. -/
def BuildsElement (parseElement : Parsing Kind Unit) (readElement : TagReader) (room : Nat) :
    Prop :=
  ∀ {rest : List Token} {parents : List (Kind × Nat)} {children : List (Tree Kind)}
    {depth : Nat}, Fits parents children →
    Moves parseElement (stage (.tagStart :: rest) parents children depth room) 7 ()
      (stage (readElement rest).rest parents (children ++ [(readElement rest).value.tree]) depth
        room) 8

section Contents

variable {parseElement : Parsing Kind Unit} {readElement : TagReader} {enclosing : Option Text}

/-- The kind of the next token decides what comes. -/
theorem moves_parseContent {result : Unit ⊕ Unit} {t : Stage Kind} {left : Nat}
    (content : Moves (parseContentOf parseElement enclosing token.kind)
      (stage (token :: rest) parents children depth room) 7 result t left) :
    Moves (parseContent parseElement enclosing)
      (stage (token :: rest) parents children depth room) 8 result t left := by
  refine Moves.bind moves_eof (Moves.ite_neg Bool.false_ne_true ?_)
  exact Moves.bind moves_current content

theorem moves_parseContent_plain (text : Text) :
    Moves (parseContent parseElement enclosing)
      (stage (.plain text :: rest) parents children depth room) 8 (.inl ())
      (stage rest parents (children ++ [(Content.plain text).tree]) depth room) 8 :=
  moves_parseContent (moves_nodeThen (Moves.done _ (by decide)))

theorem moves_parseContent_element (builds : BuildsElement parseElement readElement room)
    (fits : Fits parents children) :
    Moves (parseContent parseElement enclosing)
      (stage (.tagStart :: rest) parents children depth room) 8 (.inl ())
      (stage (readElement rest).rest parents (children ++ [(readElement rest).value.tree]) depth
        room) 8 :=
  moves_parseContent (Moves.bind (builds fits) (Moves.pure _))

theorem moves_parseContent_closes
    (closes : closesBlock enclosing (.closeTagStart :: rest) = true) :
    Moves (parseContent parseElement enclosing)
      (stage (.closeTagStart :: rest) parents children depth room) 8 (.inr ())
      (stage (.closeTagStart :: rest) parents children depth room) 5 := by
  refine moves_parseContent ?_
  exact Moves.bind (moves_closesEnclosing closes) (Moves.ite_pos rfl (Moves.pure _))

theorem moves_parseContent_stray (fits : Fits parents children)
    (other : closesBlock enclosing (.closeTagStart :: rest) = false) :
    Moves (parseContent parseElement enclosing)
      (stage (.closeTagStart :: rest) parents children depth room) 8 (.inl ())
      (stage (readStrayClose rest).rest parents
        (children ++ [(Content.malformed (readStrayClose rest).value).tree]) depth room) 8 := by
  obtain ⟨name, tail, value, moves⟩ := moves_parseCloseTag rest parents children depth room
  rw [value]
  refine moves_parseContent ?_
  refine Moves.bind (moves_closesEnclosing other) (Moves.ite_neg Bool.false_ne_true ?_)
  refine Moves.bind moves_checkpoint ?_
  refine Moves.bind moves ?_
  exact Moves.bind (moves_error fits) (Moves.done _ (by decide))

theorem moves_parseContent_other (inside : parents ≠ []) (noText : ∀ text, token ≠ .plain text)
    (noTag : token ≠ .tagStart) (noClose : token ≠ .closeTagStart) :
    Moves (parseContent parseElement enclosing)
      (stage (token :: rest) parents children depth room) 8 (.inl ())
      (stage rest parents (children ++ [(Content.malformed (.stray token)).tree]) depth room)
      8 := by
  have production : parseContentOf parseElement enclosing token.kind =
      bumpAsError bump >>= fun _ => pure (.inl ()) := by
    cases token with
    | plain text => exact absurd rfl (noText text)
    | tagStart => exact absurd rfl noTag
    | closeTagStart => exact absurd rfl noClose
    | _ => rfl
  refine moves_parseContent ?_
  rw [production]
  exact Moves.bind (moves_stray inside) (Moves.done _ (by decide))

theorem moves_parseContents_cons {content : Content} {larger : Nat} {le : rest.length ≤ larger}
    (first : Moves (parseContent parseElement enclosing)
      (stage tokens parents children depth room) 8 (.inl ())
      (stage rest parents (children ++ [content.tree]) depth room) 8)
    (shorter : rest.length < tokens.length)
    (later : Moves (parseContents parseElement enclosing)
      (stage rest parents (children ++ [content.tree]) depth room) 8 ()
      (stage (readContents readElement enclosing rest).rest parents
        (children ++ [content.tree] ++
          Content.treeAll (readContents readElement enclosing rest).value) depth room) 5) :
    Moves (parseContents parseElement enclosing) (stage tokens parents children depth room) 8 ()
      (stage ((readContents readElement enclosing rest).cons content le).rest parents
        (children ++
          Content.treeAll ((readContents readElement enclosing rest).cons content le).value)
        depth room) 5 := by
  have taken : (rest.map Token.pair).length < (tokens.map Token.pair).length := by
    rw [List.length_map, List.length_map]
    exact shorter
  refine Moves.loop_again first taken (Moves.cast later ?_)
  rw [List.append_assoc]
  rfl

/-- Contents are built as they are read, if what tags stand for is. -/
theorem moves_parseContents (builds : BuildsElement parseElement readElement room)
    (tokens : List Token) (inside : parents ≠ []) (fits : Fits parents children) :
    Moves (parseContents parseElement enclosing) (stage tokens parents children depth room) 8 ()
      (stage (readContents readElement enclosing tokens).rest parents
        (children ++ Content.treeAll (readContents readElement enclosing tokens).value) depth room)
      5 := by
  fun_induction readContents readElement enclosing tokens generalizing children with
  | case1 =>
    refine Moves.cast (Moves.loop_done (Moves.bind moves_eof
      (Moves.ite_pos rfl (Moves.done _ (by decide))))) ?_
    rw [Content.treeAll, List.append_nil]
  | case2 text rest ih =>
    exact moves_parseContents_cons (moves_parseContent_plain text) (Nat.lt_succ_self _)
      (ih (fits.append _))
  | case3 rest element shorter =>
    rename_i ih
    exact moves_parseContents_cons (moves_parseContent_element builds fits) shorter
      (ih (fits.append _))
  | case4 rest closes =>
    refine Moves.cast (Moves.loop_done (moves_parseContent_closes closes)) ?_
    rw [Content.treeAll, List.append_nil]
  | case5 rest other stray shorter =>
    rename_i ih
    exact moves_parseContents_cons (moves_parseContent_stray fits (Bool.eq_false_iff.2 other))
      shorter (ih (fits.append _))
  | case6 token rest noText noTag noClose ih =>
    exact moves_parseContents_cons (moves_parseContent_other inside noText noTag noClose)
      (Nat.lt_succ_self _) (ih (fits.append _))

end Contents

/-! ## Blocks -/

/-- What follows the open tag of a block, and what is left then. -/
structure Body where
  contents : List Content
  /-- Name in the close tag, if there is one. -/
  close : Option Text
  rest : List Token

/-- Trees of what follows an open tag. -/
def Body.trees (body : Body) : List (Tree Kind) :=
  Content.treeAll body.contents ++ closeTrees body.close

/-- Reads what follows the open tag of a block with this name; `inner` reads the tags in
    it, unless it is nested too deeply. -/
def readBody (inner : Option TagReader) (name : Text) (tokens : List Token) : Body :=
  match inner with
  | none => ⟨overflowContents tokens, none, []⟩
  | some readElement =>
    let contents := readContents readElement (some (Unicode.trim name)) tokens
    ⟨contents.value, closeName contents.rest,
      if (closeName contents.rest).isSome then contents.rest.drop 3 else contents.rest⟩

theorem readBlock_ok {inner : Option TagReader} {reference : Reference} (condition : Condition)
    (h : (readTag tokens).value = .ok reference) :
    (readBlock inner condition tokens).value = .block condition reference
        (readBody inner reference.name (readTag tokens).rest).contents
        (readBody inner reference.name (readTag tokens).rest).close ∧
      (readBlock inner condition tokens).rest =
        (readBody inner reference.name (readTag tokens).rest).rest := by
  simp only [readBlock]
  split
  · rename_i broken _ error
    cases h.symm.trans error
  · rename_i ok
    obtain rfl := Except.ok.inj (h.symm.trans ok)
    exact ⟨rfl, rfl⟩
  · rename_i ok
    obtain rfl := Except.ok.inj (h.symm.trans ok)
    exact ⟨rfl, rfl⟩

theorem readBlock_error {inner : Option TagReader} {broken : BrokenTag} (condition : Condition)
    (h : (readTag tokens).value = .error broken) :
    (readBlock inner condition tokens).value = .malformed (.block condition broken) ∧
      (readBlock inner condition tokens).rest = (readTag tokens).rest := by
  simp only [readBlock]
  split
  · rename_i error
    obtain rfl := Except.error.inj (h.symm.trans error)
    exact ⟨rfl, rfl⟩
  · rename_i ok
    cases h.symm.trans ok
  · rename_i ok
    cases h.symm.trans ok

theorem leaves_map_pair (tokens : List Token) :
    leaves (tokens.map Token.pair) = tokens.map Token.leaf := by
  rw [leaves, List.map_map]
  rfl

/-- At the limit, all that is left becomes one error. -/
theorem moves_overflow (inside : parents ≠ []) :
    Moves (bumpRestAsError bump) (stage tokens parents children depth room) 9 ()
      (stage [] parents (children ++ Content.treeAll (overflowContents tokens)) depth room) 9 := by
  cases tokens with
  | nil =>
    refine Moves.bind (settled _).moves_skipTrivia ?_
    refine Moves.bind moves_eof (Moves.ite_pos rfl (Moves.cast (Moves.pure ()) ?_))
    rw [overflowContents, if_pos rfl, Content.treeAll, List.append_nil]
  | cons token rest =>
    refine Moves.cast ((takes_bump.moves_bumpRestAsError inside (settled _)).mono (Nat.le_refl 9)
      (by decide)) ?_
    rw [append_leaves_nil, overflowContents, if_neg (List.cons_ne_nil _ _),
      show (token.kind, token.text) :: rest.map Token.pair = (token :: rest).map Token.pair from
        rfl, leaves_map_pair]
    rfl

/-- What follows an open tag is built as it is read, and its element is finished. -/
def BuildsBody (parseContents : Option Text → Parsing Kind Unit) (inner : Option TagReader)
    (room : Nat) : Prop :=
  ∀ (name : Text) {tokens : List Token} {parents : List (Kind × Nat)}
    {front behind : List (Tree Kind)} {depth : Nat},
    Moves (parseBody parseContents name)
      (stage tokens ((.element, front.length) :: parents) (front ++ behind) depth room) 9 ()
      (stage (readBody inner name tokens).rest parents
        (front ++ [.node .element (behind ++ (readBody inner name tokens).trees)]) depth room) 8

/-- At the limit. -/
theorem buildsBody_limit (parseContents : Option Text → Parsing Kind Unit) :
    BuildsBody parseContents none 0 := by
  intro name tokens parents front behind depth
  refine Moves.bind moves_enterRecursion_limit (Moves.ite_neg Bool.false_ne_true ?_)
  refine Moves.bind (moves_overflow (List.cons_ne_nil _ _)) ?_
  rw [List.append_assoc]
  refine Moves.cast (moves_finishNode.mono (Nat.le_refl 9) (by decide)) ?_
  rw [Body.trees, readBody, closeTrees, List.append_nil]

/-- Contents end with the tokens, or at the close tag of the block around them. -/
theorem behind_readContents (readElement : TagReader) (enclosing : Option Text)
    (tokens : List Token) :
    (readContents readElement enclosing tokens).rest = [] ∨
      closesBlock enclosing (readContents readElement enclosing tokens).rest = true := by
  fun_induction readContents readElement enclosing tokens with
  | case1 => exact .inl rfl
  | case4 rest closes => exact .inr closes
  | case2 _ _ ih | case3 _ _ _ ih | case5 _ _ _ _ ih | case6 _ _ _ _ _ ih => exact ih

theorem exists_of_closesBlock {enclosing : Option Text} (h : closesBlock enclosing tokens = true) :
    ∃ text rest, tokens = .closeTagStart :: .name text :: .tagEnd :: rest := by
  unfold closesBlock at h
  split at h
  · rename_i name
    exact ⟨_, _, eq_of_closeName name⟩
  · cases h

theorem moves_closing {enclosing : Option Text}
    (ending : tokens = [] ∨ closesBlock enclosing tokens = true) :
    Moves (when (kindAt (tokens.map Token.pair) 0 = .closeTagStart) parseCloseTag)
      (stage tokens parents children depth room) 9 ()
      (stage (if (closeName tokens).isSome then tokens.drop 3 else tokens) parents
        (children ++ closeTrees (closeName tokens)) depth room) 9 := by
  obtain rfl | closes := ending
  · refine Moves.cast (Moves.when_false rfl) ?_
    rw [show closeName [] = none from rfl, closeTrees, List.append_nil]
    rfl
  · obtain ⟨text, rest, rfl⟩ := exists_of_closesBlock closes
    obtain ⟨name, tail, value, moves⟩ :=
      moves_parseCloseTag (.name text :: .tagEnd :: rest) parents children depth room
    cases value
    exact Moves.when_true rfl (moves.mono (by decide) (Nat.le_refl 9))

/-- Below the limit. -/
theorem buildsBody_of_elements {parseElement : Parsing Kind Unit} {readElement : TagReader}
    (builds : BuildsElement parseElement readElement room) :
    BuildsBody (parseContents parseElement) (some readElement) (room + 1) := by
  intro name tokens parents front behind depth
  have inside := List.cons_ne_nil (Kind.element, front.length) parents
  have fits := (fits_cons Kind.element parents front).append behind
  have ending := behind_readContents readElement (some (Unicode.trim name)) tokens
  refine Moves.bind moves_enterRecursion (Moves.ite_pos rfl ?_)
  refine Moves.bind ((moves_parseContents builds tokens inside fits).mono (by decide)
    (Nat.le_refl 5)) ?_
  refine Moves.bind moves_exitRecursion ?_
  refine Moves.bind moves_current ?_
  refine Moves.bind ((moves_closing ending).mono (by decide) (Nat.le_refl 9)) ?_
  rw [List.append_assoc, List.append_assoc]
  exact moves_finishNode.mono (Nat.le_refl 9) (by decide)

/-- A block, with an error around it if its open tag is not well formed. -/
theorem moves_parseBlock {parseContents : Option Text → Parsing Kind Unit}
    {inner : Option TagReader} (body : BuildsBody parseContents inner room) (condition : Condition)
    (fits : Fits parents children) :
    Moves (parseBlock parseContents)
      (stage (.tagStart :: condition.token :: rest) parents children depth room) 5 ()
      (stage (readBlock inner condition rest).rest parents
        (children ++ [(readBlock inner condition rest).value.tree]) depth room) 8 := by
  refine Moves.bind moves_checkpoint ?_
  refine Moves.bind (moves_startNode Kind.element) ?_
  refine Moves.bind (moves_startNode Kind.openTag) ?_
  refine Moves.bind (moves_bump (List.cons_ne_nil _ _)) ?_
  refine Moves.bind (moves_bump (List.cons_ne_nil _ _)) ?_
  refine Moves.bind ((moves_parseTag (List.cons_ne_nil _ _) fun rest children =>
    moves_bump (List.cons_ne_nil _ _)).mono (by decide) (Nat.le_refl 9)) ?_
  rw [List.append_assoc, List.append_assoc]
  refine Moves.bind moves_finishNode ?_
  cases read : (readTag rest).value with
  | ok reference =>
    obtain ⟨value, behind⟩ := readBlock_ok condition read
    rw [value, behind]
    exact body reference.name
  | error broken =>
    obtain ⟨value, behind⟩ := readBlock_error condition read
    rw [value, behind]
    refine Moves.bind moves_finishNode ?_
    exact (moves_error fits).mono (Nat.le_refl 9) (by decide)

/-! ## Elements -/

theorem readWith_field (inner : Option TagReader)
    (noIf : kindAt (rest.map Token.pair) 0 ≠ .ifMark)
    (noUnless : kindAt (rest.map Token.pair) 0 ≠ .unlessMark) :
    readElement.readWith inner rest = readField rest := by
  unfold readElement.readWith
  split
  · exact absurd rfl noIf
  · exact absurd rfl noUnless
  · rfl

theorem buildsElement_of_body {inner : Option TagReader} {frames : Nat}
    (body : BuildsBody (parseContents (parseElement frames)) inner room) :
    BuildsElement (parseElement (frames + 1)) (readElement.readWith inner) room := by
  intro rest parents children depth fits
  refine Moves.bind ((settled _).moves_assertCurrent rfl) ?_
  refine Moves.bind (moves_nth 1) ?_
  by_cases isIf : kindAt (rest.map Token.pair) 0 = .ifMark
  · obtain ⟨behind, rfl⟩ := eq_cons_of_kindAt .ifMark (by decide) (by decide) isIf
    exact Moves.ite_pos (Or.inl rfl) (moves_parseBlock body .ifFilled fits)
  by_cases isUnless : kindAt (rest.map Token.pair) 0 = .unlessMark
  · obtain ⟨behind, rfl⟩ := eq_cons_of_kindAt .unlessMark (by decide) (by decide) isUnless
    exact Moves.ite_pos (Or.inr rfl) (moves_parseBlock body .unlessFilled fits)
  · rw [readWith_field inner isIf isUnless]
    exact Moves.ite_neg (not_or.2 ⟨isIf, isUnless⟩)
      ((moves_parseField fits).mono (by decide) (Nat.le_refl 8))

/-- One frame more than there is room for nesting is enough for what a tag stands for. -/
theorem buildsElement_parseElement (room : Nat) :
    BuildsElement (parseElement (room + 1)) (readElement room) room := by
  induction room with
  | zero => exact buildsElement_of_body (buildsBody_limit _)
  | succ room ih => exact buildsElement_of_body (buildsBody_of_elements ih)

/-! ## Documents -/

/-- A template is built as it is read, and its root is finished. -/
theorem moves_parseDocument (limit : Nat) (tokens : List Token) :
    Moves (parseDocument limit) (stage tokens [] [] 0 limit) fullTank ()
      (stage [] [] [(Document.ofTokens limit tokens).tree] 0 limit) 5 := by
  have inside := List.cons_ne_nil (Kind.document, 0) []
  have whole := rest_readContents_none (readElement limit) tokens
  refine Moves.bind (moves_startNode Kind.document) ?_
  refine Moves.bind ((moves_parseContents (buildsElement_parseElement limit) tokens inside
    (fits_cons Kind.document [] [])).mono (by decide) (Nat.le_refl 5)) ?_
  rw [whole]
  exact moves_finishRoot

/-- The parser of templates builds the tree of the template that is read, and never
    panics. -/
theorem runParser_eq {limit : Nat} {source : Text} (small : source.size < numberBound)
    (bounded : limit < numberBound) :
    runParser limit source = .ok (parse limit source).tree := by
  have whole : ((tokenize source).map Token.pair).flatMap (·.2) = source := by
    rw [flatMap_pair, textAll_tokenize]
  exact run_eq_ok small bounded whole (moves_parseDocument limit (tokenize source))

end Machine

end Flashcard.Template
