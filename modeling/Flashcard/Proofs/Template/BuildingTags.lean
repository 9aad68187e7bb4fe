import Flashcard.Proofs.Syntax.Steps
import Flashcard.Proofs.Template.Productions
import Flashcard.Template.Document

/-!
# What the parser of templates builds for tags

The parser of templates takes the tokens of tags without a panic, and the nodes that it
builds are those of the tags that are read. The numbers in the statements are how often
it may still look ahead before it takes a token, before a production and behind it.

Results:
* `takes_bump`, `moves_nodeThen`, `moves_stray`: single tokens.
* `moves_parseChain`, `moves_absorbBrokenTag`, `moves_parseTag`: what is in a tag.
* `moves_parseCloseTag`, `moves_closesEnclosing`: close tags.
* `moves_parseField`: the tag of a field, with an error around it if it is broken.
-/

namespace Flashcard.Template

open Parsing

/-- Trees of a chain. -/
def Chain.trees (chain : Chain) : List (Tree Kind) :=
  transformerTrees chain.transformers ++ (chain.name.map nameTree).toList

namespace Machine

/-! ## Steps -/

/-- A stage with these tokens. -/
abbrev stage (tokens : List Token) (parents : List (Kind × Nat)) (children : List (Tree Kind))
    (depth room : Nat) : Stage Kind :=
  ⟨[], tokens.map Token.pair, ⟨parents, children⟩, depth, room⟩

variable {tokens rest : List Token} {token : Token} {parents : List (Kind × Nat)}
  {children front : List (Tree Kind)} {depth room fuel left : Nat} {text : Text}

theorem settled (tokens : List (Kind × Text)) : Settled tokens := fun _ _ => rfl

theorem moves_current :
    Moves current (stage tokens parents children depth room) (fuel + 2)
      (kindAt (tokens.map Token.pair) 0) (stage tokens parents children depth room) (fuel + 1) :=
  (settled _).moves_current

theorem takes_bump : Takes bump := by
  intro _ _ kind text _ _ _ _ _ inside
  exact Moves.bind (settled _).moves_current (moves_bumpAs (fun _ => kind) kind text inside)

theorem moves_bump (inside : parents ≠ []) :
    Moves bump (stage (token :: rest) parents children depth room) (fuel + 2) ()
      (stage rest parents (children ++ [token.leaf]) depth room) fullTank :=
  takes_bump.moves inside

theorem moves_bumpAs (kind : Kind) (inside : parents ≠ []) :
    Moves (bumpAs fun _ => kind) (stage (token :: rest) parents children depth room) fuel ()
      (stage rest parents (children ++ [.leaf kind token.text]) depth room) fullTank := by
  refine Moves.cast (Parsing.moves_bumpAs (fun _ => kind) token.kind token.text inside) ?_
  rw [append_leaves_nil]

theorem moves_startNode (kind : Kind) :
    Moves (startNode kind) (stage tokens parents children depth room) fuel ()
      (stage tokens ((kind, children.length) :: parents) children depth room) fuel := by
  refine Moves.cast (Parsing.moves_startNode kind (.inl rfl)) ?_
  rw [append_leaves_nil]

theorem moves_checkpoint :
    Moves checkpoint (stage tokens parents children depth room) fuel children.length
      (stage tokens parents children depth room) fuel := by
  have moves : Moves checkpoint (stage tokens parents children depth room) fuel _ _ fuel :=
    Parsing.moves_checkpoint (.inl rfl)
  rwa [append_leaves_nil] at moves

/-- A node around one token, and what is done behind it. -/
theorem moves_nodeThen {α : Type} {next : Parsing Kind α} {kind : Kind} {a : α} {t : Stage Kind}
    (then' : Moves next
      (stage rest parents (children ++ [.node kind [token.leaf]]) depth room) fullTank a t left) :
    Moves (do
        startNode kind
        bump
        finishNode
        next)
      (stage (token :: rest) parents children depth room) (fuel + 2) a t left := by
  refine Moves.bind (moves_startNode kind) ?_
  refine Moves.bind (moves_bump (List.cons_ne_nil _ _)) ?_
  exact Moves.bind moves_finishNode then'

/-- A token that fits nowhere. -/
theorem moves_stray (inside : parents ≠ []) :
    Moves (bumpAsError bump) (stage (token :: rest) parents children depth room) (fuel + 2) ()
      (stage rest parents (children ++ [(Malformed.stray token).tree]) depth room) fullTank := by
  refine Moves.cast (takes_bump.moves_bumpAsError inside) ?_
  rw [append_leaves_nil]
  rfl

/-! ## Kinds of tokens -/

theorem eq_of_kind (mark : Token) (fixed : mark.kind ≠ .name ∧ mark.kind ≠ .textContent)
    (h : token.kind = mark.kind) : token = mark := by
  cases mark with
  | name text => exact absurd rfl fixed.1
  | plain text => exact absurd rfl fixed.2
  | _ =>
    cases token with
    | _ => first | rfl | cases h

theorem eq_name (h : token.kind = .name) : ∃ text, token = .name text := by
  cases token with
  | name text => exact ⟨text, rfl⟩
  | _ => cases h

theorem eq_cons_of_kindAt (mark : Token) (fixed : mark.kind ≠ .name ∧ mark.kind ≠ .textContent)
    (other : mark.kind ≠ .error) (h : kindAt (tokens.map Token.pair) 0 = mark.kind) :
    ∃ rest, tokens = mark :: rest := by
  obtain ⟨token, rest, rfl, kind⟩ := exists_of_kindAt h other
  exact ⟨rest, congrArg (· :: rest) (eq_of_kind mark fixed kind)⟩

theorem kindAt_name (h : kindAt (tokens.map Token.pair) 0 = .name) :
    ∃ text rest, tokens = .name text :: rest := by
  obtain ⟨token, rest, rfl, kind⟩ := exists_of_kindAt h (by decide)
  obtain ⟨text, rfl⟩ := eq_name kind
  exact ⟨text, rest, rfl⟩

/-! ## Chains -/

/-- A name with a colon behind it. -/
theorem moves_parseLink_colon (inside : parents ≠ []) :
    Moves parseLink (stage (.name text :: .colon :: rest) parents children depth room) 12
      (.inl ()) (stage rest parents (children ++ [transformerTree text, Token.colon.leaf]) depth
        room) 12 := by
  refine Moves.bind moves_current (Moves.ite_pos rfl ?_)
  refine Moves.bind (moves_nth 1) (Moves.ite_pos rfl ?_)
  refine moves_nodeThen ?_
  refine Moves.bind (moves_bump inside) ?_
  rw [List.append_assoc]
  exact Moves.done _ (by decide)

theorem moves_parseLink_name (noColon : kindAt (rest.map Token.pair) 0 ≠ .colon) :
    Moves parseLink (stage (.name text :: rest) parents children depth room) 12
      (.inr (some text)) (stage rest parents (children ++ [nameTree text]) depth room) 11 := by
  refine Moves.bind moves_current (Moves.ite_pos rfl ?_)
  refine Moves.bind (moves_nth 1) (Moves.ite_neg noColon ?_)
  refine Moves.bind (moves_nthText 0) ?_
  refine moves_nodeThen ?_
  exact Moves.done _ (by decide)

theorem moves_parseLink_end (noName : kindAt (tokens.map Token.pair) 0 ≠ .name) :
    Moves parseLink (stage tokens parents children depth room) 12 (.inr none)
      (stage tokens parents children depth room) 11 :=
  Moves.bind moves_current (Moves.ite_neg noName (Moves.pure _))

/-- A chain is built as it is read. -/
theorem moves_parseChain (inside : parents ≠ []) :
    Moves parseChain (stage tokens parents children depth room) 12 (readChain tokens).name
      (stage (readChain tokens).rest parents (children ++ (readChain tokens).trees) depth room)
      11 := by
  fun_induction readChain tokens generalizing children with
  | case1 text rest ih =>
    have taken : (rest.map Token.pair).length <
        ((Token.name text :: .colon :: rest).map Token.pair).length := by
      simp only [List.length_map, List.length_cons]
      omega
    refine Moves.loop_again (moves_parseLink_colon inside) taken (Moves.cast ih ?_)
    rw [List.append_assoc]
    rfl
  | case2 text rest noColon =>
    refine Moves.loop_done (moves_parseLink_name ?_)
    intro next
    obtain ⟨behind, rfl⟩ := eq_cons_of_kindAt .colon (by decide) (by decide) next
    exact noColon behind rfl
  | case3 rest _ noName =>
    refine Moves.cast (Moves.loop_done (moves_parseLink_end ?_)) ?_
    · intro next
      obtain ⟨text, behind, rfl⟩ := kindAt_name next
      exact noName text behind rfl
    · rw [show Chain.trees ⟨[], none, rest⟩ = [] from rfl, List.append_nil]

/-! ## Broken tags -/

/-- A token that still belongs to a broken tag, but is not its end. -/
theorem moves_absorbToken (inside : parents ≠ []) (tagToken : token.isTagToken = true)
    (noEnd : token ≠ .tagEnd) :
    Moves absorbToken (stage (token :: rest) parents children depth room) 10 (.inl ())
      (stage rest parents (children ++ [token.leaf]) depth room) 10 := by
  have other : token.kind ≠ .tagEnd := fun same =>
    noEnd (eq_of_kind .tagEnd (by decide) same)
  refine Moves.bind moves_eof (Moves.ite_neg Bool.false_ne_true ?_)
  refine Moves.bind moves_current (Moves.ite_pos tagToken ?_)
  refine Moves.bind moves_current (Moves.bind (moves_bump inside) ?_)
  exact Moves.ite_neg other (Moves.done _ (by decide))

theorem moves_absorbToken_end (inside : parents ≠ []) :
    Moves absorbToken (stage (.tagEnd :: rest) parents children depth room) 10 (.inr ())
      (stage rest parents (children ++ [Token.tagEnd.leaf]) depth room) 9 := by
  refine Moves.bind moves_eof (Moves.ite_neg Bool.false_ne_true ?_)
  refine Moves.bind moves_current (Moves.ite_pos rfl ?_)
  refine Moves.bind moves_current (Moves.bind (moves_bump inside) ?_)
  exact Moves.ite_pos rfl (Moves.done _ (by decide))

theorem moves_absorbToken_outside (outside : ¬ token.isTagToken = true) :
    Moves absorbToken (stage (token :: rest) parents children depth room) 10 (.inr ())
      (stage (token :: rest) parents children depth room) 9 := by
  refine Moves.bind moves_eof (Moves.ite_neg Bool.false_ne_true ?_)
  exact Moves.bind moves_current (Moves.ite_neg outside (Moves.pure _))

theorem moves_absorbToken_nil :
    Moves absorbToken (stage [] parents children depth room) 10 (.inr ())
      (stage [] parents children depth room) 9 :=
  Moves.bind moves_eof (Moves.ite_pos rfl (Moves.done _ (by decide)))

/-- The tail of a broken tag is taken. -/
theorem moves_absorbBrokenTag (inside : parents ≠ []) :
    Moves absorbBrokenTag (stage tokens parents children depth room) 10 ()
      (stage (afterBroken tokens) parents (children ++ (brokenTail tokens).map Token.leaf) depth
        room) 9 := by
  unfold afterBroken
  induction tokens generalizing children with
  | nil =>
    refine Moves.cast (Moves.loop_done moves_absorbToken_nil) ?_
    rw [brokenTail, List.map_nil, List.append_nil]
    rfl
  | cons token rest ih =>
    rw [brokenTail]
    by_cases ending : token = .tagEnd
    · subst ending
      rw [if_pos rfl]
      exact Moves.loop_done (moves_absorbToken_end inside)
    by_cases tagToken : token.isTagToken = true
    · rw [if_neg ending, if_pos tagToken]
      refine Moves.loop_again (moves_absorbToken inside tagToken ending) (Nat.lt_succ_self _) ?_
      refine Moves.cast ih ?_
      rw [List.append_assoc]
      rfl
    · rw [if_neg ending, if_neg tagToken]
      refine Moves.cast (Moves.loop_done (moves_absorbToken_outside tagToken)) ?_
      rw [List.map_nil, List.append_nil]
      rfl

/-! ## Tags -/

/-- The name in a tag that is well formed. -/
def tagName? : Except BrokenTag Reference → Option Text
  | .ok reference => some reference.name
  | .error _ => none

/-- Trees of a tag after its beginning, with this leaf as its end. -/
def tagTrees (ending : Tree Kind) : Except BrokenTag Reference → List (Tree Kind)
  | .ok reference => reference.trees ++ [ending]
  | .error tag => tag.trees

theorem ends_eq (tokens : List Token) :
    ends tokens = decide (kindAt (tokens.map Token.pair) 0 = .tagEnd) := by
  cases tokens with
  | nil => rfl
  | cons token rest => cases token <;> rfl

theorem moves_atTagEnd (name : Option Text) :
    Moves (atTagEnd name) (stage tokens parents children depth room) 11
      (name.isSome && ends tokens) (stage tokens parents children depth room) 10 := by
  cases name with
  | none => exact Moves.ite_neg Bool.false_ne_true (Moves.done _ (by decide))
  | some name =>
    rw [Option.isSome_some, Bool.true_and, ends_eq]
    exact Moves.ite_pos rfl (Moves.bind moves_current (Moves.pure _))

theorem toTag_ok {chain : Chain} {name : Text} (named : chain.name = some name)
    (closed : ends chain.rest = true) :
    chain.toTag.value = .ok ⟨chain.transformers, name⟩ ∧ chain.toTag.rest = chain.rest.tail := by
  unfold Chain.toTag
  split
  · rename_i name' named' _
    obtain rfl := Option.some.inj (named.symm.trans named')
    exact ⟨rfl, rfl⟩
  · rename_i noTag
    exact absurd closed (noTag name named)

theorem toTag_error {chain : Chain} (broken : (chain.name.isSome && ends chain.rest) = false) :
    chain.toTag.value = .error ⟨chain.transformers, chain.name, brokenTail chain.rest⟩ ∧
      chain.toTag.rest = afterBroken chain.rest := by
  unfold Chain.toTag
  split
  · rename_i name named closed
    rw [named, closed] at broken
    cases broken
  · exact ⟨rfl, rfl⟩

/-- A tag is built as it is read. -/
theorem moves_parseTag {takeEnd : Parsing Kind Unit} {ending : Tree Kind} (inside : parents ≠ [])
    (takes : ∀ rest children,
      Moves takeEnd (stage (.tagEnd :: rest) parents children depth room) 10 ()
        (stage rest parents (children ++ [ending]) depth room) fullTank) :
    Moves (parseTag takeEnd) (stage tokens parents children depth room) 12
      (tagName? (readTag tokens).value)
      (stage (readTag tokens).rest parents (children ++ tagTrees ending (readTag tokens).value)
        depth room) 9 := by
  rw [readTag, Parsed.widen_value, Parsed.widen_rest]
  refine Moves.bind (moves_parseChain inside) ?_
  generalize readChain tokens = chain
  refine Moves.bind (moves_atTagEnd chain.name) ?_
  cases valid : chain.name.isSome && ends chain.rest with
  | true =>
    obtain ⟨hasName, closed⟩ := Bool.and_eq_true _ _ ▸ valid
    obtain ⟨name, named⟩ := Option.isSome_iff_exists.1 hasName
    obtain ⟨value, behind⟩ := toTag_ok named closed
    refine Moves.ite_pos rfl ?_
    rw [value, behind, eq_of_ends closed]
    refine Moves.bind (takes _ _) ?_
    rw [named, Chain.trees, named]
    refine Moves.cast (Moves.done _ (by decide)) ?_
    rw [List.append_assoc]
    rfl
  | false =>
    obtain ⟨value, behind⟩ := toTag_error valid
    refine Moves.ite_neg Bool.false_ne_true ?_
    rw [value, behind]
    refine Moves.bind (moves_absorbBrokenTag inside) ?_
    refine Moves.cast (Moves.pure _) ?_
    rw [List.append_assoc]
    rfl

/-! ## Close tags -/

/-- Tree of a close tag after its beginning, with a name if it is well formed up to
    there. -/
def closeTree (name : Option Text) (tail : List Token) : Tree Kind :=
  .node .closeTag
    (Token.closeTagStart.leaf :: ((name.map nameTree).toList ++ tail.map Token.leaf))

/-- Either a name and the end of a tag come next, or one of them does not. -/
theorem nameAndEnd_cases (tokens : List Token) :
    (∃ text rest, tokens = .name text :: .tagEnd :: rest) ∨
      (∀ text rest, tokens ≠ .name text :: .tagEnd :: rest) ∧
        (kindAt (tokens.map Token.pair) 0 = .name → kindAt (tokens.map Token.pair) 1 ≠ .tagEnd) := by
  by_cases both : kindAt (tokens.map Token.pair) 0 = .name ∧
      kindAt (tokens.map Token.pair) 1 = .tagEnd
  · obtain ⟨first, second⟩ := both
    obtain ⟨text, later, rfl⟩ := kindAt_name first
    obtain ⟨rest, rfl⟩ := eq_cons_of_kindAt .tagEnd (by decide) (by decide) second
    exact .inl ⟨text, rest, rfl⟩
  · refine .inr ⟨?_, fun first second => both ⟨first, second⟩⟩
    rintro text rest rfl
    exact both ⟨rfl, rfl⟩

theorem moves_atNameAndEnd (text : Text) (rest : List Token) :
    Moves atNameAndEnd (stage (.name text :: .tagEnd :: rest) parents children depth room) 12 true
      (stage (.name text :: .tagEnd :: rest) parents children depth room) 10 :=
  Moves.bind moves_current (Moves.ite_pos rfl (Moves.bind (moves_nth 1) (Moves.pure true)))

theorem moves_atNameAndEnd_other
    (other : kindAt (tokens.map Token.pair) 0 = .name →
      kindAt (tokens.map Token.pair) 1 ≠ .tagEnd) :
    Moves atNameAndEnd (stage tokens parents children depth room) 12 false
      (stage tokens parents children depth room) 10 := by
  refine Moves.bind moves_current ?_
  by_cases first : kindAt (tokens.map Token.pair) 0 = .name
  · refine Moves.ite_pos first (Moves.bind (moves_nth 1) ?_)
    rw [decide_eq_false (other first)]
    exact Moves.pure false
  · exact Moves.ite_neg first (Moves.done _ (by decide))

theorem readStrayClose_other (other : ∀ text rest, tokens ≠ .name text :: .tagEnd :: rest) :
    (readStrayClose tokens).value = .closeTag none (brokenTail tokens) ∧
      (readStrayClose tokens).rest = afterBroken tokens := by
  unfold readStrayClose
  split
  · exact absurd rfl (other _ _)
  · exact ⟨rfl, rfl⟩

theorem moves_parseCloseName (tokens : List Token) (children : List (Tree Kind))
    (depth room : Nat) (inside : parents ≠ []) :
    ∃ name tail, (readStrayClose tokens).value = .closeTag name tail ∧
      Moves parseCloseName (stage tokens parents children depth room) 12 ()
        (stage (readStrayClose tokens).rest parents
          (children ++ ((name.map nameTree).toList ++ tail.map Token.leaf)) depth room) 9 := by
  obtain ⟨text, rest, rfl⟩ | ⟨other, kinds⟩ := nameAndEnd_cases tokens
  · refine ⟨some text, [.tagEnd], rfl, ?_⟩
    refine Moves.bind (moves_atNameAndEnd text rest) (Moves.ite_pos rfl ?_)
    refine moves_nodeThen ?_
    refine Moves.cast ((moves_bump inside).mono (Nat.le_refl _) (by decide)) ?_
    rw [List.append_assoc]
    rfl
  · obtain ⟨value, behind⟩ := readStrayClose_other other
    refine ⟨none, brokenTail tokens, value, ?_⟩
    rw [behind]
    refine Moves.bind (moves_atNameAndEnd_other kinds) (Moves.ite_neg Bool.false_ne_true ?_)
    exact moves_absorbBrokenTag inside

/-- A close tag is built as it is read. -/
theorem moves_parseCloseTag (rest : List Token) (parents : List (Kind × Nat))
    (children : List (Tree Kind)) (depth room : Nat) :
    ∃ name tail, (readStrayClose rest).value = .closeTag name tail ∧
      Moves parseCloseTag (stage (.closeTagStart :: rest) parents children depth room) 5 ()
        (stage (readStrayClose rest).rest parents (children ++ [closeTree name tail]) depth room)
        9 := by
  obtain ⟨name, tail, value, moves⟩ := moves_parseCloseName rest
    (children ++ [Token.closeTagStart.leaf]) depth room
    (List.cons_ne_nil (Kind.closeTag, children.length) parents)
  refine ⟨name, tail, value, ?_⟩
  refine Moves.bind ((settled _).moves_assertCurrent rfl) ?_
  refine Moves.bind (moves_startNode Kind.closeTag) ?_
  refine Moves.bind (moves_bump (List.cons_ne_nil _ _)) ?_
  refine Moves.bind (moves.mono (by decide) (Nat.le_refl 9)) ?_
  rw [List.append_assoc]
  exact moves_finishNode

theorem moves_closeTagName :
    Moves closeTagName (stage (.closeTagStart :: rest) parents children depth room) 7
      ((closeName (.closeTagStart :: rest)).map Unicode.trim)
      (stage (.closeTagStart :: rest) parents children depth room) 5 := by
  refine Moves.bind (moves_nth 1) ?_
  obtain ⟨text, rest, rfl⟩ | ⟨other, kinds⟩ := nameAndEnd_cases rest
  · refine Moves.ite_pos rfl (Moves.bind (moves_nth 2) (Moves.ite_pos rfl ?_))
    exact Moves.bind (moves_nthText 1) (Moves.pure _)
  · have noName : closeName (.closeTagStart :: rest) = none := by
      unfold closeName
      split
      · rename_i same
        exact absurd (List.cons.inj same).2 (other _ _)
      · rfl
    rw [noName]
    by_cases first : kindAt (rest.map Token.pair) 0 = .name
    · exact Moves.ite_pos first
        (Moves.bind (moves_nth 2) (Moves.ite_neg (kinds first) (Moves.pure _)))
    · exact Moves.ite_neg first (Moves.done _ (by decide))

theorem moves_closesEnclosing {enclosing : Option Text} {closed : Bool}
    (h : closesBlock enclosing (.closeTagStart :: rest) = closed) :
    Moves (closesEnclosing enclosing)
      (stage (.closeTagStart :: rest) parents children depth room) 7 closed
      (stage (.closeTagStart :: rest) parents children depth room) 5 := by
  subst h
  cases enclosing with
  | none => exact Moves.done _ (by decide)
  | some name =>
    have same : closesBlock (some name) (.closeTagStart :: rest) =
        decide ((closeName (.closeTagStart :: rest)).map Unicode.trim = some name) := by
      rw [closesBlock.eq_def]
      cases closeName (.closeTagStart :: rest) with
      | none => rfl
      | some text => simp
    rw [same]
    exact Moves.bind moves_closeTagName (Moves.pure _)

/-! ## Fields -/

/-- All that was built behind a checkpoint becomes an error. -/
theorem moves_error {tree : Tree Kind} (fits : Fits parents front) :
    Moves (wrapError front.length) (stage tokens parents (front ++ [tree]) depth room) fuel ()
      (stage tokens parents (front ++ [.node .error [tree]]) depth room) fuel :=
  moves_wrapError fits

/-- The tag of a field, with an error around it if it is not well formed. -/
theorem moves_parseField (fits : Fits parents children) :
    Moves parseField (stage (.tagStart :: rest) parents children depth room) 3 ()
      (stage (readField rest).rest parents (children ++ [(readField rest).value.tree]) depth room)
      8 := by
  rw [readField, Parsed.map_value, Parsed.map_rest]
  refine Moves.bind moves_checkpoint ?_
  refine Moves.bind (moves_startNode Kind.element) ?_
  refine Moves.bind (moves_startNode Kind.selfClosingTag) ?_
  refine Moves.bind (moves_bump (List.cons_ne_nil _ _)) ?_
  refine Moves.bind ((moves_parseTag (List.cons_ne_nil _ _) fun rest children =>
    moves_bumpAs .selfCloseEnd (List.cons_ne_nil _ _)).mono (by decide) (Nat.le_refl 9)) ?_
  rw [List.append_assoc]
  refine Moves.bind moves_finishNode ?_
  refine Moves.bind moves_finishNode ?_
  cases (readTag rest).value with
  | ok reference => exact (Moves.when_false rfl).mono (Nat.le_refl 9) (by decide)
  | error broken =>
    refine Moves.when_true rfl ?_
    exact (moves_error fits).mono (Nat.le_refl 9) (by decide)

end Machine

end Flashcard.Template
