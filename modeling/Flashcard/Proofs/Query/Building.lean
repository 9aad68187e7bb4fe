import Flashcard.Proofs.Query.BuildingValues
import Flashcard.Proofs.Query.Fitting
import Flashcard.Proofs.Query.Lossless

/-!
# What the parser of queries builds

The parser of queries panics at no step, and the nodes that it builds are those of the
query that is read. The blanks in front of an item are passed over when the item before
it has ended already; they become part of the row, and not of the next item.

Results:
* `buildsRow`: a row of items, if terms are built as they are read.
* `builds_parseGroup`, `builds_parseNot`: terms around others.
* `buildsTerm_parseTerm`: a term, however deeply it is nested.
* `moves_parseProgram`, `runParser_eq`: a whole query.
-/

namespace Flashcard.Query

open Parsing

namespace Machine

variable {blanks rest : List Token} {token : Token} {parents : List (Kind × Nat)}
  {children : List (Tree Kind)} {depth room fuel : Nat}

/-! ## Rows -/

/-- An item is built as it is read, behind the blanks in front of it. What is left is
    what is left of the tokens, and some blanks of that may have been passed over. -/
def Builds (act : Parsing Kind Unit) (blanks tokens : List Token) (parents : List (Kind × Nat))
    (children : List (Tree Kind)) (depth room fuel : Nat) {bound : Nat}
    (read : Parsed Token Item bound) (less : Nat) : Prop :=
  ∃ left right, left.all Token.isBlank = true ∧ left ++ right = read.rest ∧
    Moves act (stage blanks tokens parents children depth room) fuel ()
      (stage left right parents (children ++ blanks.map Token.leaf ++ [read.value.tree])
        depth room) less

/-- A term is built as it is read, wherever it stands. -/
def BuildsTerm (parseTerm : Parsing Kind Unit) (room : Nat) : Prop :=
  ∀ {blanks rest : List Token} {token : Token} {parents : List (Kind × Nat)}
    {children : List (Tree Kind)} {depth : Nat}, token.isBlank = false → parents ≠ [] →
    Fits parents children →
    Builds parseTerm blanks (token :: rest) parents children depth room 2 (term room token rest) 8

theorem isTrivia_pair (token : Token) : Vocabulary.isTrivia token.pair.1 = token.isBlank := by
  cases token with
  | mark field text => cases field <;> rfl
  | _ => rfl

theorem triviaOf_map_pair (tokens : List Token) :
    triviaOf (tokens.map Token.pair) = (tokens.takeWhile Token.isBlank).map Token.pair := by
  rw [triviaOf, List.takeWhile_map]
  congr 2
  funext token
  exact isTrivia_pair token

theorem behindTrivia_map_pair (tokens : List Token) :
    behindTrivia (tokens.map Token.pair) = (tokens.dropWhile Token.isBlank).map Token.pair := by
  rw [behindTrivia, List.dropWhile_map]
  congr 2
  funext token
  exact isTrivia_pair token

theorem settled_cons (h : token.isBlank = false) :
    Settled ((token :: rest).map Token.pair) := by
  intro pair mem
  obtain rfl := Option.some.inj mem
  rw [isTrivia_pair, h]

theorem moves_currentToken {tokens : List Token} :
    Moves current (stage blanks tokens parents children depth room) (fuel + 2)
      (kindAt ((tokens.dropWhile Token.isBlank).map Token.pair) 0)
      (stage (blanks ++ tokens.takeWhile Token.isBlank) (tokens.dropWhile Token.isBlank) parents
        children depth room) (fuel + 1) := by
  rw [← behindTrivia_map_pair]
  refine Moves.cast moves_current ?_
  rw [triviaOf_map_pair, behindTrivia_map_pair, ← List.map_append]

theorem moves_peekNth (h : token.isBlank = false) :
    Moves (peekNth 1) (stage blanks (token :: rest) parents children depth room) fuel
      ((rest.find? (!·.isBlank)).map Token.kind)
      (stage blanks (token :: rest) parents children depth room) fuel := by
  refine Moves.bind (settled_cons h).moves_skipTrivia ?_
  intro m hm
  refine ⟨m, ?_, hm⟩
  have kinds : m.ahead.map Prod.fst = token.kind :: rest.map Token.kind := by
    rw [map_fst_eq hm.ahead, List.map_map]
    rfl
  have first : ¬ token.kind.isTrivia = true := by
    rw [show token.kind.isTrivia = token.isBlank from isTrivia_pair token, h]
    exact Bool.false_ne_true
  have second : ((rest.map Token.kind).filter (!·.isTrivia))[0]? =
      (rest.find? (!·.isBlank)).map Token.kind := by
    rw [← List.head?_eq_getElem?, List.head?_filter, List.find?_map]
    congr 2
    funext token
    exact congrArg not (isTrivia_pair token)
  show Except.ok (((m.ahead.map Prod.fst).filter (!·.isTrivia))[1]?, m) = _
  rw [kinds, List.filter_cons_of_pos (by simp [first]), List.getElem?_cons_succ, second]

/-- An `OR` is an operator where a term stands on each side. -/
theorem moves_parseOr (hasLeft : Bool) (inside : parents ≠ []) :
    Moves (parseOr hasLeft) (stage blanks (.orKeyword :: rest) parents children depth room)
      (fuel + 3) ()
      (stage [] rest parents
        (children ++ blanks.map Token.leaf ++
          [(if hasLeft && termFollows rest then Item.disjunction
            else .stray .orKeyword).tree]) depth room) fullTank := by
  have follows : ((rest.find? (!·.isBlank)).map Token.kind).any termStarts.contains =
      termFollows rest := by
    rw [Option.any_map]
    rfl
  refine Moves.bind ((settled_cons rfl).moves_assertCurrent rfl) ?_
  refine Moves.bind (moves_peekNth rfl) ?_
  rw [follows]
  split
  · exact moves_node inside
  · exact moves_stray inside

theorem parseNode_term (parseTerm : Parsing Kind Unit) (inGroup : Bool) (count : Nat)
    (hasLeft : Bool) (noClosing : token ≠ .parenClose) (noOr : token ≠ .orKeyword) :
    parseNode parseTerm inGroup count hasLeft token.kind =
      parseTerm >>= fun _ => pure (.inl (count + 1, true)) := by
  unfold parseNode
  split
  · rename_i kind
    exact absurd (eq_of_kind .parenClose (by decide) kind) noClosing
  · rename_i kind
    exact absurd (eq_of_kind .orKeyword (by decide) kind) noOr
  · rfl

theorem isBlank_of_isTerm {item : Item} (h : item.isTerm = true) : item.isBlank = false := by
  cases item with
  | blank text => cases h
  | _ => rfl

/-- How many items of a row are no blanks. -/
def nodeCount (items : List Item) : Nat := items.countP (!·.isBlank)

/-- A row was built as it is read. It ends with the tokens, and what was passed over
    is left, or a closing parenthesis comes next, and what was passed over is part of
    the row. -/
def RowEnds (inGroup : Bool) {bound : Nat} (row : Parsed Token (List Item) bound)
    (left right : List Token) (built : List (Tree Kind)) : Prop :=
  (right = [] ∧ left = row.rest ∧ built = Item.treeAll row.value) ∨
    (inGroup = true ∧ right = row.rest ∧ closes right = true ∧
      built ++ left.map Token.leaf = Item.treeAll row.value)

theorem RowEnds.prepend {inGroup : Bool} {bound larger : Nat}
    {row : Parsed Token (List Item) bound} {more : Parsed Token (List Item) larger}
    {left right : List Token} {built : List (Tree Kind)} (h : RowEnds inGroup row left right built)
    (items : List Item) (value : more.value = items ++ row.value) (same : more.rest = row.rest) :
    RowEnds inGroup more left right (Item.treeAll items ++ built) := by
  rw [RowEnds, value, same, Item.treeAll_append]
  obtain ⟨ended, rest, rfl⟩ | ⟨group, rest, closing, whole⟩ := h
  · exact .inl ⟨ended, rest, rfl⟩
  · refine .inr ⟨group, rest, closing, ?_⟩
    rw [List.append_assoc, whole]

/-- The first item of a row, and how the row goes on behind it. -/
structure RowHead where
  item : Item
  /-- A term stands to the left of what comes behind the item. -/
  hasLeft : Bool
  rest : List Token

section Items

variable (term : (token : Token) → (rest : List Token) → Parsed Token Item rest.length)
  (inGroup hasLeft : Bool)

/-- The head of a row that begins with this token. -/
def rowHead (token : Token) (rest : List Token) : RowHead :=
  if token = .parenClose then ⟨.stray .parenClose, true, rest⟩
  else if token = .orKeyword then
    ⟨if hasLeft && termFollows rest then .disjunction else .stray .orKeyword, false, rest⟩
  else ⟨(term token rest).value, true, (term token rest).rest⟩

theorem rowHead_term (noClosing : token ≠ .parenClose) (noOr : token ≠ .orKeyword)
    (rest : List Token) :
    rowHead term hasLeft token rest = ⟨(term token rest).value, true, (term token rest).rest⟩ := by
  rw [rowHead, if_neg noClosing, if_neg noOr]

theorem length_rest_rowHead_le (token : Token) (rest : List Token) :
    (rowHead term hasLeft token rest).rest.length ≤ rest.length := by
  unfold rowHead
  split
  · exact Nat.le_refl _
  · split
    · exact Nat.le_refl _
    · exact (term token rest).rest_le

theorem sequence_cons (noBlank : token.isBlank = false)
    (going : token = .parenClose → inGroup = false) (rest : List Token) :
    let head := rowHead term hasLeft token rest
    (sequence term inGroup hasLeft (token :: rest)).value = head.item ::
        (sequence term inGroup head.hasLeft head.rest).value ∧
      (sequence term inGroup hasLeft (token :: rest)).rest =
        (sequence term inGroup head.hasLeft head.rest).rest := by
  by_cases closing : token = .parenClose
  · subst closing
    obtain rfl := going rfl
    rw [sequence]
    exact ⟨rfl, rfl⟩
  by_cases operator : token = .orKeyword
  · subst operator
    rw [sequence]
    exact ⟨rfl, rfl⟩
  · rw [rowHead_term term hasLeft closing operator]
    exact sequence_term term inGroup hasLeft noBlank closing operator rest

end Items

theorem isBlank_rowHead (room : Nat) (hasLeft : Bool) (token : Token) (rest : List Token) :
    (rowHead (term room) hasLeft token rest).item.isBlank = false := by
  by_cases closing : token = .parenClose
  · subst closing
    rfl
  by_cases operator : token = .orKeyword
  · subst operator
    show Item.isBlank (if hasLeft && termFollows rest then _ else _) = false
    split <;> rfl
  · rw [rowHead_term _ hasLeft closing operator]
    exact isBlank_of_isTerm (isTerm_term room token rest)

/-- The item at the head of a row is built as it is read. -/
theorem moves_parseNode {parseTerm : Parsing Kind Unit} (builds : BuildsTerm parseTerm room)
    (inGroup hasLeft : Bool) (count : Nat) (blanks rest : List Token)
    (depth : Nat) (next : token.isBlank = false) (going : token = .parenClose → inGroup = false)
    (inside : parents ≠ []) (fits : Fits parents children) :
    let head := rowHead (term room) hasLeft token rest
    ∃ left right : List Token, left.all Token.isBlank = true ∧ left ++ right = head.rest ∧
      Moves (parseNode parseTerm inGroup count hasLeft token.kind)
        (stage blanks (token :: rest) parents children depth room) 7
        (.inl (count + 1, head.hasLeft))
        (stage left right parents
          (children ++ blanks.map Token.leaf ++ [head.item.tree]) depth room) 8 := by
  intro head
  by_cases closing : token = .parenClose
  · subst closing
    obtain rfl := going rfl
    refine ⟨[], rest, rfl, rfl, ?_⟩
    exact Moves.bind (moves_stray inside) (Moves.done _ (by decide))
  by_cases operator : token = .orKeyword
  · subst operator
    refine ⟨[], rest, rfl, rfl, ?_⟩
    exact Moves.bind (moves_parseOr hasLeft inside) (Moves.done _ (by decide))
  · have read := rowHead_term (term room) hasLeft closing operator rest
    obtain ⟨left, right, blank, rest_eq, moves⟩ : Builds parseTerm blanks (token :: rest) parents
        children depth room 2 (term room token rest) 8 := builds next inside fits
    rw [show head = _ from read, parseNode_term parseTerm inGroup count hasLeft closing operator]
    refine ⟨left, right, blank, rest_eq, ?_⟩
    exact Moves.bind (moves.mono (by decide) (Nat.le_refl _)) (Moves.pure _)

theorem moves_parseNext_end (parseTerm : Parsing Kind Unit) (inGroup hasLeft : Bool)
    (count : Nat) {tokens : List Token} (ended : tokens.dropWhile Token.isBlank = []) :
    Moves (parseNext parseTerm inGroup (count, hasLeft))
      (stage blanks tokens parents children depth room) 8 (.inr count)
      (stage (blanks ++ tokens.takeWhile Token.isBlank) [] parents children depth room) 7 := by
  have looked : Moves current (stage blanks tokens parents children depth room) 8 _ _ 7 :=
    moves_currentToken
  rw [ended] at looked
  refine Moves.bind looked ?_
  exact Moves.bind moves_eof (Moves.pure _)

/-- Otherwise it goes on with the next token that is no blank. -/
theorem moves_parseNext {parseTerm : Parsing Kind Unit} {inGroup hasLeft : Bool} {count : Nat}
    {tokens : List Token} (ahead : tokens.dropWhile Token.isBlank = token :: rest)
    {result : (Nat × Bool) ⊕ Nat} {t : Stage Kind} {left : Nat}
    (node : Moves (parseNode parseTerm inGroup count hasLeft token.kind)
      (stage (blanks ++ tokens.takeWhile Token.isBlank) (token :: rest) parents children depth
        room) 7 result t left) :
    Moves (parseNext parseTerm inGroup (count, hasLeft))
      (stage blanks tokens parents children depth room) 8 result t left := by
  have looked : Moves current (stage blanks tokens parents children depth room) 8 _ _ 7 :=
    moves_currentToken
  rw [ahead] at looked
  refine Moves.bind looked ?_
  exact Moves.bind moves_eof node

theorem nodeCount_blanks (blanks : List Token) :
    nodeCount (blanks.map fun blank => .blank blank.text) = 0 := by
  rw [nodeCount, List.countP_eq_zero]
  intro blank mem
  obtain ⟨token, -, rfl⟩ := List.mem_map.1 mem
  exact Bool.false_ne_true

theorem nodeCount_cons {item : Item} (next : item.isBlank = false) (blanks : List Token)
    (items : List Item) :
    nodeCount (blanks.map (fun blank => .blank blank.text) ++ item :: items) =
      nodeCount items + 1 := by
  rw [nodeCount, List.countP_append, ← nodeCount, nodeCount_blanks, Nat.zero_add,
    List.countP_cons_of_pos (by simp [next])]
  rfl

theorem treeAll_blanks {blanks : List Token} (blank : blanks.all Token.isBlank = true) :
    Item.treeAll (blanks.map fun blank => .blank blank.text) = blanks.map Token.leaf := by
  induction blanks with
  | nil => rfl
  | cons token blanks ih =>
    rw [List.all_cons, Bool.and_eq_true] at blank
    rw [List.map_cons, Item.treeAll, ih blank.2, List.map_cons]
    cases token with
    | blank text => rfl
    | _ => cases blank.1

/-- A row is built as it is read, behind `count` other nodes. -/
def BuildsRow (parseTerm : Parsing Kind Unit) (inGroup hasLeft : Bool) (count : Nat)
    (blanks tokens : List Token) (parents : List (Kind × Nat)) (children : List (Tree Kind))
    (depth room : Nat) : Prop :=
  let row := sequence (term room) inGroup hasLeft (blanks ++ tokens)
  ∃ left right built, left.all Token.isBlank = true ∧ RowEnds inGroup row left right built ∧
    Moves (loop (parseNext parseTerm inGroup) (count, hasLeft))
      (stage blanks tokens parents children depth room) 8 (count + nodeCount row.value)
      (stage left right parents (children ++ built) depth room) 7

section Rows

variable {parseTerm : Parsing Kind Unit} {inGroup hasLeft : Bool} {count : Nat}
  {tokens : List Token}

/-- Blanks that were passed over, and those behind them. -/
def passed (blanks tokens : List Token) : List Token := blanks ++ tokens.takeWhile Token.isBlank

theorem all_passed (blank : blanks.all Token.isBlank = true) (tokens : List Token) :
    (passed blanks tokens).all Token.isBlank = true := by
  rw [passed, List.all_append, blank, List.all_takeWhile]
  rfl

theorem passed_append (blanks tokens : List Token) :
    passed blanks tokens ++ tokens.dropWhile Token.isBlank = blanks ++ tokens := by
  rw [passed, List.append_assoc, List.takeWhile_append_dropWhile]

theorem buildsRow_end (blank : blanks.all Token.isBlank = true)
    (ended : tokens.dropWhile Token.isBlank = []) :
    BuildsRow parseTerm inGroup hasLeft count blanks tokens parents children depth room := by
  have whole := passed_append blanks tokens
  have row := sequence_blanks (term room) inGroup hasLeft (all_passed blank tokens)
  rw [ended, List.append_nil] at whole
  rw [whole] at row
  refine ⟨passed blanks tokens, [], [], all_passed blank tokens, .inl ⟨rfl, ?_, ?_⟩, ?_⟩
  · rw [row.2, whole]
  · rw [row.1]
    rfl
  · rw [row.1, List.append_nil]
    exact Moves.loop_done (moves_parseNext_end parseTerm inGroup hasLeft count ended)

theorem buildsRow_closing (blank : blanks.all Token.isBlank = true)
    (ahead : tokens.dropWhile Token.isBlank = .parenClose :: rest) :
    BuildsRow parseTerm true hasLeft count blanks tokens parents children depth room := by
  have whole := passed_append blanks tokens
  have row := sequence_blanks_append (term room) true hasLeft (all_passed blank tokens)
    (show Token.parenClose.isBlank = false from rfl) rest
  have ends := sequence_closing (term room) hasLeft rest
  rw [ahead] at whole
  rw [whole, ends.1, ends.2, List.append_nil] at row
  refine ⟨passed blanks tokens, .parenClose :: rest, [], all_passed blank tokens,
    .inr ⟨rfl, row.2.symm, rfl, ?_⟩, ?_⟩
  · rw [row.1, List.nil_append, treeAll_blanks (all_passed blank tokens)]
  · rw [row.1, nodeCount_blanks, List.append_nil]
    exact Moves.loop_done (moves_parseNext ahead (Moves.pure _))

/-- Any other token begins an item, and the row goes on behind it. -/
theorem buildsRow_cons (builds : BuildsTerm parseTerm room)
    (blank : blanks.all Token.isBlank = true)
    (ahead : tokens.dropWhile Token.isBlank = token :: rest)
    (going : token = .parenClose → inGroup = false) (inside : parents ≠ [])
    (fits : Fits parents children)
    (later : let head := rowHead (term room) hasLeft token rest
      ∀ left right, left.all Token.isBlank = true → left ++ right = head.rest →
        BuildsRow parseTerm inGroup head.hasLeft (count + 1) left right parents
          (children ++ (passed blanks tokens).map Token.leaf ++ [head.item.tree]) depth
          room) :
    BuildsRow parseTerm inGroup hasLeft count blanks tokens parents children depth room := by
  have noBlank : token.isBlank = false := by
    have head := List.head?_dropWhile_not Token.isBlank tokens
    rwa [ahead] at head
  have blank' := all_passed blank tokens
  -- The row is read as the blanks, the item, and the row behind it.
  have whole := passed_append blanks tokens
  obtain ⟨value, behind⟩ := sequence_blanks_append (term room) inGroup hasLeft blank' noBlank rest
  obtain ⟨itemValue, itemRest⟩ := sequence_cons (term room) inGroup hasLeft noBlank going rest
  rw [ahead] at whole
  rw [whole, itemValue] at value
  rw [whole, itemRest] at behind
  -- It is built in the same way.
  obtain ⟨left, right, leftBlank, rest_eq, first⟩ := moves_parseNode builds inGroup hasLeft count
    (passed blanks tokens) rest depth noBlank going inside fits
  obtain ⟨left', right', built, leftBlank', ends, moves⟩ := later left right leftBlank rest_eq
  have item := isBlank_rowHead room hasLeft token rest
  have taken : (right.map Token.pair).length < (tokens.map Token.pair).length := by
    have read := length_rest_rowHead_le (term room) hasLeft token rest
    have drop := (List.dropWhile_sublist (l := tokens) Token.isBlank).length_le
    rw [ahead, List.length_cons] at drop
    rw [← rest_eq, List.length_append] at read
    rw [List.length_map, List.length_map]
    omega
  rw [← rest_eq] at value behind
  have nodes := congrArg nodeCount value
  rw [nodeCount_cons item] at nodes
  rw [List.append_cons] at value
  have ends' : RowEnds inGroup _ left' right' _ := ends.prepend _ value behind
  rw [Item.treeAll_append, treeAll_blanks blank', List.append_assoc] at ends'
  refine ⟨left', right', _, leftBlank', ends', ?_⟩
  rw [nodes, Nat.add_comm (nodeCount _) 1, ← Nat.add_assoc]
  refine Moves.loop_again (moves_parseNext ahead first) taken (Moves.cast moves ?_)
  rw [List.append_assoc, List.append_assoc]
  rfl

end Rows

/-- What is in a row is built as it is read, if terms are. -/
theorem buildsRow {parseTerm : Parsing Kind Unit} (builds : BuildsTerm parseTerm room)
    (inGroup hasLeft : Bool) (count : Nat) {blanks : List Token} (tokens : List Token)
    (blank : blanks.all Token.isBlank = true) {children : List (Tree Kind)} (depth : Nat)
    (inside : parents ≠ []) (fits : Fits parents children) :
    BuildsRow parseTerm inGroup hasLeft count blanks tokens parents children depth room := by
  cases ahead : tokens.dropWhile Token.isBlank with
  | nil => exact buildsRow_end blank ahead
  | cons token rest =>
    by_cases ends : token = .parenClose ∧ inGroup = true
    · obtain ⟨rfl, rfl⟩ := ends
      exact buildsRow_closing blank ahead
    · have going (closing : token = .parenClose) : inGroup = false :=
        Bool.eq_false_iff.2 fun group => ends ⟨closing, group⟩
      refine buildsRow_cons builds blank ahead going inside fits ?_
      intro head left right leftBlank rest_eq
      have smaller : (left ++ right).length < (blanks ++ tokens).length := by
        have read : head.rest.length ≤ rest.length :=
          length_rest_rowHead_le (term room) hasLeft token rest
        have drop := (List.dropWhile_sublist (l := tokens) Token.isBlank).length_le
        rw [ahead, List.length_cons] at drop
        rw [rest_eq, List.length_append]
        omega
      exact buildsRow builds inGroup _ (count + 1) right leftBlank depth inside
        ((fits.append _).append _)
termination_by (blanks ++ tokens).length
decreasing_by exact smaller

/-! ## Terms -/

theorem closes_eq_false {tokens : List Token} (h : tokens.all Token.isBlank = true) :
    closes tokens = false := by
  cases tokens with
  | nil => rfl
  | cons token rest =>
    cases token with
    | parenClose => cases h
    | _ => rfl

theorem exists_of_closes {tokens : List Token} (h : closes tokens = true) :
    ∃ rest, tokens = .parenClose :: rest := by
  unfold closes at h
  split at h
  · exact ⟨_, rfl⟩
  · cases h

theorem nodeCount_eq_zero (items : List Item) :
    decide (nodeCount items = 0) = items.all Item.isBlank := by
  rw [Bool.eq_iff_iff, decide_eq_true_eq, nodeCount, List.countP_eq_zero, List.all_eq_true]
  simp only [Bool.not_eq_true', Bool.not_eq_false]

theorem moves_atClosing_end (blanks : List Token) :
    Moves atClosing (stage blanks [] parents children depth room) fuel false
      (stage blanks [] parents children depth room) fuel :=
  Moves.bind moves_eof (Moves.pure false)

theorem moves_atClosing (blanks rest : List Token) :
    Moves atClosing (stage blanks (.parenClose :: rest) parents children depth room) (fuel + 2)
      true (stage blanks (.parenClose :: rest) parents children depth room) (fuel + 1) := by
  refine Moves.bind moves_eof ?_
  exact Moves.bind (settled_cons rfl).moves_current (Moves.pure true)

theorem moves_closing {bound : Nat} (row : Parsed Token (List Item) bound)
    {left right : List Token} {built : List (Tree Kind)} (children : List (Tree Kind))
    (depth room : Nat) (leftBlank : left.all Token.isBlank = true)
    (ends : RowEnds true row left right built) (inside : parents ≠ []) :
    Moves atClosing (stage left right parents (children ++ built) depth room) 7
        (closes row.rest) (stage left right parents (children ++ built) depth room) 6 ∧
      ∃ left' right', left'.all Token.isBlank = true ∧
        left' ++ right' = (closeGroup row).rest ∧
        Moves (when (closes row.rest) bump)
          (stage left right parents (children ++ built) depth room) 6 ()
          (stage left' right' parents (children ++ (Item.treeAll row.value ++
            if closes row.rest then [Token.parenClose.leaf] else [])) depth room) 6 := by
  rw [show (closeGroup row).rest = if closes row.rest then row.rest.tail else row.rest from rfl]
  obtain ⟨rfl, rest, rfl⟩ | ⟨-, rest, closing, whole⟩ := ends
  · have noClosing : closes row.rest = false := by
      rw [← rest]
      exact closes_eq_false leftBlank
    rw [noClosing]
    refine ⟨(moves_atClosing_end left).mono (by decide) (Nat.le_refl 6), left, [], leftBlank, ?_,
      ?_⟩
    · rw [List.append_nil, rest]
      rfl
    · refine Moves.cast (Moves.when_false rfl) ?_
      rw [if_neg Bool.false_ne_true, List.append_nil]
  · obtain ⟨behind, rfl⟩ := exists_of_closes closing
    rw [← rest, closing]
    refine ⟨moves_atClosing left behind, [], behind, rfl, rfl, ?_⟩
    refine Moves.when_true rfl ?_
    have taken := (takes_bump inside : Moves bump (stage left (.parenClose :: behind) parents
      (children ++ built) depth room) 6 () _ fullTank)
    refine Moves.cast (taken.mono (Nat.le_refl 6) (by decide)) ?_
    rw [leaves_map_pair, ← whole, if_pos rfl]
    simp only [List.append_assoc]
    rfl

/-- A group, with an error around it if it is empty or not closed. -/
theorem builds_parseGroup {parseTerm : Parsing Kind Unit} (builds : BuildsTerm parseTerm room)
    (blanks rest : List Token) (inside : parents ≠ []) (fits : Fits parents children) :
    Builds (parseGroup parseTerm) blanks (.parenOpen :: rest) parents children depth room fuel
      (closeGroup (sequence (term room) true false rest)) 2 := by
  rw [Builds, ← leaves_map_pair]
  have fits := fits.append (leaves (blanks.map Token.pair))
  generalize front_eq : children ++ leaves (blanks.map Token.pair) = front at fits ⊢
  obtain ⟨left, right, built, leftBlank, ends, row⟩ := buildsRow builds true false 0 rest
    (show ([] : List Token).all Token.isBlank = true from rfl) depth
    (List.cons_ne_nil (Kind.group, front.length) parents)
    ((fits_cons Kind.group parents front).append [Token.parenOpen.leaf])
  obtain ⟨looked, left', right', leftBlank', rest_eq, closing⟩ :=
    moves_closing _ (front ++ [Token.parenOpen.leaf]) depth room leftBlank ends
      (List.cons_ne_nil (Kind.group, front.length) parents)
  have tree : (closeGroup (sequence (term room) true false rest)).value.tree = markError
      (!closes (sequence (term room) true false rest).rest ||
        decide (0 + nodeCount (sequence (term room) true false rest).value = 0))
      (.node .group (Token.parenOpen.leaf ::
        (Item.treeAll (sequence (term room) true false rest).value ++
          if closes (sequence (term room) true false rest).rest then [Token.parenClose.leaf]
          else []))) := by
    rw [Nat.zero_add, nodeCount_eq_zero]
    rfl
  refine ⟨left', right', leftBlank', rest_eq, ?_⟩
  rw [tree]
  refine Moves.bind (moves_checkpoint (.inr inside)) ?_
  refine Moves.bind (moves_startNode Kind.group (.inl rfl)) ?_
  rw [append_leaves_nil, front_eq]
  refine Moves.bind (moves_bump (List.cons_ne_nil _ _)) ?_
  refine Moves.bind (row.mono (by decide) (Nat.le_refl _)) ?_
  refine Moves.bind looked ?_
  refine Moves.bind closing ?_
  rw [List.append_assoc]
  refine Moves.bind moves_finishNode ?_
  exact (moves_markError _ fits _).mono (Nat.le_refl _) (by decide)

/-- Where nothing was passed over, an item is built as it is read. -/
theorem Builds.of_moves {act : Parsing Kind Unit} {tokens : List Token} {bound less : Nat}
    {read : Parsed Token Item bound}
    (h : Moves act (stage blanks tokens parents children depth room) fuel ()
      (stage [] read.rest parents (children ++ blanks.map Token.leaf ++ [read.value.tree])
        depth room) less) :
    Builds act blanks tokens parents children depth room fuel read less :=
  ⟨[], read.rest, rfl, rfl, h⟩

section Negations

variable {parseTerm : Parsing Kind Unit}

theorem term_negation (room : Nat) (operand : operandStarts.contains token.kind = true)
    (rest : List Token) :
    (term (room + 1) .minus (token :: rest)).value = .negation (term room token rest).value ∧
      (term (room + 1) .minus (token :: rest)).rest = (term room token rest).rest := by
  rw [term, if_pos operand]
  exact ⟨rfl, rfl⟩

theorem term_minus (room : Nat)
    (noOperand : ¬ operandStarts.contains (kindAt (rest.map Token.pair) 0) = true) :
    (term (room + 1) .minus rest).value = .stray .minus ∧
      (term (room + 1) .minus rest).rest = rest := by
  cases rest with
  | nil => exact ⟨rfl, rfl⟩
  | cons token rest =>
    have stray : ¬ operandStarts.contains token.kind = true := noOperand
    rw [term, if_neg stray]
    exact ⟨rfl, rfl⟩

/-- `-` and the term that touches it. -/
theorem builds_parseNot_operand (builds : BuildsTerm parseTerm room)
    (operand : operandStarts.contains token.kind = true) (inside : parents ≠ []) :
    Builds (parseNot parseTerm) blanks (.minus :: token :: rest) parents children depth room
      (fuel + 4) (term (room + 1) .minus (token :: rest)) 2 := by
  obtain ⟨value, behind⟩ := term_negation room operand rest
  generalize front_eq : children ++ leaves (blanks.map Token.pair) = front
  have inner : Builds parseTerm [] (token :: rest)
      ((Kind.negation, front.length) :: parents) (front ++ [Token.minus.leaf]) depth room 2
      (term room token rest) 8 :=
    builds (isBlank_of_operandStarts operand) (List.cons_ne_nil _ _)
      ((fits_cons Kind.negation parents front).append _)
  obtain ⟨left, right, leftBlank, rest_eq, moves⟩ := inner
  refine ⟨left, right, leftBlank, rest_eq.trans behind.symm, ?_⟩
  rw [value, ← leaves_map_pair, front_eq]
  refine Moves.bind ((settled_cons rfl).moves_assertCurrent rfl) ?_
  refine Moves.bind (moves_nth 1) (Moves.ite_pos operand ?_)
  refine Moves.bind (moves_startNode Kind.negation (.inr inside)) ?_
  rw [front_eq]
  refine Moves.bind (moves_bump (List.cons_ne_nil _ _)) ?_
  refine Moves.bind (moves.mono (by decide) (Nat.le_refl 8)) ?_
  rw [List.append_assoc, List.append_assoc]
  exact moves_finishNode.mono (Nat.le_refl 8) (by decide)

theorem builds_parseNot_stray
    (noOperand : ¬ operandStarts.contains (kindAt (rest.map Token.pair) 0) = true)
    (inside : parents ≠ []) :
    Builds (parseNot parseTerm) blanks (.minus :: rest) parents children depth room (fuel + 4)
      (term (room + 1) .minus rest) 2 := by
  obtain ⟨value, behind⟩ := term_minus room noOperand
  refine Builds.of_moves ?_
  rw [value, behind]
  refine Moves.bind ((settled_cons rfl).moves_assertCurrent rfl) ?_
  refine Moves.bind (moves_nth 1) (Moves.ite_neg noOperand ?_)
  exact (moves_stray inside).mono (Nat.le_refl _) (by decide)

/-- A negation, or a `-` by itself. -/
theorem builds_parseNot (builds : BuildsTerm parseTerm room) (blanks rest : List Token)
    (inside : parents ≠ []) :
    Builds (parseNot parseTerm) blanks (.minus :: rest) parents children depth room (fuel + 4)
      (term (room + 1) .minus rest) 2 := by
  cases rest with
  | nil => exact builds_parseNot_stray (by decide) inside
  | cons token rest =>
    by_cases operand : operandStarts.contains token.kind = true
    · exact builds_parseNot_operand builds operand inside
    · exact builds_parseNot_stray operand inside

end Negations

theorem builds_parseTermOf {parseTerm : Parsing Kind Unit} (builds : BuildsTerm parseTerm room)
    (blanks rest : List Token) (next : token.isBlank = false) (inside : parents ≠ [])
    (fits : Fits parents children) :
    Builds (parseTermOf parseTerm token.kind) blanks (token :: rest) parents children depth room
      (fuel + 4) (term (room + 1) token rest) 2 := by
  cases token with
  | parenOpen => exact builds_parseGroup builds blanks rest inside fits
  | minus => exact builds_parseNot builds blanks rest inside
  | quote => exact Builds.of_moves (moves_parseQuoted inside fits)
  | word text =>
    exact Builds.of_moves ((moves_parseSimple inside text).mono (Nat.le_refl _) (by decide))
  | mark field mark =>
    have production : parseTermOf parseTerm (Token.mark field mark).kind =
        parsePrefixed field.kind := by cases field <;> rfl
    rw [production]
    exact Builds.of_moves (moves_parsePrefixed field mark inside fits)
  | parenClose | content _ | orKeyword =>
    exact Builds.of_moves ((moves_stray inside).mono (Nat.le_refl _) (by decide))
  | blank text => cases next

/-- One frame more than there is room for nesting is enough for a term. -/
theorem buildsTerm_parseTerm (room : Nat) : BuildsTerm (parseTerm (room + 1)) room := by
  induction room with
  | zero =>
    intro blanks rest token parents children depth next inside fits
    refine Builds.of_moves ?_
    refine Moves.bind moves_enterRecursion_limit ?_
    rw [← leaves_map_pair]
    refine Moves.cast ((takes_bump.moves_bumpRestAsError inside (settled_cons next)).mono
      (Nat.le_refl _) (by decide)) ?_
    rw [show leaves ((token.kind, token.text) :: rest.map Token.pair) =
      (token :: rest).map Token.leaf from leaves_map_pair (token :: rest)]
    rfl
  | succ room ih =>
    intro blanks rest token parents children depth next inside fits
    obtain ⟨left, right, leftBlank, rest_eq, moves⟩ :=
      builds_parseTermOf ih blanks rest next inside fits
    refine ⟨left, right, leftBlank, rest_eq, ?_⟩
    refine Moves.bind moves_enterRecursion ?_
    refine Moves.bind (settled_cons next).moves_current ?_
    refine Moves.bind moves ?_
    exact moves_exitRecursion.mono (Nat.le_refl _) (by decide)

/-! ## Programs -/

/-- A query is built as it is read, and its root is finished. -/
theorem moves_parseProgram (limit : Nat) (tokens : List Token) :
    Moves (parseProgram limit) (stage [] tokens [] [] 0 limit) fullTank ()
      (stage [] [] [] [(Program.ofTokens limit tokens).tree] 0 limit) 7 := by
  have inside : [(Kind.program, 0)] ≠ [] := List.cons_ne_nil _ _
  obtain ⟨left, right, built, leftBlank, ends, row⟩ :=
    buildsRow (buildsTerm_parseTerm limit) false false 0 tokens
      (show ([] : List Token).all Token.isBlank = true from rfl) 0 inside
      (fits_cons Kind.program [] [])
  rw [List.nil_append] at ends
  obtain ⟨rfl, leftover, rfl⟩ | ⟨group, -⟩ := ends
  · have tree : (Program.ofTokens limit tokens).tree =
        .node .program (Item.treeAll (sequence (term limit) false false tokens).value ++
          leaves (left.map Token.pair)) := by
      rw [Program.tree, Program.ofTokens, Item.treeAll_append, ← leftover,
        treeAll_blanks leftBlank, leaves_map_pair]
    have settled : Settled (([] : List Token).map Token.pair) := by
      intro pair mem
      cases mem
    rw [tree]
    refine Moves.bind (moves_startNode Kind.program (.inl rfl)) ?_
    refine Moves.bind (row.mono (by decide) (Nat.le_refl 7)) ?_
    refine Moves.bind settled.moves_skipTrivia ?_
    refine Moves.bind (moves_drainTrivia (.inr inside)) ?_
    exact moves_finishRoot
  · cases group

/-- The parser of queries builds the tree of the query that is read, and never panics. -/
theorem runParser_eq {limit : Nat} {source : Text} (small : source.size < numberBound)
    (bounded : limit < numberBound) :
    runParser limit source = .ok (parse limit source).tree := by
  have whole : ((tokenize source).map Token.pair).flatMap (·.2) = source := by
    rw [flatMap_pair, textAll_tokenize]
  exact run_eq_ok small bounded whole (moves_parseProgram limit (tokenize source))

end Machine

end Flashcard.Query
