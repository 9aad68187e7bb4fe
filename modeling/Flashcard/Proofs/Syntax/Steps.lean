import Flashcard.Proofs.Syntax.Moves

/-!
# What the steps of a parser do

Each step of a parser is a move, if the stage meets its condition: a token or a node
needs an open node around it, an error needs a place that it fits at, and looking ahead
needs fuel for two more times. A parser that moves to a finished root runs to its end.

Results:
* `moves_finishNode`, `moves_wrapError`, `moves_bumpAs`: what is built.
* `moves_current`, `moves_nth`, `moves_nthText`: what is looked at.
* `moves_enterRecursion`, `moves_exitRecursion`: nesting.
* `Takes.moves_bumpAsError`, `Takes.moves_bumpRestAsError`: tokens that become errors.
* `run_eq_ok`: a parser that moves to a finished root builds it without a panic.
-/

namespace Flashcard

variable {κ : Type}

/-- Leaves with these kinds and texts. -/
def leaves (tokens : List (κ × Text)) : List (Tree κ) :=
  tokens.map fun token => .leaf token.1 token.2

theorem leaves_cons (token : κ × Text) (rest : List (κ × Text)) :
    leaves (token :: rest) = .leaf token.1 token.2 :: leaves rest := rfl

theorem append_leaves_nil (trees : List (Tree κ)) : trees ++ leaves [] = trees :=
  List.append_nil trees

namespace Parsing

variable {blanks tokens rest : List (κ × Text)} {parents : List (κ × Nat)}
  {children front behind : List (Tree κ)} {depth room fuel : Nat}

/-! ## Steps of the builder -/

section Building

theorem moves_build {f : Builder κ → Except Panic (Builder κ)} {builder builder' : Builder κ}
    (h : f builder = .ok builder') :
    Moves (build f) ⟨blanks, tokens, builder, depth, room⟩ fuel ()
      ⟨blanks, tokens, builder', depth, room⟩ fuel := by
  intro m hm
  refine ⟨{ m with builder := builder' }, ?_, { hm with builder := rfl }⟩
  rw [build, hm.builder, h]
  rfl

/-- The innermost open node is finished with the trees built since it was begun. -/
theorem moves_finishNode {kind : κ} :
    Moves finishNode
      ⟨blanks, tokens, ⟨(kind, front.length) :: parents, front ++ behind⟩, depth, room⟩ fuel ()
      ⟨blanks, tokens, ⟨parents, front ++ [.node kind behind]⟩, depth, room⟩ fuel := by
  apply moves_build
  show Except.ok (Builder.mk parents ((front ++ behind).take front.length ++
    [.node kind ((front ++ behind).drop front.length)])) = _
  rw [List.take_left, List.drop_left]

theorem moves_finishRoot {kind : κ} :
    Moves finishNode ⟨blanks, tokens, ⟨[(kind, 0)], children⟩, depth, room⟩ fuel ()
      ⟨blanks, tokens, ⟨[], [.node kind children]⟩, depth, room⟩ fuel :=
  moves_build rfl

/-- A node can be put around trees in the innermost open node. -/
def Fits (parents : List (κ × Nat)) (front : List (Tree κ)) : Prop :=
  ∀ parent ∈ parents.head?, parent.2 ≤ front.length

theorem Fits.append (h : Fits parents front) (behind : List (Tree κ)) :
    Fits parents (front ++ behind) := by
  intro parent mem
  rw [List.length_append]
  exact Nat.le_trans (h parent mem) (Nat.le_add_right _ _)

theorem fits_cons (kind : κ) (parents : List (κ × Nat)) (front : List (Tree κ)) :
    Fits ((kind, front.length) :: parents) front := by
  intro parent mem
  obtain rfl := Option.some.inj mem
  exact Nat.le_refl _

/-- All that was built behind a checkpoint becomes an error. -/
theorem moves_wrapError [Recovery κ] (fits : Fits parents front) :
    Moves (wrapError front.length)
      ⟨blanks, tokens, ⟨parents, front ++ behind⟩, depth, room⟩ fuel ()
      ⟨blanks, tokens, ⟨parents, front ++ [.node Recovery.error behind]⟩, depth, room⟩ fuel := by
  have valid : front.length ≤ (front ++ behind).length ∧
      ∀ parent ∈ parents.head?, parent.2 ≤ front.length := by
    rw [List.length_append]
    exact ⟨Nat.le_add_right _ _, fits⟩
  have begun : Builder.startNodeAt front.length Recovery.error ⟨parents, front ++ behind⟩ =
      .ok ⟨(Recovery.error, front.length) :: parents, front ++ behind⟩ := by
    rw [Builder.startNodeAt, if_pos valid]
  exact Moves.bind (moves_build begun) moves_finishNode

end Building

/-! ## Tokens that are put into the tree -/

section Emitting

theorem emit_eq {m : Machine κ} (inside : parents ≠ []) (h : m.builder = ⟨parents, children⟩)
    (kind : κ) {span : Span} {text : Text}
    (slice : m.source.slice? span.start span.stop = some text) :
    emit kind span m =
      .ok ((), { m with builder := ⟨parents, children ++ [.leaf kind text]⟩ }) := by
  have read : textOf span m = .ok (text, m) := by rw [textOf, slice]
  have put : build (Builder.token kind text) m =
      .ok ((), { m with builder := ⟨parents, children ++ [.leaf kind text]⟩ }) := by
    obtain ⟨parent, above, rfl⟩ := List.exists_cons_of_ne_nil inside
    rw [build, h]
    rfl
  show (textOf span m >>= fun p => build (Builder.token kind p.1) p.2) = _
  rw [read]
  exact put

theorem emitAll_eq {m : Machine κ} (inside : parents ≠ []) (h : m.builder = ⟨parents, children⟩)
    {source : Text} (same : m.source = source) {spans : List (κ × Span)}
    (holds : List.Forall₂ (Holds source) spans blanks) :
    emitAll spans m =
      .ok ((), { m with builder := ⟨parents, children ++ leaves blanks⟩ }) := by
  induction holds generalizing m children with
  | nil =>
    show Except.ok ((), m) = _
    rw [leaves, List.map_nil, List.append_nil, ← h]
  | @cons token pair spans blanks first later ih =>
    obtain ⟨kind, slice⟩ := first
    have put := emit_eq inside h token.1 (same ▸ slice)
    show (emit token.1 token.2 m >>= fun p => emitAll spans p.2) = _
    rw [put]
    refine (ih (m := { m with builder := ⟨parents, children ++ [.leaf token.1 pair.2]⟩ })
      rfl same).trans ?_
    rw [kind, List.append_assoc]
    rfl

theorem drainTrivia_eq {m : Machine κ} (h : blanks = [] ∨ parents ≠ [])
    (builder : m.builder = ⟨parents, children⟩)
    (trivia : List.Forall₂ (Holds m.source) m.trivia blanks) :
    drainTrivia m =
      .ok ((), { m with trivia := [], builder := ⟨parents, children ++ leaves blanks⟩ }) := by
  obtain rfl | inside := h
  · have none := List.forall₂_nil_right_iff.1 trivia
    have same : m.builder = ⟨parents, children ++ leaves []⟩ := by
      rw [builder, leaves, List.map_nil, List.append_nil]
    rw [drainTrivia, none, ← same]
    rfl
  · exact emitAll_eq (m := { m with trivia := [] }) inside builder rfl trivia

/-- What was passed over goes into the innermost open node. -/
theorem moves_drainTrivia (h : blanks = [] ∨ parents ≠ []) :
    Moves drainTrivia ⟨blanks, tokens, ⟨parents, children⟩, depth, room⟩ fuel ()
      ⟨[], tokens, ⟨parents, children ++ leaves blanks⟩, depth, room⟩ fuel := by
  intro m hm
  exact ⟨_, drainTrivia_eq h hm.builder hm.trivia, { hm with trivia := .nil, builder := rfl }⟩

theorem moves_startNode (kind : κ) (h : blanks = [] ∨ parents ≠ []) :
    Moves (startNode kind) ⟨blanks, tokens, ⟨parents, children⟩, depth, room⟩ fuel ()
      ⟨[], tokens, ⟨(kind, (children ++ leaves blanks).length) :: parents,
        children ++ leaves blanks⟩, depth, room⟩ fuel :=
  Moves.bind (moves_drainTrivia h) (moves_build rfl)

theorem moves_checkpoint (h : blanks = [] ∨ parents ≠ []) :
    Moves checkpoint ⟨blanks, tokens, ⟨parents, children⟩, depth, room⟩ fuel
      (children ++ leaves blanks).length
      ⟨[], tokens, ⟨parents, children ++ leaves blanks⟩, depth, room⟩ fuel := by
  refine Moves.bind (moves_drainTrivia h) ?_
  intro m hm
  refine ⟨m, ?_, hm⟩
  show Except.ok (m.builder.children.length, m) = _
  rw [hm.builder]

/-- The next token goes into the innermost open node, behind what was passed over. -/
theorem moves_bumpAs (f : κ → κ) (kind : κ) (text : Text) (inside : parents ≠ []) :
    Moves (bumpAs f) ⟨blanks, (kind, text) :: rest, ⟨parents, children⟩, depth, room⟩ fuel ()
      ⟨[], rest, ⟨parents, children ++ leaves blanks ++ [.leaf (f kind) text]⟩, depth, room⟩
      fullTank := by
  intro m hm
  obtain ⟨token, ahead, ⟨own, slice⟩, later, split⟩ := List.forall₂_cons_right_iff.1 hm.ahead
  have drained := drainTrivia_eq (m := { m with fuel := fullTank }) (.inr inside) hm.builder
    hm.trivia
  have put := emit_eq (m := { m with
    fuel := fullTank, trivia := [], builder := ⟨parents, children ++ leaves blanks⟩ })
    inside rfl (f token.1) slice
  refine ⟨{ m with
    fuel := fullTank, trivia := [], ahead := ahead
    builder := ⟨parents, children ++ leaves blanks ++ [.leaf (f kind) text]⟩ }, ?_,
    { hm with trivia := .nil, ahead := later, builder := rfl, fuel_le := Nat.le_refl _ }⟩
  rw [bumpAs, split]
  show (drainTrivia { m with fuel := fullTank } >>= fun p =>
    (emit (f token.1) token.2 >>= fun _ => advance) p.2) = _
  rw [drained]
  show (emit (f token.1) token.2 _ >>= fun p => advance p.2) = _
  rw [put]
  show Except.ok ((), _) = Except.ok ((), _)
  rw [split, own]
  rfl

end Emitting

/-! ## Looking ahead -/

theorem moves_eof {s : Stage κ} : Moves eof s fuel s.tokens.isEmpty s fuel := by
  intro m hm
  refine ⟨m, ?_, hm⟩
  have same : m.ahead.isEmpty = s.tokens.isEmpty := by
    rw [Bool.eq_iff_iff, List.isEmpty_iff_length_eq_zero, List.isEmpty_iff_length_eq_zero,
      hm.ahead.length_eq]
  rw [eof, same]

/-- Kind of the token after `lookahead` others. -/
def kindAt [Recovery κ] (tokens : List (κ × Text)) (lookahead : Nat) : κ :=
  (tokens[lookahead]?.map Prod.fst).getD Recovery.error

theorem exists_of_kindAt [Recovery κ] {τ : Type} {pair : τ → κ × Text} {row : List τ} {kind : κ}
    (h : kindAt (row.map pair) 0 = kind) (other : kind ≠ Recovery.error) :
    ∃ token later, row = token :: later ∧ (pair token).1 = kind := by
  cases row with
  | nil => exact absurd h.symm other
  | cons token later => exact ⟨token, later, rfl, h⟩

theorem map_fst_eq {source : Text} {spans : List (κ × Span)}
    (h : List.Forall₂ (Holds source) spans tokens) :
    spans.map Prod.fst = tokens.map Prod.fst := by
  induction h with
  | nil => rfl
  | cons first _ ih => rw [List.map_cons, List.map_cons, ih, first.1]

theorem moves_nth [Recovery κ] {s : Stage κ} (lookahead : Nat) :
    Moves (nth lookahead) s (fuel + 2) (kindAt s.tokens lookahead) s (fuel + 1) := by
  intro m hm
  have enough : ¬ m.fuel ≤ 1 := by
    have := hm.fuel_le
    omega
  have left : fuel + 1 ≤ m.fuel - 1 := by
    have := hm.fuel_le
    omega
  refine ⟨{ m with fuel := m.fuel - 1 }, ?_, { hm with fuel_le := left }⟩
  have looked : ensureProgress m = .ok ((), { m with fuel := m.fuel - 1 }) := by
    rw [ensureProgress, if_neg enough]
  show (ensureProgress m >>= fun p =>
    .ok ((p.2.ahead[lookahead]?.map Prod.fst).getD Recovery.error, p.2)) = _
  rw [looked]
  show Except.ok ((m.ahead[lookahead]?.map Prod.fst).getD Recovery.error, _) = _
  rw [kindAt, ← List.getElem?_map, ← List.getElem?_map, map_fst_eq hm.ahead]

theorem rel_getElem? {source : Text} {spans : List (κ × Span)}
    (h : List.Forall₂ (Holds source) spans tokens) (i : Nat) :
    Option.Rel (Holds source) spans[i]? tokens[i]? := by
  induction h generalizing i with
  | nil => exact .none
  | cons first _ ih =>
    cases i with
    | zero => exact .some first
    | succ i => exact ih i

/-- The token after `lookahead` others is looked at, but not taken. -/
theorem moves_nthText {s : Stage κ} (lookahead : Nat) :
    Moves (nthText lookahead) s fuel (s.tokens[lookahead]?.map Prod.snd) s fuel := by
  intro m hm
  refine ⟨m, ?_, hm⟩
  have there := rel_getElem? hm.ahead lookahead
  rw [nthText]
  generalize m.ahead[lookahead]? = token, s.tokens[lookahead]? = pair at there
  cases there with
  | none => rfl
  | @some token pair holds =>
    have read : textOf token.2 m = .ok (pair.2, m) := by rw [textOf, holds.2]
    show (textOf token.2 m >>= fun p => .ok (some p.1, p.2)) = _
    rw [read]
    rfl

section Trivia

variable [Recovery κ]

/-- The tokens up to the next one with a meaning. -/
def triviaOf (tokens : List (κ × Text)) : List (κ × Text) :=
  tokens.takeWhile (Vocabulary.isTrivia ·.1)

/-- The tokens from the next one with a meaning on. -/
def behindTrivia (tokens : List (κ × Text)) : List (κ × Text) :=
  tokens.dropWhile (Vocabulary.isTrivia ·.1)

/-- The next token has a meaning. -/
def Settled (tokens : List (κ × Text)) : Prop :=
  ∀ token ∈ tokens.head?, Vocabulary.isTrivia token.1 = false

theorem Settled.triviaOf_eq (h : Settled tokens) : triviaOf tokens = [] := by
  cases tokens with
  | nil => rfl
  | cons token rest => rw [triviaOf, List.takeWhile_cons_of_neg (by simp [h token rfl])]

theorem Settled.behindTrivia_eq (h : Settled tokens) : behindTrivia tokens = tokens := by
  cases tokens with
  | nil => rfl
  | cons token rest => rw [behindTrivia, List.dropWhile_cons_of_neg (by simp [h token rfl])]

theorem forall₂_trivia {source : Text} {spans : List (κ × Span)}
    (h : List.Forall₂ (Holds source) spans tokens) :
    List.Forall₂ (Holds source) (spans.takeWhile (Vocabulary.isTrivia ·.1)) (triviaOf tokens) ∧
      List.Forall₂ (Holds source) (spans.dropWhile (Vocabulary.isTrivia ·.1))
        (behindTrivia tokens) := by
  induction h with
  | nil => exact ⟨.nil, .nil⟩
  | @cons span token spans tokens first later ih =>
    obtain ⟨kind, -⟩ := id first
    rw [triviaOf, behindTrivia, List.takeWhile_cons, List.takeWhile_cons, List.dropWhile_cons,
      List.dropWhile_cons, kind]
    split
    · exact ⟨.cons first ih.1, ih.2⟩
    · exact ⟨.nil, .cons first later⟩

theorem moves_skipTrivia {builder : Builder κ} :
    Moves skipTrivia ⟨blanks, tokens, builder, depth, room⟩ fuel ()
      ⟨blanks ++ triviaOf tokens, behindTrivia tokens, builder, depth, room⟩ fuel := by
  intro m hm
  obtain ⟨skipped, ahead⟩ := forall₂_trivia hm.ahead
  exact ⟨_, rfl, { hm with trivia := List.rel_append hm.trivia skipped, ahead := ahead }⟩

/-- The next token with a meaning. -/
theorem moves_current {builder : Builder κ} :
    Moves current ⟨blanks, tokens, builder, depth, room⟩ (fuel + 2)
      (kindAt (behindTrivia tokens) 0)
      ⟨blanks ++ triviaOf tokens, behindTrivia tokens, builder, depth, room⟩ (fuel + 1) :=
  Moves.bind moves_skipTrivia (moves_nth 0)

/-- Where the next token has a meaning, nothing is passed over. -/
theorem Settled.moves_skipTrivia {builder : Builder κ} (h : Settled tokens) :
    Moves skipTrivia ⟨blanks, tokens, builder, depth, room⟩ fuel ()
      ⟨blanks, tokens, builder, depth, room⟩ fuel := by
  have skipped : Moves skipTrivia ⟨blanks, tokens, builder, depth, room⟩ fuel () _ fuel :=
    Parsing.moves_skipTrivia
  rwa [h.triviaOf_eq, h.behindTrivia_eq, List.append_nil] at skipped

theorem Settled.moves_current {builder : Builder κ} (h : Settled tokens) :
    Moves current ⟨blanks, tokens, builder, depth, room⟩ (fuel + 2) (kindAt tokens 0)
      ⟨blanks, tokens, builder, depth, room⟩ (fuel + 1) :=
  Moves.bind h.moves_skipTrivia (moves_nth 0)

theorem Settled.moves_assertCurrent [DecidableEq κ] {builder : Builder κ} (h : Settled tokens)
    {expected : κ} (next : kindAt tokens 0 = expected) :
    Moves (assertCurrent expected) ⟨blanks, tokens, builder, depth, room⟩ (fuel + 2) ()
      ⟨blanks, tokens, builder, depth, room⟩ (fuel + 1) := by
  refine Moves.bind h.moves_current ?_
  rw [if_pos next]
  exact Moves.pure ()

end Trivia

/-! ## Nesting -/

section Nesting

variable {builder : Builder κ}

theorem moves_enterRecursion :
    Moves enterRecursion ⟨blanks, tokens, builder, depth, room + 1⟩ fuel true
      ⟨blanks, tokens, builder, depth + 1, room⟩ fullTank := by
  intro m hm
  have limit : m.limit = depth + (room + 1) := hm.limit
  have deep : m.depth = depth := hm.depth
  have small := hm.small
  refine ⟨{ m with depth := m.depth + 1, fuel := fullTank }, ?_,
    { hm with depth := congrArg (· + 1) deep, limit := ?_, fuel_le := Nat.le_refl _ }⟩
  · rw [enterRecursion, if_neg (by omega), if_pos (by omega)]
  · show m.limit = depth + 1 + room
    omega

/-- At the limit the parser goes no deeper. -/
theorem moves_enterRecursion_limit :
    Moves enterRecursion ⟨blanks, tokens, builder, depth, 0⟩ fuel false
      ⟨blanks, tokens, builder, depth, 0⟩ fuel := by
  intro m hm
  have limit : m.limit = depth + 0 := hm.limit
  have deep : m.depth = depth := hm.depth
  refine ⟨m, ?_, hm⟩
  rw [enterRecursion, if_pos (by omega)]

theorem moves_exitRecursion :
    Moves exitRecursion ⟨blanks, tokens, builder, depth + 1, room⟩ fuel ()
      ⟨blanks, tokens, builder, depth, room + 1⟩ fullTank := by
  intro m hm
  have limit : m.limit = depth + 1 + room := hm.limit
  have deep : m.depth = depth + 1 := hm.depth
  refine ⟨{ m with depth := m.depth - 1, fuel := fullTank }, rfl,
    { hm with depth := ?_, limit := ?_, fuel_le := Nat.le_refl _ }⟩
  · show m.depth - 1 = depth
    omega
  · show m.limit = depth + (room + 1)
    omega

end Nesting

/-! ## Errors -/

section Errors

variable {bump : Parsing κ Unit} {kind : κ} {text : Text}

/-- The next token is taken as it is, behind what was passed over. -/
def Takes (bump : Parsing κ Unit) : Prop :=
  ∀ {blanks rest : List (κ × Text)} {kind : κ} {text : Text} {parents : List (κ × Nat)}
    {children : List (Tree κ)} {depth room fuel : Nat}, parents ≠ [] →
    Moves bump ⟨blanks, (kind, text) :: rest, ⟨parents, children⟩, depth, room⟩ (fuel + 2) ()
      ⟨[], rest, ⟨parents, children ++ leaves blanks ++ [.leaf kind text]⟩, depth, room⟩
      fullTank

theorem Takes.moves (takes : Takes bump) (inside : parents ≠ []) :
    Moves bump ⟨[], (kind, text) :: rest, ⟨parents, children⟩, depth, room⟩ (fuel + 2) ()
      ⟨[], rest, ⟨parents, children ++ [.leaf kind text]⟩, depth, room⟩ fullTank := by
  refine Moves.cast (takes inside) ?_
  rw [append_leaves_nil]

theorem Takes.moves_node (takes : Takes bump) {node : κ} (inside : parents ≠ []) :
    Moves (startNode node >>= fun _ => bump >>= fun _ => finishNode)
      ⟨blanks, (kind, text) :: rest, ⟨parents, children⟩, depth, room⟩ (fuel + 2) ()
      ⟨[], rest, ⟨parents, children ++ leaves blanks ++ [.node node [.leaf kind text]]⟩, depth,
        room⟩ fullTank := by
  refine Moves.bind (moves_startNode node (.inr inside)) ?_
  refine Moves.bind (takes.moves (List.cons_ne_nil _ _)) ?_
  exact moves_finishNode

theorem Takes.moves_bumpRest (takes : Takes bump) (inside : parents ≠ []) :
    Moves (bumpRest bump) ⟨[], (kind, text) :: rest, ⟨parents, children⟩, depth, room⟩
      (fuel + 2) ()
      ⟨[], [], ⟨parents, children ++ leaves ((kind, text) :: rest)⟩, depth, room⟩ fullTank := by
  have round {kind : κ} {text : Text} {rest : List (κ × Text)} {children : List (Tree κ)}
      {fuel : Nat} {built : List (Tree κ)}
      (then' : Moves (bumpRest bump)
        ⟨[], rest, ⟨parents, children ++ [Tree.leaf kind text]⟩, depth, room⟩ fullTank ()
        ⟨[], [], ⟨parents, built⟩, depth, room⟩ fullTank) :
      Moves (bumpRest bump) ⟨[], (kind, text) :: rest, ⟨parents, children⟩, depth, room⟩
        (fuel + 2) () ⟨[], [], ⟨parents, built⟩, depth, room⟩ fullTank :=
    Moves.loop_again (Moves.bind moves_eof (Moves.bind (takes.moves inside) (Moves.pure _)))
      (Nat.lt_succ_self _) then'
  refine round ?_
  induction rest generalizing kind text children with
  | nil => exact Moves.loop_done (Moves.bind moves_eof (Moves.pure _))
  | cons token rest ih =>
    refine round (Moves.cast ih ?_)
    rw [leaves_cons, leaves_cons, List.append_assoc]
    rfl

variable [Recovery κ]

/-- The next token becomes an error. -/
theorem Takes.moves_bumpAsError (takes : Takes bump) (inside : parents ≠ []) :
    Moves (bumpAsError bump)
      ⟨blanks, (kind, text) :: rest, ⟨parents, children⟩, depth, room⟩ (fuel + 2) ()
      ⟨[], rest, ⟨parents, children ++ leaves blanks ++
        [.node Recovery.error [.leaf kind text]]⟩, depth, room⟩ fullTank := by
  exact Moves.bind moves_eof (takes.moves_node inside)

/-- The rest of the tokens becomes one error. -/
theorem Takes.moves_bumpRestAsError (takes : Takes bump) (inside : parents ≠ [])
    (next : Settled ((kind, text) :: rest)) :
    Moves (bumpRestAsError bump)
      ⟨blanks, (kind, text) :: rest, ⟨parents, children⟩, depth, room⟩ (fuel + 2) ()
      ⟨[], [], ⟨parents, children ++ leaves blanks ++
        [.node Recovery.error (leaves ((kind, text) :: rest))]⟩, depth, room⟩ fullTank := by
  refine Moves.bind next.moves_skipTrivia ?_
  refine Moves.bind moves_eof ?_
  refine Moves.bind (moves_startNode Recovery.error (.inr inside)) ?_
  refine Moves.bind (takes.moves_bumpRest (List.cons_ne_nil _ _)) ?_
  exact moves_finishNode

end Errors

/-! ## Running a parser -/

theorem toRange_eq {span : Span} (h : span.stop < numberBound) : toRange span = .ok span := by
  have start : span.start < numberBound := by
    rw [Span.stop] at h
    omega
  have ends : Span.between? span.start span.stop = some span := by
    have order : span.start ≤ span.stop := Nat.le_add_right _ _
    rw [Span.between?, if_pos order, Span.stop, Nat.add_sub_cancel_left]
  rw [toRange, Nat.mod_eq_of_lt start, Nat.mod_eq_of_lt h, ends]

/-- Tokens of a source that is not too large have their texts in their ranges. -/
theorem ranges_place (before : Text) {source : Text} (small : source.size < numberBound)
    (whole : before ++ tokens.flatMap (·.2) = source) :
    ∃ spans, (Tree.place before.size tokens).mapM (fun lexeme => do
        let range ← toRange lexeme.span
        return (lexeme.kind, range)) = .ok spans ∧
      List.Forall₂ (Holds source) spans tokens := by
  induction tokens generalizing before with
  | nil => exact ⟨[], rfl, .nil⟩
  | cons token tokens ih =>
    obtain ⟨kind, text⟩ := token
    rw [List.flatMap_cons] at whole
    have size : source.size = before.size + (text.size + Text.size (tokens.flatMap (·.2))) := by
      rw [← whole, Text.size_append, Text.size_append]
    have range : toRange ⟨before.size, text.size⟩ = .ok ⟨before.size, text.size⟩ := by
      apply toRange_eq
      show before.size + text.size < numberBound
      omega
    have slice : source.slice? before.size (before.size + text.size) = some text := by
      rw [← whole]
      exact Text.slice?_append before text _
    obtain ⟨spans, mapped, holds⟩ := ih (before ++ text) (by rw [← whole, List.append_assoc])
    rw [Text.size_append] at mapped
    refine ⟨(kind, ⟨before.size, text.size⟩) :: spans, ?_, .cons ⟨rfl, slice⟩ holds⟩
    rw [Tree.place, List.mapM_cons, range, mapped]
    rfl

/-- A parser that comes to a finished root of the right kind builds it without a panic. -/
theorem run_eq_ok [Recovery κ] [DecidableEq κ] {program : Parsing κ Unit} {limit : Nat}
    {source : Text} (small : source.size < numberBound) (bounded : limit < numberBound)
    (whole : tokens.flatMap (·.2) = source)
    (moves : Moves program ⟨[], tokens, ⟨[], []⟩, 0, limit⟩ fullTank ()
      ⟨[], [], ⟨[], [.node Vocabulary.root children]⟩, depth, room⟩ fuel) :
    run program limit source tokens = .ok (.node Vocabulary.root children) := by
  obtain ⟨spans, mapped, holds⟩ := ranges_place [] small whole
  have read : ranges tokens = .ok spans := mapped
  have finished : Moves (program >>= fun _ => drainTrivia) _ _ _ _ _ :=
    Moves.bind moves (moves_drainTrivia (.inl rfl))
  obtain ⟨m, runs, stands⟩ := finished ⟨source, spans, [], ⟨[], []⟩, 0, limit, fullTank⟩
    ⟨.nil, holds, rfl, rfl, (Nat.zero_add _).symm, bounded, Nat.le_refl _⟩
  have built : m.builder.finish = .ok (.node Vocabulary.root children) := by
    rw [stands.builder, append_leaves_nil]
    rfl
  show (ranges tokens >>= fun ahead => _) = _
  rw [read]
  show (((program >>= fun _ => drainTrivia) : Parsing κ Unit) _ >>= fun p => _) = _
  rw [runs]
  show (m.builder.finish >>= fun tree => _) = _
  rw [built]
  exact if_pos rfl

end Parsing

end Flashcard
