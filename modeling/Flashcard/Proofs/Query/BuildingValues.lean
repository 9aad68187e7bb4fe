import Flashcard.Proofs.Query.Productions
import Flashcard.Proofs.Syntax.Steps
import Flashcard.Query.Program

/-!
# What the parser of queries builds for values and filters

The parser of queries takes the tokens of strings and of filters without a panic, and
the nodes that it builds are those of the values and filters that are read. The numbers
in the statements are how often it may still look ahead before it takes a token, before
a production and behind it.

Results:
* `takes_bump`, `moves_node`, `moves_stray`: single tokens.
* `moves_parseQuoted`: a string, with or without its closing quote.
* `moves_parsePrefixed`: a filter, with or without its value.
-/

namespace Flashcard.Query

open Parsing

namespace Machine

/-! ## Steps -/

/-- A stage with these tokens. -/
abbrev stage (blanks tokens : List Token) (parents : List (Kind × Nat))
    (children : List (Tree Kind)) (depth room : Nat) : Stage Kind :=
  ⟨blanks.map Token.pair, tokens.map Token.pair, ⟨parents, children⟩, depth, room⟩

variable {blanks rest : List Token} {token : Token} {parents : List (Kind × Nat)}
  {children : List (Tree Kind)} {depth room fuel : Nat}

theorem takes_bump : Takes bump := by
  intro _ _ kind text _ _ _ _ _ inside
  exact moves_bumpAs id kind text inside

theorem moves_bump (inside : parents ≠ []) :
    Moves bump (stage [] (token :: rest) parents children depth room) fuel ()
      (stage [] rest parents (children ++ [token.leaf]) depth room) fullTank := by
  refine Moves.cast (moves_bumpAs id token.kind token.text inside) ?_
  rw [List.map_nil, append_leaves_nil]
  rfl

theorem leaves_map_pair (tokens : List Token) :
    leaves (tokens.map Token.pair) = tokens.map Token.leaf := by
  rw [leaves, List.map_map]
  rfl

/-- A node around one token. -/
theorem moves_node {kind : Kind} (inside : parents ≠ []) :
    Moves (startNode kind >>= fun _ => bump >>= fun _ => finishNode)
      (stage blanks (token :: rest) parents children depth room) (fuel + 2) ()
      (stage [] rest parents
        (children ++ blanks.map Token.leaf ++ [.node kind [token.leaf]]) depth room) fullTank := by
  rw [← leaves_map_pair]
  exact takes_bump.moves_node inside

/-- A token that fits nowhere. -/
theorem moves_stray (inside : parents ≠ []) :
    Moves (bumpAsError bump) (stage blanks (token :: rest) parents children depth room)
      (fuel + 2) ()
      (stage [] rest parents
        (children ++ blanks.map Token.leaf ++ [(Item.stray token).tree]) depth room)
      fullTank := by
  rw [← leaves_map_pair]
  exact takes_bump.moves_bumpAsError inside

/-- An error goes around the last node if it is malformed. -/
theorem moves_markError {tokens : List Token} (malformed : Bool) {front : List (Tree Kind)}
    (fits : Fits parents front) (tree : Tree Kind) :
    Moves (when malformed (wrapError front.length))
      (stage blanks tokens parents (front ++ [tree]) depth room) fuel ()
      (stage blanks tokens parents (front ++ [markError malformed tree]) depth room) fuel := by
  cases malformed with
  | false => exact Moves.when_false rfl
  | true => exact Moves.when_true rfl (moves_wrapError fits)

theorem kindAt_cons (token : Token) (rest : List Token) :
    kindAt ((token :: rest).map Token.pair) 0 = token.kind := rfl

/-! ## Values -/

/-- The next token if it has a kind, and what is left then. -/
def takeIf (kind : Kind) : List Token → List Token × List Token
  | [] => ([], [])
  | token :: rest => if token.kind = kind then ([token], rest) else ([], token :: rest)

theorem moves_takeIf (kind : Kind) (other : kind ≠ .error) (tokens : List Token)
    (inside : parents ≠ []) (little : fuel ≤ fullTank) :
    Moves (when (kindAt (tokens.map Token.pair) 0 = kind) bump)
      (stage [] tokens parents children depth room) fuel ()
      (stage [] (takeIf kind tokens).2 parents
        (children ++ (takeIf kind tokens).1.map Token.leaf) depth room) fuel := by
  cases tokens with
  | nil =>
    refine Moves.cast (Moves.when_false (decide_eq_false (Ne.symm other))) ?_
    rw [takeIf, List.map_nil, List.append_nil]
  | cons token rest =>
    rw [kindAt_cons, takeIf]
    by_cases next : token.kind = kind
    · rw [if_pos next]
      refine Moves.when_true (decide_eq_true next) ?_
      exact (moves_bump inside).mono (Nat.le_refl _) little
    · rw [if_neg next]
      refine Moves.cast (Moves.when_false (decide_eq_false next)) ?_
      rw [List.map_nil, List.append_nil]

theorem takeIf_of_ne {kind : Kind} {tokens : List Token}
    (h : kindAt (tokens.map Token.pair) 0 ≠ kind) : takeIf kind tokens = ([], tokens) := by
  cases tokens with
  | nil => rfl
  | cons token rest => exact if_neg h

theorem eq_of_kind (mark : Token) (fixed : mark.kind ∈ [.doubleQuote, .parenClose, .orKeyword])
    (h : token.kind = mark.kind) : token = mark := by
  cases mark with
  | mark field text => cases field <;> simp [Token.kind] at fixed
  | word | content | blank => simp [Token.kind] at fixed
  | _ =>
    cases token with
    | mark field text => cases field <;> cases h
    | _ => first | rfl | cases h

theorem kindAt_ne_doubleQuote {tokens : List Token} (h : ∀ rest, tokens ≠ .quote :: rest) :
    kindAt (tokens.map Token.pair) 0 ≠ .doubleQuote := by
  intro next
  obtain ⟨token, rest, rfl, kind⟩ := exists_of_kindAt next (by decide)
  exact h rest (congrArg (· :: rest) (eq_of_kind .quote (by decide) kind))

/-- What is taken behind an opening quote is the string that is read there. -/
theorem takeIf_quotedValue (tokens : List Token) :
    let content := takeIf .stringContent tokens
    let closing := takeIf .doubleQuote content.2
    (quotedValue tokens).rest = closing.2 ∧
      (quotedValue tokens).value.tree =
        markError (kindAt (content.2.map Token.pair) 0 ≠ .doubleQuote)
          (.node .quotedString (Token.quote.leaf ::
            (content.1.map Token.leaf ++ closing.1.map Token.leaf))) := by
  intro content closing
  unfold quotedValue
  split
  · exact ⟨rfl, rfl⟩
  · rename_i text rest noQuote
    have next := kindAt_ne_doubleQuote fun behind same => noQuote behind same
    have noClosing : closing = ([], rest) := takeIf_of_ne next
    rw [noClosing]
    refine ⟨rfl, ?_⟩
    rw [show decide (kindAt (content.2.map Token.pair) 0 ≠ .doubleQuote) = true from
      decide_eq_true next]
    rfl
  · exact ⟨rfl, rfl⟩
  · rename_i noContent noQuote
    have next := kindAt_ne_doubleQuote fun behind same => noQuote behind same
    have empty : content = ([], tokens) := by
      apply takeIf_of_ne
      intro next
      obtain ⟨token, rest, rfl, kind⟩ := exists_of_kindAt next (by decide)
      obtain ⟨text, rfl⟩ := eq_content kind
      exact noContent text rest rfl
    have noClosing : closing = ([], tokens) := by
      show takeIf .doubleQuote content.2 = _
      rw [empty]
      exact takeIf_of_ne next
    rw [noClosing, empty]
    refine ⟨rfl, ?_⟩
    rw [show decide (kindAt (tokens.map Token.pair) 0 ≠ .doubleQuote) = true from
      decide_eq_true next]
    rfl

/-- A string, with an error around it if its closing quote is missing. -/
theorem moves_parseQuoted (inside : parents ≠ []) (fits : Fits parents children) :
    Moves parseQuoted (stage blanks (.quote :: rest) parents children depth room) fuel ()
      (stage [] (quotedValue rest).rest parents
        (children ++ blanks.map Token.leaf ++ [(quotedValue rest).value.tree]) depth room)
      2 := by
  obtain ⟨rest_eq, tree_eq⟩ := takeIf_quotedValue rest
  rw [rest_eq, tree_eq, ← leaves_map_pair]
  have fits := fits.append (leaves (blanks.map Token.pair))
  refine Moves.bind (moves_checkpoint (.inr inside)) ?_
  refine Moves.bind (moves_startNode Kind.quotedString (.inl rfl)) ?_
  rw [append_leaves_nil]
  generalize children ++ leaves (blanks.map Token.pair) = front at fits ⊢
  refine Moves.bind (moves_bump (List.cons_ne_nil _ _)) ?_
  refine Moves.bind (moves_nth 0) ?_
  refine Moves.bind (moves_takeIf .stringContent nofun _ (List.cons_ne_nil _ _) (by decide)) ?_
  refine Moves.bind (moves_nth 0) ?_
  refine Moves.bind (moves_takeIf .doubleQuote nofun _ (List.cons_ne_nil _ _) (by decide)) ?_
  rw [List.append_assoc, List.append_assoc]
  refine Moves.bind moves_finishNode ?_
  exact (moves_markError _ fits _).mono (Nat.le_refl _) (by decide)

theorem moves_parseSimple (inside : parents ≠ []) (text : Text) :
    Moves parseSimple (stage blanks (.word text :: rest) parents children depth room)
      (fuel + 2) ()
      (stage [] rest parents
        (children ++ blanks.map Token.leaf ++ [(Value.word text).tree]) depth room) fullTank :=
  moves_node inside

/-- The value of a filter is the one that is read, if one is. -/
theorem moves_parseValue (inside : parents ≠ []) (fits : Fits parents children) :
    Moves (parseValue (kindAt (rest.map Token.pair) 0))
      (stage [] rest parents children depth room) (fuel + 2) ()
      (stage [] (filterValue rest).rest parents
        (children ++ ((filterValue rest).value.map Value.tree).toList) depth room) 2 := by
  unfold filterValue
  split
  · rename_i text rest
    refine Moves.cast ((moves_parseSimple inside text).mono (Nat.le_refl _) (by decide)) ?_
    rw [List.map_nil, List.append_nil]
    rfl
  · rename_i rest
    refine Moves.cast ((moves_parseQuoted inside fits).mono (Nat.zero_le _) (Nat.le_refl _)) ?_
    rw [List.map_nil, List.append_nil]
    rfl
  · rename_i noWord noQuote
    have nothing : parseValue (kindAt (rest.map Token.pair) 0) = pure () := by
      unfold parseValue
      split
      · rename_i next
        obtain ⟨token, behind, rfl, kind⟩ := exists_of_kindAt next (by decide)
        obtain ⟨text, rfl⟩ := eq_word kind
        exact absurd rfl (noWord text behind)
      · rename_i next
        exact absurd next (kindAt_ne_doubleQuote fun behind same => noQuote behind same)
      · rfl
    rw [nothing]
    refine Moves.cast ((Moves.pure ()).mono (Nat.le_refl _) (Nat.le_add_left 2 fuel)) ?_
    rw [Option.map_none, Option.toList_none, List.append_nil]

theorem contains_valueStarts (tokens : List Token) :
    valueStarts.contains (kindAt (tokens.map Token.pair) 0) =
      (filterValue tokens).value.isSome := by
  cases tokens with
  | nil => rfl
  | cons token rest =>
    cases token with
    | mark field text => cases field <;> rfl
    | _ => rfl

/-- A filter, with an error around it if it has no value. -/
theorem moves_parsePrefixed (field : FilterField) (mark : Text) (inside : parents ≠ [])
    (fits : Fits parents children) :
    Moves (parsePrefixed field.kind)
      (stage blanks (.mark field mark :: rest) parents children depth room) fuel ()
      (stage [] (filterValue rest).rest parents
        (children ++ blanks.map Token.leaf ++
          [(Item.filter field mark (filterValue rest).value).tree]) depth room) 2 := by
  have tree : (Item.filter field mark (filterValue rest).value).tree =
      markError (!valueStarts.contains (kindAt (rest.map Token.pair) 0))
        (.node field.kind ((Token.mark field mark).leaf ::
          ((filterValue rest).value.map Value.tree).toList)) := by
    rw [contains_valueStarts]
    cases (filterValue rest).value <;> rfl
  rw [tree, ← leaves_map_pair]
  have fits := fits.append (leaves (blanks.map Token.pair))
  refine Moves.bind (moves_checkpoint (.inr inside)) ?_
  refine Moves.bind (moves_startNode field.kind (.inl rfl)) ?_
  rw [append_leaves_nil]
  generalize children ++ leaves (blanks.map Token.pair) = front at fits ⊢
  refine Moves.bind (moves_bump (List.cons_ne_nil _ _)) ?_
  refine Moves.bind (moves_nth 0) ?_
  refine Moves.bind (moves_parseValue (List.cons_ne_nil _ _)
    ((fits_cons field.kind parents front).append _)) ?_
  rw [List.append_assoc]
  refine Moves.bind moves_finishNode ?_
  exact moves_markError _ fits _

end Machine

end Flashcard.Query
