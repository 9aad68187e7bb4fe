import Flashcard.Query.Predicate

/-!
# Reading a predicate

A predicate is a boolean expression of SQL. `NOT` binds closer than `AND`,
`AND` closer than `OR`, and a fragment closer than all of them, whatever it
looks like inside. `0` and `1` are the truth values.

A predicate can be read in one way only: `run` goes through it once from left
to right, and whatever the grammar reads, `run` computes.

Results:
* `pieces?_symbols`: the words of a predicate are the pieces it was written
  from.
* `run_eq_of_reads`: what the grammar reads in a predicate is what `run`
  computes from it.
* `Evaluates.unique`: a predicate has at most one value.
-/

namespace Flashcard.Query.Reading

/-! ## Words -/

/-- A character of a predicate, or a fragment as a whole: the one for the filter
    `field`, or the one for free text. -/
inductive Symbol where
  | char (c : Char)
  | fragment (field : Option FilterField)
deriving DecidableEq, Repr

/-- The fragment for a filter, or the one for free text. -/
def fragmentFor (fragments : Fragments) : Option FilterField → Text
  | none => fragments.text
  | some field => fragments.ofField field

/-- Characters of a symbol. -/
def Symbol.text (fragments : Fragments) : Symbol → Text
  | char c => [c]
  | fragment field => fragmentFor fragments field

/-- The filter that a fragment is for, when the piece is a fragment. -/
def fragment? : Piece → Option (Option FilterField)
  | .textFragment => some none
  | .fieldFragment field => some (some field)
  | _ => none

/-- The words of a predicate, blanks between them left out. A keyword ends at a
    blank. -/
def pieces? : List Symbol → Option (List Piece)
  | [] => some []
  | .char ' ' :: rest => pieces? rest
  | .char '0' :: rest => (pieces? rest).map (.zero :: ·)
  | .char '1' :: rest => (pieces? rest).map (.one :: ·)
  | .char '(' :: rest => (pieces? rest).map (.parenOpen :: ·)
  | .char ')' :: rest => (pieces? rest).map (.parenClose :: ·)
  | .char 'N' :: .char 'O' :: .char 'T' :: .char ' ' :: rest => (pieces? rest).map (.not :: ·)
  | .char 'A' :: .char 'N' :: .char 'D' :: .char ' ' :: rest => (pieces? rest).map (.and :: ·)
  | .char 'O' :: .char 'R' :: .char ' ' :: rest => (pieces? rest).map (.or :: ·)
  | .fragment none :: rest => (pieces? rest).map (.textFragment :: ·)
  | .fragment (some field) :: rest => (pieces? rest).map (.fieldFragment field :: ·)
  | _ => none

/-- Symbols of a piece. -/
def symbols (piece : Piece) : List Symbol :=
  match fragment? piece with
  | some field => [.fragment field]
  | none => (piece.text .standard).map .char

theorem flatMap_symbols (fragments : Fragments) (piece : Piece) :
    (symbols piece).flatMap (·.text fragments) = piece.text fragments := by
  cases piece <;> simp [symbols, fragment?, Piece.text, Symbol.text, fragmentFor]

/-- The words of a predicate are the pieces it was written from. -/
theorem pieces?_symbols (pieces : List Piece) :
    pieces? (pieces.flatMap symbols) = some pieces := by
  induction pieces with
  | nil => rfl
  | cons piece rest ih =>
    rw [List.flatMap_cons]
    cases piece <;>
      simp [symbols, fragment?, Piece.text, pieces?, ih]

/-! ## Grammar -/

/-- Levels of an expression, the loosest first. -/
inductive Level where
  | disjunction
  | conjunction
  | negation
  | operand
deriving DecidableEq, Repr

/-- Pieces can be read as an expression of a level. The truth values go to the
    fragments one by one, and the last argument is the value of the
    expression. -/
inductive Reads : Level → List Piece → List Bool → Bool → Prop
  | zero : Reads .operand [.zero] [] false
  | one : Reads .operand [.one] [] true
  | fragment {piece : Piece} {field : Option FilterField} (h : fragment? piece = some field)
      (value : Bool) : Reads .operand [piece] [value] value
  | parens {pieces : List Piece} {truths : List Bool} {value : Bool} :
      Reads .disjunction pieces truths value →
      Reads .operand (.parenOpen :: (pieces ++ [.parenClose])) truths value
  | operand {pieces : List Piece} {truths : List Bool} {value : Bool} :
      Reads .operand pieces truths value → Reads .negation pieces truths value
  | not {pieces : List Piece} {truths : List Bool} {value : Bool} :
      Reads .negation pieces truths value → Reads .negation (.not :: pieces) truths (!value)
  | negation {pieces : List Piece} {truths : List Bool} {value : Bool} :
      Reads .negation pieces truths value → Reads .conjunction pieces truths value
  | and {left right : List Piece} {before after : List Bool} {a b : Bool} :
      Reads .conjunction left before a → Reads .negation right after b →
      Reads .conjunction (left ++ .and :: right) (before ++ after) (a && b)
  | conjunction {pieces : List Piece} {truths : List Bool} {value : Bool} :
      Reads .conjunction pieces truths value → Reads .disjunction pieces truths value
  | or {left right : List Piece} {before after : List Bool} {a b : Bool} :
      Reads .disjunction left before a → Reads .conjunction right after b →
      Reads .disjunction (left ++ .or :: right) (before ++ after) (a || b)

/-- A predicate, given as symbols, has a value when its fragments have these
    truth values, from left to right. -/
def Evaluates (predicate : List Symbol) (truths : List Bool) (value : Bool) : Prop :=
  ∃ pieces, pieces? predicate = some pieces ∧ Reads .disjunction pieces truths value

/-! ## One pass over a predicate -/

/-- What is known inside a pair of brackets: one of the conjunctions that are
    over holds, the operands of the current one hold so far, and the operand
    that comes next is to be negated. -/
structure Scope where
  any : Bool
  all : Bool
  negated : Bool

namespace Scope

/-- Nothing is read yet. -/
def start : Scope := ⟨false, true, false⟩

/-- The scope after an operand with this value. -/
def give (scope : Scope) (value : Bool) : Scope :=
  ⟨scope.any, scope.all && (value != scope.negated), false⟩

theorem give_negate (scope : Scope) (value : Bool) :
    { scope with negated := !scope.negated }.give value = scope.give (!value) := by
  obtain ⟨any, all, negated⟩ := scope
  cases value <;> cases negated <;> rfl

/-- Value of what is read. -/
def value (scope : Scope) : Bool := scope.any || scope.all

/-- The scope after `OR`. -/
def close (scope : Scope) : Scope := ⟨scope.value, true, false⟩

end Scope

/-- Goes through pieces from left to right; `outer` are the scopes around the
    current one, innermost first. -/
def run : List Piece → List Bool → (scope : Scope) → (outer : List Scope) → Bool
  | [], _, scope, _ => scope.value
  | .zero :: rest, truths, scope, outer => run rest truths (scope.give false) outer
  | .one :: rest, truths, scope, outer => run rest truths (scope.give true) outer
  | .textFragment :: rest, truth :: truths, scope, outer
  | .fieldFragment _ :: rest, truth :: truths, scope, outer =>
    run rest truths (scope.give truth) outer
  | .not :: rest, truths, scope, outer =>
    run rest truths { scope with negated := !scope.negated } outer
  | .and :: rest, truths, scope, outer => run rest truths scope outer
  | .or :: rest, truths, scope, outer => run rest truths scope.close outer
  | .parenOpen :: rest, truths, scope, outer => run rest truths .start (scope :: outer)
  | .parenClose :: rest, truths, scope, around :: outer =>
    run rest truths (around.give scope.value) outer
  | _, _, _, _ => false

/-- What reading pieces at a level does to `run`. A disjunction is read from the
    start of a scope and leaves a scope with its value; a conjunction follows
    no `NOT`. -/
def Level.Runs (level : Level) (pieces : List Piece) (truths : List Bool) (value : Bool) : Prop :=
  ∀ (rest : List Piece) (more : List Bool) (outer : List Scope),
    match level with
    | .disjunction => ∃ scope : Scope, scope.value = value ∧
        run (pieces ++ rest) (truths ++ more) .start outer = run rest more scope outer
    | .conjunction => ∀ any all, run (pieces ++ rest) (truths ++ more) ⟨any, all, false⟩ outer =
        run rest more ⟨any, all && value, false⟩ outer
    | .negation | .operand => ∀ scope, run (pieces ++ rest) (truths ++ more) scope outer =
        run rest more (scope.give value) outer

/-- Whatever the grammar reads, `run` computes. -/
theorem runs_of_reads {level : Level} {pieces : List Piece} {truths : List Bool} {value : Bool}
    (h : Reads level pieces truths value) : level.Runs pieces truths value := by
  induction h with
  | zero => exact fun _ _ _ _ => rfl
  | one => exact fun _ _ _ _ => rfl
  | @fragment piece field h value =>
    intro rest more outer scope
    cases piece <;> first | rfl | cases h
  | @parens pieces truths value _ ih =>
    intro rest more outer scope
    obtain ⟨inner, hv, hr⟩ := ih (.parenClose :: rest) more (scope :: outer)
    rw [List.cons_append, run, List.append_assoc, List.singleton_append, hr, run, hv]
  | operand _ ih => exact ih
  | @not pieces truths value _ ih =>
    intro rest more outer scope
    rw [List.cons_append, run, ih rest more outer, Scope.give_negate]
  | @negation pieces truths value _ ih =>
    intro rest more outer any all
    rw [ih rest more outer, Scope.give, Bool.bne_false]
  | @and left right before after a b _ _ ihl ihr =>
    intro rest more outer any all
    rw [List.append_assoc, List.append_assoc, ihl, List.cons_append, run, ihr, Scope.give,
      Bool.bne_false, Bool.and_assoc]
  | @conjunction pieces truths value _ ih =>
    intro rest more outer
    exact ⟨⟨false, true && value, false⟩, by simp [Scope.value], ih rest more outer false true⟩
  | @or left right before after a b _ _ ihl ihr =>
    intro rest more outer
    obtain ⟨scope, hv, hr⟩ := ihl (.or :: (right ++ rest)) (after ++ more) outer
    refine ⟨⟨a, true && b, false⟩, by simp [Scope.value], ?_⟩
    rw [List.append_assoc, List.append_assoc, List.cons_append, hr, run, Scope.close, hv, ihr]

/-- What the grammar reads in a predicate is what `run` computes from it. -/
theorem run_eq_of_reads {pieces : List Piece} {truths : List Bool} {value : Bool}
    (h : Reads .disjunction pieces truths value) : run pieces truths .start [] = value := by
  obtain ⟨scope, hv, hr⟩ := runs_of_reads h [] [] []
  rw [List.append_nil, List.append_nil] at hr
  rw [hr, run, hv]

/-- A predicate has at most one value. -/
theorem Evaluates.unique {predicate : List Symbol} {truths : List Bool} {a b : Bool}
    (ha : Evaluates predicate truths a) (hb : Evaluates predicate truths b) : a = b := by
  obtain ⟨pieces, hp, ha⟩ := ha
  obtain ⟨pieces', hp', hb⟩ := hb
  obtain rfl : pieces = pieces' := Option.some.inj (hp.symm.trans hp')
  rw [← run_eq_of_reads ha, run_eq_of_reads hb]

/-- The left operand of a conjunction may come before one that is read
    already. -/
theorem Reads.and_left {left right : List Piece} {before after : List Bool} {a b : Bool}
    (ha : Reads .negation left before a) (hb : Reads .conjunction right after b) :
    Reads .conjunction (left ++ .and :: right) (before ++ after) (a && b) := by
  generalize hl : Level.conjunction = level at hb
  induction hb with
  | negation hb => exact .and (.negation ha) hb
  | and _ hr ihl =>
    have := Reads.and (ihl hl) hr
    rwa [List.append_assoc, List.append_assoc, List.cons_append, Bool.and_assoc] at this
  | _ => cases hl

end Flashcard.Query.Reading
