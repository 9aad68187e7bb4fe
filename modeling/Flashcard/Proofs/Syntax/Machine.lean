import Flashcard.Proofs.Syntax.Tiling
import Flashcard.Syntax.Vocabulary

/-!
# Parsers that build a tree step by step

A parser runs over ranges of a source and tells a builder, one step after the other,
where nodes begin and end. Every step has a condition under which it can be taken,
and a parser that takes a step anyway panics. The parsers of both languages are made
of the same steps; templates have no tokens to pass over.
-/

namespace Flashcard

/-! ## Panics -/

/-- What a parser can panic at. -/
inductive Panic where
  /-- It looked ahead too often without taking a token. -/
  | stuck
  /-- Another token comes next than was made sure of. -/
  | unexpected
  /-- A token is to be taken where none is left. -/
  | atEnd
  /-- A range is none of the source. -/
  | range
  /-- A token stands outside of the root. -/
  | outside
  /-- A node is finished that was not begun. -/
  | unopened
  /-- A node is begun where it cannot begin any more. -/
  | checkpoint
  /-- There is not exactly one finished node at the end. -/
  | unfinished
  /-- The root has the wrong kind. -/
  | root
  /-- A number is too large. -/
  | overflow
  /-- A loop goes on without taking a token, or nesting goes on beyond the limit. -/
  | endless
deriving DecidableEq, Repr

/-! ## Builders -/

/-- A tree that is being built. -/
structure Builder (κ : Type) where
  /-- The open nodes, innermost first, each with the number of trees in front of it. -/
  parents : List (κ × Nat)
  /-- The trees that are no part of a finished node. -/
  children : List (Tree κ)

namespace Builder

variable {κ : Type}

/-- A token goes into the innermost open node. -/
def token (kind : κ) (text : Text) (builder : Builder κ) : Except Panic (Builder κ) :=
  match builder.parents with
  | [] => .error .outside
  | _ :: _ => .ok { builder with children := builder.children ++ [.leaf kind text] }

/-- Begins a node. -/
def startNode (kind : κ) (builder : Builder κ) : Except Panic (Builder κ) :=
  .ok { builder with parents := (kind, builder.children.length) :: builder.parents }

/-- Begins a node where there were `checkpoint` trees. That is not before the innermost
    open node, and not behind what was built since. -/
def startNodeAt (checkpoint : Nat) (kind : κ) (builder : Builder κ) :
    Except Panic (Builder κ) :=
  if checkpoint ≤ builder.children.length ∧
      ∀ parent ∈ builder.parents.head?, parent.2 ≤ checkpoint then
    .ok { builder with parents := (kind, checkpoint) :: builder.parents }
  else .error .checkpoint

/-- Ends the innermost open node. -/
def finishNode (builder : Builder κ) : Except Panic (Builder κ) :=
  match builder.parents with
  | [] => .error .unopened
  | (kind, first) :: parents =>
    .ok ⟨parents, builder.children.take first ++ [.node kind (builder.children.drop first)]⟩

/-- The root, once it is finished. -/
def finish (builder : Builder κ) : Except Panic (Tree κ) :=
  match builder.parents, builder.children with
  | [], [.node kind children] => .ok (.node kind children)
  | _, _ => .error .unfinished

end Builder

/-! ## Machines -/

/-- The kinds of a language whose parser recovers from what breaks the grammar. -/
class Recovery (κ : Type) extends Vocabulary κ where
  /-- Kind of the nodes that hold what breaks the grammar. -/
  error : κ

/-- State of a parser. -/
structure Machine (κ : Type) where
  source : Text
  /-- The tokens that are left. -/
  ahead : List (κ × Span)
  /-- Tokens without meaning that were passed over and are in no node yet. -/
  trivia : List (κ × Span)
  builder : Builder κ
  /-- How deeply nested the parser is. -/
  depth : Nat
  limit : Nat
  /-- How often it may still look ahead before it takes a token. -/
  fuel : Nat

/-- Something that a parser does. -/
abbrev Parsing (κ α : Type) := StateT (Machine κ) (Except Panic) α

namespace Parsing

/-- How often a parser may look ahead without taking a token. -/
def fullTank : Nat := 256

/-- Numbers below this one fit, those with at most 32 binary digits. -/
def numberBound : Nat := 4294967296

variable {κ α σ : Type}

/-- A step of the builder. -/
def build (f : Builder κ → Except Panic (Builder κ)) : Parsing κ Unit := fun m =>
  (f m.builder).map fun builder => ((), { m with builder := builder })

/-- Text of a range. -/
def textOf (span : Span) : Parsing κ Text := fun m =>
  match m.source.slice? span.start span.stop with
  | some text => .ok (text, m)
  | none => .error .range

/-- Text of the token after `lookahead` others, if there is one. -/
def nthText (lookahead : Nat) : Parsing κ (Option Text) := fun m =>
  match m.ahead[lookahead]? with
  | some token => (do
    let text ← textOf token.2
    return some text) m
  | none => .ok (none, m)

/-- All tokens were taken. -/
def eof : Parsing κ Bool := fun m => .ok (m.ahead.isEmpty, m)

/-- The parser may look ahead as often as in the beginning. -/
def resetFuel : Parsing κ Unit := fun m => .ok ((), { m with fuel := fullTank })

/-- Counts how often the parser looks ahead. It may not even come down to zero. -/
def ensureProgress : Parsing κ Unit := fun m =>
  if m.fuel ≤ 1 then .error .stuck else .ok ((), { m with fuel := m.fuel - 1 })

/-- Puts a token into the tree. -/
def emit (kind : κ) (span : Span) : Parsing κ Unit := do
  let text ← textOf span
  build (Builder.token kind text)

/-- Puts tokens into the tree. -/
def emitAll : List (κ × Span) → Parsing κ Unit
  | [] => pure ()
  | (kind, span) :: rest => do
    emit kind span
    emitAll rest

/-- Puts what was passed over into the tree. -/
def drainTrivia : Parsing κ Unit := fun m =>
  emitAll m.trivia { m with trivia := [] }

/-- Begins a node behind what was passed over. -/
def startNode (kind : κ) : Parsing κ Unit := do
  drainTrivia
  build (Builder.startNode kind)

/-- Ends the innermost open node. -/
def finishNode : Parsing κ Unit := build Builder.finishNode

/-- The place behind what was passed over. -/
def checkpoint : Parsing κ Nat := do
  drainTrivia
  fun m => .ok (m.builder.children.length, m)

/-- Goes past the next token. -/
def advance : Parsing κ Unit := fun m => .ok ((), { m with ahead := m.ahead.tail })

/-- Takes a token, with another kind in place of its own. -/
def bumpAs (kind : κ → κ) : Parsing κ Unit := fun m =>
  match m.ahead with
  | [] => .error .atEnd
  | (own, span) :: _ => (do
    resetFuel
    drainTrivia
    emit (kind own) span
    advance) m

/-- Goes one level deeper, unless that is too deep. -/
def enterRecursion : Parsing κ Bool := fun m =>
  if m.limit ≤ m.depth then .ok (false, m)
  else if m.depth + 1 < numberBound then
    .ok (true, { m with depth := m.depth + 1, fuel := fullTank })
  else .error .overflow

/-- Goes back up. -/
def exitRecursion : Parsing κ Unit := fun m =>
  .ok ((), { m with depth := m.depth - 1, fuel := fullTank })

/-- Does something if a condition holds. -/
def when (condition : Bool) (act : Parsing κ Unit) : Parsing κ Unit :=
  if condition then act else pure ()

/-- Goes around until `body` comes to a result. Every round must take a token. -/
def loop (body : σ → Parsing κ (σ ⊕ α)) (x : σ) : Parsing κ α := fun m =>
  match body x m with
  | .error panic => .error panic
  | .ok (.inr result, m') => .ok (result, m')
  | .ok (.inl next, m') =>
    if m'.ahead.length < m.ahead.length then loop body next m' else .error .endless
termination_by m => m.ahead.length

variable [Recovery κ]

/-- Kind of the token after `lookahead` others. Behind the end comes the kind of
    errors. -/
def nth (lookahead : Nat) : Parsing κ κ := do
  ensureProgress
  fun m => .ok ((m.ahead[lookahead]?.map Prod.fst).getD Recovery.error, m)

/-- Passes over tokens without meaning. -/
def skipTrivia : Parsing κ Unit := fun m =>
  .ok ((), { m with
    trivia := m.trivia ++ m.ahead.takeWhile (Vocabulary.isTrivia ·.1)
    ahead := m.ahead.dropWhile (Vocabulary.isTrivia ·.1) })

/-- Kind of the next token with a meaning. -/
def current : Parsing κ κ := do
  skipTrivia
  nth 0

/-- Makes sure of the kind of the next token. -/
def assertCurrent [DecidableEq κ] (expected : κ) : Parsing κ Unit := do
  let kind ← current
  if kind = expected then pure () else throw .unexpected

/-- Puts all that was built since a checkpoint into an error. -/
def wrapError (checkpoint : Nat) : Parsing κ Unit := do
  build (Builder.startNodeAt checkpoint Recovery.error)
  finishNode

/-- The next token becomes an error; `bump` takes a token. -/
def bumpAsError (bump : Parsing κ Unit) : Parsing κ Unit := do
  if ← eof then pure ()
  else
    startNode Recovery.error
    bump
    finishNode

/-- Takes the rest of the tokens. -/
def bumpRest (bump : Parsing κ Unit) : Parsing κ Unit :=
  loop (fun (_ : Unit) => do
    if ← eof then return .inr ()
    else
      bump
      return .inl ()) ()

/-- The rest of the tokens becomes one error. -/
def bumpRestAsError (bump : Parsing κ Unit) : Parsing κ Unit := do
  skipTrivia
  if ← eof then pure ()
  else
    startNode Recovery.error
    bumpRest bump
    finishNode

/-! ## Running a parser -/

/-- A range whose ends are numbers that fit, cut off where they do not. -/
def toRange (span : Span) : Except Panic Span :=
  match Span.between? (span.start % numberBound) (span.stop % numberBound) with
  | some range => .ok range
  | none => .error .range

/-- Ranges of tokens in a row. -/
def ranges (tokens : List (κ × Text)) : Except Panic (List (κ × Span)) :=
  (Tree.place 0 tokens).mapM fun lexeme => do
    let range ← toRange lexeme.span
    return (lexeme.kind, range)

/-- Parses a source that consists of these tokens. -/
def run [DecidableEq κ] (program : Parsing κ Unit) (limit : Nat) (source : Text)
    (tokens : List (κ × Text)) : Except Panic (Tree κ) := do
  let ahead ← ranges tokens
  let ((), machine) ← (do
    program
    drainTrivia) ⟨source, ahead, [], ⟨[], []⟩, 0, limit, fullTank⟩
  let tree ← machine.builder.finish
  if tree.kind = Vocabulary.root then return tree else throw .root

end Parsing

end Flashcard
