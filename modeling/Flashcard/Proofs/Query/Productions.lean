import Flashcard.Proofs.Query.Lexical
import Flashcard.Proofs.Syntax.Machine

/-!
# The parser of queries, step by step

Each production is a row of steps that take tokens and tell the builder where nodes
begin and end. What breaks the grammar is put into errors: a token that fits nowhere,
a string or a group that is not closed, an empty group, a filter mark without a value,
and all that is left where terms are nested too deeply.
-/

namespace Flashcard.Query

open Parsing

instance : Recovery Kind where
  error := .error

namespace Machine

/-! ## Productions -/

/-- Takes the next token. -/
def bump : Parsing Kind Unit := bumpAs id

/-- Kind of the token after `lookahead` others, blanks aside. -/
def peekNth (lookahead : Nat) : Parsing Kind (Option Kind) := do
  skipTrivia
  fun m => .ok (((m.ahead.map Prod.fst).filter (!·.isTrivia))[lookahead]?, m)

/-- `OR` is only an operator with a term on each side. -/
def parseOr (hasLeft : Bool) : Parsing Kind Unit := do
  assertCurrent .orKeyword
  let next ← peekNth 1
  if hasLeft && next.any termStarts.contains then
    startNode .disjunction
    bump
    finishNode
  else bumpAsError bump

/-- The next node of a row, after `count` others, where a token of this kind comes
    next. A closing parenthesis ends the row of a group. -/
def parseNode (parseTerm : Parsing Kind Unit) (inGroup : Bool) (count : Nat) (hasLeft : Bool) :
    Kind → Parsing Kind ((Nat × Bool) ⊕ Nat)
  | .parenClose => do
    if inGroup then return .inr count
    else
      bumpAsError bump
      return .inl (count + 1, true)
  | .orKeyword => do
    parseOr hasLeft
    return .inl (count + 1, false)
  | _ => do
    parseTerm
    return .inl (count + 1, true)

/-- The next node of a row, unless the row ends. -/
def parseNext (parseTerm : Parsing Kind Unit) (inGroup : Bool) :
    Nat × Bool → Parsing Kind ((Nat × Bool) ⊕ Nat) := fun (count, hasLeft) => do
  let kind ← current
  if ← eof then return .inr count
  else parseNode parseTerm inGroup count hasLeft kind

/-- A row of terms and operators. Comes to how many nodes there are. -/
def parseTerms (parseTerm : Parsing Kind Unit) (inGroup : Bool) : Parsing Kind Nat :=
  loop (parseNext parseTerm inGroup) (0, false)

/-- A string, unless its closing quote is missing. -/
def parseQuoted : Parsing Kind Unit := do
  let start ← checkpoint
  startNode .quotedString
  bump
  let content ← nth 0
  when (content = .stringContent) bump
  let closing ← nth 0
  when (closing = .doubleQuote) bump
  finishNode
  when (closing ≠ .doubleQuote) (wrapError start)

def parseSimple : Parsing Kind Unit := do
  startNode .simpleString
  bump
  finishNode

/-- The value that a filter mark is followed by. -/
def parseValue : Kind → Parsing Kind Unit
  | .word => parseSimple
  | .doubleQuote => parseQuoted
  | _ => pure ()

/-- A filter mark and the value that touches it. -/
def parsePrefixed (kind : Kind) : Parsing Kind Unit := do
  let start ← checkpoint
  startNode kind
  bump
  let value ← nth 0
  parseValue value
  finishNode
  when (!valueStarts.contains value) (wrapError start)

/-- `-` and the term that touches it. -/
def parseNot (parseTerm : Parsing Kind Unit) : Parsing Kind Unit := do
  assertCurrent .minus
  let operand ← nth 1
  if operandStarts.contains operand then
    startNode .negation
    bump
    parseTerm
    finishNode
  else bumpAsError bump

/-- A closing parenthesis comes next. -/
def atClosing : Parsing Kind Bool := do
  if ← eof then return false
  else
    let kind ← current
    return kind = .parenClose

/-- A row in parentheses, unless it is empty or not closed. -/
def parseGroup (parseTerm : Parsing Kind Unit) : Parsing Kind Unit := do
  let start ← checkpoint
  startNode .group
  bump
  let count ← parseTerms parseTerm true
  let closed ← atClosing
  when closed bump
  finishNode
  when (!closed || count = 0) (wrapError start)

/-- A term that begins with a token of this kind. -/
def parseTermOf (parseTerm : Parsing Kind Unit) : Kind → Parsing Kind Unit
  | .minus => parseNot parseTerm
  | .parenOpen => parseGroup parseTerm
  | .doubleQuote => parseQuoted
  | .word => parseSimple
  | .tagMark => parsePrefixed .tag
  | .deckMark => parsePrefixed .deck
  | .templateMark => parsePrefixed .template
  | _ => bumpAsError bump

/-- A term. It may be nested in others as long as there are frames for it. -/
def parseTerm : (frames : Nat) → Parsing Kind Unit
  | 0 => throw .endless
  | frames + 1 => do
    if ← enterRecursion then
      let kind ← current
      parseTermOf (parseTerm frames) kind
      exitRecursion
    else bumpRestAsError bump

/-- A whole query. One frame more than the limit is enough. -/
def parseProgram (limit : Nat) : Parsing Kind Unit := do
  startNode .program
  let _ ← parseTerms (parseTerm (limit + 1)) false
  skipTrivia
  drainTrivia
  finishNode

/-- The parser of queries. -/
def runParser (limit : Nat) (source : Text) : Except Panic (Tree Kind) :=
  run (parseProgram limit) limit source ((tokenize source).map Token.pair)

end Machine

end Flashcard.Query
