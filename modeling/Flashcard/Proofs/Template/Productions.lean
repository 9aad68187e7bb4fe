import Flashcard.Proofs.Template.Lexical
import Flashcard.Proofs.Syntax.Machine
import Flashcard.Unicode.Blank

/-!
# The parser of templates, step by step

Each production is a row of steps that take tokens and tell the builder where nodes
begin and end. What breaks the grammar is put into errors: a token that fits nowhere,
a tag that is not well formed, a close tag that closes nothing, and all that is left
where blocks are nested too deeply.
-/

namespace Flashcard.Template

open Parsing

instance : Recovery Kind where
  error := .error

namespace Machine

/-- Takes the next token. -/
def bump : Parsing Kind Unit := do
  let kind ← current
  bumpAs fun _ => kind

/-! ## Tags -/

/-- The next name of a chain. A colon behind it makes it a transformer; otherwise the
    chain ends with it. -/
def parseLink : Parsing Kind (Unit ⊕ Option Text) := do
  let kind ← current
  if kind = .name then
    let next ← nth 1
    if next = .colon then
      startNode .transformer
      bump
      finishNode
      bump
      return .inl ()
    else
      let name ← nthText 0
      startNode .tagName
      bump
      finishNode
      return .inr name
  else return .inr none

/-- Names with colons between them. Comes to the last name, if the chain ends with one. -/
def parseChain : Parsing Kind (Option Text) := loop (fun (_ : Unit) => parseLink) ()

/-- The next token, if it still belongs to a broken tag. -/
def absorbToken : Parsing Kind (Unit ⊕ Unit) := do
  if ← eof then return .inr ()
  else
    let next ← current
    if next.isTagToken then
      let kind ← current
      bump
      if kind = .tagEnd then return .inr () else return .inl ()
    else return .inr ()

/-- The rest of a broken tag, through its end if it has one. -/
def absorbBrokenTag : Parsing Kind Unit := loop (fun (_ : Unit) => absorbToken) ()

/-- The end of a tag comes next, behind the name that its chain ends with. -/
def atTagEnd (name : Option Text) : Parsing Kind Bool := do
  if name.isSome then
    let kind ← current
    return kind = .tagEnd
  else return false

/-- What follows the beginning of a tag; `takeEnd` takes its end. Comes to the name if
    the tag is well formed. -/
def parseTag (takeEnd : Parsing Kind Unit) : Parsing Kind (Option Text) := do
  let name ← parseChain
  let valid ← atTagEnd name
  if valid then
    takeEnd
    return name
  else
    absorbBrokenTag
    return none

/-- A name and then the end of a tag come next. -/
def atNameAndEnd : Parsing Kind Bool := do
  let kind ← current
  if kind = .name then
    let next ← nth 1
    return next = .tagEnd
  else return false

/-- The name and the end of a close tag. -/
def parseCloseName : Parsing Kind Unit := do
  if ← atNameAndEnd then
    startNode .tagName
    bump
    finishNode
    bump
  else absorbBrokenTag

/-- A close tag. -/
def parseCloseTag : Parsing Kind Unit := do
  assertCurrent .closeTagStart
  startNode .closeTag
  bump
  parseCloseName
  finishNode

/-- Name in the close tag that comes next, if that is well formed. -/
def closeTagName : Parsing Kind (Option Text) := do
  let first ← nth 1
  if first = .name then
    let second ← nth 2
    if second = .tagEnd then
      let text ← nthText 1
      return text.map Unicode.trim
    else return none
  else return none

/-- The close tag that comes next closes the block around it. -/
def closesEnclosing : Option Text → Parsing Kind Bool
  | none => return false
  | some name => do
    let text ← closeTagName
    return text = some name

/-! ## Contents -/

/-- The tag of a field. -/
def parseField : Parsing Kind Unit := do
  let start ← checkpoint
  startNode .element
  startNode .selfClosingTag
  bump
  let name ← parseTag (bumpAs fun _ => .selfCloseEnd)
  finishNode
  finishNode
  when name.isNone (wrapError start)

/-- What follows the open tag of a block with this name. -/
def parseBody (parseContents : Option Text → Parsing Kind Unit) (name : Text) :
    Parsing Kind Unit := do
  if ← enterRecursion then
    parseContents (some (Unicode.trim name))
    exitRecursion
    let kind ← current
    when (kind = .closeTagStart) parseCloseTag
    finishNode
  else
    bumpRestAsError bump
    finishNode

/-- A block. -/
def parseBlock (parseContents : Option Text → Parsing Kind Unit) : Parsing Kind Unit := do
  let start ← checkpoint
  startNode .element
  startNode .openTag
  bump
  bump
  let name ← parseTag bump
  finishNode
  match name with
  | some name => parseBody parseContents name
  | none =>
    finishNode
    wrapError start

/-- A close tag, unless it closes the block around it. That ends its contents. -/
def parseStrayClose (enclosing : Option Text) : Parsing Kind (Unit ⊕ Unit) := do
  if ← closesEnclosing enclosing then return .inr ()
  else
    let start ← checkpoint
    parseCloseTag
    wrapError start
    return .inl ()

/-- A content that begins with a token of this kind. -/
def parseContentOf (parseElement : Parsing Kind Unit) (enclosing : Option Text) :
    Kind → Parsing Kind (Unit ⊕ Unit)
  | .textContent => do
    startNode .text
    bump
    finishNode
    return .inl ()
  | .tagStart => do
    parseElement
    return .inl ()
  | .closeTagStart => parseStrayClose enclosing
  | _ => do
    bumpAsError bump
    return .inl ()

/-- The next content, unless the contents end. -/
def parseContent (parseElement : Parsing Kind Unit) (enclosing : Option Text) :
    Parsing Kind (Unit ⊕ Unit) := do
  if ← eof then return .inr ()
  else
    let kind ← current
    parseContentOf parseElement enclosing kind

/-- Contents up to the end, or to the close tag of the block around them. -/
def parseContents (parseElement : Parsing Kind Unit) (enclosing : Option Text) :
    Parsing Kind Unit :=
  loop (fun (_ : Unit) => parseContent parseElement enclosing) ()

/-- What a tag stands for. It may be nested in blocks as long as there are frames for
    it. -/
def parseElement : (frames : Nat) → Parsing Kind Unit
  | 0 => throw .endless
  | frames + 1 => do
    assertCurrent .tagStart
    let mark ← nth 1
    if mark = .ifMark ∨ mark = .unlessMark then parseBlock (parseContents (parseElement frames))
    else parseField

/-- A whole template. One frame more than the limit is enough. -/
def parseDocument (limit : Nat) : Parsing Kind Unit := do
  startNode .document
  parseContents (parseElement (limit + 1)) none
  finishNode

/-- The parser of templates. -/
def runParser (limit : Nat) (source : Text) : Except Panic (Tree Kind) :=
  run (parseDocument limit) limit source ((tokenize source).map Token.pair)

end Machine

end Flashcard.Template
