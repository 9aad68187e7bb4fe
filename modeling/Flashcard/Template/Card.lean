import Flashcard.Diagnostic.Basic
import Flashcard.Template.Cloze
import Flashcard.Template.Document
import Flashcard.Template.Fields
import Flashcard.Template.Html

/-!
# Rendering a card

A template and the fields of a note make one side of a card. Rendering never
fails. Problems are reported in the order of the template, also those inside
blocks that are not shown, so that checking a template is rendering it with the
page thrown away. Only a field without a deletion for the card is reported on
rendering alone, since that depends on the card.

Results:
* `Content.size_eq`: contents begin where the tokens before them end.
-/

namespace Flashcard.Template

/-- The card that is rendered, and what surrounds it. -/
structure Card where
  side : Side
  /-- Number of the card among those of its note, from 1. -/
  ordinal : Nat
  /-- The rendered question side, to be shown on the answer side. -/
  frontSide : Option Text
  /-- Style sheet that is passed on with the page. -/
  css : Option Text
deriving DecidableEq, Repr

/-- The question side of the first card. -/
def Card.standard : Card := ⟨.question, 1, none, none⟩

/-! ## Transformers -/

/-- What a field value can go through. -/
inductive Transformer where
  /-- Shows or hides cloze deletions. -/
  | cloze
  /-- Asks for the answer to be typed in. -/
  | typeIn
  /-- Removes tags. -/
  | text
  /-- Hides the value until it is asked for. -/
  | hint
deriving DecidableEq, Repr

namespace Transformer

/-- Transformer of a name. -/
def ofName? (name : Text) : Option Transformer :=
  if name = "cloze".toList then some cloze
  else if name = "type".toList then some typeIn
  else if name = "text".toList then some text
  else if name = "hint".toList then some hint
  else none

/-- Box in which the value of a field is typed. -/
def inputBox (field : Text) : Text :=
  "<input type=\"text\" class=\"type-answer\" data-field=\"".toList ++ Html.escape field ++
    "\">".toList

/-- Applies a transformer to the value of a field; `transformed` tells that
    another one was applied before. A bare value is itself the answer to be
    typed, so a question shows the box alone. -/
def apply (transformer : Transformer) (card : Card) (field : Text) (transformed : Bool)
    (value : Text) : Text :=
  match transformer with
  | cloze => Cloze.render value card.ordinal card.side
  | typeIn =>
    match card.side with
    | .question => (if transformed then value else []) ++ inputBox field
    | .answer => "<div class=\"type-answer\">".toList ++ value ++ "</div>".toList
  | text => Html.stripTags value
  | hint =>
    if value.all Unicode.isBlank then []
    else
      "<details class=\"hint\"><summary>Hint</summary>".toList ++ value ++ "</details>".toList

/-- Applies transformers one after the other, the last one first. -/
def applyAll (transformers : List Transformer) (card : Card) (field value : Text) : Text :=
  (transformers.foldr
    (fun transformer (value, transformed) =>
      (transformer.apply card field transformed value, true))
    (value, false)).1

end Transformer

/-! ## Fields in view -/

/-- Name under which the question side is shown. -/
def frontSideName : Text := "FrontSide".toList

/-- Value of a field; the question side can be had like a raw field. -/
def lookup (fields : Fields) (card : Card) (name : Text) : Option FieldValue :=
  if name = frontSideName then some ⟨card.frontSide.getD [], true⟩ else fields.get? name

/-- The value has deletions, but none for the card. -/
def missesOrdinal (card : Card) (value : Text) : Bool :=
  Cloze.ordinals value ≠ [] && !(Cloze.ordinals value).contains card.ordinal

/-! ## Places in a tag -/

/-- Byte after transformers that begin at `start`, and the colons after them. -/
def afterTransformers (start : Nat) (transformers : List Text) : Nat :=
  start + (Token.textAll (transformerTokens transformers)).size

/-- Transformers that begin at `start`, each with its place. -/
def placeTransformers (start : Nat) : List Text → List (Text × Span)
  | [] => []
  | name :: rest => (name, ⟨start, name.size⟩) :: placeTransformers (start + name.size + 1) rest

/-- Place of the name in a tag whose chain begins at `start`. -/
def Reference.nameSpan (reference : Reference) (start : Nat) : Span :=
  ⟨afterTransformers start reference.transformers, reference.name.size⟩

/-- Place of the open tag of a block that begins at `start`. -/
def Reference.openTagSpan (reference : Reference) (start : Nat) : Span :=
  ⟨start, (Token.textAll reference.tokens).size + 5⟩

namespace Content

mutual

/-- Number of bytes of a content. -/
def size : Content → Nat
  | plain text => text.size
  | field reference => (Token.textAll reference.tokens).size + 4
  | block _ reference contents close =>
    (Token.textAll reference.tokens).size + 5 + sizeAll contents +
      (Token.textAll (closeTokens close)).size
  | malformed part => (Token.textAll part.tokens).size

/-- Number of bytes of contents in a row. -/
def sizeAll : List Content → Nat
  | [] => 0
  | content :: rest => size content + sizeAll rest

end

theorem size_tagStart : Token.tagStart.text.size = 2 := rfl

theorem size_tagEnd : Token.tagEnd.text.size = 2 := rfl

theorem size_conditionToken (condition : Condition) : condition.token.text.size = 1 := by
  cases condition <;> rfl

mutual

/-- A content has as many bytes as its tokens. -/
theorem size_eq : (content : Content) → content.size = (Token.textAll content.tokens).size
  | plain text => by simp [size, tokens, Token.text]
  | field reference => by
    simp only [size, tokens, Token.textAll_cons, Token.textAll_append, Text.size_append,
      Token.textAll_nil, Text.size_nil, size_tagStart, size_tagEnd]
    omega
  | block condition reference contents close => by
    have h := sizeAll_eq contents
    simp only [size, tokens, Token.textAll_cons, Token.textAll_append, Text.size_append,
      Token.textAll_nil, Text.size_nil, size_tagStart, size_tagEnd, size_conditionToken, h,
      List.cons_append]
    omega
  | malformed part => rfl

theorem sizeAll_eq : (contents : List Content) →
    sizeAll contents = (Token.textAll (tokensAll contents)).size
  | [] => rfl
  | content :: rest => by
    have h := size_eq content
    have hr := sizeAll_eq rest
    simp [sizeAll, tokensAll, h, hr]

end

end Content

/-- Contents in a row, each with the byte where it begins. -/
def Content.placeAll (start : Nat) : List Content → List (Nat × Content)
  | [] => []
  | content :: rest => (start, content) :: placeAll (start + content.size) rest

/-! ## Rendering -/

/-- A part of a page, and the problems met on it. -/
structure Output where
  body : Text
  diagnostics : Diagnostics
deriving DecidableEq, Repr

namespace Output

/-- No part of a page, and no problem. -/
def empty : Output := ⟨[], []⟩

/-- One output after the other. -/
def append (a b : Output) : Output := ⟨a.body ++ b.body, a.diagnostics ++ b.diagnostics⟩

instance : Append Output := ⟨append⟩

end Output

/-- Problems of transformers that do not exist. -/
def unknownTransformers (start : Nat) (transformers : List Text) : Diagnostics :=
  (placeTransformers start transformers).filterMap fun (name, span) =>
    if (Transformer.ofName? (Unicode.trim name)).isSome then none
    else some (Diagnostic.report .unknownTransformer span (Unicode.trim name))

/-- The transformers of these names, if all of them exist. -/
def resolveTransformers (transformers : List Text) : Option (List Transformer) :=
  transformers.mapM fun name => Transformer.ofName? (Unicode.trim name)

/-- What a shown field reference adds to the page. An unknown field shows the
    reference itself, and an unknown transformer hides it. -/
def fieldBody (fields : Fields) (card : Card) (reference : Reference) : Text :=
  match resolveTransformers reference.transformers,
    lookup fields card (Unicode.trim reference.name) with
  | none, _ => []
  | some _, none => Token.textAll (Content.field reference).tokens
  | some transformers, some value =>
    Transformer.applyAll transformers card (Unicode.trim reference.name)
      (if value.raw then value.text else Html.escape value.text)

/-- Problems of a field reference that are seen without rendering it. -/
def fieldProblems (fields : Fields) (card : Card) (start : Nat) (reference : Reference) :
    Diagnostics :=
  unknownTransformers (start + 2) reference.transformers ++
    (match lookup fields card (Unicode.trim reference.name) with
    | some _ => []
    | none =>
      [Diagnostic.report .unknownField (reference.nameSpan (start + 2))
        (Unicode.trim reference.name)])

/-- The card is not among those that the deletions of a shown field make. -/
def missingOrdinal (fields : Fields) (card : Card) (start : Nat) (reference : Reference) :
    Diagnostics :=
  match resolveTransformers reference.transformers,
    lookup fields card (Unicode.trim reference.name) with
  | some transformers, some value =>
    if transformers.contains .cloze && missesOrdinal card value.text then
      [Diagnostic.report .missingClozeOrdinal (reference.nameSpan (start + 2))
        (Unicode.trim reference.name)]
    else []
  | _, _ => []

/-- Output of a field reference. -/
def renderField (fields : Fields) (card : Card) (visible : Bool) (start : Nat)
    (reference : Reference) : Output :=
  let problems := fieldProblems fields card start reference
  if visible then
    ⟨fieldBody fields card reference, problems ++ missingOrdinal fields card start reference⟩
  else ⟨[], problems⟩

/-- The field of a block holds something other than blanks. -/
def isFilled (fields : Fields) (card : Card) (reference : Reference) : Bool :=
  (lookup fields card (Unicode.trim reference.name)).any (!·.isEmpty)

/-- The contents of a block are shown. Transformers have no place in its tag
    and hide it. -/
def Condition.holds (condition : Condition) (fields : Fields) (card : Card)
    (reference : Reference) : Bool :=
  reference.transformers.isEmpty &&
    match condition with
    | ifFilled => isFilled fields card reference
    | unlessFilled => !isFilled fields card reference

/-- Problems of the open tag of a block. -/
def blockProblems (fields : Fields) (card : Card) (start : Nat) (reference : Reference)
    (closed : Bool) : Diagnostics :=
  (if reference.transformers.isEmpty then []
  else [Diagnostic.report .transformersOnConditional (reference.openTagSpan start) none]) ++
  (match lookup fields card (Unicode.trim reference.name) with
  | some _ => []
  | none =>
    [Diagnostic.report .unknownConditionalField (reference.nameSpan (start + 3))
      (Unicode.trim reference.name)]) ++
  (if closed then []
  else [Diagnostic.report .unclosedConditional (reference.openTagSpan start)
    (Unicode.trim reference.name)])

mutual

/-- Output of a content that begins at the byte `start`. -/
def render (fields : Fields) (card : Card) (visible : Bool) (start : Nat) : Content → Output
  | .plain text => ⟨if visible then text else [], []⟩
  | .field reference => renderField fields card visible start reference
  | .block condition reference contents close =>
    ⟨[], blockProblems fields card start reference close.isSome⟩ ++
      renderAll fields card (visible && condition.holds fields card reference)
        (reference.openTagSpan start).stop contents
  | .malformed part =>
    ⟨[], [Diagnostic.report .syntaxError ⟨start, (Token.textAll part.tokens).size⟩ none]⟩

/-- Output of contents in a row. -/
def renderAll (fields : Fields) (card : Card) (visible : Bool) (start : Nat) :
    List Content → Output
  | [] => .empty
  | content :: rest =>
    render fields card visible start content ++
      renderAll fields card visible (start + content.size) rest

end

/-- A rendered side of a card. -/
structure Page where
  body : Text
  css : Option Text
  /-- The problems of the template, in its order. -/
  diagnostics : Diagnostics
deriving DecidableEq, Repr

/-- Renders a card from a template and the fields of a note. -/
def Document.compile (document : Document) (fields : Fields) (card : Card) : Page :=
  let output := renderAll fields card true 0 document.contents
  ⟨output.body, card.css, output.diagnostics⟩

/-- Problems of a template with the fields of a note, whatever the card. -/
def Document.lint (document : Document) (fields : Fields) : Diagnostics :=
  (renderAll fields .standard false 0 document.contents).diagnostics

end Flashcard.Template
