import Flashcard.Syntax.Vocabulary

/-!
# Kinds of the card template language

Kinds of tokens come first, those of nodes after them; the order numbers them.
Templates have no tokens without meaning: every character, spaces included,
belongs to its node.
-/

namespace Flashcard.Template

/-- Kind of a token or node of a template. -/
inductive Kind where
  | tagStart
  | closeTagStart
  | tagEnd
  /-- The end of a tag that stands for a field by itself. -/
  | selfCloseEnd
  | ifMark
  | unlessMark
  | colon
  | name
  | textContent
  /-- A single closing brace inside a tag. -/
  | garbage
  | error
  | document
  | text
  | element
  | openTag
  | selfClosingTag
  | closeTag
  | tagName
  | transformer
deriving DecidableEq, Repr

namespace Kind

/-- All kinds in order. -/
def all : List Kind :=
  [tagStart, closeTagStart, tagEnd, selfCloseEnd, ifMark, unlessMark, colon, name, textContent,
    garbage, error, document, text, element, openTag, selfClosingTag, closeTag, tagName,
    transformer]

/-- Number of a kind. -/
def number (kind : Kind) : Nat := all.idxOf kind

/-- Kind with a number. -/
def ofNumber? (n : Nat) : Option Kind := all[n]?

/-- How a kind is called. -/
def label : Kind → Text
  | tagStart => "StartTag".toList
  | closeTagStart => "StartCloseTag".toList
  | tagEnd => "EndTag".toList
  | selfCloseEnd => "SelfCloseEndTag".toList
  | ifMark => "If".toList
  | unlessMark => "Unless".toList
  | colon => "TransformerDelimiter".toList
  | name => "Name".toList
  | textContent => "TextContent".toList
  | garbage => "Garbage".toList
  | error => "Error".toList
  | document => "Document".toList
  | text => "Text".toList
  | element => "Element".toList
  | openTag => "OpenTag".toList
  | selfClosingTag => "SelfClosingTag".toList
  | closeTag => "CloseTag".toList
  | tagName => "TagName".toList
  | transformer => "Transformer".toList

/-- Kinds that stand for something malformed. -/
def isError (kind : Kind) : Bool := kind = error || kind = garbage

/-- Tokens that occur only inside a tag. -/
def isTagToken : Kind → Bool
  | tagEnd | selfCloseEnd | ifMark | unlessMark | colon | name | garbage => true
  | _ => false

/-- Highlight class of a kind. -/
def highlight : Kind → HighlightClass
  | tagStart | closeTagStart | tagEnd | selfCloseEnd => .brace
  | ifMark | unlessMark => .controlOperator
  | colon => .separator
  | tagName => .tagName
  | transformer => .attributeName
  | garbage | error => .invalid
  | name | textContent | document | text | element | openTag | selfClosingTag | closeTag => .text

end Kind

instance : Vocabulary Kind where
  name := Kind.label
  root := .document
  isErrorNode kind := kind = .error
  isTrivia _ := false
  highlight := Kind.highlight

end Flashcard.Template
