import Flashcard.Syntax.Vocabulary

/-!
# Kinds of the search query language

Kinds of tokens come first, those of nodes after them; the order numbers them.
A string literal is recognised as a whole and then split into its quotes and
its content, so the two literal kinds never appear in a tree. Sets of kinds say
what may follow where.
-/

namespace Flashcard.Query

/-- Kind of a token or node of a query. -/
inductive Kind where
  | parenOpen
  | parenClose
  | minus
  | stringLiteral
  | unterminatedStringLiteral
  | doubleQuote
  | stringContent
  | word
  | orKeyword
  | tagMark
  | deckMark
  | templateMark
  | whitespace
  | garbage
  | error
  | program
  | simpleString
  | quotedString
  | negation
  | disjunction
  | group
  | tag
  | deck
  | template
deriving DecidableEq, Repr

namespace Kind

/-- All kinds in order. -/
def all : List Kind :=
  [parenOpen, parenClose, minus, stringLiteral, unterminatedStringLiteral, doubleQuote,
    stringContent, word, orKeyword, tagMark, deckMark, templateMark, whitespace, garbage, error,
    program, simpleString, quotedString, negation, disjunction, group, tag, deck, template]

/-- Number of a kind. -/
def number (kind : Kind) : Nat := all.idxOf kind

/-- Kind with a number. -/
def ofNumber? (n : Nat) : Option Kind := all[n]?

/-- Name of a kind. -/
def name : Kind → Text
  | parenOpen => "ParenOpen".toList
  | parenClose => "ParenClose".toList
  | minus => "Minus".toList
  | stringLiteral => "StringLiteral".toList
  | unterminatedStringLiteral => "UnterminatedStringLiteral".toList
  | doubleQuote => "DoubleQuote".toList
  | stringContent => "StrVal".toList
  | word => "Word".toList
  | orKeyword => "KwOr".toList
  | tagMark => "TagPrefix".toList
  | deckMark => "DeckPrefix".toList
  | templateMark => "TemplatePrefix".toList
  | whitespace => "Whitespace".toList
  | garbage => "Garbage".toList
  | error => "Error".toList
  | program => "Program".toList
  | simpleString => "SimpleString".toList
  | quotedString => "QuotedString".toList
  | negation => "Not".toList
  | disjunction => "Or".toList
  | group => "ParenthesizedExpression".toList
  | tag => "Tag".toList
  | deck => "Deck".toList
  | template => "Template".toList

/-- Kind with a name. -/
def ofName? (name : Text) : Option Kind := all.find? (·.name = name)

/-- Tokens between terms that carry no meaning. -/
def isTrivia (kind : Kind) : Bool := kind = whitespace

/-- Kinds that stand for something malformed. -/
def isError (kind : Kind) : Bool := kind = error || kind = garbage

/-- Highlight class of a kind. A negation stays plain, since its operand is
    highlighted on its own. -/
def highlight : Kind → HighlightClass
  | parenOpen | parenClose => .brace
  | minus | orKeyword | disjunction => .controlOperator
  | tagMark | deckMark | templateMark => .attributeName
  | tag | deck | template => .tagName
  | garbage | error => .invalid
  | stringLiteral | unterminatedStringLiteral | doubleQuote | stringContent | word | whitespace
  | program | simpleString | quotedString | negation | group => .text

end Kind

instance : Vocabulary Kind where
  name := Kind.name
  root := .program
  isErrorNode kind := kind = .error
  isTrivia := Kind.isTrivia
  highlight := Kind.highlight

/-! ## Sets of kinds -/

/-- A set of kinds. -/
structure KindSet where
  members : List Kind
deriving Repr

namespace KindSet

/-- Membership in a set. -/
def contains (set : KindSet) (kind : Kind) : Bool := set.members.contains kind

/-- Members of either set. -/
def union (a b : KindSet) : KindSet := ⟨a.members ++ b.members⟩

/-- Members in the order of the kinds, each once. -/
def toList (set : KindSet) : List Kind := Kind.all.filter set.contains

/-- A set in curly brackets, its members in order. -/
def display (set : KindSet) : Text :=
  '{' :: Text.join ", ".toList (set.toList.map Kind.name) ++ ['}']

end KindSet

/-- Marks that begin a filter. -/
def filterMarks : KindSet := ⟨[.tagMark, .deckMark, .templateMark]⟩

/-- Tokens that begin a term. -/
def termStarts : KindSet :=
  KindSet.union ⟨[.parenOpen, .minus, .doubleQuote, .word, .garbage]⟩ filterMarks

/-- Tokens that may follow `-` directly to make a negation. -/
def operandStarts : KindSet :=
  KindSet.union ⟨[.parenOpen, .minus, .doubleQuote, .word]⟩ filterMarks

/-- Tokens that may follow a filter mark directly. -/
def valueStarts : KindSet := ⟨[.word, .doubleQuote]⟩

end Flashcard.Query
