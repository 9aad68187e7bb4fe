import Flashcard.Template.Kind

/-!
# Tokens of a template

Outside tags a template is text, up to `\x7b\x7b`, which opens a tag. Inside a tag there
are names and punctuation, up to `\x7d\x7d`, which ends it. A line break or an opening
brace cannot stand inside a tag: there the tag breaks off, and text goes on.

Results:
* `textAll_tokenize`: the tokens make up the template.
-/

namespace Flashcard.Template

/-- Token of a template. -/
inductive Token where
  /-- Two opening braces. -/
  | tagStart
  /-- Two opening braces and a slash. -/
  | closeTagStart
  /-- Two closing braces. -/
  | tagEnd
  | ifMark
  | unlessMark
  | colon
  /-- Name of a field or a transformer, spaces around it included. -/
  | name (text : Text)
  /-- Text outside tags. -/
  | plain (text : Text)
  /-- A single closing brace inside a tag. -/
  | brace
deriving DecidableEq, Repr

namespace Token

/-- Characters of a token. -/
def text : Token → Text
  | tagStart => ['{', '{']
  | closeTagStart => ['{', '{', '/']
  | tagEnd => ['}', '}']
  | ifMark => ['#']
  | unlessMark => ['^']
  | colon => [':']
  | name text => text
  | plain text => text
  | brace => ['}']

/-- Kind of a token in a syntax tree. -/
def kind : Token → Kind
  | tagStart => .tagStart
  | closeTagStart => .closeTagStart
  | tagEnd => .tagEnd
  | ifMark => .ifMark
  | unlessMark => .unlessMark
  | colon => .colon
  | name _ => .name
  | plain _ => .textContent
  | brace => .garbage

/-- A token as a leaf of a syntax tree. -/
def leaf (token : Token) : Tree Kind := .leaf token.kind token.text

/-- The token can only stand inside a tag. -/
def isTagToken (token : Token) : Bool := token.kind.isTagToken

/-- Characters of tokens in a row. -/
def textAll (tokens : List Token) : Text := tokens.flatMap text

@[simp] theorem textAll_nil : textAll [] = [] := rfl

@[simp] theorem textAll_cons (token : Token) (tokens : List Token) :
    textAll (token :: tokens) = token.text ++ textAll tokens := rfl

@[simp] theorem textAll_append (a b : List Token) :
    textAll (a ++ b) = textAll a ++ textAll b := by
  simp [textAll]

end Token

/-! ## Cutting a template into tokens -/

/-- The character can stand in a name. -/
def isNameChar (c : Char) : Bool :=
  c ≠ ':' && c ≠ '{' && c ≠ '}' && c ≠ '#' && c ≠ '^' && c ≠ '\r' && c ≠ '\n'

/-- Tokens of a template, from a place inside or outside a tag. -/
def tokenizeFrom (inTag : Bool) (source : Text) : List Token :=
  match inTag, source with
  | _, [] => []
  | false, '{' :: '{' :: '/' :: rest => .closeTagStart :: tokenizeFrom true rest
  | false, '{' :: '{' :: rest => .tagStart :: tokenizeFrom true rest
  | false, '{' :: rest => .plain ['{'] :: tokenizeFrom false rest
  | false, c :: rest =>
    .plain (c :: rest.takeWhile (· ≠ '{')) :: tokenizeFrom false (rest.dropWhile (· ≠ '{'))
  | true, '}' :: '}' :: rest => .tagEnd :: tokenizeFrom false rest
  | true, '}' :: rest => .brace :: tokenizeFrom true rest
  | true, ':' :: rest => .colon :: tokenizeFrom true rest
  | true, '#' :: rest => .ifMark :: tokenizeFrom true rest
  | true, '^' :: rest => .unlessMark :: tokenizeFrom true rest
  | true, c :: rest =>
    if isNameChar c then
      .name (c :: rest.takeWhile isNameChar) :: tokenizeFrom true (rest.dropWhile isNameChar)
    else tokenizeFrom false (c :: rest)
termination_by 2 * source.length + inTag.toNat
decreasing_by
  all_goals simp only [List.length_cons, Bool.toNat_true, Bool.toNat_false]
  · omega
  · omega
  · omega
  · have := (List.dropWhile_sublist (l := rest) (fun c => decide (c ≠ '{'))).length_le
    omega
  · omega
  · omega
  · omega
  · omega
  · omega
  · have := (List.dropWhile_sublist (l := rest) isNameChar).length_le
    omega
  · omega

/-- Tokens of a template. -/
def tokenize (source : Text) : List Token := tokenizeFrom false source

/-! ## Nothing is lost -/

theorem textAll_tokenizeFrom (inTag : Bool) (source : Text) :
    Token.textAll (tokenizeFrom inTag source) = source := by
  fun_induction tokenizeFrom inTag source <;>
    simp_all [Token.text, List.takeWhile_append_dropWhile]

/-- The tokens of a template make up the template. -/
theorem textAll_tokenize (source : Text) : Token.textAll (tokenize source) = source :=
  textAll_tokenizeFrom false source

end Flashcard.Template
