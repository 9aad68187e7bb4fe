import Flashcard.Query.Kind
import Flashcard.Unicode.Blank

/-!
# Tokens of a query

A query is cut into the longest possible pieces: brackets, a minus sign,
strings in double quotes, runs of blanks and words. A word is then looked at
again: `OR` is a keyword, and a filter mark such as `tag:` is cut off the word
that it begins, whatever the case of its letters.

Results:
* `textAll_tokenize`: the tokens make up the query.
-/

namespace Flashcard.Query

/-- What a filter compares. -/
inductive FilterField where
  | tag
  | deck
  | template
deriving DecidableEq, Repr

/-- Mark of a filter, in lower case. -/
def FilterField.mark : FilterField → Text
  | tag => "tag:".toList
  | deck => "deck:".toList
  | template => "template:".toList

/-- Token of a query. -/
inductive Token where
  | parenOpen
  | parenClose
  | minus
  | quote
  /-- What stands between the quotes of a string, escapes in place. -/
  | content (text : Text)
  | word (text : Text)
  | orKeyword
  /-- Mark of a filter as it is written. -/
  | mark (field : FilterField) (text : Text)
  | blank (text : Text)
deriving DecidableEq, Repr

namespace Token

/-- Characters of a token. -/
def text : Token → Text
  | parenOpen => ['(']
  | parenClose => [')']
  | minus => ['-']
  | quote => ['"']
  | content text => text
  | word text => text
  | orKeyword => ['O', 'R']
  | mark _ text => text
  | blank text => text

/-- Kind of a token in a syntax tree. -/
def kind : Token → Kind
  | parenOpen => .parenOpen
  | parenClose => .parenClose
  | minus => .minus
  | quote => .doubleQuote
  | content _ => .stringContent
  | word _ => .word
  | orKeyword => .orKeyword
  | mark .tag _ => .tagMark
  | mark .deck _ => .deckMark
  | mark .template _ => .templateMark
  | blank _ => .whitespace

/-- A token as a leaf of a syntax tree. -/
def leaf (token : Token) : Tree Kind := .leaf token.kind token.text

/-- The token is a run of blanks. -/
def isBlank : Token → Bool
  | blank _ => true
  | _ => false

/-- Characters of tokens in a row. -/
def textAll (tokens : List Token) : Text := tokens.flatMap text

end Token

/-! ## Strings -/

/-- Extent of a string after its opening quote. -/
structure StringBody where
  content : Text
  /-- A closing quote ends the string. -/
  closed : Bool
  /-- What follows the string. -/
  rest : Text
deriving DecidableEq, Repr

namespace StringBody

/-- The body with more content in front. -/
def extend (text : Text) (body : StringBody) : StringBody :=
  { body with content := text ++ body.content }

/-- Reads a string after its opening quote. A backslash takes the next
    character with it. Before a line feed or the end of the query it cannot,
    and the string is over after it, without a closing quote. -/
def read : Text → StringBody
  | [] => ⟨[], false, []⟩
  | '"' :: rest => ⟨[], true, rest⟩
  | ['\\'] => ⟨['\\'], false, []⟩
  | '\\' :: '\n' :: rest => ⟨['\\'], false, '\n' :: rest⟩
  | '\\' :: c :: rest => (read rest).extend ['\\', c]
  | c :: rest => (read rest).extend [c]

/-- Tokens of the body. -/
def tokens (body : StringBody) : List Token :=
  (if body.content = [] then [] else [.content body.content]) ++
    (if body.closed then [.quote] else [])

@[simp] theorem extend_rest (text : Text) (body : StringBody) :
    (body.extend text).rest = body.rest := rfl

@[simp] theorem extend_closed (text : Text) (body : StringBody) :
    (body.extend text).closed = body.closed := rfl

@[simp] theorem extend_content (text : Text) (body : StringBody) :
    (body.extend text).content = text ++ body.content := rfl

theorem length_rest_le (text : Text) : (read text).rest.length ≤ text.length := by
  fun_induction read text <;> simp_all <;> omega

end StringBody

/-! ## Words -/

/-- The text begins with the mark of a filter, in any case. -/
def FilterField.begins (field : FilterField) (text : Text) : Bool :=
  (text.take field.mark.length).map Char.toLower = field.mark

/-- The filter whose mark begins the text. -/
def FilterField.ofStart? (text : Text) : Option FilterField :=
  [tag, deck, template].find? (·.begins text)

/-- Tokens of a bare word: the keyword `OR`, a filter mark and the rest of the
    word, or the word itself. -/
def wordTokens (text : Text) : List Token :=
  if text = ['O', 'R'] then [.orKeyword]
  else
    match FilterField.ofStart? text with
    | none => [.word text]
    | some field =>
      let value := text.drop field.mark.length
      .mark field (text.take field.mark.length) :: if value = [] then [] else [.word value]

/-! ## Cutting a query into tokens -/

/-- The character can stand inside a word. -/
def isWordChar (c : Char) : Bool :=
  !Unicode.isBlank c && c ≠ '(' && c ≠ ')' && c ≠ '"'

/-- Tokens of a query. -/
def tokenize (source : Text) : List Token :=
  match source with
  | [] => []
  | '(' :: rest => .parenOpen :: tokenize rest
  | ')' :: rest => .parenClose :: tokenize rest
  | '-' :: rest => .minus :: tokenize rest
  | '"' :: rest => .quote :: ((StringBody.read rest).tokens ++ tokenize (StringBody.read rest).rest)
  | c :: rest =>
    if Unicode.isBlank c then
      .blank (c :: rest.takeWhile Unicode.isBlank) :: tokenize (rest.dropWhile Unicode.isBlank)
    else wordTokens (c :: rest.takeWhile isWordChar) ++ tokenize (rest.dropWhile isWordChar)
termination_by source.length
decreasing_by
  all_goals simp only [List.length_cons]
  · omega
  · omega
  · omega
  · have := StringBody.length_rest_le rest
    omega
  · have := (List.dropWhile_sublist (l := rest) Unicode.isBlank).length_le
    omega
  · have := (List.dropWhile_sublist (l := rest) isWordChar).length_le
    omega

/-! ## Nothing is lost -/

@[simp] theorem Token.textAll_nil : Token.textAll [] = [] := rfl

@[simp] theorem Token.textAll_cons (token : Token) (tokens : List Token) :
    Token.textAll (token :: tokens) = token.text ++ Token.textAll tokens := rfl

@[simp] theorem Token.textAll_append (a b : List Token) :
    Token.textAll (a ++ b) = Token.textAll a ++ Token.textAll b := by
  simp [Token.textAll]

/-- The closing quote of a string that has one. -/
def StringBody.close (body : StringBody) : Text := if body.closed then ['"'] else []

theorem StringBody.textAll_tokens (body : StringBody) :
    Token.textAll body.tokens = body.content ++ body.close := by
  unfold tokens close
  split <;> split <;> simp_all [Token.text]

@[simp] theorem StringBody.extend_close (text : Text) (body : StringBody) :
    (body.extend text).close = body.close := rfl

/-- The body of a string and what follows it make up the text read. -/
theorem StringBody.content_close_rest (text : Text) :
    (read text).content ++ ((read text).close ++ (read text).rest) = text := by
  fun_induction read text with
  | case1 | case2 | case3 | case4 => simp [close]
  | case5 c rest _ ih => simp [ih]
  | case6 c rest _ _ _ _ ih => simp [ih]

theorem textAll_wordTokens (text : Text) : Token.textAll (wordTokens text) = text := by
  unfold wordTokens
  split
  · simp_all [Token.text]
  · split
    · simp [Token.text]
    · rename_i field _
      have whole := List.take_append_drop field.mark.length text
      simp only
      split
      · rename_i empty
        rw [empty, List.append_nil] at whole
        simp [Token.text, whole]
      · simp [Token.text, whole]

/-- The tokens of a query make up the query. -/
theorem textAll_tokenize (source : Text) : Token.textAll (tokenize source) = source := by
  fun_induction tokenize source with
  | case1 => rfl
  | case2 rest ih => simp [Token.text, ih]
  | case3 rest ih => simp [Token.text, ih]
  | case4 rest ih => simp [Token.text, ih]
  | case5 rest ih =>
    simp [Token.text, ih, StringBody.textAll_tokens, StringBody.content_close_rest]
  | case6 => simp_all [Token.text, List.takeWhile_append_dropWhile]
  | case7 => simp_all [textAll_wordTokens, List.takeWhile_append_dropWhile]

end Flashcard.Query
