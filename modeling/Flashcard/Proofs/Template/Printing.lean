import Flashcard.Proofs.Template.Fitting
import Flashcard.Proofs.Template.Seam
import Mathlib.Data.List.Infix

/-!
# Printing a template

A template as it is meant: texts, fields and blocks in a row, and how they are
printed. Where texts touch they are one text, so that a template is a row of texts
in turn with tags. A text stays a text if it holds no beginning of a tag and, in front
of a tag, does not end in a brace.

Results:
* `Pieces.print_row`: texts that touch are printed as one.
* `tokenizeFrom_chain`: a chain that is printed is cut into its names.
* `Row.tokenize_print`: what is printed is cut into the tokens of its contents.
-/

namespace Flashcard.Template.Abstract

/-! ## Abstract templates -/

/-- A text that can be the name of a field or of a transformer. -/
structure IsName (text : Text) : Prop where
  nonempty : text ≠ []
  letters : text.all isNameChar = true

instance (text : Text) : Decidable (IsName text) :=
  decidable_of_iff (text ≠ [] ∧ text.all isNameChar = true)
    ⟨fun h => ⟨h.1, h.2⟩, fun h => ⟨h.nonempty, h.letters⟩⟩

/-- Names of transformers, and behind them the name of a field. -/
def names (reference : Reference) : List Text := reference.transformers ++ [reference.name]

/-- Names that can stand in a tag. -/
structure Chain where
  reference : Reference
  named : ∀ name ∈ names reference, IsName name

/-- A name alone as it stands in a tag. -/
def Chain.ofName {name : Text} (named : IsName name) : Chain :=
  ⟨⟨[], name⟩, List.forall_mem_singleton.2 named⟩

/-- Texts, fields and blocks in a row. A block has a condition, a chain and a body. -/
inductive Pieces where
  | nil
  | text (text : Text) (rest : Pieces)
  | field (chain : Chain) (rest : Pieces)
  | block (condition : Condition) (chain : Chain) (body rest : Pieces)

/-! ## Printing -/

/-- The names as they are written, with colons between them. -/
def Chain.print (chain : Chain) : Text := Text.join [':'] (names chain.reference)

/-- The tag of a field as it is written. -/
def printField (chain : Chain) : Text := '{' :: '{' :: (chain.print ++ ['}', '}'])

/-- The open tag of a block as it is written. -/
def printOpen (condition : Condition) (chain : Chain) : Text :=
  '{' :: '{' :: (condition.token.text ++ chain.print ++ ['}', '}'])

/-- The close tag of a block as it is written. -/
def printClose (chain : Chain) : Text :=
  '{' :: '{' :: '/' :: (chain.reference.name ++ ['}', '}'])

/-- The pieces as they are written. -/
def Pieces.print : Pieces → Text
  | nil => []
  | text before rest => before ++ rest.print
  | field chain rest => printField chain ++ rest.print
  | block condition chain body rest =>
    printOpen condition chain ++ body.print ++ printClose chain ++ rest.print

/-! ## Texts in turn with tags -/

/-- Tags with a text, perhaps an empty one, in front of each and behind the last. -/
inductive Row (α : Type) where
  | last (text : Text)
  | field (before : Text) (chain : α) (rest : Row α)
  | block (before : Text) (condition : Condition) (chain : α) (body rest : Row α)
deriving DecidableEq

namespace Row

variable {α β : Type}

/-- The row with another text in front of its first one. -/
def prepend (text : Text) : Row α → Row α
  | last before => last (text ++ before)
  | field before chain rest => field (text ++ before) chain rest
  | block before condition chain body rest => block (text ++ before) condition chain body rest

/-- The same row with other chains. -/
def map (f : α → β) : Row α → Row β
  | last text => last text
  | field before chain rest => field before (f chain) (rest.map f)
  | block before condition chain body rest =>
    block before condition (f chain) (body.map f) (rest.map f)

/-- How deeply blocks are nested. -/
def nesting : Row α → Nat
  | last _ => 0
  | field _ _ rest => rest.nesting
  | block _ _ _ body rest => max (body.nesting + 1) rest.nesting

/-- The row as it is written. -/
def print : Row Chain → Text
  | last text => text
  | field before chain rest => before ++ (printField chain ++ rest.print)
  | block before condition chain body rest =>
    before ++ (printOpen condition chain ++ (body.print ++ (printClose chain ++ rest.print)))

theorem print_prepend (text : Text) (row : Row Chain) :
    (row.prepend text).print = text ++ row.print := by
  cases row <;> simp [prepend, print]

end Row

/-- The pieces with the texts joined that touch. -/
def Pieces.row : Pieces → Row Chain
  | nil => .last []
  | text before rest => rest.row.prepend before
  | field chain rest => .field [] chain rest.row
  | block condition chain body rest => .block [] condition chain body.row rest.row

/-- Texts that touch are printed as one. -/
theorem Pieces.print_row (pieces : Pieces) : pieces.row.print = pieces.print := by
  induction pieces with
  | nil => rfl
  | text before rest ih => rw [row, Row.print_prepend, ih, print]
  | field chain rest ih => rw [row, Row.print, ih, print, List.nil_append]
  | block condition chain body rest ihBody ih =>
    rw [row, Row.print, ihBody, ih, print, List.nil_append, List.append_assoc, List.append_assoc]

/-! ## Texts that stay texts -/

/-- The text holds no beginning of a tag, nor does it make one up with a tag that
    stands right behind it. -/
structure Clear (tagBehind : Bool) (text : Text) : Prop where
  noTag : ¬ ['{', '{'] <:+: text
  noBrace : tagBehind = true → text.getLast? ≠ some '{'

/-- All texts of the row stay texts, and no tag of a field begins like a close tag;
    `tagBehind` tells whether a tag stands right behind the row. -/
def Row.Apart (tagBehind : Bool) : Row Chain → Prop
  | last text => Clear tagBehind text
  | field before chain rest =>
    Clear true before ∧ chain.print.head? ≠ some '/' ∧ rest.Apart tagBehind
  | block before _ _ body rest => Clear true before ∧ body.Apart true ∧ rest.Apart tagBehind

instance (tagBehind : Bool) (text : Text) : Decidable (Clear tagBehind text) :=
  decidable_of_iff (¬ ['{', '{'] <:+: text ∧ (tagBehind = true → text.getLast? ≠ some '{'))
    ⟨fun h => ⟨h.1, h.2⟩, fun h => ⟨h.noTag, h.noBrace⟩⟩

/-- Whether texts stay texts can be decided. -/
def Row.decideApart (tagBehind : Bool) : (row : Row Chain) → Decidable (row.Apart tagBehind)
  | last text => inferInstanceAs (Decidable (Clear tagBehind text))
  | field before chain rest =>
    have := rest.decideApart tagBehind
    inferInstanceAs (Decidable (Clear true before ∧ chain.print.head? ≠ some '/' ∧
      rest.Apart tagBehind))
  | block before _ _ body rest =>
    have := body.decideApart true
    have := rest.decideApart tagBehind
    inferInstanceAs (Decidable (Clear true before ∧ body.Apart true ∧ rest.Apart tagBehind))

instance (tagBehind : Bool) (row : Row Chain) : Decidable (row.Apart tagBehind) :=
  row.decideApart tagBehind

/-! ## Contents of a row -/

/-- A text as contents: it is cut in front of and behind each brace that begins a
    piece of it. -/
def plains (text : Text) : List Content := (tokenize text).map fun token => .plain token.text

/-- Contents that a row is read as. -/
def Row.contents : Row Chain → List Content
  | last text => plains text
  | field before chain rest => plains before ++ .field chain.reference :: rest.contents
  | block before condition chain body rest =>
    plains before ++ .block condition chain.reference body.contents
      (some chain.reference.name) :: rest.contents

/-! ## Cutting texts -/

theorem plain_of_mem {inTag : Bool} {source : Text} (outside : inTag = false)
    (noTag : ¬ ['{', '{'] <:+: source) :
    ∀ token ∈ tokenizeFrom inTag source, token = .plain token.text := by
  fun_induction tokenizeFrom inTag source with
  | case1 => exact List.forall_mem_nil _
  | case2 rest => exact absurd ⟨[], '/' :: rest, rfl⟩ noTag
  | case3 rest => exact absurd ⟨[], rest, rfl⟩ noTag
  | case4 rest _ _ ih =>
    have later : ¬ ['{', '{'] <:+: rest :=
      fun mem => noTag (mem.trans (List.suffix_cons _ _).isInfix)
    exact List.forall_mem_cons.2 ⟨rfl, ih rfl later⟩
  | case5 c rest _ _ _ ih =>
    have suffix := (List.dropWhile_suffix (l := rest) (· ≠ '{')).trans (List.suffix_cons c rest)
    exact List.forall_mem_cons.2 ⟨rfl, ih rfl fun mem => noTag (mem.trans suffix.isInfix)⟩
  | _ => cases outside

theorem tokensAll_plains {text : Text} (noTag : ¬ ['{', '{'] <:+: text) :
    Content.tokensAll (plains text) = tokenize text := by
  have row (tokens : List Token) (h : ∀ token ∈ tokens, token = .plain token.text) :
      Content.tokensAll (tokens.map fun token => .plain token.text) = tokens := by
    induction tokens with
    | nil => rfl
    | cons token rest ih =>
      obtain ⟨first, later⟩ := List.forall_mem_cons.1 h
      rw [List.map_cons, Content.tokensAll, ih later, Content.tokens, ← first]
      rfl
  exact row (tokenize text) (plain_of_mem rfl noTag)

/-- What may stand behind a row: nothing, or a tag. -/
inductive Border : (tagBehind : Bool) → Text → Prop
  | stop : Border false []
  | tag {rest : Text} : Border true ('{' :: '{' :: rest)

/-- A text that stays a text is cut by itself. -/
theorem tokenize_text {tagBehind : Bool} {text more : Text} (clear : Clear tagBehind text)
    (border : Border tagBehind more) :
    tokenize (text ++ more) = Content.tokensAll (plains text) ++ tokenize more := by
  rw [tokensAll_plains clear.noTag]
  cases border with
  | stop => rw [tokenize_nil, List.append_nil, List.append_nil]
  | tag => exact tokenize_append_brace (clear.noBrace rfl) _

/-! ## Cutting tags -/

theorem tokenizeFrom_isName {name : Text} (h : IsName name) {c : Char}
    (behind : isNameChar c = false) (more : Text) :
    tokenizeFrom true (name ++ c :: more) = .name name :: tokenizeFrom true (c :: more) := by
  obtain ⟨first, name, rfl⟩ := List.exists_cons_of_ne_nil h.nonempty
  have letters := h.letters
  rw [List.all_cons, Bool.and_eq_true, List.all_eq_true] at letters
  have other : ¬ isNameChar c = true := by
    rw [behind]
    exact Bool.false_ne_true
  rw [List.cons_append, tokenizeFrom_name letters.1, List.takeWhile_append_of_pos letters.2,
    List.dropWhile_append_of_pos letters.2, List.takeWhile_cons_of_neg other,
    List.dropWhile_cons_of_neg other, List.append_nil]

/-- The end of a tag leads back to the text. -/
theorem tokenizeFrom_tagEnd (more : Text) :
    tokenizeFrom true ('}' :: '}' :: more) = .tagEnd :: tokenize more := by
  rw [tokenizeFrom, tokenize]

/-- A chain that is printed is cut into its names. -/
theorem tokenizeFrom_chain (chain : Chain) (more : Text) :
    tokenizeFrom true (chain.print ++ '}' :: '}' :: more) =
      chain.reference.tokens ++ .tagEnd :: tokenize more := by
  obtain ⟨⟨transformers, name⟩, named⟩ := chain
  show tokenizeFrom true (Text.join [':'] (transformers ++ [name]) ++ _) =
    (Reference.mk transformers name).tokens ++ _
  induction transformers with
  | nil =>
    show tokenizeFrom true (name ++ _) = [.name name] ++ _
    rw [tokenizeFrom_isName (named name (by simp [names])) (by decide), tokenizeFrom_tagEnd]
    rfl
  | cons transformer rest ih =>
    have step : Text.join [':'] (transformer :: rest ++ [name]) =
        transformer ++ ':' :: Text.join [':'] (rest ++ [name]) := by
      cases rest <;> simp [Text.join]
    have first := named transformer (by simp [names])
    rw [step, List.append_assoc, List.cons_append, tokenizeFrom_isName first (by decide),
      tokenizeFrom, ih]
    · rfl
    · intro text mem
      exact named text (List.mem_cons_of_mem _ mem)

/-- The printed tag of a field that does not begin like a close tag. -/
theorem tokenize_field {chain : Chain} (noSlash : chain.print.head? ≠ some '/') (more : Text) :
    tokenize (printField chain ++ more) =
      (Content.field chain.reference).tokens ++ tokenize more := by
  have tag := tokenizeFrom_chain chain more
  have opening : ∀ rest, chain.print ++ '}' :: '}' :: more = '/' :: rest → False := by
    intro rest same
    cases print : chain.print with
    | nil =>
      rw [print] at same
      cases same
    | cons c print' =>
      rw [print] at same noSlash
      obtain ⟨rfl, -⟩ := List.cons.inj same
      exact noSlash rfl
  rw [printField, List.cons_append, List.cons_append, List.append_assoc, List.cons_append,
    List.singleton_append, tokenize, tokenizeFrom, tag, Content.tokens]
  · simp
  · exact opening

theorem tokenize_open (condition : Condition) (chain : Chain) (more : Text) :
    tokenize (printOpen condition chain ++ more) =
      .tagStart :: condition.token :: (chain.reference.tokens ++ .tagEnd :: tokenize more) := by
  have tag := tokenizeFrom_chain chain more
  rw [← tag, printOpen, tokenize]
  cases condition <;>
    simp [Condition.token, Token.text, tokenizeFrom]

theorem tokenize_close (chain : Chain) (more : Text) :
    tokenize (printClose chain ++ more) =
      closeTokens (some chain.reference.name) ++ tokenize more := by
  have name := chain.named chain.reference.name (by simp [names])
  rw [printClose, tokenize]
  simp only [List.cons_append, List.append_assoc, List.nil_append]
  rw [tokenizeFrom, tokenizeFrom_isName name (by decide), tokenizeFrom_tagEnd]
  rfl

theorem border_field (chain : Chain) (more : Text) : Border true (printField chain ++ more) := .tag

theorem border_open (condition : Condition) (chain : Chain) (more : Text) :
    Border true (printOpen condition chain ++ more) := .tag

theorem border_close (chain : Chain) (more : Text) : Border true (printClose chain ++ more) := .tag

/-- What is printed is cut into the tokens of its contents. -/
theorem Row.tokenize_print (row : Row Chain) {tagBehind : Bool} (apart : row.Apart tagBehind)
    {more : Text} (border : Border tagBehind more) :
    tokenize (row.print ++ more) = Content.tokensAll row.contents ++ tokenize more := by
  induction row generalizing tagBehind more with
  | last text => exact tokenize_text apart border
  | field before chain rest ih =>
    obtain ⟨clear, noSlash, later⟩ := apart
    rw [print, List.append_assoc, List.append_assoc, tokenize_text clear (border_field _ _),
      tokenize_field noSlash, ih later border, contents, Content.tokensAll_append,
      Content.tokensAll]
    simp only [List.append_assoc]
  | block before condition chain body rest ihBody ih =>
    obtain ⟨clear, inside, later⟩ := apart
    rw [print, List.append_assoc, List.append_assoc, List.append_assoc, List.append_assoc,
      tokenize_text clear (border_open _ _ _), tokenize_open,
      ihBody inside (border_close _ _), tokenize_close, ih later border, contents,
      Content.tokensAll_append, Content.tokensAll, Content.tokens]
    simp only [List.append_assoc, List.cons_append, List.nil_append]

end Flashcard.Template.Abstract
