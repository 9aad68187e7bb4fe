import Flashcard.Proofs.Template.Printing

/-!
# Reading back what is printed

A template that is printed and read again is the same template. Its syntax tree is
intact and shows the same tags in the same blocks, names without the spaces around
them, and between the tags the same texts.

Results:
* `Row.fits_contents`: the contents of a row fit where blocks are not nested too deeply.
* `Row.ofTrees?_contents`: a row is found in the trees of its contents.
* `row_parse_print`: a template that is printed is read back.
-/

namespace Flashcard.Template.Abstract

/-! ## Reading a syntax tree -/

/-- The names in a tag without the spaces around them, if it has a name. -/
def names? (tag : Tree Kind) : Option Reference :=
  (tag.children.find? (·.kind = .tagName)).map fun name =>
    { transformers := (tag.children.filter (·.kind = .transformer)).map (Unicode.trim ·.text)
      name := Unicode.trim name.text }

/-- The condition that a token marks. -/
def Condition.ofKind? : Kind → Option Condition
  | .ifMark => some .ifFilled
  | .unlessMark => some .unlessFilled
  | _ => none

/-- The node is the tag that an element begins with. -/
def isTag (tree : Tree Kind) : Bool := tree.kind = .openTag || tree.kind = .selfClosingTag

mutual

/-- The row with what a content shows in front, unless that is malformed. Other nodes
    show nothing. -/
def Row.consTree? : Tree Kind → Row Reference → Option (Row Reference)
  | .leaf _ _, rest => some rest
  | .node kind children, rest =>
    match kind with
    | .text => some (rest.prepend (Tree.textAll children))
    | .element => do
      let tag ← children.find? isTag
      let names ← names? tag
      if tag.kind = .openTag then
        let condition ← tag.children.findSome? fun child => Condition.ofKind? child.kind
        let body ← ofTrees? children
        return .block [] condition names body rest
      else return .field [] names rest
    | .error => none
    | _ => some rest

/-- The row that some trees show, if nothing in them is malformed. -/
def Row.ofTrees? : List (Tree Kind) → Option (Row Reference)
  | [] => some (.last [])
  | tree :: rest => (ofTrees? rest).bind (consTree? tree)

end

/-! ## Texts -/

namespace Row

variable {α β : Type}

theorem prepend_nil (row : Row α) : row.prepend [] = row := by
  cases row <;> rfl

theorem prepend_append (a b : Text) (row : Row α) :
    row.prepend (a ++ b) = (row.prepend b).prepend a := by
  cases row <;> simp only [prepend, List.append_assoc]

end Row

theorem treeAll_append (a b : List Content) :
    Content.treeAll (a ++ b) = Content.treeAll a ++ Content.treeAll b := by
  induction a with
  | nil => rfl
  | cons content a ih =>
    rw [List.cons_append, Content.treeAll, ih, Content.treeAll, List.cons_append]

/-- A text is found however it is cut. -/
theorem Row.ofTrees?_plains (text : Text) (trees : List (Tree Kind)) :
    ofTrees? (Content.treeAll (plains text) ++ trees) = (ofTrees? trees).map (prepend text) := by
  have cut (tokens : List Token) :
      ofTrees? (Content.treeAll (tokens.map fun token => .plain token.text) ++ trees) =
        (ofTrees? trees).map (prepend (Token.textAll tokens)) := by
    induction tokens with
    | nil =>
      have nothing : (prepend [] : Row Reference → Row Reference) = id := funext prepend_nil
      rw [Token.textAll_nil, nothing, Option.map_id]
      rfl
    | cons token rest ih =>
      rw [List.map_cons, Content.treeAll, List.cons_append, ofTrees?, ih, Option.bind_map]
      cases ofTrees? trees with
      | none => rfl
      | some row =>
        rw [Token.textAll_cons, Option.map_some, prepend_append, Option.bind_some]
        simp [Content.tree, consTree?, Token.text]
  rw [plains, cut, textAll_tokenize]

/-! ## Tags -/

/-- The names of a chain without the spaces around them. -/
def Chain.trimmed (chain : Chain) : Reference :=
  ⟨chain.reference.transformers.map Unicode.trim, Unicode.trim chain.reference.name⟩

theorem filter_transformerTrees (transformers : List Text) :
    ((transformerTrees transformers).filter (·.kind = .transformer)).map (Unicode.trim ·.text) =
      transformers.map Unicode.trim := by
  induction transformers with
  | nil => rfl
  | cons name rest ih =>
    have first : (transformerTree name).text = name := by simp [transformerTree, Token.text]
    show Unicode.trim (transformerTree name).text ::
      ((transformerTrees rest).filter _).map _ = _
    rw [ih, first]
    rfl

theorem names?_reference (kind : Kind) (front behind : List (Tree Kind))
    (beforeNames : ∀ tree ∈ front, tree.kind ≠ .tagName ∧ tree.kind ≠ .transformer)
    (behindNames : ∀ tree ∈ behind, tree.kind ≠ .transformer) (chain : Chain) :
    names? (.node kind (front ++ (chain.reference.trees ++ behind))) = some chain.trimmed := by
  have name : (front ++ (chain.reference.trees ++ behind)).find? (·.kind = .tagName) =
      some (nameTree chain.reference.name) := by
    have none : front.find? (·.kind = .tagName) = none := by
      rw [List.find?_eq_none]
      intro tree mem
      simpa using (beforeNames tree mem).1
    rw [List.find?_append, none, Reference.trees, List.append_assoc, List.find?_append,
      find?_transformerTrees]
    rfl
  have transformers : (front ++ (chain.reference.trees ++ behind)).filter (·.kind = .transformer) =
      (transformerTrees chain.reference.transformers).filter (·.kind = .transformer) := by
    have before : front.filter (·.kind = .transformer) = [] := by
      rw [List.filter_eq_nil_iff]
      intro tree mem
      simpa using (beforeNames tree mem).2
    have after : behind.filter (·.kind = .transformer) = [] := by
      rw [List.filter_eq_nil_iff]
      intro tree mem
      simpa using behindNames tree mem
    rw [List.filter_append, before, List.filter_append, after, Reference.trees, List.filter_append]
    simp [nameTree, Tree.kind]
  rw [names?, Tree.children, name, Option.map_some, transformers, filter_transformerTrees]
  simp [nameTree, Token.text, Chain.trimmed]

theorem Row.consTree?_field (chain : Chain) (rest : Row Reference) :
    consTree? (Content.field chain.reference).tree rest = some (.field [] chain.trimmed rest) := by
  have found := names?_reference .selfClosingTag [Token.tagStart.leaf] [selfCloseLeaf]
    (by decide) (by decide) chain
  rw [List.singleton_append] at found
  rw [Content.tree, consTree?, List.find?_cons_of_pos rfl]
  show (names? (.node .selfClosingTag _)).bind _ = _
  rw [found]
  rfl

theorem names?_openTagTree (condition : Condition) (chain : Chain) :
    names? (openTagTree condition chain.reference) = some chain.trimmed := by
  have front : ∀ tree ∈ [Token.tagStart.leaf, condition.token.leaf],
      tree.kind ≠ .tagName ∧ tree.kind ≠ .transformer := by
    cases condition <;> decide
  exact names?_reference .openTag _ [Token.tagEnd.leaf] front (by decide) chain

theorem ofKind?_openTagTree (condition : Condition) (reference : Reference) :
    (openTagTree condition reference).children.findSome? (fun child =>
      Condition.ofKind? child.kind) = some condition := by
  cases condition <;> rfl

/-- A block is found in its tree if what is in it is found in front of its close tag. -/
theorem Row.consTree?_block {contents : List Content} {name : Text} {body : Row Reference}
    (h : ofTrees? (Content.treeAll contents ++ closeTrees (some name)) = some body)
    (condition : Condition) (chain : Chain) (rest : Row Reference) :
    consTree? (Content.block condition chain.reference contents (some name)).tree rest =
      some (.block [] condition chain.trimmed body rest) := by
  have inside : ofTrees? (openTagTree condition chain.reference ::
      (Content.treeAll contents ++ closeTrees (some name))) = some body := by
    rw [ofTrees?, h]
    rfl
  rw [Content.tree, ← openTagTree, consTree?, List.find?_cons_of_pos rfl]
  show (names? (openTagTree condition chain.reference)).bind _ = _
  rw [names?_openTagTree, Option.bind_some,
    if_pos (show (openTagTree condition chain.reference).kind = .openTag from rfl),
    ofKind?_openTagTree, inside]
  rfl

/-! ## Rows -/

/-- The contents of a row fit where blocks are not nested too deeply. -/
theorem Row.fits_contents (row : Row Chain) {depth : Nat} (nested : row.nesting ≤ depth) :
    ∀ content ∈ row.contents, content.Fits depth := by
  have plain (text : Text) {depth : Nat} : ∀ content ∈ plains text, content.Fits depth := by
    intro content mem
    obtain ⟨token, -, rfl⟩ := List.mem_map.1 mem
    exact .plain
  induction row generalizing depth with
  | last text => exact plain text
  | field before chain rest ih =>
    rw [contents, List.forall_mem_append, List.forall_mem_cons]
    exact ⟨plain before, .field, ih nested⟩
  | block before condition chain body rest ihBody ih =>
    rw [nesting, Nat.max_le] at nested
    obtain ⟨depth, rfl⟩ := Nat.exists_eq_add_of_le' (Nat.le_of_add_left_le nested.1)
    rw [contents, List.forall_mem_append, List.forall_mem_cons]
    exact ⟨plain before, .block (ihBody (by omega)) rfl, ih nested.2⟩

/-- A row is found in the trees of its contents. -/
theorem Row.ofTrees?_contents (row : Row Chain) {trees : List (Tree Kind)}
    (behind : ofTrees? trees = some (.last [])) :
    ofTrees? (Content.treeAll row.contents ++ trees) = some (row.map Chain.trimmed) := by
  induction row generalizing trees with
  | last text =>
    rw [contents, ofTrees?_plains, behind, Option.map_some, prepend, List.append_nil]
    rfl
  | field before chain rest ih =>
    rw [contents, treeAll_append, List.append_assoc, ofTrees?_plains, Content.treeAll,
      List.cons_append, ofTrees?, ih behind, Option.bind_some, consTree?_field, Option.map_some,
      prepend, List.append_nil]
    rfl
  | block before condition chain body rest ihBody ih =>
    have inside : ofTrees? (Content.treeAll body.contents ++
        closeTrees (some chain.reference.name)) = some (body.map Chain.trimmed) := ihBody rfl
    rw [contents, treeAll_append, List.append_assoc, ofTrees?_plains, Content.treeAll,
      List.cons_append, ofTrees?, ih behind, Option.bind_some, consTree?_block inside,
      Option.map_some, prepend, List.append_nil]
    rfl

/-! ## Whole templates -/

/-- A template that is printed and read again is intact, and its contents show the same
    tags in the same blocks with the same texts between them, where texts stay texts
    and blocks are nested no more deeply than may be read. -/
theorem row_parse_print {limit : Nat} (pieces : Pieces) (apart : pieces.row.Apart false)
    (nested : pieces.row.nesting ≤ limit) :
    Intact (parse limit pieces.print).tree ∧
      Row.ofTrees? (parse limit pieces.print).tree.children =
        some (pieces.row.map Chain.trimmed) := by
  have fits := pieces.row.fits_contents nested
  have contents : (parse limit pieces.print).contents = pieces.row.contents := by
    have tokens := pieces.row.tokenize_print apart .stop
    rw [List.append_nil, pieces.print_row] at tokens
    have nothing : tokenize [] = [] := by rw [tokenize, tokenizeFrom]
    obtain ⟨read, -⟩ := readsBack_tokensAll fits none []
    rw [parse, tokens, nothing, Document.ofTokens, read, readContents, List.append_nil]
  constructor
  · rw [← fits_parse, contents]
    exact fits
  · rw [Document.tree, Tree.children, contents]
    have shown := pieces.row.ofTrees?_contents (show Row.ofTrees? [] = some (.last []) from rfl)
    rwa [List.append_nil] at shown

/-- Texts that touch and hold single braces, a field behind a transformer, and blocks
    inside each other, the inner one with a slash in its name. -/
theorem row_parse_print_nested :
    let pieces : Pieces :=
      .text "a\x7b".toList (.text "b\x7d\n".toList
        (.field ⟨⟨[" type ".toList], "Front".toList⟩, by decide⟩
          (.block .ifFilled ⟨⟨["t".toList], " A ".toList⟩, by decide⟩
            (.text "\x7d".toList (.block .unlessFilled ⟨⟨[], "/A".toList⟩, by decide⟩
              (.text "/".toList .nil) .nil))
            (.text "\x7b".toList .nil))))
    pieces.print = ("a\x7bb\x7d\n\x7b\x7b type :Front\x7d\x7d\x7b\x7b#t: A \x7d\x7d\x7d" ++
        "\x7b\x7b^/A\x7d\x7d/\x7b\x7b//A\x7d\x7d\x7b\x7b/ A \x7d\x7d\x7b").toList ∧
      pieces.row.Apart false ∧ pieces.row.nesting ≤ 2 ∧
      Intact (parse 2 pieces.print).tree ∧
      Row.ofTrees? (parse 2 pieces.print).tree.children =
        some (.field "a\x7bb\x7d\n".toList ⟨["type".toList], "Front".toList⟩
          (.block [] .ifFilled ⟨["t".toList], "A".toList⟩
            (.block "\x7d".toList .unlessFilled ⟨[], "/A".toList⟩ (.last "/".toList) (.last []))
            (.last "\x7b".toList))) := by
  intro pieces
  have apart : pieces.row.Apart false := by decide
  have nested : pieces.row.nesting ≤ 2 := by decide
  obtain ⟨intact, shown⟩ := row_parse_print pieces apart nested
  refine ⟨by decide, apart, nested, intact, ?_⟩
  rw [shown]
  decide

end Flashcard.Template.Abstract
