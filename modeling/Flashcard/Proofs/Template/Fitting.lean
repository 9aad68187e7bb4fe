import Flashcard.Proofs.Template.Blocks
import Flashcard.Proofs.Template.TagEnd
import Flashcard.Proofs.Template.WellFormed

/-!
# Contents without errors

Where nothing is malformed and every block has its close tag, the tokens of contents
and the contents determine each other, and what follows them does not matter: no block
is open any more that could reach behind them.

Results:
* `readsBack_tokensAll`: contents that fit are read back from their tokens, whatever
  follows.
* `closedByName_readElement`: a block is closed by its name, however deeply blocks are
  nested.
* `fits_parse`: a template fits exactly if its tree is intact.
-/

namespace Flashcard.Template

/-- The content is not malformed, and the blocks in it are closed by name and nested
    at most `depth` deep. -/
inductive Content.Fits : (depth : Nat) → Content → Prop
  | plain {depth : Nat} {text : Text} : Fits depth (.plain text)
  | field {depth : Nat} {reference : Reference} : Fits depth (.field reference)
  | block {depth : Nat} {condition : Condition} {reference : Reference}
      {contents : List Content} {name : Text} : (∀ content ∈ contents, Fits depth content) →
      Unicode.trim name = Unicode.trim reference.name →
      Fits (depth + 1) (.block condition reference contents (some name))

theorem Content.tokensAll_append (a b : List Content) :
    tokensAll (a ++ b) = tokensAll a ++ tokensAll b := by
  induction a with
  | nil => rfl
  | cons content a ih => rw [List.cons_append, tokensAll, ih, tokensAll, List.append_assoc]

/-! ## Reading what fits -/

/-- The tokens are read as the contents, and what follows them as if it stood alone. -/
def TagReader.ReadsBack (reader : TagReader) (tokens : List Token) (contents : List Content) :
    Prop :=
  ∀ (enclosing : Option Text) (more : List Token),
    (readContents reader enclosing (tokens ++ more)).value =
        contents ++ (readContents reader enclosing more).value ∧
      (readContents reader enclosing (tokens ++ more)).rest =
        (readContents reader enclosing more).rest

variable {reader : TagReader}

theorem TagReader.ReadsBack.append {a b : List Token} {first second : List Content}
    (h : reader.ReadsBack a first) (h' : reader.ReadsBack b second) :
    reader.ReadsBack (a ++ b) (first ++ second) := by
  intro enclosing more
  obtain ⟨value, rest⟩ := h enclosing (b ++ more)
  obtain ⟨value', rest'⟩ := h' enclosing more
  rw [List.append_assoc, value, value', List.append_assoc, rest, rest']
  exact ⟨rfl, rfl⟩

theorem readsBack_plain (text : Text) : reader.ReadsBack [.plain text] [.plain text] := by
  intro enclosing more
  rw [List.singleton_append, readContents]
  exact ⟨rfl, rfl⟩

theorem readsBack_element {tokens : List Token} {content : Content}
    (h : ∀ more, (reader (tokens ++ more)).value = content ∧
      (reader (tokens ++ more)).rest = more) :
    reader.ReadsBack (.tagStart :: tokens) [content] := by
  intro enclosing more
  obtain ⟨value, rest⟩ := h more
  rw [List.cons_append, readContents]
  simp only [Parsed.cons_value, Parsed.cons_rest, value]
  rw [rest]
  exact ⟨rfl, rfl⟩

theorem rest_readTag (reference : Reference) (more : List Token) :
    (readTag (reference.tokens ++ .tagEnd :: more)).rest = more := by
  have whole := tagTokens_readTag (reference.tokens ++ .tagEnd :: more)
  rw [readTag_ok, tagTokens, List.append_assoc, List.singleton_append] at whole
  exact (List.cons.inj (List.append_cancel_left whole)).2

theorem readWith_reference (inner : Option TagReader) (reference : Reference)
    (rest : List Token) :
    readElement.readWith inner (reference.tokens ++ rest) =
      readField (reference.tokens ++ rest) := by
  obtain ⟨transformers, name⟩ := reference
  cases transformers <;> rfl

theorem readWith_condition (inner : Option TagReader) (condition : Condition)
    (rest : List Token) :
    (readElement.readWith inner (condition.token :: rest)).value =
        (readBlock inner condition rest).value ∧
      (readElement.readWith inner (condition.token :: rest)).rest =
        (readBlock inner condition rest).rest := by
  cases condition <;> exact ⟨rfl, rfl⟩

theorem readElement_eq (depth : Nat) :
    ∃ inner, (∀ tokens, readElement depth tokens = readElement.readWith inner tokens) := by
  cases depth with
  | zero => exact ⟨none, fun _ => rfl⟩
  | succ depth => exact ⟨some (readElement depth), fun _ => rfl⟩

theorem readsBack_field (depth : Nat) (reference : Reference) :
    (readElement depth).ReadsBack (Content.field reference).tokens [.field reference] := by
  apply readsBack_element
  intro more
  obtain ⟨inner, reads⟩ := readElement_eq depth
  rw [reads, List.append_assoc, readWith_reference, readField, Parsed.map_value, Parsed.map_rest,
    List.singleton_append, readTag_ok, rest_readTag]
  exact ⟨rfl, rfl⟩

theorem readContents_close (reader : TagReader) {name enclosing : Text}
    (same : Unicode.trim name = enclosing) (more : List Token) :
    (readContents reader (some enclosing) (closeTokens (some name) ++ more)).value = [] ∧
      (readContents reader (some enclosing) (closeTokens (some name) ++ more)).rest =
        closeTokens (some name) ++ more := by
  have closes : closesBlock (some enclosing) (closeTokens (some name) ++ more) = true :=
    decide_eq_true same
  rw [closeTokens, List.cons_append] at closes ⊢
  rw [readContents, if_pos closes]
  exact ⟨rfl, rfl⟩

/-- A block whose open tag is well formed is read up to its close tag, if that comes
    next behind its contents. -/
theorem readBlock_reference (reader : TagReader) (condition : Condition) {tokens : List Token}
    {reference : Reference} (read : (readTag tokens).value = .ok reference) :
    let row := readContents reader (some (Unicode.trim reference.name)) (readTag tokens).rest
    (readBlock (some reader) condition tokens).value =
        .block condition reference row.value (closeName row.rest) ∧
      (readBlock (some reader) condition tokens).rest =
        if (closeName row.rest).isSome then row.rest.drop 3 else row.rest := by
  simp only [readBlock, read]
  exact ⟨rfl, rfl⟩

/-- A block that is closed by name is read back if its contents are. -/
theorem readsBack_block {depth : Nat} {contents : List Content}
    (h : (readElement depth).ReadsBack (Content.tokensAll contents) contents)
    (condition : Condition) (reference : Reference) {name : Text}
    (same : Unicode.trim name = Unicode.trim reference.name) :
    (readElement (depth + 1)).ReadsBack
      (Content.block condition reference contents (some name)).tokens
      [.block condition reference contents (some name)] := by
  have tokens : (Content.block condition reference contents (some name)).tokens =
      .tagStart :: condition.token :: (reference.tokens ++ .tagEnd ::
        (Content.tokensAll contents ++ closeTokens (some name))) := by
    simp [Content.tokens]
  rw [tokens]
  apply readsBack_element
  intro more
  -- What is in the block is read up to the close tag, and that closes the block.
  obtain ⟨value, rest⟩ := h (some (Unicode.trim reference.name)) (closeTokens (some name) ++ more)
  obtain ⟨ended, behind⟩ := readContents_close (readElement depth) same more
  rw [ended, List.append_nil] at value
  rw [behind] at rest
  have block := readBlock_reference (readElement depth) condition
    (readTag_ok reference (Content.tokensAll contents ++ (closeTokens (some name) ++ more)))
  rw [rest_readTag] at block
  simp only [value, rest] at block
  obtain ⟨readValue, readRest⟩ := readWith_condition (some (readElement depth)) condition
    (reference.tokens ++ .tagEnd :: (Content.tokensAll contents ++
      (closeTokens (some name) ++ more)))
  rw [List.cons_append, List.append_assoc, List.cons_append, List.append_assoc, readElement,
    readValue, readRest, block.1, block.2]
  exact ⟨rfl, rfl⟩

/-- Contents that fit are read back from their tokens, whatever follows. -/
theorem readsBack_tokensAll {depth : Nat} {contents : List Content}
    (h : ∀ content ∈ contents, content.Fits depth) :
    (readElement depth).ReadsBack (Content.tokensAll contents) contents := by
  -- Once each content is read back by itself, so is the row.
  have row {depth : Nat} (contents : List Content)
      (each : ∀ content ∈ contents, (readElement depth).ReadsBack content.tokens [content]) :
      (readElement depth).ReadsBack (Content.tokensAll contents) contents := by
    induction contents with
    | nil => exact fun enclosing more => ⟨rfl, rfl⟩
    | cons content rest ih =>
      obtain ⟨first, later⟩ := List.forall_mem_cons.1 each
      exact first.append (ih later)
  apply row
  intro content mem
  have fits := h content mem
  clear h mem
  induction fits with
  | plain => exact readsBack_plain _
  | field => exact readsBack_field _ _
  | block _ same ih => exact readsBack_block (row _ ih) _ _ same

/-! ## Close tags as they are read -/

/-- Contents are read to the end, or to the close tag of the block around them. -/
theorem rest_readContents (reader : TagReader) (enclosing : Option Text) (tokens : List Token) :
    (readContents reader enclosing tokens).rest = [] ∨
      closesBlock enclosing (readContents reader enclosing tokens).rest = true := by
  fun_induction readContents reader enclosing tokens with
  | case1 => exact .inl rfl
  | case2 _ _ ih => exact ih
  | case3 _ _ _ ih => exact ih
  | case4 rest closes => exact .inr closes
  | case5 _ _ _ _ ih => exact ih
  | case6 _ _ _ _ _ ih => exact ih

theorem closedByName_readContents (h : ∀ tokens, (reader tokens).value.ClosedByName)
    (enclosing : Option Text) (tokens : List Token) :
    ∀ content ∈ (readContents reader enclosing tokens).value, content.ClosedByName := by
  fun_induction readContents reader enclosing tokens with
  | case1 | case4 => exact List.forall_mem_nil _
  | case2 _ _ ih => exact List.forall_mem_cons.2 ⟨.plain, ih⟩
  | case3 rest _ _ ih => exact List.forall_mem_cons.2 ⟨h rest, ih⟩
  | case5 _ _ _ _ ih => exact List.forall_mem_cons.2 ⟨.malformed, ih⟩
  | case6 _ _ _ _ _ ih => exact List.forall_mem_cons.2 ⟨.malformed, ih⟩

theorem closedByName_readField (tokens : List Token) :
    (readField tokens).value.ClosedByName := by
  rw [readField, Parsed.map_value]
  split
  · exact .field
  · exact .malformed

theorem closedByName_readBlock {inner : Option TagReader}
    (h : ∀ reader ∈ inner, ∀ tokens, (reader tokens).value.ClosedByName) (condition : Condition)
    (tokens : List Token) : (readBlock inner condition tokens).value.ClosedByName := by
  simp only [readBlock]
  split
  · exact .malformed
  · refine .block ?_ (by simp)
    intro content mem
    rw [overflowContents] at mem
    split at mem
    · cases mem
    · rw [List.mem_singleton] at mem
      subst mem
      exact .malformed
  · rename_i reference reader _
    refine .block (closedByName_readContents (h reader rfl) _ _) ?_
    intro name close
    obtain nothing | closes := rest_readContents reader (some (Unicode.trim reference.name))
      (readTag tokens).rest
    · rw [nothing] at close
      cases close
    · rw [closesBlock.eq_def, close] at closes
      exact of_decide_eq_true closes

/-- A block is closed by its name, however deeply blocks are nested. -/
theorem closedByName_readElement (depth : Nat) (tokens : List Token) :
    (readElement depth tokens).value.ClosedByName := by
  have step {inner : Option TagReader}
      (h : ∀ reader ∈ inner, ∀ tokens, (reader tokens).value.ClosedByName)
      (tokens : List Token) : (readElement.readWith inner tokens).value.ClosedByName := by
    unfold readElement.readWith
    split
    · rename_i rest
      exact closedByName_readBlock h .ifFilled rest
    · rename_i rest
      exact closedByName_readBlock h .unlessFilled rest
    · exact closedByName_readField _
  induction depth generalizing tokens with
  | zero => exact step (by simp) tokens
  | succ depth ih =>
    refine step ?_ tokens
    intro reader own
    cases own
    exact ih

/-! ## Intact trees -/

/-- The node is a block without a close tag. -/
def IsUnclosed (node : Tree Kind) : Prop :=
  node.kind = .element ∧ (∃ tag ∈ node.children, tag.kind = .openTag) ∧ ¬ HasCloseTag node

instance : DecidablePred IsUnclosed := fun node =>
  inferInstanceAs (Decidable (node.kind = .element ∧ (∃ tag ∈ node.children, tag.kind = .openTag) ∧
    ¬ ∃ tag ∈ node.children, tag.kind = .closeTag))

/-- No part of the tree is malformed, and no block in it lacks its close tag. -/
structure Intact (tree : Tree Kind) : Prop where
  noError : tree.hasErrorNode = false
  closed : ∀ node ∈ tree.nodes, ¬ IsUnclosed node

instance (tree : Tree Kind) : Decidable (Intact tree) :=
  decidable_of_iff (tree.hasErrorNode = false ∧ ∀ node ∈ tree.nodes, ¬ IsUnclosed node)
    ⟨fun h => ⟨h.1, h.2⟩, fun h => ⟨h.noError, h.closed⟩⟩

/-- So it is for trees in a row. -/
structure IntactAll (trees : List (Tree Kind)) : Prop where
  noError : trees.any Tree.hasErrorNode = false
  closed : ∀ node ∈ Tree.nodesAll trees, ¬ IsUnclosed node

theorem intactAll_cons {tree : Tree Kind} {rest : List (Tree Kind)} :
    IntactAll (tree :: rest) ↔ Intact tree ∧ IntactAll rest := by
  constructor
  · rintro ⟨noError, closed⟩
    rw [List.any_cons, Bool.or_eq_false_iff] at noError
    rw [Tree.nodesAll, List.forall_mem_append] at closed
    exact ⟨⟨noError.1, closed.1⟩, ⟨noError.2, closed.2⟩⟩
  · rintro ⟨first, later⟩
    refine ⟨?_, ?_⟩
    · rw [List.any_cons, first.noError, later.noError]
      rfl
    · rw [Tree.nodesAll, List.forall_mem_append]
      exact ⟨first.closed, later.closed⟩

theorem intactAll_nil : IntactAll [] := ⟨rfl, List.forall_mem_nil _⟩

theorem intactAll_append {a b : List (Tree Kind)} :
    IntactAll (a ++ b) ↔ IntactAll a ∧ IntactAll b := by
  induction a with
  | nil => exact ⟨fun h => ⟨intactAll_nil, h⟩, fun h => h.2⟩
  | cons tree a ih => rw [List.cons_append, intactAll_cons, ih, intactAll_cons, and_assoc]

theorem intact_node {kind : Kind} {children : List (Tree Kind)} :
    Intact (.node kind children) ↔
      kind ≠ .error ∧ ¬ IsUnclosed (.node kind children) ∧ IntactAll children := by
  constructor
  · rintro ⟨noError, closed⟩
    rw [Tree.hasErrorNode_node, Bool.or_eq_false_iff] at noError
    rw [Tree.nodes, List.forall_mem_cons] at closed
    exact ⟨of_decide_eq_false noError.1, closed.1, ⟨noError.2, closed.2⟩⟩
  · rintro ⟨kind_ne, here, inside⟩
    refine ⟨?_, ?_⟩
    · rw [Tree.hasErrorNode_node, inside.noError, Bool.or_false]
      exact decide_eq_false kind_ne
    · rw [Tree.nodes, List.forall_mem_cons]
      exact ⟨here, inside.closed⟩

theorem intact_of_kind {kind : Kind} {children : List (Tree Kind)} (noError : kind ≠ .error)
    (noElement : kind ≠ .element) (h : IntactAll children) : Intact (.node kind children) :=
  intact_node.2 ⟨noError, fun unclosed => noElement unclosed.1, h⟩

theorem noElement_inTag : HoldsInTag fun kind => kind ≠ .error ∧ kind ≠ .element :=
  ⟨⟨nofun, nofun⟩, ⟨nofun, nofun⟩⟩

theorem intactAll_of_nodesAre {trees : List (Tree Kind)}
    (h : NodesAre (fun kind => kind ≠ .error ∧ kind ≠ .element) trees) : IntactAll trees := by
  have noError : NodesAre (· ≠ .error) trees := fun node mem => (h node mem).1
  exact ⟨noError.any_hasErrorNode, fun node mem unclosed => (h node mem).2 unclosed.1⟩

theorem intact_plain (text : Text) : Intact (Content.plain text).tree :=
  intact_of_kind (by decide) (by decide) (intactAll_of_nodesAre (nodesAre_leaves [.plain text]))

theorem intact_field (reference : Reference) : Intact (Content.field reference).tree := by
  have tag : Intact (.node .selfClosingTag (Token.tagStart.leaf ::
      (reference.trees ++ [selfCloseLeaf]))) :=
    intact_of_kind (by decide) (by decide)
      (intactAll_of_nodesAre (reference.nodesAre_fieldTag noElement_inTag))
  refine intact_node.2 ⟨by decide, ?_, intactAll_cons.2 ⟨tag, intactAll_nil⟩⟩
  rintro ⟨-, ⟨other, mem, opens⟩, -⟩
  rw [Tree.children, List.mem_singleton] at mem
  rw [mem] at opens
  cases opens

theorem not_intact_malformed (part : Malformed) : ¬ Intact (Content.malformed part).tree := by
  intro h
  cases part <;> exact (intact_node.1 h).1 rfl

theorem intact_openTagTree (condition : Condition) (reference : Reference) :
    Intact (openTagTree condition reference) :=
  intact_of_kind (by decide) (by decide)
    (intactAll_of_nodesAre (reference.nodesAre_openTag noElement_inTag condition))

theorem intactAll_closeTrees (close : Option Text) : IntactAll (closeTrees close) :=
  intactAll_of_nodesAre (nodesAre_closeTrees noElement_inTag ⟨nofun, nofun⟩ close)

/-- A block is intact exactly if it has its close tag and what is in it is intact. -/
theorem intact_block (condition : Condition) (reference : Reference) (contents : List Content)
    (close : Option Text) :
    Intact (Content.block condition reference contents close).tree ↔
      close.isSome = true ∧ IntactAll (Content.treeAll contents) := by
  have opens : ∃ tag ∈ (Content.block condition reference contents close).tree.children,
      tag.kind = .openTag := ⟨openTagTree condition reference, List.mem_cons_self, rfl⟩
  rw [← hasCloseTag_block condition reference contents close]
  constructor
  · intro h
    obtain ⟨-, here, inside⟩ := intact_node.1 h
    refine ⟨?_, (intactAll_append.1 (intactAll_cons.1 inside).2).1⟩
    exact Classical.byContradiction fun unclosed => here ⟨rfl, opens, unclosed⟩
  · rintro ⟨closed, inside⟩
    exact intact_node.2 ⟨by decide, fun unclosed => unclosed.2.2 closed,
      intactAll_cons.2 ⟨intact_openTagTree condition reference,
        intactAll_append.2 ⟨inside, intactAll_closeTrees close⟩⟩⟩

theorem intactAll_treeAll {contents : List Content} :
    IntactAll (Content.treeAll contents) ↔ ∀ content ∈ contents, Intact content.tree := by
  induction contents with
  | nil => exact ⟨fun _ => List.forall_mem_nil _, fun _ => intactAll_nil⟩
  | cons content rest ih =>
    rw [Content.treeAll, intactAll_cons, ih, List.forall_mem_cons]

theorem Content.Fits.intact {depth : Nat} {content : Content} (h : content.Fits depth) :
    Intact content.tree := by
  induction h with
  | plain => exact intact_plain _
  | field => exact intact_field _
  | block _ _ ih => exact (intact_block _ _ _ _).2 ⟨rfl, intactAll_treeAll.2 ih⟩

/-- What is read and intact fits. -/
theorem Content.WellFormed.fits {depth : Nat} {content : Content} (h : content.WellFormed depth)
    (named : content.ClosedByName) (intact : Intact content.tree) : content.Fits depth := by
  induction h with
  | plain => exact .plain
  | field => exact .field
  | malformed => exact absurd intact (not_intact_malformed _)
  | overflow => cases ((intact_block _ _ _ _).1 intact).1
  | block _ ih =>
    obtain ⟨closed, inside⟩ := (intact_block _ _ _ _).1 intact
    obtain ⟨name, rfl⟩ := Option.isSome_iff_exists.1 closed
    cases named with
    | block inner own =>
      refine .block ?_ (own name rfl)
      intro content mem
      exact ih content mem (inner content mem) (intactAll_treeAll.1 inside content mem)

/-- A template fits exactly if its tree is intact. -/
theorem fits_parse (limit : Nat) (source : Text) :
    (∀ content ∈ (parse limit source).contents, content.Fits limit) ↔
      Intact (parse limit source).tree := by
  have root : Intact (parse limit source).tree ↔
      IntactAll (Content.treeAll (parse limit source).contents) := by
    rw [Document.tree, intact_node]
    exact ⟨fun h => h.2.2, fun h => intact_node.1 (intact_of_kind (by decide) (by decide) h)⟩
  rw [root, intactAll_treeAll]
  constructor
  · intro h content mem
    exact (h content mem).intact
  · intro h content mem
    exact (wellFormed_parse limit source content mem).fits
      (closedByName_readContents (closedByName_readElement limit) none _ content mem)
      (h content mem)

end Flashcard.Template
