import Flashcard.Proofs.Template.Located
import Flashcard.Proofs.Template.Nesting
import Flashcard.Proofs.Template.TagNodes
import Mathlib.Data.List.Forall2

/-!
# Templates that show themselves

A reference to a field that does not exist is shown as it is written. So where a note has no
fields at all, a template of texts and references is the page made from it, and the only
problems are that the fields do not exist, one for each reference.

Results:
* `verbatim_treeAll`: the contents of a tree without errors and blocks are texts and references.
* `body_renderAll`: such contents are shown as they are written.
* `warnsOf_renderAll`: each reference in them is reported, at its name.
* `compile_verbatim`: without fields a plain template renders to itself.
-/

namespace Flashcard

theorem Tree.mem_nodesAll {κ : Type} {node tree : Tree κ} {trees : List (Tree κ)}
    (h : tree ∈ trees) (mem : node ∈ tree.nodes) : node ∈ Tree.nodesAll trees := by
  obtain ⟨before, behind, rfl⟩ := List.append_of_mem h
  rw [nodesAll_append, nodesAll]
  exact List.mem_append_right _ (List.mem_append_left _ mem)

namespace Template

/-! ## Plain templates -/

/-- The node has its place in a plain template: it is no error and opens no block, as a
    transformer it exists, and as the name of a field it is not that of the question side. -/
structure IsVerbatim (node : Tree Kind) : Prop where
  noError : node.kind ≠ .error
  noBlock : node.kind ≠ .openTag
  known : node.kind = .transformer →
    (Transformer.ofName? (Unicode.trim node.text)).isSome = true
  noFrontSide : node.kind = .tagName → Unicode.trim node.text ≠ frontSideName

instance : DecidablePred IsVerbatim := fun node =>
  decidable_of_iff
    (node.kind ≠ .error ∧ node.kind ≠ .openTag ∧
      (node.kind = .transformer → (Transformer.ofName? (Unicode.trim node.text)).isSome = true) ∧
      (node.kind = .tagName → Unicode.trim node.text ≠ frontSideName))
    ⟨fun h => ⟨h.1, h.2.1, h.2.2.1, h.2.2.2⟩,
      fun h => ⟨h.noError, h.noBlock, h.known, h.noFrontSide⟩⟩

/-- The tags of trees in a row that stand for a field, in order. -/
def fieldTags (above : List (Tree Kind)) (start : Nat) (trees : List (Tree Kind)) :
    List (Tree.Occurrence Kind) :=
  (Tree.occurrencesAll above start trees).filter (·.tree.kind = .selfClosingTag)

/-- The diagnostic warns that the name in the tag is that of no field. -/
def WarnsOf (tag : Tree.Occurrence Kind) (diagnostic : Diagnostic) : Prop :=
  ∃ before name behind, tag.tree.children = before ++ name :: behind ∧ name.kind = .tagName ∧
    diagnostic = .report .unknownField ⟨tag.start + Tree.sizeAll before, name.size⟩
      (Unicode.trim name.text)

/-- The transformers of the reference exist, and it does not name the question side. -/
structure Reference.Verbatim (reference : Reference) : Prop where
  known : ∀ name ∈ reference.transformers,
    (Transformer.ofName? (Unicode.trim name)).isSome = true
  noFrontSide : Unicode.trim reference.name ≠ frontSideName

/-- The content is a text or such a reference. -/
inductive Content.Verbatim : Content → Prop
  | plain {text : Text} : Verbatim (.plain text)
  | field {reference : Reference} : reference.Verbatim → Verbatim (.field reference)

/-! ## Contents of a plain template -/

theorem nodes_fieldTree_subset (reference : Reference) :
    Tree.nodesAll reference.trees ⊆ (Content.field reference).tree.nodes := by
  intro node mem
  have inTag :
      node ∈ Tree.nodesAll (Token.tagStart.leaf :: (reference.trees ++ [selfCloseLeaf])) := by
    rw [Tree.nodesAll, Tree.nodesAll_append]
    exact List.mem_append_right _ (List.mem_append_left _ mem)
  rw [Content.tree, Tree.nodes, Tree.nodesAll, Tree.nodes]
  exact List.mem_cons_of_mem _ (List.mem_append_left _ (List.mem_cons_of_mem _ inTag))

theorem Reference.verbatim_of_nodes {reference : Reference}
    (h : ∀ node ∈ Tree.nodesAll reference.trees, IsVerbatim node) : reference.Verbatim := by
  constructor
  · intro name mem
    have tree : transformerTree name ∈ reference.trees :=
      List.mem_append_left _ (List.mem_flatMap.2 ⟨name, mem, List.mem_cons_self⟩)
    have text : (transformerTree name).text = name := List.append_nil name
    have known := (h (transformerTree name) (Tree.mem_nodesAll tree List.mem_cons_self)).known rfl
    rwa [text] at known
  · have tree : nameTree reference.name ∈ reference.trees :=
      List.mem_append_right _ List.mem_cons_self
    have text : (nameTree reference.name).text = reference.name := List.append_nil _
    have node := h (nameTree reference.name) (Tree.mem_nodesAll tree List.mem_cons_self)
    rw [← text]
    exact node.noFrontSide rfl

/-- A content without errors and blocks is a text or a reference. -/
theorem verbatim_tree {content : Content} (h : ∀ node ∈ content.tree.nodes, IsVerbatim node) :
    content.Verbatim := by
  cases content with
  | plain text => exact .plain
  | field reference =>
    exact .field (Reference.verbatim_of_nodes fun node mem =>
      h node (nodes_fieldTree_subset reference mem))
  | block condition reference contents close =>
    have opens : openTagTree condition reference ∈
        (Content.block condition reference contents close).tree.nodes :=
      List.mem_cons_of_mem _ (Tree.mem_nodesAll List.mem_cons_self List.mem_cons_self)
    exact absurd rfl (h _ opens).noBlock
  | malformed part =>
    cases part <;> exact absurd rfl (h _ List.mem_cons_self).noError

/-- The contents of a tree without errors and blocks are texts and references. -/
theorem verbatim_treeAll {contents : List Content}
    (h : ∀ node ∈ Tree.nodesAll (Content.treeAll contents), IsVerbatim node) :
    ∀ content ∈ contents, content.Verbatim := by
  induction contents with
  | nil =>
    intro content mem
    cases mem
  | cons content rest ih =>
    rw [Content.treeAll, Tree.nodesAll, List.forall_mem_append] at h
    exact List.forall_mem_cons.2 ⟨verbatim_tree h.1, ih h.2⟩

/-! ## References to nothing -/

theorem exists_resolveTransformers {names : List Text}
    (known : ∀ name ∈ names, (Transformer.ofName? (Unicode.trim name)).isSome = true) :
    ∃ transformers, resolveTransformers names = some transformers := by
  induction names with
  | nil => exact ⟨[], rfl⟩
  | cons name rest ih =>
    obtain ⟨first, later⟩ := List.forall_mem_cons.1 known
    obtain ⟨transformer, found⟩ := Option.isSome_iff_exists.1 first
    obtain ⟨transformers, resolved⟩ := ih later
    rw [resolveTransformers] at resolved
    exact ⟨transformer :: transformers, by
      rw [resolveTransformers, List.mapM_cons, found, resolved]
      rfl⟩

section References

variable {reference : Reference} (h : reference.Verbatim) (card : Card) (start : Nat)

include h

theorem Reference.Verbatim.lookup_empty :
    lookup .empty card (Unicode.trim reference.name) = none :=
  if_neg h.noFrontSide

theorem Reference.Verbatim.unknownTransformers_eq_nil :
    unknownTransformers start reference.transformers = [] :=
  List.filterMap_eq_nil_iff.2 fun _ mem => if_pos (h.known _ (mem_of_mem_placeTransformers mem))

/-- A reference to a field that does not exist is shown as it is written, and its name is
    reported. -/
theorem Reference.Verbatim.renderField_empty :
    renderField .empty card true start reference =
      ⟨Token.textAll (Content.field reference).tokens,
        [nameProblem .unknownField reference (start + 2)]⟩ := by
  obtain ⟨transformers, resolved⟩ := exists_resolveTransformers h.known
  have body : fieldBody .empty card reference = Token.textAll (Content.field reference).tokens := by
    rw [fieldBody, resolved, h.lookup_empty card]
  have problems : fieldProblems .empty card start reference =
      [nameProblem .unknownField reference (start + 2)] := by
    rw [fieldProblems, h.unknownTransformers_eq_nil, h.lookup_empty card]
    rfl
  have missing : missingOrdinal .empty card start reference = [] := by
    rw [missingOrdinal, resolved, h.lookup_empty card]
  show Output.mk _ _ = _
  rw [body, problems, missing]
  rfl

omit h

/-- The tag of a reference that begins at the byte `start`. -/
def Reference.fieldTag (above : List (Tree Kind)) (start : Nat) (reference : Reference) :
    Tree.Occurrence Kind :=
  ⟨(Content.field reference).tree :: above, start,
    .node .selfClosingTag (Token.tagStart.leaf :: (reference.trees ++ [selfCloseLeaf]))⟩

theorem warnsOf_fieldTag (above : List (Tree Kind)) (start : Nat) (reference : Reference) :
    WarnsOf (reference.fieldTag above start) (nameProblem .unknownField reference (start + 2)) := by
  let before := Token.tagStart.leaf :: transformerTrees reference.transformers
  have place : start + Tree.sizeAll before =
      afterTransformers (start + 2) reference.transformers := by
    rw [afterTransformers, ← textAll_transformerTrees, ← Tree.sizeAll_eq, Nat.add_assoc]
    rfl
  have size : (nameTree reference.name).size = reference.name.size := rfl
  have text : (nameTree reference.name).text = reference.name := List.append_nil _
  refine ⟨before, nameTree reference.name, [selfCloseLeaf], ?_, rfl, ?_⟩
  · simp [before, Reference.fieldTag, Tree.children, Reference.trees]
  · show _ = Diagnostic.report _ ⟨start + Tree.sizeAll before, _⟩ _
    rw [place, size, text]
    rfl

end References

/-! ## Contents in a row -/

/-- Texts and references are shown as they are written. -/
theorem body_renderAll {contents : List Content} (h : ∀ content ∈ contents, content.Verbatim)
    (card : Card) (start : Nat) :
    (renderAll .empty card true start contents).body =
      Token.textAll (Content.tokensAll contents) := by
  induction contents generalizing start with
  | nil => rfl
  | cons content rest ih =>
    obtain ⟨first, later⟩ := List.forall_mem_cons.1 h
    have body : (render .empty card true start content).body = Token.textAll content.tokens := by
      cases first with
      | plain => exact (List.append_nil _).symm
      | field known => rw [render, known.renderField_empty]
    rw [Content.tokensAll, Token.textAll_append, ← body, ← ih later (start + content.size)]
    rfl

theorem fieldTags_cons (above : List (Tree Kind)) (start : Nat) (content : Content)
    (rest : List Content) :
    fieldTags above start (Content.treeAll (content :: rest)) =
      fieldTags above start [content.tree] ++
        fieldTags above (start + content.size) (Content.treeAll rest) := by
  rw [← size_tree]
  simp only [fieldTags, Content.treeAll, Tree.occurrencesAll, List.filter_append, List.append_nil]

theorem fieldTags_node {kind : Kind} (h : kind ≠ .selfClosingTag) (above : List (Tree Kind))
    (start : Nat) (children : List (Tree Kind)) :
    fieldTags above start [.node kind children] =
      fieldTags (.node kind children :: above) start children := by
  have other : ¬ decide (kind = .selfClosingTag) = true := mt of_decide_eq_true h
  show List.filter _ (_ :: Tree.occurrencesAll _ _ _ ++ []) = _
  rw [List.append_nil]
  exact List.filter_cons_of_neg other

theorem fieldTags_field (above : List (Tree Kind)) (start : Nat) (reference : Reference) :
    fieldTags above start [(Content.field reference).tree] = [reference.fieldTag above start] := by
  have inside (above : List (Tree Kind)) : fieldTags above start
      (Token.tagStart.leaf :: (reference.trees ++ [selfCloseLeaf])) = [] := by
    refine List.filter_eq_nil_iff.2 fun o mem tag => ?_
    have node := List.mem_map_of_mem (f := Tree.Occurrence.tree) mem
    rw [Tree.map_tree_occurrencesAll] at node
    have other : HoldsInTag (· ≠ .selfClosingTag) := ⟨nofun, nofun⟩
    exact reference.nodesAre_fieldTag other o.tree node (of_decide_eq_true tag)
  rw [Content.tree, fieldTags_node (by decide)]
  show List.filter _ (_ :: Tree.occurrencesAll _ _ _ ++ []) = _
  rw [List.append_nil, List.filter_cons_of_pos rfl]
  exact congrArg _ (inside _)

/-- Each reference is reported once, from left to right. -/
theorem warnsOf_renderAll {contents : List Content} (h : ∀ content ∈ contents, content.Verbatim)
    (card : Card) (above : List (Tree Kind)) (start : Nat) :
    List.Forall₂ WarnsOf (fieldTags above start (Content.treeAll contents))
      (renderAll .empty card true start contents).diagnostics := by
  induction contents generalizing start with
  | nil => exact .nil
  | cons content rest ih =>
    obtain ⟨first, later⟩ := List.forall_mem_cons.1 h
    rw [fieldTags_cons, renderAll, Output.diagnostics_append]
    refine List.rel_append ?_ (ih later (start + content.size))
    cases first with
    | plain => exact .nil
    | @field reference known =>
      rw [fieldTags_field, render, known.renderField_empty]
      exact .cons (warnsOf_fieldTag above start reference) .nil

theorem errors_of_warnsOf {tags : List (Tree.Occurrence Kind)} {diagnostics : Diagnostics}
    (h : List.Forall₂ WarnsOf tags diagnostics) : diagnostics.errors = [] := by
  induction h with
  | nil => rfl
  | cons warns _ ih =>
    obtain ⟨_, _, _, _, _, rfl⟩ := warns
    exact ih

/-- What is reported of references comes from left to right. -/
theorem pairwise_renderAll {contents : List Content} (h : ∀ content ∈ contents, content.Verbatim)
    (card : Card) (start : Nat) :
    (renderAll .empty card true start contents).diagnostics.Pairwise
        (fun a b => a.span.start < b.span.start) ∧
      ∀ diagnostic ∈ (renderAll .empty card true start contents).diagnostics,
        start < diagnostic.span.start := by
  induction contents generalizing start with
  | nil => exact ⟨.nil, nofun⟩
  | cons content rest ih =>
    obtain ⟨first, later⟩ := List.forall_mem_cons.1 h
    obtain ⟨order, behind⟩ := ih later (start + content.size)
    rw [renderAll, Output.diagnostics_append]
    cases first with
    | plain =>
      refine ⟨order, fun diagnostic mem => Nat.lt_of_le_of_lt ?_ (behind diagnostic mem)⟩
      exact Nat.le_add_right _ _
    | @field reference known =>
      rw [render, known.renderField_empty]
      have first := le_start_nameSpan reference (start + 2)
      have last := stop_nameSpan reference (start + 2)
      have within : (reference.nameSpan (start + 2)).start <
          start + (Content.field reference).size := by
        rw [Span.stop] at last
        rw [Content.size]
        omega
      refine ⟨List.pairwise_cons.2 ⟨fun diagnostic mem => ?_, order⟩,
        List.forall_mem_cons.2 ⟨?_, fun diagnostic mem => ?_⟩⟩
      · exact Nat.lt_trans within (behind diagnostic mem)
      · exact Nat.lt_of_lt_of_le (by omega) first
      · exact Nat.lt_of_le_of_lt (Nat.le_add_right _ _) (behind diagnostic mem)

/-! ## Whole templates -/

/-- A template without errors and blocks, with transformers that exist and no reference to the
    question side, is the page that is made from it where there are no fields, whatever the card
    is. There are no errors, and the warnings are that the fields do not exist: one at the name
    in each tag of the tree that stands for a field, from left to right. -/
theorem compile_verbatim {limit : Nat} {source : Text}
    (h : ∀ node ∈ (parse limit source).tree.nodes, IsVerbatim node) (card : Card) :
    let document := parse limit source
    let page := document.compile .empty card
    page.body = source ∧ page.diagnostics.errors = [] ∧
      List.Forall₂ WarnsOf (fieldTags [] 0 [document.tree]) page.diagnostics ∧
      page.diagnostics.Pairwise fun a b => a.span.start < b.span.start := by
  intro document page
  have contents : ∀ content ∈ document.contents, content.Verbatim :=
    verbatim_treeAll (List.forall_mem_cons.1 h).2
  have tags : fieldTags [] 0 [document.tree] =
      fieldTags [document.tree] 0 (Content.treeAll document.contents) :=
    fieldTags_node (by decide) [] 0 _
  have warned := warnsOf_renderAll contents card [document.tree] 0
  rw [← tags] at warned
  refine ⟨?_, errors_of_warnsOf warned, warned, (pairwise_renderAll contents card 0).1⟩
  rw [show page.body = _ from body_renderAll contents card 0, tokensAll_parse, textAll_tokenize]

/-- Braces outside of tags, a transformer with blanks around it, and a field in several bytes. -/
theorem compile_verbatim_strayBraces :
    let source := "a\x7d\x7d \x7bx \x7b\x7b cloze :hint: Né\x7d\x7d\n\x7b\x7bB\x7d\x7d".toList
    let document := parse 0 source
    let page := document.compile .empty ⟨.answer, 7, none, none⟩
    (∀ node ∈ document.tree.nodes, IsVerbatim node) ∧
      page.body = source ∧ page.diagnostics.errors = [] ∧
      List.Forall₂ WarnsOf (fieldTags [] 0 [document.tree]) page.diagnostics ∧
      page.diagnostics.map (·.message) =
        ["unknown field `Né`, rendered as text".toList,
          "unknown field `B`, rendered as text".toList] := by
  intro source document page
  have plain : ∀ node ∈ document.tree.nodes, IsVerbatim node := by decide +kernel
  obtain ⟨body, errors, warned, -⟩ := compile_verbatim plain ⟨.answer, 7, none, none⟩
  exact ⟨plain, body, errors, warned, by decide +kernel⟩

end Template

end Flashcard
