import Flashcard.Proofs.Template.Blocks
import Flashcard.Proofs.Template.Solid

/-!
# Anchors of problems

A problem of a template is a problem of a tag: of one that stands for a field, of one that
opens a block, or of a part that is malformed and so is an error node. These nodes are the
anchors of the tree. They follow each other without overlap, but for the tag of a malformed
part, which fills its error node.

Results:
* `filter_walk`: the anchors met in the tree of a template are those of its contents.
* `inRow_anchorsAll`: they lie one behind the other.
* `size_pos_anchorsAll`: they are not empty.
* `path_error_anchorsAll`: error nodes stand in blocks, and never below each other.
-/

namespace Flashcard

namespace Template

/-! ## Anchors -/

/-- Nodes of this kind are anchors. -/
def Kind.isAnchor : Kind → Bool
  | error | openTag | selfClosingTag => true
  | _ => false

/-- A visited anchor. -/
def isAnchor (visit : Tree.Visit Kind) : Bool := visit.isNode && visit.kind.isAnchor

/-- The tag inside a malformed part, if it is an anchor: the nodes around it, innermost first,
    and its kind. -/
def Malformed.tag? : Malformed → Option (List Kind × Kind)
  | field _ => some ([.element, .error], .selfClosingTag)
  | block _ _ => some ([.element, .error], .openTag)
  | stray _ | closeTag _ _ | overflow _ => none

/-- Range of a malformed part that begins at the byte `start`. -/
def Malformed.span (part : Malformed) (start : Nat) : Span :=
  ⟨start, (Token.textAll part.tokens).size⟩

/-- Anchors of a malformed part: its error node, and the tag that fills it. -/
def Malformed.anchors (path : List Kind) (start : Nat) (part : Malformed) :
    List (Tree.Visit Kind) :=
  ⟨path, .error, part.span start, none⟩ ::
    part.tag?.toList.map fun (inside, kind) => ⟨inside ++ path, kind, part.span start, none⟩

namespace Content

mutual

/-- Anchors of a content that begins at the byte `start`. -/
def anchors (path : List Kind) (start : Nat) : Content → List (Tree.Visit Kind)
  | plain _ => []
  | field reference =>
    [⟨.element :: path, .selfClosingTag, ⟨start, (field reference).size⟩, none⟩]
  | block _ reference contents _ =>
    ⟨.element :: path, .openTag, reference.openTagSpan start, none⟩ ::
      anchorsAll (.element :: path) (reference.openTagSpan start).stop contents
  | malformed part => part.anchors path start

/-- Anchors of contents in a row. -/
def anchorsAll (path : List Kind) (start : Nat) : List Content → List (Tree.Visit Kind)
  | [] => []
  | content :: rest => content.anchors path start ++ anchorsAll path (start + content.size) rest

end

end Content

/-! ## Anchors in trees -/

/-- Nodes of a kind that is no anchor. -/
def NoAnchor (kind : Kind) : Prop := kind.isAnchor = false

theorem noAnchor_inTag : HoldsInTag NoAnchor := ⟨rfl, rfl⟩

theorem filter_visitsAll_noAnchor {trees : List (Tree Kind)} (h : NodesAre NoAnchor trees)
    (path : List Kind) (start : Nat) : (Tree.visitsAll path start trees).filter isAnchor = [] := by
  rw [List.filter_eq_nil_iff]
  intro visit mem anchor
  obtain ⟨node, isAnchor⟩ := Bool.and_eq_true_iff.1 anchor
  have visited : visit.kind ∈ (Tree.nodesAll trees).map Tree.kind := by
    rw [← Tree.map_kind_visitsAll path start]
    exact List.mem_map_of_mem (List.mem_filter.2 ⟨mem, node⟩)
  obtain ⟨tree, found, kind⟩ := List.mem_map.1 visited
  rw [← kind, h tree found] at isAnchor
  cases isAnchor

theorem filter_visits_node {kind : Kind} (anchor : kind.isAnchor = true)
    {children : List (Tree Kind)} (inside : NodesAre NoAnchor children) (path : List Kind)
    (start : Nat) : (Tree.visits path start (.node kind children)).filter isAnchor =
      [⟨path, kind, ⟨start, Tree.sizeAll children⟩, none⟩] := by
  rw [Tree.visits, List.filter_cons_of_pos, filter_visitsAll_noAnchor inside]
  simp [isAnchor, Tree.Visit.isNode, anchor]

/-- The anchors of a malformed part are met in its tree. -/
theorem filter_visits_malformed (path : List Kind) (start : Nat) (part : Malformed) :
    (Tree.visits path start part.tree).filter isAnchor = part.anchors path start := by
  have size : part.tree.size = (Token.textAll part.tokens).size := by
    rw [Tree.size_eq, part.text_tree]
  have error {children : List (Tree Kind)} (tree : part.tree = .node .error children)
      (none : part.tag? = none) (inside : NodesAre NoAnchor children) :
      (Tree.visits path start part.tree).filter isAnchor = part.anchors path start := by
    rw [tree] at size ⊢
    rw [filter_visits_node rfl inside, Malformed.anchors, none, Malformed.span, ← size]
    rfl
  have filled {kind : Kind} {children : List (Tree Kind)}
      (tree : part.tree = .node .error [.node .element [.node kind children]])
      (anchor : kind.isAnchor = true) (tag : part.tag? = some ([.element, .error], kind))
      (inside : NodesAre NoAnchor children) :
      (Tree.visits path start part.tree).filter isAnchor = part.anchors path start := by
    have same : Tree.sizeAll children = (Token.textAll part.tokens).size := by
      rw [← size, tree]
      rfl
    have below := filter_visits_node anchor inside (.element :: .error :: path) start
    rw [tree, Malformed.anchors, tag, Malformed.span, ← same, Option.toList_some, List.map_cons]
    simp only [Tree.visits, Tree.visitsAll, List.append_nil] at below ⊢
    rw [List.filter_cons_of_pos rfl, List.filter_cons_of_neg Bool.false_ne_true, below]
    rfl
  cases part with
  | stray token => exact error rfl rfl (nodesAre_leaves [token])
  | overflow tokens => exact error rfl rfl (nodesAre_leaves tokens)
  | closeTag name tail =>
    exact error rfl rfl (.node rfl (nodesAre_closeTag noAnchor_inTag name tail))
  | field tag => exact filled rfl rfl rfl (.leaf .tagStart (tag.nodesAre_trees noAnchor_inTag))
  | block condition tag =>
    exact filled rfl rfl rfl
      (.leaf .tagStart (.leaf condition.token (tag.nodesAre_trees noAnchor_inTag)))

theorem filter_visits_openTagTree (path : List Kind) (start : Nat) (condition : Condition)
    (reference : Reference) :
    (Tree.visits path start (openTagTree condition reference)).filter isAnchor =
      [⟨path, .openTag, reference.openTagSpan start, none⟩] := by
  have span : (⟨start, (openTagTree condition reference).size⟩ : Span) =
      reference.openTagSpan start := by
    rw [size_openTagTree condition reference start]
    rfl
  rw [← span]
  exact filter_visits_node rfl (reference.nodesAre_openTag noAnchor_inTag condition) path start

mutual

/-- The anchors met in the tree of a content are those of the content. -/
theorem filter_visits (path : List Kind) (start : Nat) : (content : Content) →
    (Tree.visits path start content.tree).filter isAnchor = content.anchors path start
  | .plain _ => rfl
  | .field reference => by
    have size := size_tree (.field reference)
    have inside := reference.nodesAre_fieldTag noAnchor_inTag
    have tag := @filter_visits_node .selfClosingTag rfl _ inside (.element :: path) start
    rw [Content.anchors, ← size, Content.tree, Tree.visits, Tree.visitsAll, Tree.visitsAll,
      List.append_nil, List.filter_cons_of_neg Bool.false_ne_true]
    exact tag
  | .block condition reference contents close => by
    have tag := filter_visits_openTagTree (.element :: path) start condition reference
    have inside := filter_visitsAll (.element :: path) (reference.openTagSpan start).stop contents
    have stop := sizeAll_openTagTree start condition reference
    have children : (Content.block condition reference contents close).tree =
        .node .element ([openTagTree condition reference] ++
          (Content.treeAll contents ++ closeTrees close)) := rfl
    rw [children, Tree.visits, List.filter_cons_of_neg Bool.false_ne_true, Tree.visitsAll_append,
      List.filter_append, stop, Tree.visitsAll_append, List.filter_append, inside,
      filter_visitsAll_noAnchor (nodesAre_closeTrees noAnchor_inTag rfl close), List.append_nil,
      Tree.visitsAll, Tree.visitsAll, List.append_nil, tag, Content.anchors]
    rfl
  | .malformed part => filter_visits_malformed path start part

theorem filter_visitsAll (path : List Kind) (start : Nat) : (contents : List Content) →
    (Tree.visitsAll path start (Content.treeAll contents)).filter isAnchor =
      Content.anchorsAll path start contents
  | [] => rfl
  | content :: rest => by
    rw [Content.treeAll, Tree.visitsAll, List.filter_append, filter_visits path start content,
      size_tree, filter_visitsAll path (start + content.size) rest, Content.anchorsAll]

end

/-- The anchors met in the tree of a template are those of its contents. -/
theorem Document.filter_walk (document : Document) :
    document.tree.walk.filter isAnchor = Content.anchorsAll [.document] 0 document.contents := by
  rw [tree, Tree.walk, Tree.visits, List.filter_cons_of_neg Bool.false_ne_true, filter_visitsAll]

/-! ## How anchors lie to each other -/

/-- One anchor ends before the other one begins, or it is the error node that the other one
    fills. -/
def Separate (first second : Tree.Visit Kind) : Prop :=
  first.span.stop ≤ second.span.start ∨
    first.kind = .error ∧ second.kind ≠ .error ∧ first.span = second.span

/-- Anchors between two bytes, one behind the other. -/
structure InRow (start stop : Nat) (anchors : List (Tree.Visit Kind)) : Prop where
  separate : anchors.Pairwise Separate
  bounds : ∀ anchor ∈ anchors, start ≤ anchor.span.start ∧ anchor.span.stop ≤ stop

theorem InRow.nil (start stop : Nat) : InRow start stop [] := ⟨.nil, nofun⟩

theorem InRow.append {start middle stop : Nat} {a b : List (Tree.Visit Kind)}
    (ha : InRow start middle a) (hb : InRow middle stop b) (hs : start ≤ middle)
    (ht : middle ≤ stop) : InRow start stop (a ++ b) := by
  constructor
  · refine List.pairwise_append.2 ⟨ha.separate, hb.separate, ?_⟩
    intro first before second behind
    exact .inl (Nat.le_trans (ha.bounds first before).2 (hb.bounds second behind).1)
  · intro anchor mem
    obtain before | behind := List.mem_append.1 mem
    · have := ha.bounds anchor before
      omega
    · have := hb.bounds anchor behind
      omega

theorem InRow.widen {start stop first last : Nat} {anchors : List (Tree.Visit Kind)}
    (h : InRow start stop anchors) (hf : first ≤ start) (hl : stop ≤ last) :
    InRow first last anchors := by
  refine ⟨h.separate, fun anchor mem => ?_⟩
  have := h.bounds anchor mem
  omega

theorem inRow_singleton (path : List Kind) (kind : Kind) (start size : Nat) :
    InRow start (start + size) [⟨path, kind, ⟨start, size⟩, none⟩] := by
  refine ⟨List.pairwise_singleton _ _, ?_⟩
  intro anchor mem
  rw [List.mem_singleton.1 mem]
  exact ⟨Nat.le_refl _, Nat.le_refl _⟩

theorem inRow_malformed (path : List Kind) (start : Nat) (part : Malformed) :
    InRow start (start + (Content.malformed part).size) (part.anchors path start) := by
  have filled (inside : List Kind) {kind : Kind} (tag : kind ≠ .error) :
      InRow start (start + (Content.malformed part).size)
        [⟨path, .error, part.span start, none⟩,
          ⟨inside ++ path, kind, part.span start, none⟩] := by
    constructor
    · exact List.pairwise_pair.2 (.inr ⟨rfl, tag, rfl⟩)
    · simp [Malformed.span, Span.stop, Content.size]
  cases part with
  | field tag => exact filled [.element, .error] (by decide)
  | block condition tag => exact filled [.element, .error] (by decide)
  | stray _ | closeTag _ _ | overflow _ => exact inRow_singleton path .error start _

mutual

/-- The anchors of a content lie inside it, one behind the other. -/
theorem inRow_anchors (path : List Kind) (start : Nat) : (content : Content) →
    InRow start (start + content.size) (content.anchors path start)
  | .plain _ => .nil _ _
  | .field reference => inRow_singleton (.element :: path) .selfClosingTag start _
  | .block condition reference contents close => by
    have tag := inRow_singleton (.element :: path) .openTag start
      (reference.openTagSpan start).size
    have inside := inRow_anchorsAll (.element :: path) (reference.openTagSpan start).stop contents
    have stop := Content.stop_le condition reference contents close start
    exact tag.append (inside.widen (Nat.le_refl _) stop) (Nat.le_add_right _ _)
      (Nat.le_trans (Nat.le_add_right _ _) stop)
  | .malformed part => inRow_malformed path start part

/-- The anchors of contents in a row lie inside them, one behind the other. -/
theorem inRow_anchorsAll (path : List Kind) (start : Nat) : (contents : List Content) →
    InRow start (start + Content.sizeAll contents) (Content.anchorsAll path start contents)
  | [] => .nil _ _
  | content :: rest => by
    have first := inRow_anchors path start content
    have later := inRow_anchorsAll path (start + content.size) rest
    rw [Nat.add_assoc] at later
    rw [Content.sizeAll, Content.anchorsAll]
    exact first.append later (Nat.le_add_right _ _) (by omega)

end

/-! ## Anchors are not empty -/

theorem Malformed.span_anchors {path : List Kind} {start : Nat} {part : Malformed}
    {anchor : Tree.Visit Kind} (h : anchor ∈ part.anchors path start) :
    anchor.span = part.span start := by
  obtain rfl | tag := List.mem_cons.1 h
  · rfl
  · obtain ⟨_, -, rfl⟩ := List.mem_map.1 tag
    rfl

mutual

theorem size_pos_anchors (path : List Kind) (start : Nat) : (content : Content) →
    content.Solid → ∀ anchor ∈ content.anchors path start, 0 < anchor.span.size
  | .plain _, _ => nofun
  | .field reference, _ => by
    intro anchor mem
    rw [List.mem_singleton.1 mem]
    exact Nat.succ_pos _
  | .block condition reference contents close, .block _ inside =>
    List.forall_mem_cons.2 ⟨Nat.succ_pos _,
      size_pos_anchorsAll (.element :: path) (reference.openTagSpan start).stop contents inside⟩
  | .malformed part, .malformed nonempty => by
    intro anchor mem
    rw [Malformed.span_anchors mem]
    exact Text.size_pos nonempty

/-- The anchors of contents in a row are not empty if no part of them is. -/
theorem size_pos_anchorsAll (path : List Kind) (start : Nat) : (contents : List Content) →
    (∀ content ∈ contents, content.Solid) →
      ∀ anchor ∈ Content.anchorsAll path start contents, 0 < anchor.span.size
  | [], _ => nofun
  | content :: rest, solid => by
    obtain ⟨first, later⟩ := List.forall_mem_cons.1 solid
    exact List.forall_mem_append.2 ⟨size_pos_anchors path start content first,
      size_pos_anchorsAll path (start + content.size) rest later⟩

end

/-! ## Where error nodes stand -/

/-- Of the anchors of a malformed part only the first is an error node. -/
theorem Malformed.error_mem_anchors {path : List Kind} {start : Nat} {part : Malformed}
    {anchor : Tree.Visit Kind} (h : anchor ∈ part.anchors path start)
    (error : anchor.kind = .error) : anchor.path = path := by
  obtain rfl | tag := List.mem_cons.1 h
  · rfl
  · obtain ⟨⟨inside, kind⟩, found, rfl⟩ := List.mem_map.1 tag
    cases part with
    | field | block =>
      rw [List.mem_singleton.1 found] at error
      cases error
    | stray | closeTag | overflow => cases found

mutual

/-- Where blocks may be nested `depth` deep, an error node in a content stands in one block more
    at most. -/
theorem path_error_anchors (path : List Kind) (start : Nat) {depth : Nat} : (content : Content) →
    content.WellFormed depth → ∀ anchor ∈ content.anchors path start, anchor.kind = .error →
      ∃ blocks ≤ depth + 1, anchor.path = List.replicate blocks .element ++ path
  | .plain _, _ => nofun
  | .field _, _ => by
    intro anchor mem error
    rw [List.mem_singleton.1 mem] at error
    cases error
  | .block condition reference contents close, h => by
    refine List.forall_mem_cons.2 ⟨nofun, ?_⟩
    intro anchor mem error
    have outer (blocks : Nat) : List.replicate blocks Kind.element ++ .element :: path =
        List.replicate (blocks + 1) .element ++ path := by
      rw [List.replicate_succ', List.append_assoc, List.singleton_append]
    cases h with
    | @block depth _ _ _ _ inside =>
      obtain ⟨blocks, bound, nested⟩ :=
        path_error_anchorsAll (.element :: path) _ contents inside anchor mem error
      exact ⟨blocks + 1, Nat.succ_le_succ bound, nested.trans (outer blocks)⟩
    | @overflow _ _ tokens =>
      unfold overflowContents at mem
      split at mem
      · cases mem
      · rw [Content.anchorsAll, Content.anchorsAll, List.append_nil] at mem
        exact ⟨1, Nat.le_refl _, (Malformed.error_mem_anchors mem error).trans (outer 0)⟩
  | .malformed part, _ => by
    intro anchor mem error
    exact ⟨0, Nat.zero_le _, Malformed.error_mem_anchors mem error⟩

/-- Where blocks may be nested `depth` deep, an error node in contents in a row stands in one
    block more at most. -/
theorem path_error_anchorsAll (path : List Kind) (start : Nat) {depth : Nat} :
    (contents : List Content) → (∀ content ∈ contents, content.WellFormed depth) →
      ∀ anchor ∈ Content.anchorsAll path start contents, anchor.kind = .error →
        ∃ blocks ≤ depth + 1, anchor.path = List.replicate blocks .element ++ path
  | [], _ => nofun
  | content :: rest, h => by
    obtain ⟨wellFormed, later⟩ := List.forall_mem_cons.1 h
    exact List.forall_mem_append.2 ⟨path_error_anchors path start content wellFormed,
      path_error_anchorsAll path (start + content.size) rest later⟩

end

end Template

end Flashcard
