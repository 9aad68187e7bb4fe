import Flashcard.Proofs.Syntax.Walk
import Flashcard.Proofs.Template.Leaf
import Flashcard.Proofs.Template.StackReading
import Flashcard.Proofs.Template.TagNodes

/-!
# What the tree of a template shows

An element with an open tag shows that a block is pushed, a close tag that a block is
popped, and an error node that a tag is rejected. Nodes that are malformed as a whole
show nothing more than the error right above them.

Results:
* `shown_malformed`: a malformed part shows that its tag is rejected.
* `shown_treeAll`: what the nodes of contents show is what happens in them.
-/

namespace Flashcard.Template

/-! ## What nodes show -/

/-- The name in a tag, without the spaces around it. -/
def tagName (tag : Tree Kind) : Text :=
  ((tag.children.find? (·.kind = .tagName)).map fun name => Unicode.trim name.text).getD []

/-- The block that the open tag among some nodes opens; they begin at the byte
    `start`. -/
def openTag? (start : Nat) : List (Tree Kind) → Option OpenBlock
  | [] => none
  | tree :: rest =>
    if tree.kind = .openTag then some ⟨⟨start, tree.size⟩, tagName tree⟩
    else openTag? (start + tree.size) rest

/-- The block that an element with an open tag is, unless it is malformed as a
    whole. -/
def opened? (node : Tree.Placement Kind) : Option OpenBlock :=
  if node.tree.kind = .element ∧ node.parent.1 ≠ .error then
    openTag? node.start node.tree.children
  else none

/-- The tag that is malformed right below an error node. -/
def rejectedShape? : List (Tree Kind) → Option Shape
  | [.node .element [.node .openTag _]] => some .openTag
  | [.node .element [.node .selfClosingTag _]] => some .selfClosingTag
  | [.node .closeTag _] => some .closeTag
  | _ => none

/-- What a node shows: an element with an open tag, a close tag that is not malformed
    as a whole, or an error. -/
def event? (node : Tree.Placement Kind) : Option Event :=
  match node.tree.kind with
  | .element => (opened? node).map .push
  | .closeTag =>
    if node.parent.1 ≠ .error then some (.pop node.parent.2 node.start (tagName node.tree))
    else none
  | .error =>
    some (.reject node.parent node.start (rejectedShape? node.tree.children) node.tree.tokens)
  | _ => none

/-- What nodes of a template show, in order. -/
def shown (nodes : List (Tree.Placement Kind)) : List Event := nodes.filterMap event?

theorem shown_append (a b : List (Tree.Placement Kind)) : shown (a ++ b) = shown a ++ shown b :=
  List.filterMap_append

/-! ## Nodes that show nothing -/

/-- Nodes of a kind that shows nothing. -/
def IsQuiet (kind : Kind) : Prop := kind ≠ .element ∧ kind ≠ .closeTag ∧ kind ≠ .error

/-- All nodes of some trees are of such a kind. -/
def Quiet (trees : List (Tree Kind)) : Prop := ∀ tree ∈ Tree.nodesAll trees, IsQuiet tree.kind

theorem event?_of_isQuiet {node : Tree.Placement Kind} (h : IsQuiet node.tree.kind) :
    event? node = none := by
  obtain ⟨noElement, noCloseTag, noError⟩ := h
  rw [event?]
  split
  · rename_i kind
    exact absurd kind noElement
  · rename_i kind
    exact absurd kind noCloseTag
  · rename_i kind
    exact absurd kind noError
  · rfl

theorem Quiet.shown_eq_nil {trees : List (Tree Kind)} (h : Quiet trees) (parent : Kind × Nat)
    (start : Nat) : shown (Tree.placementsAll parent start trees) = [] := by
  rw [shown, List.filterMap_eq_nil_iff]
  intro node mem
  exact event?_of_isQuiet (h node.tree (Tree.mem_nodesAll_of_mem_placementsAll mem))

theorem isQuiet_inTag : HoldsInTag IsQuiet := ⟨⟨nofun, nofun, nofun⟩, ⟨nofun, nofun, nofun⟩⟩

/-! ## Open tags and close tags -/

theorem find?_transformerTrees (transformers : List Text) :
    (transformerTrees transformers).find? (·.kind = .tagName) = none := by
  induction transformers with
  | nil => rfl
  | cons name transformers ih => exact ih

/-- The open tag of a block. -/
def openTagTree (condition : Condition) (reference : Reference) : Tree Kind :=
  .node .openTag (Token.tagStart.leaf :: condition.token.leaf ::
    (reference.trees ++ [Token.tagEnd.leaf]))

/-- The close tag with a name. -/
def closeTagTree (name : Text) : Tree Kind :=
  .node .closeTag [Token.closeTagStart.leaf, nameTree name, Token.tagEnd.leaf]

theorem tagName_openTagTree (condition : Condition) (reference : Reference) :
    tagName (openTagTree condition reference) = Unicode.trim reference.name := by
  have found : (openTagTree condition reference).children.find? (·.kind = .tagName) =
      some (nameTree reference.name) := by
    have mark : condition.token.leaf.kind ≠ .tagName := by cases condition <;> nofun
    rw [openTagTree, Tree.children, List.find?_cons_of_neg (by decide),
      List.find?_cons_of_neg (by simpa using mark), Reference.trees, List.append_assoc,
      List.find?_append, find?_transformerTrees]
    rfl
  rw [tagName, found]
  simp [nameTree, Token.text]

theorem tagName_closeTagTree (name : Text) : tagName (closeTagTree name) = Unicode.trim name := by
  have found : (closeTagTree name).children.find? (·.kind = .tagName) = some (nameTree name) := rfl
  rw [tagName, found]
  simp [nameTree, Token.text]

theorem size_openTagTree (condition : Condition) (reference : Reference) (start : Nat) :
    (openTagTree condition reference).size = (reference.openTagSpan start).size := by
  have text : (openTagTree condition reference).text =
      Token.textAll (.tagStart :: condition.token :: (reference.tokens ++ [.tagEnd])) := by
    simp [openTagTree, reference.textAll_trees]
  rw [Tree.size_eq, text, ← span_openTag start condition reference]
  rfl

theorem size_tree (content : Content) : content.tree.size = content.size := by
  rw [Tree.size_eq, content.text_tree, content.size_eq]

theorem sizeAll_treeAll (contents : List Content) :
    Tree.sizeAll (Content.treeAll contents) = Content.sizeAll contents := by
  rw [Tree.sizeAll_eq, Content.textAll_treeAll, Content.sizeAll_eq]

theorem Content.kind_tree_ne (content : Content) : content.tree.kind ≠ .closeTag := by
  cases content with
  | malformed part => cases part <;> nofun
  | _ => nofun

/-! ## What contents show -/

/-- An element that is not malformed as a whole opens what its open tag does. -/
theorem opened?_element {parent : Kind × Nat} (h : parent.1 ≠ .error) (start : Nat)
    (children : List (Tree Kind)) :
    opened? ⟨parent, start, .node .element children⟩ = openTag? start children :=
  if_pos ⟨rfl, h⟩

theorem event?_element {parent : Kind × Nat} (h : parent.1 ≠ .error) (start : Nat)
    (children : List (Tree Kind)) :
    event? ⟨parent, start, .node .element children⟩ = (openTag? start children).map .push := by
  rw [← opened?_element h]
  rfl

/-- Nothing is shown by the element right below an error node. -/
theorem shown_malformedElement (start : Nat) {children : List (Tree Kind)} (h : Quiet children) :
    shown (Tree.placementsAll (.error, start) start [.node .element children]) = [] := by
  have opened : opened? ⟨(.error, start), start, .node .element children⟩ = none :=
    if_neg fun both => both.2 rfl
  have element : event? ⟨(.error, start), start, .node .element children⟩ = none := by
    show (opened? ⟨(.error, start), start, .node .element children⟩).map Event.push = none
    rw [opened]
    rfl
  rw [Tree.placementsAll, Tree.placementsAll, List.append_nil, Tree.placements, shown,
    List.filterMap_cons_none element]
  exact h.shown_eq_nil _ _

theorem shown_malformedCloseTag (start : Nat) {children : List (Tree Kind)} (h : Quiet children) :
    shown (Tree.placementsAll (.error, start) start [.node .closeTag children]) = [] := by
  have closeTag : event? ⟨(.error, start), start, .node .closeTag children⟩ = none := rfl
  rw [Tree.placementsAll, Tree.placementsAll, List.append_nil, Tree.placements, shown,
    List.filterMap_cons_none closeTag]
  exact h.shown_eq_nil _ _

theorem rejectedShape?_leaves (tokens : List Token) :
    rejectedShape? (tokens.map Token.leaf) = none := by
  cases tokens with
  | nil => rfl
  | cons token rest => cases rest <;> rfl

/-- A malformed part shows that its tag is rejected. -/
theorem shown_malformed (part : Malformed) (parent : Kind × Nat) (start : Nat) :
    shown (Tree.placements parent start part.tree) =
      [.reject parent start part.shape? (part.tokens.map Token.pair)] := by
  have tokens := part.tokens_tree
  have error {children : List (Tree Kind)} (tree : part.tree = .node .error children)
      (shape : rejectedShape? children = part.shape?)
      (inside : shown (Tree.placementsAll (.error, start) start children) = []) :
      shown (Tree.placements parent start part.tree) =
        [.reject parent start part.shape? (part.tokens.map Token.pair)] := by
    rw [tree] at tokens ⊢
    have here : event? ⟨parent, start, .node .error children⟩ =
        some (.reject parent start (rejectedShape? children) (Tree.node .error children).tokens) :=
      rfl
    rw [Tree.placements, shown, List.filterMap_cons_some here, shape, tokens]
    exact congrArg _ inside
  cases part with
  | stray token => exact error rfl rfl rfl
  | overflow rest =>
    exact error rfl (rejectedShape?_leaves rest) (Quiet.shown_eq_nil (nodesAre_leaves rest) _ _)
  | closeTag name tail =>
    exact error rfl rfl (shown_malformedCloseTag start (nodesAre_closeTag isQuiet_inTag name tail))
  | field tag =>
    have inside : Quiet [.node .selfClosingTag (Token.tagStart.leaf :: tag.trees)] :=
      NodesAre.node ⟨nofun, nofun, nofun⟩ (.leaf .tagStart (tag.nodesAre_trees isQuiet_inTag))
    exact error rfl rfl (shown_malformedElement start inside)
  | block condition tag =>
    have inside : Quiet [.node .openTag
        (Token.tagStart.leaf :: condition.token.leaf :: tag.trees)] :=
      NodesAre.node ⟨nofun, nofun, nofun⟩
        (.leaf .tagStart (.leaf condition.token (tag.nodesAre_trees isQuiet_inTag)))
    exact error rfl rfl (shown_malformedElement start inside)

/-- What is shown right inside an element by the close tag with a name. -/
theorem shown_closeTrees (opened start : Nat) (close : Option Text) :
    shown (Tree.placementsAll (.element, opened) start (closeTrees close)) =
      (close.map fun name => .pop opened start (Unicode.trim name)).toList := by
  cases close with
  | none => rfl
  | some name =>
    have pop : event? ⟨(.element, opened), start, closeTagTree name⟩ =
        some (.pop opened start (Unicode.trim name)) := by
      show some (Event.pop opened start (tagName (closeTagTree name))) = _
      rw [tagName_closeTagTree]
    have inside : Quiet (closeTagTree name).children :=
      nodesAre_closeTag isQuiet_inTag (some name) [.tagEnd]
    show shown (⟨(.element, opened), start, closeTagTree name⟩ ::
      (Tree.placementsAll (.closeTag, start) start (closeTagTree name).children ++ [])) = _
    rw [List.append_nil, shown, List.filterMap_cons_some pop]
    exact congrArg _ (inside.shown_eq_nil _ _)

theorem openTag?_openTagTree (start : Nat) (condition : Condition) (reference : Reference)
    (rest : List (Tree Kind)) :
    openTag? start (openTagTree condition reference :: rest) = some (reference.opened start) := by
  rw [openTag?, if_pos (show (openTagTree condition reference).kind = .openTag from rfl),
    size_openTagTree condition reference start, tagName_openTagTree]
  rfl

theorem sizeAll_openTagTree (start : Nat) (condition : Condition) (reference : Reference) :
    start + Tree.sizeAll [openTagTree condition reference] =
      (reference.openTagSpan start).stop := by
  rw [Tree.sizeAll, Tree.sizeAll, Nat.add_zero, size_openTagTree condition reference start]
  rfl

theorem quiet_openTagTree (condition : Condition) (reference : Reference) :
    Quiet [openTagTree condition reference] :=
  NodesAre.node ⟨nofun, nofun, nofun⟩ (reference.nodesAre_openTag isQuiet_inTag condition)

theorem quiet_fieldTag (reference : Reference) :
    Quiet [.node .selfClosingTag (Token.tagStart.leaf :: (reference.trees ++ [selfCloseLeaf]))] :=
  NodesAre.node ⟨nofun, nofun, nofun⟩ (reference.nodesAre_fieldTag isQuiet_inTag)

mutual

/-- What the nodes of a content show is what happens in the content. -/
theorem shown_tree {parent : Kind × Nat} (h : parent.1 ≠ .error) (start : Nat) :
    (content : Content) →
      shown (Tree.placements parent start content.tree) = content.events parent start
  | .plain text => rfl
  | .field reference => by
    rw [Content.tree, Tree.placements, shown,
      List.filterMap_cons_none (event?_element h start _)]
    exact (quiet_fieldTag reference).shown_eq_nil _ _
  | .block condition reference contents close => by
    have tag := openTag?_openTagTree start condition reference
      (Content.treeAll contents ++ closeTrees close)
    have here := event?_element h start
      (openTagTree condition reference :: (Content.treeAll contents ++ closeTrees close))
    rw [tag] at here
    have inside : shown (Tree.placementsAll (.element, start) (reference.openTagSpan start).stop
        (Content.treeAll contents)) = _ :=
      shown_treeAll (show Kind.element ≠ .error from nofun) _ contents
    have below : shown (Tree.placementsAll (.element, start) start
        ([openTagTree condition reference] ++ (Content.treeAll contents ++ closeTrees close))) =
          Content.eventsAll (.element, start) (reference.openTagSpan start).stop contents ++
            (close.map fun name => .pop start ((reference.openTagSpan start).stop +
              Content.sizeAll contents) (Unicode.trim name)).toList := by
      rw [Tree.placementsAll_append, shown_append,
        (quiet_openTagTree condition reference).shown_eq_nil, List.nil_append, sizeAll_openTagTree,
        Tree.placementsAll_append, shown_append, inside, sizeAll_treeAll, shown_closeTrees]
    show shown (⟨parent, start, .node .element (openTagTree condition reference ::
      (Content.treeAll contents ++ closeTrees close))⟩ ::
        Tree.placementsAll (.element, start) start ([openTagTree condition reference] ++
          (Content.treeAll contents ++ closeTrees close))) = _
    rw [shown, List.filterMap_cons_some here]
    exact congrArg _ below
  | .malformed part => shown_malformed part parent start

/-- What the nodes of contents in a row show is what happens in the contents. -/
theorem shown_treeAll {parent : Kind × Nat} (h : parent.1 ≠ .error) (start : Nat) :
    (contents : List Content) →
      shown (Tree.placementsAll parent start (Content.treeAll contents)) =
        Content.eventsAll parent start contents
  | [] => rfl
  | content :: rest => by
    rw [Content.treeAll, Tree.placementsAll, shown_append, shown_tree h start content, size_tree,
      shown_treeAll h (start + content.size) rest, Content.eventsAll]

end

end Flashcard.Template
