import Flashcard.Proofs.Template.Cutting
import Flashcard.Proofs.Template.Nesting

/-!
# The limit of nesting in the tree of a template

Up to the open tag of the first block that is nested too deeply, the tree of a template does not
depend on the limit. All tokens behind that tag are left over in one error node, the last
child of the element of that block, and no block around them has a close tag. So the limit
bounds how high a tree can be.

Results:
* `blockDepth_tree`: blocks are nested in the tree of a content as in the content.
* `isCutShort_treeAll`: the trees of contents that are cut off.
* `Content.WellFormed.height_le`: how high the trees of contents are that are read up to a limit.
* `blockLimit_parse`: the tree of a template that is parsed with a limit.
-/

namespace Flashcard.Template

/-! ## Blocks in a tree -/

mutual

/-- How deeply blocks are nested in a tree. A block is an element with an open tag; below an error
    node stand only parts of blocks. -/
def blockDepth : Tree Kind → Nat
  | .leaf _ _ => 0
  | .node kind children =>
    if kind = .error then 0
    else if kind = .element ∧ (children.head?.map Tree.kind) = some .openTag then
      blockDepthAll children + 1
    else blockDepthAll children

/-- How deeply blocks are nested in trees in a row. -/
def blockDepthAll : List (Tree Kind) → Nat
  | [] => 0
  | tree :: rest => max (blockDepth tree) (blockDepthAll rest)

end

theorem blockDepthAll_append (a b : List (Tree Kind)) :
    blockDepthAll (a ++ b) = max (blockDepthAll a) (blockDepthAll b) := by
  induction a with
  | nil => exact (Nat.zero_max _).symm
  | cons tree a ih => rw [List.cons_append, blockDepthAll, ih, blockDepthAll, Nat.max_assoc]

mutual

theorem blockDepth_of_quiet : (tree : Tree Kind) → (∀ node ∈ tree.nodes, IsQuiet node.kind) →
    blockDepth tree = 0
  | .leaf _ _, _ => rfl
  | .node kind children, h => by
    obtain ⟨noElement, -, noError⟩ : IsQuiet kind := h _ (List.mem_cons_self ..)
    have inside := blockDepthAll_of_quiet children
      fun node mem => h node (List.mem_cons_of_mem _ mem)
    rw [blockDepth, if_neg noError, if_neg fun both => noElement both.1, inside]

theorem blockDepthAll_of_quiet : (trees : List (Tree Kind)) → Quiet trees →
    blockDepthAll trees = 0
  | [], _ => rfl
  | tree :: rest, h => by
    have first := blockDepth_of_quiet tree fun node mem => h node (List.mem_append_left _ mem)
    have later := blockDepthAll_of_quiet rest fun node mem => h node (List.mem_append_right _ mem)
    rw [blockDepthAll, first, later]
    rfl

end

theorem blockDepth_openTagTree (condition : Condition) (reference : Reference) :
    blockDepth (openTagTree condition reference) = 0 := by
  have quiet := blockDepthAll_of_quiet _ (quiet_openTagTree condition reference)
  rwa [blockDepthAll, blockDepthAll, Nat.max_zero] at quiet

theorem tree_block (condition : Condition) (reference : Reference) (contents : List Content)
    (close : Option Text) :
    (Content.block condition reference contents close).tree =
      .node .element (openTagTree condition reference ::
        (Content.treeAll contents ++ closeTrees close)) := rfl

theorem blockDepth_element {tag : Tree Kind} (opens : tag.kind = .openTag)
    (inner : List (Tree Kind)) :
    blockDepth (.node .element (tag :: inner)) = blockDepthAll (tag :: inner) + 1 := by
  rw [blockDepth, if_neg (by decide), if_pos ⟨rfl, congrArg some opens⟩]

theorem blockDepthAll_closeTrees (close : Option Text) : blockDepthAll (closeTrees close) = 0 := by
  cases close <;> rfl

mutual

/-- Blocks are nested in the tree of a content as in the content. -/
theorem blockDepth_tree : (content : Content) → blockDepth content.tree = content.depth
  | .plain _ => rfl
  | .field reference => by
    rw [Content.tree, blockDepth, if_neg (by decide), if_neg (by simp [Tree.kind])]
    exact blockDepthAll_of_quiet _ (quiet_fieldTag reference)
  | .block condition reference contents close => by
    have inside := blockDepthAll_treeAll contents
    rw [tree_block, blockDepth_element rfl, blockDepthAll, blockDepthAll_append,
      blockDepth_openTagTree, blockDepthAll_closeTrees, inside, Nat.zero_max, Nat.max_zero]
    rfl
  | .malformed part => by cases part <;> rfl

/-- Blocks are nested in the trees of contents as in the contents. -/
theorem blockDepthAll_treeAll : (contents : List Content) →
    blockDepthAll (Content.treeAll contents) = Content.depthAll contents
  | [] => rfl
  | content :: rest => by
    rw [Content.treeAll, blockDepthAll, blockDepth_tree content, blockDepthAll_treeAll rest]
    rfl

end

/-! ## Trees that are cut short -/

/-- The node that holds what is left over, if anything is. -/
def leftOver (tokens : List Token) : List (Tree Kind) :=
  if tokens = [] then [] else [.node .error (tokens.map Token.leaf)]

/-- The trees can stand in front of the first block that is nested more than `room` deep, where no
    block around them is closed. -/
def StandBefore (room : Nat) (trees : List (Tree Kind)) : Prop :=
  blockDepthAll trees ≤ room ∧ ∀ tree ∈ trees, tree.kind ≠ .closeTag

theorem StandBefore.cons {room : Nat} {tree : Tree Kind} {trees : List (Tree Kind)}
    (h : StandBefore room trees) (shallow : blockDepth tree ≤ room)
    (noCloseTag : tree.kind ≠ .closeTag) : StandBefore room (tree :: trees) :=
  ⟨Nat.max_le.2 ⟨shallow, h.1⟩, List.forall_mem_cons.2 ⟨noCloseTag, h.2⟩⟩

/-- The trees `limited` in a row are the trees `whole` up to the end of the open tag of the first
    block that is nested more than `room` deep. They have the text `front` up to there. Behind
    that tag comes nothing but what is left over, the tokens `rest`. -/
inductive CutShort : (room : Nat) → (front : Text) → (rest : List Token) →
    (whole limited : List (Tree Kind)) → Prop
  /-- That block stands in the row. -/
  | here {before inner after : List (Tree Kind)} {tag : Tree Kind} {rest : List Token} :
      StandBefore 0 before → tag.kind = .openTag →
      CutShort 0 (Tree.textAll (before ++ [tag])) rest
        (before ++ .node .element (tag :: inner) :: after)
        (before ++ [.node .element (tag :: leftOver rest)])
  /-- It stands inside a block of the row. -/
  | inside {room : Nat} {before inner cut after : List (Tree Kind)} {tag : Tree Kind}
      {front : Text} {rest : List Token} :
      StandBefore (room + 1) before → tag.kind = .openTag → CutShort room front rest inner cut →
      CutShort (room + 1) (Tree.textAll (before ++ [tag]) ++ front) rest
        (before ++ .node .element (tag :: inner) :: after)
        (before ++ [.node .element (tag :: cut)])

namespace CutShort

variable {room : Nat} {front : Text} {rest : List Token} {whole limited : List (Tree Kind)}

/-- Behind what is cut off, trees are lost. -/
theorem append (h : CutShort room front rest whole limited) (more : List (Tree Kind)) :
    CutShort room front rest (whole ++ more) limited := by
  cases h with
  | here before opens =>
    rw [List.append_assoc]
    exact .here before opens
  | inside before opens inner =>
    rw [List.append_assoc]
    exact .inside before opens inner

theorem cons {tree : Tree Kind} (h : CutShort room front rest whole limited)
    (shallow : blockDepth tree ≤ room) (noCloseTag : tree.kind ≠ .closeTag) :
    CutShort room (tree.text ++ front) rest (tree :: whole) (tree :: limited) := by
  cases h with
  | here before opens => exact .here (StandBefore.cons before shallow noCloseTag) opens
  | inside before opens inner =>
    rw [← List.append_assoc]
    exact .inside (StandBefore.cons before shallow noCloseTag) opens inner

theorem standBefore_nil (room : Nat) : StandBefore room [] :=
  ⟨Nat.zero_le _, List.forall_mem_nil _⟩

/-- The block that is nested too deeply stands in front. -/
theorem first {tag : Tree Kind} (opens : tag.kind = .openTag) (inner after : List (Tree Kind))
    (rest : List Token) :
    CutShort 0 tag.text rest (.node .element (tag :: inner) :: after)
      [.node .element (tag :: leftOver rest)] := by
  have cut : CutShort 0 (Tree.textAll ([] ++ [tag])) rest
      ([] ++ .node .element (tag :: inner) :: after)
      ([] ++ [.node .element (tag :: leftOver rest)]) := .here (standBefore_nil 0) opens
  rwa [List.nil_append, Tree.textAll_cons, Tree.textAll_nil, List.append_nil] at cut

/-- A block around it stands in front. -/
theorem within {tag : Tree Kind} (h : CutShort room front rest whole limited)
    (opens : tag.kind = .openTag) (after : List (Tree Kind)) :
    CutShort (room + 1) (tag.text ++ front) rest (.node .element (tag :: whole) :: after)
      [.node .element (tag :: limited)] := by
  have cut : CutShort (room + 1) (Tree.textAll ([] ++ [tag]) ++ front) rest
      ([] ++ .node .element (tag :: whole) :: after)
      ([] ++ [.node .element (tag :: limited)]) := .inside (standBefore_nil _) opens h
  rwa [List.nil_append, Tree.textAll_cons, Tree.textAll_nil, List.append_nil] at cut

end CutShort

/-- The trees of a row with these tokens are cut short, and the tokens are split there. -/
def IsCutShort (room : Nat) (tokens : List Token) (whole limited : List (Tree Kind)) : Prop :=
  ∃ front rest : List Token, tokens = front ++ rest ∧
    CutShort room (Token.textAll front) rest whole limited

/-! ## Contents that are cut short -/

theorem treeAll_overflowContents (tokens : List Token) :
    Content.treeAll (overflowContents tokens) = leftOver tokens := by
  unfold overflowContents leftOver
  split <;> rfl

/-- Tokens of the open tag of a block. -/
def openTagTokens (condition : Condition) (reference : Reference) : List Token :=
  .tagStart :: condition.token :: (reference.tokens ++ [.tagEnd])

theorem text_openTagTree (condition : Condition) (reference : Reference) :
    (openTagTree condition reference).text =
      Token.textAll (openTagTokens condition reference) := by
  simp [openTagTree, openTagTokens, reference.textAll_trees]

theorem tokens_block (condition : Condition) (reference : Reference) (contents : List Content)
    (close : Option Text) (behind : List Token) :
    (Content.block condition reference contents close).tokens ++ behind =
      openTagTokens condition reference ++
        (Content.tokensAll contents ++ (closeTokens close ++ behind)) := by
  simp [Content.tokens, openTagTokens]

mutual

/-- The tree of a content in which blocks are nested too deeply is cut short. -/
theorem isCutShort_tree : (room : Nat) → (content : Content) → (behind : List Token) →
    room < content.depth → (after : List (Tree Kind)) →
      IsCutShort room (content.tokens ++ behind) (content.tree :: after)
        [(content.cut room behind).tree]
  | 0, .block condition reference contents close, behind, _, after => by
    rw [tokens_block, tree_block, Content.cut, tree_block, treeAll_overflowContents, closeTrees,
      List.append_nil]
    refine ⟨_, _, rfl, ?_⟩
    rw [← text_openTagTree]
    exact .first rfl _ after _
  | room + 1, .block condition reference contents close, behind, deep, after => by
    obtain ⟨front, rest, tokens, cut⟩ := isCutShort_treeAll room contents
      (closeTokens close ++ behind) (Nat.lt_of_succ_lt_succ deep)
    rw [tokens_block, tree_block, Content.cut, tree_block, closeTrees, List.append_nil, tokens,
      ← List.append_assoc]
    refine ⟨_, _, rfl, ?_⟩
    rw [Token.textAll_append, ← text_openTagTree]
    exact (cut.append (closeTrees close)).within rfl after

/-- The trees of contents in which blocks are nested too deeply are cut short. -/
theorem isCutShort_treeAll : (room : Nat) → (contents : List Content) → (behind : List Token) →
    room < Content.depthAll contents →
      IsCutShort room (Content.tokensAll contents ++ behind) (Content.treeAll contents)
        (Content.treeAll (Content.cutAll room contents behind))
  | _, [], _, deep => absurd deep (Nat.not_lt_zero _)
  | room, content :: later, behind, deep => by
    rw [Content.depthAll] at deep
    rw [Content.tokensAll, Content.treeAll, Content.cutAll, List.append_assoc]
    by_cases shallow : content.depth ≤ room
    · obtain ⟨front, rest, tokens, cut⟩ := isCutShort_treeAll room later behind (by omega)
      rw [if_pos shallow, tokens, ← List.append_assoc, Content.treeAll]
      refine ⟨_, _, rfl, ?_⟩
      rw [Token.textAll_append, ← content.text_tree]
      rw [← blockDepth_tree content] at shallow
      exact cut.cons shallow content.kind_tree_ne
    · rw [if_neg shallow]
      exact isCutShort_tree room content _ (Nat.not_le.1 shallow) _

end

/-! ## Heights -/

theorem heightAll_leaves (tokens : List Token) : Tree.heightAll (tokens.map Token.leaf) = 0 :=
  Tree.heightAll_leaves Token.kind Token.text tokens

theorem heightAll_transformerTrees_le (transformers : List Text) :
    Tree.heightAll (transformerTrees transformers) ≤ 1 := by
  induction transformers with
  | nil => exact Nat.zero_le _
  | cons name transformers ih =>
    exact Nat.max_le.2 ⟨Nat.le_refl _, Nat.max_le.2 ⟨Nat.zero_le _, ih⟩⟩

theorem heightAll_nameTrees_le (name : Option Text) :
    Tree.heightAll (name.map nameTree).toList ≤ 1 := by
  cases name with
  | none => exact Nat.zero_le _
  | some name => exact Nat.le_refl _

theorem Reference.heightAll_trees_le (reference : Reference) :
    Tree.heightAll reference.trees ≤ 1 := by
  rw [trees, Tree.heightAll_append]
  exact Nat.max_le.2 ⟨heightAll_transformerTrees_le _, Nat.le_refl 1⟩

theorem BrokenTag.heightAll_trees_le (tag : BrokenTag) : Tree.heightAll tag.trees ≤ 1 := by
  rw [trees, Tree.heightAll_append, Tree.heightAll_append, heightAll_leaves, Nat.max_zero]
  exact Nat.max_le.2 ⟨heightAll_transformerTrees_le _, heightAll_nameTrees_le _⟩

theorem height_openTagTree_le (condition : Condition) (reference : Reference) :
    (openTagTree condition reference).height ≤ 2 := by
  have trees := reference.heightAll_trees_le
  simp only [openTagTree, Tree.height, Tree.heightAll, Tree.heightAll_append, Token.leaf]
  omega

theorem heightAll_closeTrees_le (close : Option Text) : Tree.heightAll (closeTrees close) ≤ 2 := by
  cases close with
  | none => exact Nat.zero_le _
  | some name => exact Nat.le_refl 2

theorem Malformed.height_tree_le (part : Malformed) : part.tree.height ≤ 4 := by
  cases part with
  | stray token => exact Nat.le_add_left 1 3
  | overflow tokens =>
    rw [tree, Tree.height, heightAll_leaves]
    exact Nat.le_add_left 1 3
  | closeTag name tail =>
    have names := heightAll_nameTrees_le name
    have leaves := heightAll_leaves tail
    simp only [tree, Tree.height, Tree.heightAll, Tree.heightAll_append, Token.leaf]
    omega
  | field tag | block condition tag =>
    have trees := tag.heightAll_trees_le
    simp only [tree, Tree.height, Tree.heightAll, Token.leaf]
    omega

theorem heightAll_treeAll_le {bound : Nat} {contents : List Content}
    (h : ∀ content ∈ contents, content.tree.height ≤ bound) :
    Tree.heightAll (Content.treeAll contents) ≤ bound := by
  induction contents with
  | nil => exact Nat.zero_le _
  | cons content contents ih =>
    rw [List.forall_mem_cons] at h
    exact Nat.max_le.2 ⟨h.1, ih h.2⟩

theorem height_block_le {bound : Nat} (le : 2 ≤ bound) (condition : Condition)
    (reference : Reference) {contents : List Content} (close : Option Text)
    (h : Tree.heightAll (Content.treeAll contents) ≤ bound) :
    (Content.block condition reference contents close).tree.height ≤ bound + 1 := by
  have opening := height_openTagTree_le condition reference
  have closing := heightAll_closeTrees_le close
  rw [tree_block, Tree.height, Tree.heightAll, Tree.heightAll_append]
  omega

/-- Each level of nesting adds a node; four more are those of a malformed tag. -/
theorem Content.WellFormed.height_le {depth : Nat} {content : Content}
    (h : content.WellFormed depth) : content.tree.height ≤ depth + 4 := by
  induction h with
  | plain => exact Nat.le_add_left 1 _
  | @field depth reference =>
    have trees := reference.heightAll_trees_le
    simp only [tree, selfCloseLeaf, Tree.height, Tree.heightAll, Tree.heightAll_append, Token.leaf]
    omega
  | malformed _ => exact Nat.le_trans (Malformed.height_tree_le _) (Nat.le_add_left _ _)
  | @block depth condition reference contents close _ ih =>
    have block := height_block_le (Nat.le_add_left 2 (depth + 2)) condition reference close
      (heightAll_treeAll_le ih)
    omega
  | @overflow condition reference tokens =>
    refine height_block_le (Nat.le_add_left 2 1) condition reference none ?_
    rw [treeAll_overflowContents, leftOver]
    split
    · exact Nat.zero_le _
    · simp [Tree.heightAll, Tree.height, heightAll_leaves]

/-! ## Whole templates -/

/-- Blocks are nested in the tree of a template as in its contents. -/
theorem blockDepth_document (document : Document) :
    blockDepth document.tree = Content.depthAll document.contents := by
  rw [Document.tree, blockDepth, if_neg (by decide), if_neg (fun both => absurd both.1 (by decide)),
    blockDepthAll_treeAll]

/-- A template is parsed with a limit as it is with room for all its tokens, if no block in it is
    nested beyond the limit. If one is, all tokens behind the open tag of the first such block are
    left over in its element, blocks around it have no close tag, and nothing in front of them
    changes. No more nodes than five and one for each level of nesting stand around a token. -/
theorem blockLimit_parse (limit : Nat) {enough : Nat} {source : Text}
    (h : (tokenize source).length ≤ enough) :
    let whole := (parse enough source).tree
    let limited := (parse limit source).tree
    (blockDepth whole ≤ limit → limited = whole) ∧
      (limit < blockDepth whole →
        IsCutShort limit (tokenize source) whole.children limited.children) ∧
      ∀ leaf ∈ limited.leaves, leaf.depth ≤ limit + 5 := by
  intro whole limited
  rw [blockDepth_document]
  refine ⟨fun shallow => ?_, fun deep => ?_, fun leaf mem => ?_⟩
  · exact congrArg Document.tree (parse_eq_parse h shallow)
  · have le : limit ≤ enough :=
      Nat.le_of_lt (Nat.lt_of_lt_of_le deep (Nat.le_trans (depthAll_parse_le enough source) h))
    have cut := isCutShort_treeAll limit _ [] deep
    rwa [tokensAll_parse, List.append_nil, ← (parse_cut le source).2 deep] at cut
  · have height : Tree.heightAll (Content.treeAll (parse limit source).contents) ≤ limit + 4 :=
      heightAll_treeAll_le fun content mem => (wellFormed_parse limit source content mem).height_le
    exact Nat.le_trans (Tree.depth_le_height mem) (Nat.succ_le_succ height)

/-- A block in another one is nested too deeply for a limit of one: both lack their close tags. -/
theorem blockLimit_parse_nested :
    let source :=
      "a\x7b\x7b#X\x7d\x7db\x7b\x7b^Y\x7d\x7dc\x7b\x7b/Y\x7d\x7d\x7b\x7b/X\x7d\x7d".toList
    (tokenize source).length ≤ 17 ∧ 1 < blockDepth (parse 17 source).tree ∧
      IsCutShort 1 (tokenize source) (parse 17 source).tree.children
        (parse 1 source).tree.children ∧
      (parse 1 source).tree.nodes.map (fun node => (node.kind, node.size)) =
        [(.document, 27), (.text, 1), (.element, 26), (.openTag, 6), (.tagName, 1), (.text, 1),
          (.element, 19), (.openTag, 6), (.tagName, 1), (.error, 13)] := by
  intro source
  have enough : (tokenize source).length ≤ 17 := by decide +kernel
  have deep : 1 < blockDepth (parse 17 source).tree := by decide +kernel
  exact ⟨enough, deep, (blockLimit_parse 1 enough).2.1 deep, by decide +kernel⟩

end Flashcard.Template
