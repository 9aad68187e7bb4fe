import Flashcard.Proofs.Syntax.Walk
import Flashcard.Proofs.Template.Leaf
import Flashcard.Proofs.Template.TagNodes
import Flashcard.Proofs.Template.WellFormed

/-!
# Ends of tags

Which ends of tags are stored under a kind of their own can be told from the
tokens: those of the tags that stand for a field by themselves. What is left over
where blocks are nested too deeply makes an exception, since no tags are read
there: its leaves stand in an error by themselves.

Results:
* `closesField_iff`: whether a tag stands for a field by itself does not depend on
  what comes before it.
* `marks_tree`, `marks_parse`: the leaves of a content, and of a template, have the
  kinds that they should have.
* `eq_of_isLoose`, `path_of_isLoose`: a leaf stands in an error by itself only below
  one block more than may be nested.
-/

namespace Flashcard.Template

/-! ## Ends of tags -/

/-- The tokens end with a tag that stands for a field by itself. -/
def ClosesField (tokens : List Token) : Prop :=
  ∃ (front : List Token) (reference : Reference),
    tokens = front ++ .tagStart :: (reference.tokens ++ [.tagEnd])

theorem Reference.isInside_of_mem (reference : Reference) :
    ∀ token ∈ reference.tokens, token.isInside = true :=
  isInside_chain reference.transformers (some reference.name)

/-- Only the end of a tag ends one that stands for a field. -/
theorem ClosesField.eq_tagEnd {before : List Token} {token : Token}
    (h : ClosesField (before ++ [token])) : token = .tagEnd := by
  obtain ⟨front, reference, split⟩ := h
  rw [← List.cons_append, ← List.append_assoc] at split
  exact (List.append_singleton_inj.1 split).2

/-- Where a tag has begun, what comes before it does not matter. -/
theorem closesField_iff {opener : Token} (notInside : opener.isInside = false)
    {inside : List Token} (all : ∀ token ∈ inside, token.isInside = true) (before : List Token) :
    ClosesField (before ++ opener :: (inside ++ [.tagEnd])) ↔
      opener = .tagStart ∧ ∃ reference : Reference, inside = reference.tokens := by
  constructor
  · rintro ⟨front, reference, split⟩
    have split : before ++ opener :: inside = front ++ .tagStart :: reference.tokens := by
      rw [← List.cons_append, ← List.append_assoc, ← List.cons_append, ← List.append_assoc] at split
      exact (List.append_singleton_inj.1 split).1
    -- The beginning of the one tag cannot be one of the tokens inside the other.
    obtain ⟨between, -, later⟩ | ⟨between, -, later⟩ := List.append_eq_append_iff.1 split
    · cases between with
      | nil =>
        obtain ⟨rfl, rfl⟩ := List.cons.inj later
        exact ⟨rfl, reference, rfl⟩
      | cons token between =>
        have mem : .tagStart ∈ inside :=
          (List.cons.inj later).2 ▸ List.mem_append_right _ (List.mem_cons_self ..)
        exact absurd (all _ mem) Bool.noConfusion
    · cases between with
      | nil =>
        obtain ⟨rfl, rfl⟩ := List.cons.inj later
        exact ⟨rfl, reference, rfl⟩
      | cons token between =>
        have mem : opener ∈ reference.tokens :=
          (List.cons.inj later).2 ▸ List.mem_append_right _ (List.mem_cons_self ..)
        exact absurd (reference.isInside_of_mem _ mem) (Bool.eq_false_iff.1 notInside)
  · rintro ⟨rfl, reference, rfl⟩
    exact ⟨before, reference, rfl⟩

/-- The leaf stands in an error by itself, and not in a part of a tag. -/
def IsLoose (path : List Kind) : Prop := path.head? = some .error

theorem isLoose_cons (kind : Kind) (path : List Kind) :
    IsLoose (kind :: path) ↔ kind = .error := by
  rw [IsLoose, List.head?_cons, Option.some_inj]

/-- The leaves that hold `tokens`, behind the tokens `before`, have the kinds that
    they should have: the end of a tag that stands for a field has its own kind,
    unless it is loose. -/
inductive Marks : (before tokens : List Token) → (leaves : List (List Kind × Kind)) → Prop
  | nil {before : List Token} : Marks before [] []
  | closes {before tokens : List Token} {token : Token} {path : List Kind}
      {leaves : List (List Kind × Kind)} :
      ClosesField (before ++ [token]) → ¬ IsLoose path → Marks (before ++ [token]) tokens leaves →
      Marks before (token :: tokens) ((path, .selfCloseEnd) :: leaves)
  | keeps {before tokens : List Token} {token : Token} {path : List Kind}
      {leaves : List (List Kind × Kind)} :
      ¬ (ClosesField (before ++ [token]) ∧ ¬ IsLoose path) →
      Marks (before ++ [token]) tokens leaves →
      Marks before (token :: tokens) ((path, token.kind) :: leaves)

namespace Marks

variable {before tokens others : List Token} {leaves behind : List (List Kind × Kind)}

theorem append (h : Marks before tokens leaves) (h' : Marks (before ++ tokens) others behind) :
    Marks before (tokens ++ others) (leaves ++ behind) := by
  induction h with
  | nil =>
    rw [List.append_nil] at h'
    exact h'
  | closes closes loose _ ih =>
    rw [List.append_cons] at h'
    exact .closes closes loose (ih h')
  | keeps other _ ih =>
    rw [List.append_cons] at h'
    exact .keeps other (ih h')

theorem kind_eq_iff (h : Marks before tokens leaves) {i : Nat} {path : List Kind} {kind : Kind}
    (leaf : leaves[i]? = some (path, kind)) :
    kind = .selfCloseEnd ↔ ClosesField (before ++ tokens.take (i + 1)) ∧ ¬ IsLoose path := by
  induction h generalizing i with
  | nil => cases leaf
  | @closes before tokens token path' leaves closes loose _ ih =>
    cases i with
    | zero =>
      obtain ⟨rfl, rfl⟩ := Prod.mk.inj (Option.some.inj leaf)
      exact iff_of_true rfl ⟨closes, loose⟩
    | succ i =>
      rw [ih leaf, List.append_assoc]
      rfl
  | @keeps before tokens token path' leaves other _ ih =>
    cases i with
    | zero =>
      obtain ⟨rfl, rfl⟩ := Prod.mk.inj (Option.some.inj leaf)
      exact iff_of_false token.kind_ne_selfCloseEnd other
    | succ i =>
      rw [ih leaf, List.append_assoc]
      rfl

/-- Loose leaves keep their kinds, and so do those that end no tag. -/
theorem of_kinds (kinds : leaves.map (·.2) = tokens.map Token.kind)
    (kept : .tagEnd ∉ tokens ∨ ∀ leaf ∈ leaves, IsLoose leaf.1) : Marks before tokens leaves := by
  induction tokens generalizing before leaves with
  | nil =>
    rw [List.map_eq_nil_iff.1 kinds]
    exact .nil
  | cons token tokens ih =>
    cases leaves with
    | nil => cases kinds
    | cons leaf leaves =>
      obtain ⟨path, kind⟩ := leaf
      obtain ⟨rfl, later⟩ := List.cons.inj kinds
      apply Marks.keeps
      · rintro ⟨closes, notLoose⟩
        obtain none | loose := kept
        · exact none (closes.eq_tagEnd ▸ List.mem_cons_self ..)
        · exact notLoose (loose _ (List.mem_cons_self ..))
      · apply ih later
        obtain none | loose := kept
        · exact .inl fun mem => none (List.mem_cons_of_mem _ mem)
        · exact .inr fun leaf mem => loose leaf (List.mem_cons_of_mem _ mem)

/-- The leaves of a tag that does not stand for a field keep their kinds. -/
theorem of_tail {opener : Token} (notInside : opener.isTagToken = false) (tail : IsTail tokens)
    (noField : opener = .tagStart →
      ∀ reference : Reference, tokens ≠ reference.tokens ++ [.tagEnd])
    (kinds : leaves.map (·.2) = (opener :: tokens).map Token.kind) :
    Marks before (opener :: tokens) leaves := by
  have first : opener.isInside = false := by rw [Token.isInside, notInside, Bool.false_and]
  have notMem {inside : List Token} (all : ∀ token ∈ inside, token.isInside = true) :
      .tagEnd ∉ opener :: inside := by
    intro mem
    obtain rfl | mem := List.mem_cons.1 mem
    · cases notInside
    · exact absurd (all _ mem) Bool.noConfusion
  obtain ⟨inside, all, rfl | rfl⟩ := tail.exists_inside
  · exact of_kinds kinds (.inl (notMem all))
  · rw [← List.cons_append, List.map_append] at kinds
    obtain ⟨front, last, rfl, same, ending⟩ := List.map_eq_append_iff.1 kinds
    obtain ⟨⟨path, kind⟩, rfl, rfl⟩ := List.map_eq_singleton_iff.1 ending
    rw [← List.cons_append]
    apply append (of_kinds same (.inl (notMem all)))
    apply Marks.keeps _ .nil
    rintro ⟨closes, -⟩
    rw [List.append_assoc, List.cons_append, closesField_iff first all] at closes
    obtain ⟨start, reference, rfl⟩ := closes
    exact noField start reference rfl

end Marks

/-! ## Kinds of the leaves -/

theorem map_kinds {trees : List (Tree Kind)} {tokens : List Token}
    (h : Tree.tokensAll trees = tokens.map Token.pair) (path : List Kind) :
    (Tree.leafKindsAll path trees).map (·.2) = tokens.map Token.kind := by
  rw [Tree.map_leafKindsAll, h, List.map_map]
  rfl

theorem leafKindsAll_leaves (path : List Kind) (tokens : List Token) :
    Tree.leafKindsAll path (tokens.map Token.leaf) =
      tokens.map fun token => (path, token.kind) := by
  induction tokens with
  | nil => rfl
  | cons token tokens ih =>
    rw [List.map_cons, Tree.leafKindsAll, ih]
    rfl

theorem Condition.cons_tokens_ne (condition : Condition) (tokens : List Token)
    (reference : Reference) (rest : List Token) :
    condition.token :: tokens ≠ reference.tokens ++ rest := by
  obtain ⟨transformers, name⟩ := reference
  intro same
  cases transformers <;> cases condition <;> cases (List.cons.inj same).1

theorem marks_field (reference : Reference) (before : List Token) (path : List Kind) :
    Marks before (Content.field reference).tokens
      (Tree.leafKinds path (Content.field reference).tree) := by
  have same : Tree.tokensAll (Token.tagStart.leaf :: reference.trees) =
      (.tagStart :: reference.tokens).map Token.pair := by
    rw [Tree.tokensAll, reference.tokensAll_trees]
    rfl
  have none : .tagEnd ∉ Token.tagStart :: reference.tokens := by
    intro mem
    obtain here | later := List.mem_cons.1 mem
    · cases here
    · exact absurd (reference.isInside_of_mem _ later) Bool.noConfusion
  have split : Tree.leafKinds path (Content.field reference).tree =
      Tree.leafKindsAll (.selfClosingTag :: .element :: path)
        (Token.tagStart.leaf :: reference.trees) ++
        [(.selfClosingTag :: .element :: path, .selfCloseEnd)] := by
    simp only [Content.tree, Tree.leafKinds, Tree.leafKindsAll, Tree.leafKindsAll_append,
      selfCloseLeaf, List.append_nil, List.append_assoc]
  rw [split, Content.tokens, ← List.cons_append]
  apply Marks.append (.of_kinds (map_kinds same _) (.inl none))
  refine .closes ⟨before, reference, ?_⟩ (by simp [IsLoose]) .nil
  rw [List.append_assoc, List.cons_append]

theorem marks_malformed {part : Malformed} (h : part.IsBroken) (before : List Token)
    (path : List Kind) : Marks before part.tokens (Tree.leafKinds path part.tree) := by
  have kinds : (Tree.leafKinds path part.tree).map (·.2) = part.tokens.map Token.kind := by
    rw [Tree.map_leafKinds, part.tokens_tree, List.map_map]
    rfl
  cases h with
  | closeTag tail => exact .of_tail rfl tail (fun start => Token.noConfusion start) kinds
  | field tail noField => exact .of_tail rfl tail (fun _ => noField) kinds
  | @block condition tag tail =>
    apply Marks.of_tail rfl (.inside _ tail) _ kinds
    · cases condition <;> rfl
    · intro _ reference
      exact condition.cons_tokens_ne _ reference _

theorem marks_block (condition : Condition) (reference : Reference) {contents : List Content}
    (close : Option Text) {before : List Token} {path : List Kind}
    (inside : ∀ before, Marks before (Content.tokensAll contents)
      (Tree.leafKindsAll (.element :: path) (Content.treeAll contents))) :
    Marks before (Content.block condition reference contents close).tokens
      (Tree.leafKinds path (Content.block condition reference contents close).tree) := by
  have openTag (before : List Token) : Marks before
      (.tagStart :: condition.token :: (reference.tokens ++ [.tagEnd]))
      (Tree.leafKindsAll (.openTag :: .element :: path)
        (Token.tagStart.leaf :: condition.token.leaf ::
          (reference.trees ++ [Token.tagEnd.leaf]))) := by
    apply Marks.of_tail rfl (.inside _ (.append reference.isInside_of_mem .tagEnd))
    · intro _ other
      exact condition.cons_tokens_ne _ other _
    · apply map_kinds
      rw [Tree.tokensAll, Tree.tokensAll, Tree.tokensAll_append, reference.tokensAll_trees,
        List.map_cons, List.map_cons, List.map_append]
      rfl
    · cases condition <;> rfl
  have closeTag (before : List Token) : Marks before (closeTokens close)
      (Tree.leafKindsAll (.element :: path) (closeTrees close)) := by
    cases close with
    | none => exact .nil
    | some name =>
      exact .of_tail rfl (.inside rfl .tagEnd) (fun start => Token.noConfusion start) rfl
  have split : Tree.leafKinds path (Content.block condition reference contents close).tree =
      Tree.leafKindsAll (.openTag :: .element :: path)
        (Token.tagStart.leaf :: condition.token.leaf ::
          (reference.trees ++ [Token.tagEnd.leaf])) ++
        Tree.leafKindsAll (.element :: path) (Content.treeAll contents) ++
        Tree.leafKindsAll (.element :: path) (closeTrees close) := by
    simp only [Content.tree, Tree.leafKinds, Tree.leafKindsAll, Tree.leafKindsAll_append,
      List.append_assoc]
  rw [split, Content.tokens]
  exact ((openTag before).append (inside _)).append (closeTag _)

theorem marks_treeAll {contents : List Content} {path : List Kind}
    (h : ∀ content ∈ contents, ∀ before,
      Marks before content.tokens (Tree.leafKinds path content.tree)) (before : List Token) :
    Marks before (Content.tokensAll contents)
      (Tree.leafKindsAll path (Content.treeAll contents)) := by
  induction contents generalizing before with
  | nil => exact .nil
  | cons content contents ih =>
    obtain ⟨first, later⟩ := List.forall_mem_cons.1 h
    exact (first before).append (ih later _)

/-- What is left over where blocks are nested too deeply is loose. -/
theorem marks_overflow (tokens before : List Token) (path : List Kind) :
    Marks before (Content.tokensAll (overflowContents tokens))
      (Tree.leafKindsAll path (Content.treeAll (overflowContents tokens))) := by
  unfold overflowContents
  split
  · exact .nil
  · apply marks_treeAll
    intro content mem before
    rw [List.mem_singleton.1 mem]
    show Marks before tokens (Tree.leafKindsAll (.error :: path) (tokens.map Token.leaf))
    rw [leafKindsAll_leaves]
    apply Marks.of_kinds
    · rw [List.map_map]
      rfl
    · right
      intro leaf mem
      obtain ⟨token, -, rfl⟩ := List.mem_map.1 mem
      rfl

/-- The leaves of a content have the kinds that they should have. -/
theorem marks_tree {depth : Nat} {content : Content} (h : content.WellFormed depth)
    (before : List Token) (path : List Kind) :
    Marks before content.tokens (Tree.leafKinds path content.tree) := by
  induction h generalizing before path with
  | plain => exact .of_kinds rfl (.inl (by simp [Content.tokens]))
  | field => exact marks_field _ before path
  | malformed broken => exact marks_malformed broken before path
  | block _ ih =>
    apply marks_block
    exact marks_treeAll fun content mem before => ih content mem before _
  | overflow =>
    apply marks_block
    exact fun before => marks_overflow _ before _

/-! ## Loose leaves -/

section

variable {path : List Kind} {leaf : List Kind × Kind}

mutual

theorem not_isLoose_of_mem (path : List Kind) : (tree : Tree Kind) →
    tree.hasErrorNode = false → ¬ IsLoose path → leaf ∈ Tree.leafKinds path tree →
    ¬ IsLoose leaf.1
  | .leaf _ _, _, outside, mem => by
    rw [List.mem_singleton.1 mem]
    exact outside
  | .node kind children, clean, _, mem => by
    rw [Tree.hasErrorNode_node, Bool.or_eq_false_iff] at clean
    have outside : ¬ IsLoose (kind :: path) := by
      rw [isLoose_cons]
      exact of_decide_eq_false clean.1
    exact not_isLoose_of_memAll (kind :: path) children clean.2 outside mem

theorem not_isLoose_of_memAll (path : List Kind) : (trees : List (Tree Kind)) →
    trees.any Tree.hasErrorNode = false → ¬ IsLoose path → leaf ∈ Tree.leafKindsAll path trees →
    ¬ IsLoose leaf.1
  | [], _, _, mem => by cases mem
  | tree :: rest, clean, outside, mem => by
    rw [List.any_cons, Bool.or_eq_false_iff] at clean
    obtain here | later := List.mem_append.1 mem
    · exact not_isLoose_of_mem path tree clean.1 outside here
    · exact not_isLoose_of_memAll path rest clean.2 outside later

end

/-- In a node without errors nothing is loose, whatever stands around the node. -/
theorem not_isLoose_of_node {kind : Kind} {children : List (Tree Kind)} (noError : kind ≠ .error)
    (clean : children.any Tree.hasErrorNode = false)
    (mem : leaf ∈ Tree.leafKinds path (.node kind children)) : ¬ IsLoose leaf.1 :=
  not_isLoose_of_memAll (kind :: path) children clean (by rwa [isLoose_cons]) mem

theorem noError_inTag : HoldsInTag (· ≠ .error) := ⟨nofun, nofun⟩

theorem not_isLoose_malformed {part : Malformed} (h : part.IsBroken)
    (mem : leaf ∈ Tree.leafKinds path part.tree) : ¬ IsLoose leaf.1 := by
  have inner {kind : Kind} {children : List (Tree Kind)} (noError : kind ≠ .error)
      (clean : children.any Tree.hasErrorNode = false)
      (mem : leaf ∈ Tree.leafKinds path (.node .error [.node kind children])) :
      ¬ IsLoose leaf.1 := by
    obtain here | later := List.mem_append.1 mem
    · exact not_isLoose_of_node noError clean here
    · cases later
  cases h with
  | @closeTag name tail =>
    exact inner Kind.noConfusion (nodesAre_closeTag noError_inTag name tail).any_hasErrorNode mem
  | @field tag =>
    have inside : NodesAre (· ≠ .error) [.node .selfClosingTag (Token.tagStart.leaf :: tag.trees)] :=
      .node Kind.noConfusion (.leaf .tagStart (tag.nodesAre_trees noError_inTag))
    exact inner Kind.noConfusion inside.any_hasErrorNode mem
  | @block condition tag =>
    have inside : NodesAre (· ≠ .error) [.node .openTag
        (Token.tagStart.leaf :: condition.token.leaf :: tag.trees)] :=
      .node Kind.noConfusion
        (.leaf .tagStart (.leaf condition.token (tag.nodesAre_trees noError_inTag)))
    exact inner Kind.noConfusion inside.any_hasErrorNode mem

theorem mem_contents_of_isLoose {condition : Condition} {reference : Reference}
    {contents : List Content} {close : Option Text}
    (mem : leaf ∈ Tree.leafKinds path (Content.block condition reference contents close).tree)
    (loose : IsLoose leaf.1) :
    leaf ∈ Tree.leafKindsAll (.element :: path) (Content.treeAll contents) := by
  have outside : ¬ IsLoose (.element :: path) := by simp [isLoose_cons]
  rw [Content.tree, Tree.leafKinds, Tree.leafKindsAll, Tree.leafKindsAll_append] at mem
  obtain openTag | inside := List.mem_append.1 mem
  · have clean := (reference.nodesAre_openTag noError_inTag condition).any_hasErrorNode
    exact absurd loose (not_isLoose_of_node Kind.noConfusion clean openTag)
  · obtain inside | closeTag := List.mem_append.1 inside
    · exact inside
    · have clean := (nodesAre_closeTrees noError_inTag Kind.noConfusion close).any_hasErrorNode
      exact absurd loose (not_isLoose_of_memAll _ _ clean outside closeTag)

theorem exists_of_mem_treeAll {contents : List Content}
    (mem : leaf ∈ Tree.leafKindsAll path (Content.treeAll contents)) :
    ∃ content ∈ contents, leaf ∈ Tree.leafKinds path content.tree := by
  induction contents with
  | nil => cases mem
  | cons content contents ih =>
    obtain here | later := List.mem_append.1 mem
    · exact ⟨content, List.mem_cons_self .., here⟩
    · obtain ⟨other, mem, found⟩ := ih later
      exact ⟨other, List.mem_cons_of_mem _ mem, found⟩

/-- A loose leaf stands below one block more than may be nested. -/
theorem eq_of_isLoose {depth : Nat} {content : Content} (h : content.WellFormed depth)
    (outside : ¬ IsLoose path) (mem : leaf ∈ Tree.leafKinds path content.tree)
    (loose : IsLoose leaf.1) :
    leaf.1 = .error :: (List.replicate (depth + 1) .element ++ path) := by
  have element (path : List Kind) : ¬ IsLoose (.element :: path) := by simp [isLoose_cons]
  induction h generalizing path with
  | plain =>
    rw [List.mem_singleton.1 mem, isLoose_cons] at loose
    cases loose
  | @field depth reference =>
    have inside := reference.nodesAre_fieldTag noError_inTag
    have clean : NodesAre (· ≠ .error) [(Content.field reference).tree] :=
      .node Kind.noConfusion (.node Kind.noConfusion inside)
    exact absurd loose
      (not_isLoose_of_memAll path _ clean.any_hasErrorNode outside (List.mem_append_left _ mem))
  | malformed broken => exact absurd loose (not_isLoose_malformed broken mem)
  | @block depth condition reference contents close _ ih =>
    obtain ⟨content, inside, here⟩ := exists_of_mem_treeAll (mem_contents_of_isLoose mem loose)
    have deeper : List.replicate (depth + 1 + 1) Kind.element =
        List.replicate (depth + 1) .element ++ [.element] := List.replicate_succ'
    rw [ih content inside (element path) here, deeper, List.append_assoc, List.singleton_append]
  | @overflow condition reference tokens =>
    obtain ⟨content, inside, here⟩ := exists_of_mem_treeAll (mem_contents_of_isLoose mem loose)
    unfold overflowContents at inside
    split at inside
    · cases inside
    · rw [List.mem_singleton.1 inside] at here
      have here : leaf ∈ Tree.leafKindsAll (.error :: .element :: path) (tokens.map Token.leaf) :=
        here
      rw [leafKindsAll_leaves] at here
      obtain ⟨token, -, rfl⟩ := List.mem_map.1 here
      rfl

end

/-! ## The whole template -/

/-- The leaves of the syntax tree of a template have the kinds that they should have. -/
theorem marks_parse (limit : Nat) (source : Text) :
    Marks [] (tokenize source)
      ((parse limit source).tree.leaves.map fun leaf => (leaf.path, leaf.kind)) := by
  have contents (content : Content) (mem : content ∈ (parse limit source).contents) :=
    marks_tree (wellFormed_parse limit source content mem)
  have marks : Marks [] (parse limit source).tokens
      (Tree.leafKindsAll [.document] (Content.treeAll (parse limit source).contents)) :=
    marks_treeAll (fun content mem before => contents content mem before [.document]) []
  rw [parse, Document.tokens_ofTokens] at marks
  rw [Tree.map_leaves]
  exact marks

/-- A loose leaf of a template stands below one block more than may be nested. -/
theorem path_of_isLoose {limit : Nat} {source : Text} {leaf : Tree.Visit Kind}
    (mem : leaf ∈ (parse limit source).tree.leaves) (loose : IsLoose leaf.path) :
    leaf.path = .error :: (List.replicate (limit + 1) .element ++ [.document]) := by
  have mem : (leaf.path, leaf.kind) ∈ Tree.leafKinds [] (parse limit source).tree := by
    rw [← Tree.map_leaves]
    exact List.mem_map_of_mem mem
  obtain ⟨content, inside, here⟩ := exists_of_mem_treeAll mem
  have outside : ¬ IsLoose [.document] := by simp [isLoose_cons]
  exact eq_of_isLoose (wellFormed_parse limit source content inside) outside here loose

end Flashcard.Template
