import Flashcard.Proofs.Query.Tidy
import Flashcard.Proofs.Query.Unclosed
import Flashcard.Proofs.Syntax.NodeRange

/-!
# Edges of nodes

Blanks belong to the node around the things that they stand between. So no node of a query
begins with blanks, but for the root, and none ends with blanks, unless terms are nested too
deeply in it: what is left of a query is not looked at then, blanks included.

Results:
* `head_tokens_of_trimmed`, `lastHoldsBlanks_occurrences`: the first token of a node, and the node
  that its last blanks stand in.
* `trimmed_tree`, `trimmed_treeAll`: what the nodes of tidy items begin and end with.
* `edges_parse`: the edges of all nodes of a query, of its syntax errors and of its groups.
-/

namespace Flashcard

namespace Tree

variable {κ : Type}

theorem occurrencesAll_eq_nil {above : List (Tree κ)} {start : Nat} {trees : List (Tree κ)}
    (h : trees.filter isNode = []) : occurrencesAll above start trees = [] := by
  induction trees generalizing start with
  | nil => rfl
  | cons tree trees ih =>
    cases tree with
    | leaf kind text =>
      rw [List.filter_cons_of_neg Bool.false_ne_true] at h
      exact ih h
    | node kind children =>
      rw [List.filter_cons_of_pos rfl] at h
      cases h

end Tree

namespace Query

/-! ## Edges of a node -/

/-- An error node of single tokens. -/
def IsFlatError (tree : Tree Kind) : Prop := tree.kind = .error ∧ tree.childNodes = []

/-- The last child of the node is a run of blanks. -/
def EndsBlank (tree : Tree Kind) : Prop :=
  ∃ child ∈ tree.children.getLast?, child.kind = .whitespace

/-- What stands first in a node is neither a run of blanks nor the content of a string, and what
    stands last is no run of blanks, except in an error node of single tokens. -/
structure Trimmed (tree : Tree Kind) : Prop where
  first : ∃ child ∈ tree.children.head?, innerKinds.contains child.kind = false
  last : EndsBlank tree → IsFlatError tree

theorem Trimmed.isNode {tree : Tree Kind} (h : Trimmed tree) : tree.isNode = true := by
  obtain ⟨_, head, -⟩ := h.first
  cases tree with
  | leaf _ _ => cases head
  | node _ _ => rfl

/-- The first token of a tree with trimmed nodes, if the tree is more than one token. -/
theorem head_tokens_of_trimmed : (tree : Tree Kind) → (∀ node ∈ tree.nodes, Trimmed node) →
    (tree.isNode = false → innerKinds.contains tree.kind = false) →
      ∃ token ∈ tree.tokens.head?, innerKinds.contains token.1 = false
  | .leaf _ _, _, own => ⟨_, rfl, own rfl⟩
  | .node _ [], trimmed, _ => by
    obtain ⟨child, none, -⟩ := (trimmed _ List.mem_cons_self).first
    cases none
  | .node _ (child :: rest), trimmed, _ => by
    obtain ⟨other, head, outer⟩ := (trimmed _ List.mem_cons_self).first
    obtain rfl : child = other := Option.some.inj head
    obtain ⟨token, first, kind⟩ := head_tokens_of_trimmed child
      (fun node mem => trimmed node (List.mem_cons_of_mem _ (List.mem_append_left _ mem)))
      fun _ => outer
    refine ⟨token, ?_, kind⟩
    rw [Tree.tokens, Tree.tokensAll, List.head?_append, Option.mem_def.1 first]
    rfl

theorem tokens_ne_nil_of_trimmed {tree : Tree Kind} (h : ∀ node ∈ tree.nodes, Trimmed node) :
    tree.tokens ≠ [] := by
  cases tree with
  | leaf kind text => exact List.cons_ne_nil _ _
  | node kind children =>
    obtain ⟨token, first, -⟩ := head_tokens_of_trimmed _ h nofun
    intro none
    rw [none] at first
    cases first

/-- If the last token of a trimmed node is a run of blanks and not one of a node below it, it is
    the last child of the node. -/
theorem endsBlank_of_last {kind : Kind} {children : List (Tree Kind)} {token : Kind × Text}
    (trimmed : Trimmed (.node kind children)) (own : ¬children.getLast?.any Tree.isNode = true)
    (mem : token ∈ (Tree.tokensAll children).getLast?) (whitespace : token.1 = .whitespace) :
    EndsBlank (.node kind children) := by
  obtain ⟨_, head, -⟩ := trimmed.first
  obtain rfl | ⟨init, last, concat⟩ := children.eq_nil_or_concat
  · cases head
  · rw [List.concat_eq_append] at concat
    subst concat
    have final : (init ++ [last]).getLast? = some last := List.getLast?_concat
    cases last with
    | node inner below => exact absurd (congrArg (Option.any Tree.isNode) final) own
    | leaf inner text =>
      rw [Tree.tokensAll_append] at mem
      obtain rfl : (inner, text) = token := Option.some.inj (List.getLast?_concat.symm.trans mem)
      exact ⟨_, final, whitespace⟩

/-- The last of some nodes is an error node of single tokens, the last one blanks, and ends at the
    byte `stop`. -/
def LastHoldsBlanks (nodes : List (Tree.Occurrence Kind)) (stop : Nat) : Prop :=
  ∃ p ∈ nodes.getLast?, IsFlatError p.tree ∧ EndsBlank p.tree ∧ p.start + p.tree.size = stop

theorem LastHoldsBlanks.append {nodes : List (Tree.Occurrence Kind)} {stop : Nat}
    (h : LastHoldsBlanks nodes stop) (front : List (Tree.Occurrence Kind)) :
    LastHoldsBlanks (front ++ nodes) stop := by
  obtain ⟨p, last, holds⟩ := h
  refine ⟨p, ?_, holds⟩
  rw [List.getLast?_append, Option.mem_def.1 last]
  rfl

mutual

/-- If a tree with trimmed nodes ends with blanks, its last node holds them. -/
theorem lastHoldsBlanks_occurrences (above : List (Tree Kind)) (start : Nat) :
    (tree : Tree Kind) → tree.isNode = true → (∀ node ∈ tree.nodes, Trimmed node) →
      ∀ token ∈ tree.tokens.getLast?, token.1 = .whitespace →
        LastHoldsBlanks (Tree.occurrences above start tree) (start + tree.size)
  | .leaf _ _, isNode, _, _, _, _ => by cases isNode
  | .node kind children, _, trimmed, token, mem, whitespace => by
    obtain ⟨here, below⟩ := List.forall_mem_cons.1 trimmed
    by_cases inside : children.getLast?.any Tree.isNode = true
    · have later := lastHoldsBlanks_occurrencesAll (.node kind children :: above) start children
        inside below token mem whitespace
      exact later.append [⟨above, start, .node kind children⟩]
    · have blank := endsBlank_of_last here inside mem whitespace
      have flat := here.last blank
      have none : Tree.occurrencesAll (.node kind children :: above) start children = [] :=
        Tree.occurrencesAll_eq_nil flat.2
      refine ⟨⟨above, start, .node kind children⟩, ?_, flat, blank, rfl⟩
      rw [Tree.occurrences, none]
      rfl

theorem lastHoldsBlanks_occurrencesAll (above : List (Tree Kind)) (start : Nat) :
    (trees : List (Tree Kind)) → trees.getLast?.any Tree.isNode = true →
      (∀ node ∈ Tree.nodesAll trees, Trimmed node) →
      ∀ token ∈ (Tree.tokensAll trees).getLast?, token.1 = .whitespace →
        LastHoldsBlanks (Tree.occurrencesAll above start trees) (start + Tree.sizeAll trees)
  | [], isNode, _, _, _, _ => by cases isNode
  | [tree], isNode, trimmed, token, mem, whitespace => by
    rw [Tree.nodesAll, Tree.nodesAll, List.append_nil] at trimmed
    rw [Tree.tokensAll, Tree.tokensAll, List.append_nil] at mem
    rw [Tree.occurrencesAll, Tree.occurrencesAll, List.append_nil]
    exact lastHoldsBlanks_occurrences above start tree isNode trimmed token mem whitespace
  | tree :: next :: rest, isNode, trimmed, token, mem, whitespace => by
    obtain ⟨-, others⟩ := List.forall_mem_append.1 trimmed
    obtain ⟨inNext, -⟩ := List.forall_mem_append.1 others
    have filled : Tree.tokensAll (next :: rest) ≠ [] :=
      List.append_ne_nil_of_left_ne_nil (tokens_ne_nil_of_trimmed inNext) _
    rw [Tree.tokensAll, List.getLast?_append, List.getLast?_eq_some_getLast filled,
      Option.some_or, ← List.getLast?_eq_some_getLast filled] at mem
    rw [List.getLast?_cons_cons] at isNode
    have later := lastHoldsBlanks_occurrencesAll above (start + tree.size) (next :: rest)
      isNode others token mem whitespace
    rw [Nat.add_assoc] at later
    exact later.append (Tree.occurrences above start tree)

end

/-! ## Edges of items -/

theorem Item.treeAll_eq_map (items : List Item) : treeAll items = items.map tree := by
  induction items with
  | nil => rfl
  | cons item items ih => rw [treeAll, ih, List.map_cons]

theorem contains_kind_tree {item : Item} (h : item.isBlank = false) :
    innerKinds.contains item.tree.kind = false := by
  cases item with
  | blank _ => cases h
  | plain value =>
    cases value with
    | word _ => rfl
    | quoted _ closed => cases closed <;> rfl
  | group items closed =>
    rw [tree_group]
    cases !closed || items.all Item.isBlank <;> rfl
  | filter field _ value =>
    cases value with
    | none => rfl
    | some _ => cases field <;> rfl
  | negation _ | disjunction | stray _ | overflow _ => rfl

theorem ne_whitespace {kind : Kind} (h : innerKinds.contains kind = false) :
    kind ≠ .whitespace := by
  rintro rfl
  cases h

theorem trimmed_node {kind : Kind} {children : List (Tree Kind)}
    (first : ∃ child ∈ children.head?, innerKinds.contains child.kind = false)
    (last : ∃ child ∈ children.getLast?, child.kind ≠ .whitespace)
    (below : ∀ node ∈ Tree.nodesAll children, Trimmed node) :
    ∀ node ∈ (Tree.node kind children).nodes, Trimmed node := by
  refine List.forall_mem_cons.2 ⟨⟨first, fun ⟨child, mem, blank⟩ => ?_⟩, below⟩
  obtain ⟨final, found, other⟩ := last
  obtain rfl : final = child := Option.some.inj (found.symm.trans mem)
  exact absurd blank other

theorem trimmed_markError (malformed : Bool) {tree : Tree Kind}
    (kind : innerKinds.contains tree.kind = false) (h : ∀ node ∈ tree.nodes, Trimmed node) :
    ∀ node ∈ (markError malformed tree).nodes, Trimmed node := by
  cases malformed with
  | true =>
    refine trimmed_node ⟨tree, rfl, kind⟩ ⟨tree, rfl, ne_whitespace kind⟩ ?_
    exact List.forall_mem_append.2 ⟨h, nofun⟩
  | false => exact h

theorem trimmed_value (value : Value) : ∀ node ∈ value.tree.nodes, Trimmed node := by
  cases value with
  | word text => exact trimmed_node ⟨_, rfl, rfl⟩ ⟨_, rfl, Kind.noConfusion⟩ nofun
  | quoted content closed =>
    refine trimmed_markError _ rfl (trimmed_node ⟨_, rfl, rfl⟩ ?_ ?_)
    · cases content <;> cases closed <;> exact ⟨_, rfl, Kind.noConfusion⟩
    · rw [nodesAll_leaves]
      nofun

/-- The last thing in the node of a group, if it is closed or ends with something else than
    blanks. -/
theorem last_groupNode {items : List Item} {closed : Bool}
    (ends : (closed || Item.endsUnblank items) = true) :
    ∃ child ∈ (groupNode items closed).children.getLast?, child.kind ≠ .whitespace := by
  rw [groupNode, Tree.children, List.getLast?_cons]
  cases closed with
  | true =>
    rw [if_pos rfl, List.getLast?_concat]
    exact ⟨_, rfl, Kind.noConfusion⟩
  | false =>
    rw [if_neg Bool.false_ne_true, List.append_nil, Item.treeAll_eq_map, List.getLast?_map]
    rw [Bool.false_or, Item.endsUnblank] at ends
    cases last : items.getLast? with
    | none => exact ⟨_, rfl, Kind.noConfusion⟩
    | some item =>
      rw [last, Option.any_some, Bool.not_eq_true'] at ends
      exact ⟨_, rfl, ne_whitespace (contains_kind_tree ends)⟩

/-- What is left of a query where terms are nested too deeply may end with blanks, since it is
    kept in an error node of single tokens. -/
theorem trimmed_overflow {tokens : List Token}
    (first : ∃ token ∈ tokens.head?, innerKinds.contains token.kind = false) :
    ∀ node ∈ (Item.overflow tokens).tree.nodes, Trimmed node := by
  obtain ⟨token, head, kind⟩ := first
  refine List.forall_mem_cons.2 ⟨⟨⟨token.leaf, ?_, kind⟩, fun _ => ⟨rfl, ?_⟩⟩, ?_⟩
  · rw [Tree.children, List.head?_map, Option.mem_def.1 head]
    rfl
  · exact filter_isNode_leaves tokens
  · rw [nodesAll_leaves]
    nofun

theorem trimmed_pair {kind : Kind} {token : Token} {child : Tree Kind}
    (first : innerKinds.contains token.kind = false)
    (last : innerKinds.contains child.kind = false) (below : ∀ node ∈ child.nodes, Trimmed node) :
    ∀ node ∈ (Tree.node kind [token.leaf, child]).nodes, Trimmed node := by
  refine trimmed_node ⟨_, rfl, first⟩ ⟨_, rfl, ne_whitespace last⟩ ?_
  exact List.forall_mem_append.2 ⟨nofun, List.forall_mem_append.2 ⟨below, nofun⟩⟩

mutual

/-- In the tree of a tidy item every node is trimmed. -/
theorem trimmed_tree : (item : Item) → item.tidy = true → ∀ node ∈ item.tree.nodes, Trimmed node
  | .blank _, _ => nofun
  | .plain value, _ => trimmed_value value
  | .disjunction, _ => trimmed_node ⟨_, rfl, rfl⟩ ⟨_, rfl, Kind.noConfusion⟩ nofun
  | .filter field mark none, _ => by
    refine trimmed_markError true (by cases field <;> rfl) ?_
    cases field <;> exact trimmed_node ⟨_, rfl, rfl⟩ ⟨_, rfl, Kind.noConfusion⟩ nofun
  | .filter field mark (some value), _ => by
    have last := contains_kind_tree (show (Item.plain value).isBlank = false from rfl)
    exact trimmed_pair (by cases field <;> rfl) last (trimmed_value value)
  | .negation operand, h => by
    obtain ⟨unblank, inside⟩ := Bool.and_eq_true_iff.1 h
    rw [Bool.not_eq_true'] at unblank
    exact trimmed_pair rfl (contains_kind_tree unblank) (trimmed_tree operand inside)
  | .group items closed, h => by
    obtain ⟨ends, inside⟩ := Bool.and_eq_true_iff.1 h
    have close : Tree.nodesAll (if closed then [Token.parenClose.leaf] else []) = [] := by
      cases closed <;> rfl
    rw [tree_group]
    refine trimmed_markError _ rfl (trimmed_node ⟨_, rfl, rfl⟩ (last_groupNode ends) ?_)
    show ∀ node ∈ Tree.nodesAll (_ ++ _), Trimmed node
    rw [Tree.nodesAll_append, close, List.append_nil]
    exact trimmed_treeAll items inside
  | .stray token, h => by
    rw [Item.tidy, Bool.not_eq_true'] at h
    exact trimmed_node ⟨_, rfl, h⟩ ⟨_, rfl, ne_whitespace h⟩ nofun
  | .overflow tokens, h => by
    obtain ⟨token, head, kind⟩ := (Option.any_eq_true _ _).1 h
    rw [Bool.not_eq_true'] at kind
    exact trimmed_overflow ⟨token, head, kind⟩

/-- The same for the trees of tidy items in a row. -/
theorem trimmed_treeAll : (items : List Item) → Item.allTidy items = true →
    ∀ node ∈ Tree.nodesAll (Item.treeAll items), Trimmed node
  | [], _ => nofun
  | item :: rest, h => by
    obtain ⟨first, others⟩ := Bool.and_eq_true_iff.1 h
    exact List.forall_mem_append.2 ⟨trimmed_tree item first, trimmed_treeAll rest others⟩

end

/-! ## Whole queries -/

/-- What stands in the source from the byte on does not begin with a blank. -/
def BeginsUnblank (source : Text) (start : Nat) : Prop :=
  ∃ c rest, source.HasAt start (c :: rest) ∧ Unicode.isBlank c = false

/-- The node ends with its last node, or is it itself, and that is the error node of what is left
    of a query where terms are nested too deeply. -/
def EndsInOverflow (limit stop : Nat) (o : Tree.Occurrence Kind) : Prop :=
  ∃ p ∈ (Tree.occurrences o.above o.start o.tree).getLast?,
    p.tree.kind = .error ∧ IsOverflow limit stop p ∧ p.start + p.tree.size = o.start + o.tree.size

/-- The last token of the node is no run of blanks, if nothing is nested too deeply there. -/
def EndsClean (limit stop : Nat) (o : Tree.Occurrence Kind) : Prop :=
  (∃ token ∈ o.tree.tokens.getLast?, token.1 ≠ .whitespace) ∨ EndsInOverflow limit stop o

/-- No blanks stand at the edges of a node of a query. -/
structure HasEdges (limit : Nat) (source : Text) (o : Tree.Occurrence Kind) : Prop where
  first : ∃ token ∈ o.tree.tokens.head?, token.1 ≠ .whitespace
  begins : BeginsUnblank source o.start
  last : EndsClean limit source.size o

/-- An error node of single tokens that ends with blanks holds what is left of a query where terms
    are nested too deeply. -/
theorem Obeys.isOverflow {limit stop : Nat} {o : Tree.Occurrence Kind} (h : Obeys limit stop o)
    (flat : IsFlatError o.tree) (blank : EndsBlank o.tree) : IsOverflow limit stop o := by
  obtain ⟨error, noNode⟩ := flat
  have shape := h.shape
  rw [HasShape, error] at shape
  obtain ⟨kind, -, children, wraps⟩ | ⟨token, stray, holds⟩ | overflow := shape
  · rw [Tree.childNodes, wraps] at noNode
    cases noNode
  · obtain ⟨child, last, whitespace⟩ := blank
    rw [holds] at last
    obtain rfl : token.leaf = child := Option.some.inj last
    have other : ∀ token ∈ strayTokens, token.leaf.kind ≠ .whitespace := by decide
    exact absurd whitespace (other token stray)
  · exact overflow

section Parse

variable {limit : Nat} {source : Text}

/-- A node that begins with a token of the query begins with no blank, if that token is neither
    a run of blanks nor the content of a string. -/
theorem beginsUnblank_of_first {o : Tree.Occurrence Kind} {token : Kind × Text}
    (mem : o ∈ (parse limit source).tree.occurrences [] 0)
    (first : token ∈ o.tree.tokens.head?) (outer : innerKinds.contains token.1 = false) :
    BeginsUnblank source o.start := by
  have whole : source.HasAt 0 (parse limit source).tree.text := by
    rw [text_tree_parse]
    exact source.hasAt_self
  obtain ⟨behind, tokens⟩ := List.head?_eq_some_iff.1 first
  have own : token ∈ o.tree.tokens := by
    rw [tokens]
    exact List.mem_cons_self
  have known := Tree.tokens_subset [] 0 (parse limit source).tree o mem own
  rw [tokens_parse] at known
  obtain ⟨token, found, rfl⟩ := List.mem_map.1 known
  have noBlank : token.isBlank = false := by
    cases token with
    | blank _ => cases outer
    | _ => rfl
  have noContent : token.kind ≠ .stringContent := by
    cases token with
    | content _ => cases outer
    | mark field _ => cases field <;> exact Kind.noConfusion
    | _ => exact Kind.noConfusion
  obtain ⟨c, rest, text, unblank⟩ := exists_cons_of_mem found noBlank noContent
  refine ⟨c, rest, Text.HasAt.left (b := behind.flatMap (·.2)) ?_, unblank⟩
  have place := Tree.hasAt_occurrences [] _ whole o mem
  rw [← Tree.flatMap_tokens, tokens, List.flatMap_cons] at place
  rwa [← text]

/-- No blanks stand at the edges of a node below the root. -/
theorem hasEdges_parse {o : Tree.Occurrence Kind}
    (mem : o ∈ (parse limit source).tree.occurrences [] 0) (below : o.above ≠ []) :
    HasEdges limit source o := by
  obtain rfl | inside := List.mem_cons.1 mem
  · exact absurd rfl below
  have nodes : o.tree.nodes ⊆ Tree.nodesAll (Item.treeAll (parse limit source).items) := by
    rw [← Tree.map_tree_occurrences o.above o.start, ← Tree.map_tree_occurrencesAll _ 0]
    exact List.map_subset _ (Tree.occurrencesAll_subset _ 0 _ o inside)
  have trimmed : ∀ node ∈ o.tree.nodes, Trimmed node := fun node mem =>
    trimmed_treeAll _ (allTidy_parse limit source) node (nodes mem)
  have isNode : o.tree.isNode = true := by
    refine (trimmed_treeAll _ (allTidy_parse limit source) o.tree ?_).isNode
    rw [← Tree.map_tree_occurrencesAll _ 0]
    exact List.mem_map_of_mem inside
  obtain ⟨token, first, outer⟩ := head_tokens_of_trimmed o.tree trimmed fun leaf =>
    absurd (isNode.symm.trans leaf) Bool.noConfusion
  refine ⟨⟨token, first, ne_whitespace outer⟩, beginsUnblank_of_first mem first outer, ?_⟩
  have final := List.getLast?_eq_some_getLast (tokens_ne_nil_of_trimmed trimmed)
  by_cases whitespace : (o.tree.tokens.getLast (tokens_ne_nil_of_trimmed trimmed)).1 = .whitespace
  · right
    obtain ⟨p, last, flat, blank, stop⟩ :=
      lastHoldsBlanks_occurrences o.above o.start o.tree isNode trimmed _ final whitespace
    have rules := obeys_parse limit source p
      (Tree.occurrences_subset [] 0 _ o mem (List.mem_of_getLast? last))
    exact ⟨p, last, flat.1, rules.isOverflow flat blank, stop⟩
  · exact .inl ⟨_, final, whitespace⟩

end Parse

/-- No node of a query but its root begins with blanks, and none ends with blanks, unless it ends
    with what is left where terms are nested too deeply. So no range of a term and no syntax error
    begins with a blank, and a group that is not closed ends with the last token that is no run of
    blanks: there are only blanks behind it. -/
theorem edges_parse (limit : Nat) (source : Text) :
    let tree := (parse limit source).tree
    (∀ o ∈ tree.occurrences [] 0, o.above ≠ [] → HasEdges limit source o) ∧
      (∀ diagnostic ∈ tree.lint, BeginsUnblank source diagnostic.span.start) ∧
      ∀ o ∈ tree.occurrences [] 0, IsUnclosed o.tree →
        EndsClean limit source.size o ∧ BlankFrom source (o.start + o.tree.size) := by
  have inner {o : Tree.Occurrence Kind} (below : o ∈ Tree.occurrencesAll
      [(parse limit source).tree] 0 (Item.treeAll (parse limit source).items)) :
      HasEdges limit source o := by
    have around := Tree.mem_occurrencesAll_above List.mem_cons_self 0 _ o below
    exact hasEdges_parse (List.mem_cons_of_mem _ below) (List.ne_nil_of_mem around)
  refine ⟨fun o mem => hasEdges_parse mem, fun diagnostic mem => ?_, fun o mem unclosed => ?_⟩
  · obtain ⟨o, below, rfl⟩ := Tree.exists_occurrence_of_mem_lint rfl mem
    exact (inner below).begins
  · refine ⟨?_, blankFrom_unclosed mem unclosed⟩
    obtain rfl | below := List.mem_cons.1 mem
    · cases unclosed.1
    · exact (inner below).last

/-- The blank at the end belongs to the inner group, which is nested too deeply, and so to the
    outer one, too. -/
example : ((parse 1 "((a ".toList).tree.occurrences [] 0).map Tree.Occurrence.place =
    [(.program, ⟨0, 4⟩), (.error, ⟨0, 4⟩), (.group, ⟨0, 4⟩), (.error, ⟨1, 3⟩)] := by
  decide +kernel

end Query

end Flashcard
