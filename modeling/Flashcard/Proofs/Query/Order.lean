import Flashcard.Proofs.Query.Leaf
import Flashcard.Proofs.Query.Lossless
import Flashcard.Proofs.Query.WellFormed

/-!
# Terms in the order of a query

A term begins with a token of its own: a filter with its mark, a group with its
parenthesis, a negation with its sign. Two terms therefore begin at different
bytes, and the byte where it begins tells a term from all others. Below an error
node this may fail, but nothing is evaluated there.

Results:
* `within_tree`: the nodes of an item outside error nodes begin inside the item,
  one behind the other.
* `pairwise_boundLeaves`: so do the bound leaf terms of a query.
-/

namespace Flashcard.Query

/-! ## Nodes outside error nodes -/

/-- The tree is an error node. -/
def isErrorTree (tree : Tree Kind) : Bool := tree.kind = .error

/-- The nodes that stand below no error node. -/
def outsideErrors (nodes : List (Tree.Occurrence Kind)) : List (Tree.Occurrence Kind) :=
  nodes.filter fun o => !o.above.any isErrorTree

/-- Nodes that begin between two bytes, one behind the other. -/
structure Within (start stop : Nat) (nodes : List (Tree.Occurrence Kind)) : Prop where
  sorted : nodes.Pairwise (·.start < ·.start)
  bounds : ∀ o ∈ nodes, start ≤ o.start ∧ o.start < stop

theorem Within.nil (start stop : Nat) : Within start stop [] :=
  ⟨.nil, fun _ h => absurd h List.not_mem_nil⟩

theorem Within.widen {start stop last : Nat} {nodes : List (Tree.Occurrence Kind)}
    (h : Within start stop nodes) (hl : stop ≤ last) : Within start last nodes :=
  ⟨h.sorted, fun o ho => ⟨(h.bounds o ho).1, Nat.lt_of_lt_of_le (h.bounds o ho).2 hl⟩⟩

theorem Within.cons {next stop : Nat} {o : Tree.Occurrence Kind}
    {nodes : List (Tree.Occurrence Kind)} (h : Within next stop nodes) (hn : o.start < next)
    (hs : o.start < stop) : Within o.start stop (o :: nodes) := by
  refine ⟨List.pairwise_cons.2 ⟨?_, h.sorted⟩, ?_⟩
  · intro other ho
    exact Nat.lt_of_lt_of_le hn (h.bounds other ho).1
  · intro other ho
    obtain rfl | ho := List.mem_cons.1 ho
    · exact ⟨Nat.le_refl _, hs⟩
    · have := h.bounds other ho
      omega

theorem Within.append {start middle stop : Nat} {nodes others : List (Tree.Occurrence Kind)}
    (h : Within start middle nodes) (h' : Within middle stop others) (hs : start ≤ middle)
    (ht : middle ≤ stop) : Within start stop (nodes ++ others) := by
  refine ⟨List.pairwise_append.2 ⟨h.sorted, h'.sorted, ?_⟩, ?_⟩
  · intro o ho other hother
    exact Nat.lt_of_lt_of_le (h.bounds o ho).2 (h'.bounds other hother).1
  · intro o ho
    obtain ho | ho := List.mem_append.1 ho
    · have := h.bounds o ho
      omega
    · have := h'.bounds o ho
      omega

/-! ## Bytes of an item -/

theorem size_tree (item : Item) : item.tree.size = (Token.textAll item.tokens).size := by
  rw [Tree.size_eq, Item.text_tree]

theorem size_treeAll (items : List Item) :
    Tree.sizeAll (Item.treeAll items) = (Token.textAll (Item.tokensAll items)).size := by
  rw [Tree.sizeAll_eq, Item.textAll_treeAll]

theorem size_tree_pos {item : Item} (h : ∀ token ∈ item.tokens, token.text ≠ [])
    (tokens : item.tokens ≠ []) : 0 < item.tree.size := by
  obtain ⟨token, rest, ht⟩ := List.exists_cons_of_ne_nil tokens
  have := Text.size_pos (h token (ht ▸ List.mem_cons_self ..))
  rw [size_tree, ht, Token.textAll_cons, Text.size_append]
  omega

theorem tokens_value_ne_nil (value : Value) : value.tokens ≠ [] := by
  cases value <;> exact List.cons_ne_nil _ _

/-! ## Nodes in order -/

section Items

variable {above : List (Tree Kind)} (ha : above.any isErrorTree = false) {start stop : Nat}

include ha

theorem within_node {kind : Kind} {children : List (Tree Kind)} {next : Nat}
    (hn : start < next) (hs : start < stop)
    (below : Within next stop
      (outsideErrors (Tree.occurrencesAll (.node kind children :: above) start children))) :
    Within start stop (outsideErrors (Tree.occurrences above start (.node kind children))) := by
  rw [Tree.occurrences, outsideErrors, List.filter_cons, if_pos (by rw [ha]; rfl)]
  exact below.cons (o := ⟨above, start, .node kind children⟩) hn hs

/-- Of an error node only the node itself counts. -/
theorem within_error (hs : start < stop) (children : List (Tree Kind)) :
    Within start stop (outsideErrors (Tree.occurrences above start (.node .error children))) := by
  refine within_node ha (Nat.lt_succ_self start) hs ?_
  have nothing : outsideErrors
      (Tree.occurrencesAll (.node .error children :: above) start children) = [] := by
    refine List.filter_eq_nil_iff.2 ?_
    intro o ho
    have mem := Tree.mem_occurrencesAll_above (List.mem_cons_self ..) start children o ho
    rw [List.any_eq_true.2 ⟨_, mem, rfl⟩]
    exact Bool.false_ne_true
  rw [nothing]
  exact .nil _ _

theorem within_isError {item : Item} (h : item.isError = true) (hs : start < stop) :
    Within start stop (outsideErrors (Tree.occurrences above start item.tree)) := by
  obtain ⟨children, ht⟩ := tree_of_isError h
  rw [ht]
  exact within_error ha hs children

theorem within_value (value : Value) (hs : start < stop) :
    Within start stop (outsideErrors (Tree.occurrences above start value.tree)) := by
  cases he : value.isError with
  | true => exact within_isError ha (show (Item.plain value).isError = true from he) hs
  | false =>
    obtain ⟨kind, -, ht⟩ := tree_of_value he
    rw [ht]
    refine within_node ha (Nat.lt_succ_self start) hs ?_
    rw [occurrencesAll_leaves]
    exact .nil _ _

end Items

mutual

/-- The nodes of an item outside error nodes begin inside the item, one behind the
    other. -/
theorem within_tree {above : List (Tree Kind)} (ha : above.any isErrorTree = false)
    (start : Nat) : (item : Item) → item.wellFormed = true →
      (∀ token ∈ item.tokens, token.text ≠ []) →
      Within start (start + item.tree.size)
        (outsideErrors (Tree.occurrences above start item.tree))
  | .blank _, _, _ => .nil _ _
  | .plain value, _, ht => by
    have pos := size_tree_pos ht (tokens_value_ne_nil value)
    exact within_value ha value (Nat.lt_add_of_pos_right pos)
  | .negation operand, hw, ht => by
    rw [Item.wellFormed, Bool.and_eq_true] at hw
    have around : ((Item.negation operand).tree :: above).any isErrorTree = false := by
      rw [List.any_cons, ha]
      rfl
    have below := within_tree around (start + 1) operand hw.2
      fun token h => ht token (List.mem_cons_of_mem _ h)
    have size : (Item.negation operand).tree.size = 1 + (operand.tree.size + 0) := rfl
    refine within_node ha (Nat.lt_succ_self start) (by omega) ?_
    rw [Tree.occurrencesAll, Tree.occurrencesAll, Tree.occurrencesAll, List.append_nil]
    exact below.widen (by omega)
  | .group items closed, hw, ht => by
    have pos := size_tree_pos ht (List.cons_ne_nil _ _)
    by_cases he : (Item.group items closed).isError = true
    · exact within_isError ha he (Nat.lt_add_of_pos_right pos)
    · have ok : (!closed || items.all Item.isBlank) = false := Bool.eq_false_iff.2 he
      have around : ((Item.group items closed).tree :: above).any isErrorTree = false := by
        rw [List.any_cons, ha, Item.tree, ok]
        rfl
      have below := within_treeAll around (start + 1) items hw
        fun token h => ht token (List.mem_cons_of_mem _ (List.mem_append_left _ h))
      have size : 1 + Tree.sizeAll (Item.treeAll items) ≤ (Item.group items closed).tree.size := by
        rw [size_treeAll, size_tree, Item.tokens, Token.textAll_cons, Token.textAll_append,
          Text.size_append, Text.size_append]
        show 1 + _ ≤ 1 + (_ + _)
        omega
      rw [Item.tree, ok, markError, if_neg Bool.false_ne_true] at pos size below ⊢
      refine within_node ha (Nat.lt_succ_self start) (Nat.lt_add_of_pos_right pos) ?_
      rw [occurrencesAll_parens]
      exact below.widen (by omega)
  | .filter field mark none, _, ht => by
    have pos := size_tree_pos ht (List.cons_ne_nil _ _)
    exact within_isError ha rfl (Nat.lt_add_of_pos_right pos)
  | .filter field mark (some value), _, ht => by
    have around :
        ((Item.filter field mark (some value)).tree :: above).any isErrorTree = false := by
      rw [List.any_cons, ha]
      cases field <;> rfl
    have markPos : 0 < mark.size := Text.size_pos (ht (.mark field mark) (List.mem_cons_self ..))
    have valuePos : 0 < (Item.plain value).tree.size :=
      size_tree_pos (fun token h => ht token (List.mem_cons_of_mem _ h)) (tokens_value_ne_nil value)
    have size : (Item.filter field mark (some value)).tree.size =
        mark.size + ((Item.plain value).tree.size + 0) := rfl
    refine within_node ha (Nat.lt_add_of_pos_right markPos) (by omega) ?_
    rw [Tree.occurrencesAll, Tree.occurrencesAll, Tree.occurrencesAll, List.append_nil]
    exact within_value around value (by omega)
  | .disjunction, _, ht => by
    have pos := size_tree_pos ht (List.cons_ne_nil _ _)
    exact within_node ha (Nat.lt_succ_self start) (Nat.lt_add_of_pos_right pos) (.nil _ _)
  | .stray _, _, ht => by
    have pos := size_tree_pos ht (List.cons_ne_nil _ _)
    exact within_isError ha rfl (Nat.lt_add_of_pos_right pos)
  | .overflow tokens, hw, ht => by
    have nonempty : tokens ≠ [] := by
      rintro rfl
      cases hw
    have pos := size_tree_pos ht nonempty
    exact within_isError ha rfl (Nat.lt_add_of_pos_right pos)

theorem within_treeAll {above : List (Tree Kind)} (ha : above.any isErrorTree = false)
    (start : Nat) : (items : List Item) → Item.allWellFormed items = true →
      (∀ token ∈ Item.tokensAll items, token.text ≠ []) →
      Within start (start + Tree.sizeAll (Item.treeAll items))
        (outsideErrors (Tree.occurrencesAll above start (Item.treeAll items)))
  | [], _, _ => .nil _ _
  | item :: rest, hw, ht => by
    rw [Item.allWellFormed, Bool.and_eq_true] at hw
    have head := within_tree ha start item hw.1
      fun token h => ht token (List.mem_append_left _ h)
    have tail := within_treeAll ha (start + item.tree.size) rest hw.2
      fun token h => ht token (List.mem_append_right _ h)
    rw [Nat.add_assoc] at tail
    rw [Item.treeAll, Tree.occurrencesAll, outsideErrors, List.filter_append, Tree.sizeAll]
    exact head.append tail (by omega) (by omega)

end

/-! ## Terms of a query -/

/-- The nodes of a query below its root and outside error nodes begin at different
    bytes, in order. -/
theorem pairwise_start_parse (limit : Nat) (source : Text) :
    (outsideErrors (Tree.occurrencesAll [(parse limit source).tree] 0
      (Item.treeAll (parse limit source).items))).Pairwise (·.start < ·.start) := by
  refine (within_treeAll rfl 0 _ (allWellFormed_parse limit source) ?_).sorted
  intro token ht
  rw [tokensAll_parse] at ht
  exact text_ne_nil ht

/-- A leaf term begins where its node does. -/
theorem start_of_leafAt? {o : Tree.Occurrence Kind} {leaf : Leaf} (h : leafAt? o = some leaf) :
    leaf.start = o.start := by
  unfold leafAt? at h
  split at h
  · cases h
  · split at h
    · obtain ⟨value, -, rfl⟩ := Option.map_eq_some_iff.1 h
      rfl
    · split at h
      · cases h
      · obtain ⟨value, -, rfl⟩ := Option.map_eq_some_iff.1 h
        rfl

/-- Bound leaf terms are in order if the nodes outside error nodes are. -/
theorem pairwise_boundAmong {nodes : List (Tree.Occurrence Kind)}
    (h : (outsideErrors nodes).Pairwise (·.start < ·.start)) :
    (boundAmong nodes).Pairwise (·.start < ·.start) := by
  have alive : nodes.filter (fun o => !o.above.any isDead) =
      (outsideErrors nodes).filter fun o => !o.above.any isDead := by
    rw [outsideErrors, List.filter_filter]
    refine List.filter_congr ?_
    intro o _
    cases dead : o.above.any isDead with
    | true => rfl
    | false =>
      have noError : o.above.any isErrorTree = false := by
        rw [List.any_eq_false] at dead ⊢
        intro tree ht he
        exact dead tree ht (by rw [isDead, show decide (tree.kind = .error) = true from he]; rfl)
      rw [noError]
      rfl
  rw [boundAmong, alive]
  refine (h.filter _).filterMap _ ?_
  intro o other before leaf hl another ha
  rw [start_of_leafAt? hl, start_of_leafAt? ha]
  exact before

/-- The bound leaf terms of a query begin at different bytes, in order. -/
theorem pairwise_boundLeaves (limit : Nat) (source : Text) :
    (boundLeaves (parse limit source).tree).Pairwise (·.start < ·.start) := by
  rw [boundLeaves, Program.tree, boundAmong_node ⟨rfl, rfl⟩ 0 (leafAt?_string ⟨rfl, rfl⟩ 0 rfl _)]
  exact pairwise_boundAmong (pairwise_start_parse limit source)

end Flashcard.Query
