import Flashcard.Syntax.Lint

/-!
# Walks through syntax trees

What a walk meets does not depend on where the tree stands, and every node can
be listed together with the nodes around it.

Results:
* `hasErrorNode_node`: a tree contains an error node iff its root is one or a
  child contains one.
* `mem_occurrences_above`: what stands around a tree stands around every node
  in it.
* `occurrences_subset`: the nodes below a node of a tree are nodes of the tree.
* `map_visits`: the nodes that a walk visits, and the ranges of their texts.
* `map_tree_placements`: the nodes that are placed in a tree are its nodes.
-/

namespace Flashcard

/-! ## Ranges -/

namespace Span

/-- Every byte of the range is one of the outer range. -/
def Inside (inner outer : Span) : Prop := outer.start ≤ inner.start ∧ inner.stop ≤ outer.stop

instance (inner outer : Span) : Decidable (Inside inner outer) :=
  inferInstanceAs (Decidable (_ ∧ _))

theorem Inside.refl (span : Span) : Inside span span := ⟨Nat.le_refl _, Nat.le_refl _⟩

end Span

namespace Tree

variable {κ : Type}

/-! ## Walks through trees in a row -/

theorem visitsAll_append (path : List κ) (start : Nat) (a b : List (Tree κ)) :
    visitsAll path start (a ++ b) =
      visitsAll path start a ++ visitsAll path (start + sizeAll a) b := by
  induction a generalizing start with
  | nil => rfl
  | cons tree a ih =>
    rw [List.cons_append, visitsAll, visitsAll, ih, List.append_assoc, sizeAll, Nat.add_assoc]

/-! ## Error nodes -/

section Errors

variable [Vocabulary κ]

mutual

/-- The place of a tree does not matter for the error nodes in it. -/
theorem any_isErrorNode_visits (path : List κ) (start : Nat) : (tree : Tree κ) →
    (visits path start tree).any (·.isErrorNode) = tree.hasErrorNode
  | leaf _ _ => rfl
  | node kind children => by
    have here := any_isErrorNode_visitsAll (kind :: path) start children
    have atRoot := any_isErrorNode_visitsAll [kind] 0 children
    simp only [hasErrorNode, walk, visits, List.any_cons] at here atRoot ⊢
    rw [here, atRoot]
    rfl

theorem any_isErrorNode_visitsAll (path : List κ) (start : Nat) : (trees : List (Tree κ)) →
    (visitsAll path start trees).any (·.isErrorNode) = trees.any hasErrorNode
  | [] => rfl
  | tree :: rest => by
    rw [visitsAll, List.any_append, any_isErrorNode_visits path start tree,
      any_isErrorNode_visitsAll path (start + tree.size) rest, List.any_cons]

end

@[simp] theorem hasErrorNode_leaf (kind : κ) (text : Text) :
    (leaf kind text).hasErrorNode = false := rfl

/-- A tree contains an error node iff its root is one or a child contains one. -/
@[simp] theorem hasErrorNode_node (kind : κ) (children : List (Tree κ)) :
    (node kind children).hasErrorNode =
      (Vocabulary.isErrorNode kind || children.any hasErrorNode) := by
  rw [hasErrorNode, walk, visits, List.any_cons, any_isErrorNode_visitsAll]
  rfl

end Errors

/-! ## Nodes and what stands around them -/

/-- A node of a tree: the nodes around it, innermost first, the byte where it
    begins, and the node itself. -/
structure Occurrence (κ : Type) where
  above : List (Tree κ)
  start : Nat
  tree : Tree κ

mutual

/-- The nodes of a tree that begins at the byte `start`, each before those below
    it. -/
def occurrences (above : List (Tree κ)) (start : Nat) : Tree κ → List (Occurrence κ)
  | leaf _ _ => []
  | node kind children =>
    ⟨above, start, node kind children⟩ ::
      occurrencesAll (node kind children :: above) start children

/-- The nodes of trees in a row. -/
def occurrencesAll (above : List (Tree κ)) (start : Nat) : List (Tree κ) → List (Occurrence κ)
  | [] => []
  | tree :: rest => occurrences above start tree ++ occurrencesAll above (start + tree.size) rest

end

theorem occurrencesAll_append (above : List (Tree κ)) (start : Nat) (a b : List (Tree κ)) :
    occurrencesAll above start (a ++ b) =
      occurrencesAll above start a ++ occurrencesAll above (start + sizeAll a) b := by
  induction a generalizing start with
  | nil => rfl
  | cons tree a ih =>
    rw [List.cons_append, occurrencesAll, occurrencesAll, ih, List.append_assoc, sizeAll,
      Nat.add_assoc]

mutual

/-- What stands around a tree stands around every node in it. -/
theorem mem_occurrences_above {outer : Tree κ} {above : List (Tree κ)} (h : outer ∈ above)
    (start : Nat) : (tree : Tree κ) → ∀ o ∈ occurrences above start tree, outer ∈ o.above
  | leaf _ _ => by simp [occurrences]
  | node kind children => by
    intro o ho
    rw [occurrences, List.mem_cons] at ho
    rcases ho with rfl | ho
    · exact h
    · exact mem_occurrencesAll_above (List.mem_cons_of_mem _ h) start children o ho

/-- What stands around trees in a row stands around every node in them. -/
theorem mem_occurrencesAll_above {outer : Tree κ} {above : List (Tree κ)} (h : outer ∈ above)
    (start : Nat) : (trees : List (Tree κ)) → ∀ o ∈ occurrencesAll above start trees,
      outer ∈ o.above
  | [] => by simp [occurrencesAll]
  | tree :: rest => by
    intro o ho
    rw [occurrencesAll, List.mem_append] at ho
    rcases ho with ho | ho
    · exact mem_occurrences_above h start tree o ho
    · exact mem_occurrencesAll_above h (start + tree.size) rest o ho

end

mutual

/-- The nodes below a node of a tree are nodes of the tree. -/
theorem occurrences_subset (above : List (Tree κ)) (start : Nat) : (tree : Tree κ) →
    ∀ o ∈ occurrences above start tree,
      occurrences o.above o.start o.tree ⊆ occurrences above start tree
  | leaf _ _ => nofun
  | node _ children =>
    List.forall_mem_cons.2 ⟨fun _ mem => mem, fun o below => fun _ mem =>
      List.mem_cons_of_mem _ (occurrencesAll_subset _ start children o below mem)⟩

theorem occurrencesAll_subset (above : List (Tree κ)) (start : Nat) : (trees : List (Tree κ)) →
    ∀ o ∈ occurrencesAll above start trees,
      occurrences o.above o.start o.tree ⊆ occurrencesAll above start trees
  | [] => nofun
  | tree :: rest =>
    List.forall_mem_append.2
      ⟨fun o here => fun _ mem =>
        List.mem_append_left _ (occurrences_subset above start tree o here mem),
      fun o later => fun _ mem =>
        List.mem_append_right _ (occurrencesAll_subset above _ rest o later mem)⟩

end

/-- Kind of a node, and the range of its text. -/
def Occurrence.place (o : Occurrence κ) : κ × Span := (o.tree.kind, ⟨o.start, o.tree.size⟩)

mutual

/-- The nodes of a tree that a walk visits. -/
theorem map_visits (path : List κ) (above : List (Tree κ)) (start : Nat) : (tree : Tree κ) →
    ((visits path start tree).filter (·.isNode)).map (fun visit => (visit.kind, visit.span)) =
      (occurrences above start tree).map Occurrence.place
  | leaf _ _ => rfl
  | node kind children => by
    have below := map_visitsAll (kind :: path) (node kind children :: above) start children
    rw [visits, List.filter_cons_of_pos rfl, List.map_cons, below]
    rfl

theorem map_visitsAll (path : List κ) (above : List (Tree κ)) (start : Nat) :
    (trees : List (Tree κ)) →
      ((visitsAll path start trees).filter (·.isNode)).map
          (fun visit => (visit.kind, visit.span)) =
        (occurrencesAll above start trees).map Occurrence.place
  | [] => rfl
  | tree :: rest => by
    rw [visitsAll, List.filter_append, List.map_append, map_visits path above start tree,
      map_visitsAll path above (start + tree.size) rest, occurrencesAll, List.map_append]

end

mutual

theorem map_tree_occurrences (above : List (Tree κ)) (start : Nat) : (tree : Tree κ) →
    (occurrences above start tree).map Occurrence.tree = tree.nodes
  | leaf _ _ => rfl
  | node kind children => by
    rw [occurrences, List.map_cons, map_tree_occurrencesAll (node kind children :: above), nodes]

theorem map_tree_occurrencesAll (above : List (Tree κ)) (start : Nat) :
    (trees : List (Tree κ)) →
      (occurrencesAll above start trees).map Occurrence.tree = nodesAll trees
  | [] => rfl
  | tree :: rest => by
    rw [occurrencesAll, List.map_append, map_tree_occurrences above start tree,
      map_tree_occurrencesAll above (start + tree.size) rest, nodesAll]

end

theorem map_kind_visitsAll (path : List κ) (start : Nat) (trees : List (Tree κ)) :
    ((visitsAll path start trees).filter (·.isNode)).map (·.kind) =
      (nodesAll trees).map Tree.kind := by
  have kinds := congrArg (List.map Prod.fst) (map_visitsAll path [] start trees)
  rw [List.map_map, List.map_map] at kinds
  rw [← map_tree_occurrencesAll [] start, List.map_map]
  exact kinds

/-- Trees contain an error node iff one of their nodes is one. -/
theorem any_hasErrorNode [Vocabulary κ] (trees : List (Tree κ)) :
    trees.any hasErrorNode = ((nodesAll trees).map Tree.kind).any Vocabulary.isErrorNode := by
  rw [← any_isErrorNode_visitsAll [] 0, ← map_kind_visitsAll [] 0, List.any_map, List.any_filter]
  rfl

/-! ## Nodes and their parents -/

/-- A node inside a tree: the kind of the node right around it and the byte where
    that begins, the byte where it begins itself, and the node. -/
structure Placement (κ : Type) where
  parent : κ × Nat
  start : Nat
  tree : Tree κ

mutual

/-- The nodes of a tree that begins at the byte `start`, each before those below
    it. -/
def placements (parent : κ × Nat) (start : Nat) : Tree κ → List (Placement κ)
  | leaf _ _ => []
  | node kind children =>
    ⟨parent, start, node kind children⟩ :: placementsAll (kind, start) start children

/-- The nodes of trees in a row. -/
def placementsAll (parent : κ × Nat) (start : Nat) : List (Tree κ) → List (Placement κ)
  | [] => []
  | tree :: rest =>
    placements parent start tree ++ placementsAll parent (start + tree.size) rest

end

/-- What is right below a node. -/
def children : Tree κ → List (Tree κ)
  | leaf _ _ => []
  | node _ children => children

/-- The nodes below the root of a tree. -/
def inner (tree : Tree κ) : List (Placement κ) := placementsAll (tree.kind, 0) 0 tree.children

theorem placementsAll_append (parent : κ × Nat) (start : Nat) (a b : List (Tree κ)) :
    placementsAll parent start (a ++ b) =
      placementsAll parent start a ++ placementsAll parent (start + sizeAll a) b := by
  induction a generalizing start with
  | nil => rfl
  | cons tree a ih =>
    rw [List.cons_append, placementsAll, placementsAll, ih, List.append_assoc, sizeAll,
      Nat.add_assoc]

theorem nodesAll_append (a b : List (Tree κ)) : nodesAll (a ++ b) = nodesAll a ++ nodesAll b := by
  induction a with
  | nil => rfl
  | cons tree a ih => rw [List.cons_append, nodesAll, nodesAll, ih, List.append_assoc]

mutual

/-- The nodes of a tree that are placed are its nodes. -/
theorem map_tree_placements (parent : κ × Nat) (start : Nat) : (tree : Tree κ) →
    (placements parent start tree).map Placement.tree = tree.nodes
  | leaf _ _ => rfl
  | node kind children => by
    rw [placements, List.map_cons, map_tree_placementsAll (kind, start) start children, nodes]

theorem map_tree_placementsAll (parent : κ × Nat) (start : Nat) : (trees : List (Tree κ)) →
    (placementsAll parent start trees).map Placement.tree = nodesAll trees
  | [] => rfl
  | tree :: rest => by
    rw [placementsAll, List.map_append, map_tree_placements parent start tree,
      map_tree_placementsAll parent (start + tree.size) rest, nodesAll]

end

theorem mem_nodesAll_of_mem_placementsAll {parent : κ × Nat} {start : Nat} {trees : List (Tree κ)}
    {p : Placement κ} (h : p ∈ placementsAll parent start trees) : p.tree ∈ nodesAll trees := by
  rw [← map_tree_placementsAll parent start]
  exact List.mem_map_of_mem h

end Tree

end Flashcard
