import Flashcard.Syntax.Parsed
import Flashcard.Syntax.Tree

/-!
# Limits of nesting

The parsers of both languages stop nesting at a limit, and all that is left where they
stop is kept in one place. What is read with room for less nesting is therefore what is
read with room for more, up to the first thing in it that is nested too deeply.

Results:
* `depth_le_of_mem_visits`: around a leaf stand at most as many nodes as its tree is high.
* `Limits.map`, `Limits.cons`: what is put together from things that are read up to a
  limit is read up to it.
-/

namespace Flashcard

/-! ## Heights of trees -/

namespace Tree

variable {κ : Type}

mutual

/-- Number of nodes on the longest way down to a leaf. -/
def height : Tree κ → Nat
  | leaf _ _ => 0
  | node _ children => heightAll children + 1

/-- Number of nodes on the longest way down to a leaf of trees in a row. -/
def heightAll : List (Tree κ) → Nat
  | [] => 0
  | tree :: rest => max tree.height (heightAll rest)

end

theorem heightAll_append (a b : List (Tree κ)) :
    heightAll (a ++ b) = max (heightAll a) (heightAll b) := by
  induction a with
  | nil => exact (Nat.zero_max _).symm
  | cons tree a ih => rw [List.cons_append, heightAll, ih, heightAll, Nat.max_assoc]

theorem heightAll_leaves {τ : Type} (kind : τ → κ) (text : τ → Text) (tokens : List τ) :
    heightAll (tokens.map fun token => leaf (kind token) (text token)) = 0 := by
  induction tokens with
  | nil => rfl
  | cons token tokens ih =>
    rw [List.map_cons, heightAll, ih]
    rfl

mutual

/-- Around a leaf stand at most as many nodes as its tree is high. -/
theorem depth_le_of_mem_visits (path : List κ) (start : Nat) : (tree : Tree κ) →
    ∀ visit ∈ visits path start tree, visit.isNode = false →
      visit.depth ≤ path.length + tree.height
  | leaf _ _ => by
    intro visit mem _
    rw [List.mem_singleton.1 mem]
    exact Nat.le_refl _
  | node kind children => by
    intro visit mem isLeaf
    obtain rfl | mem := List.mem_cons.1 mem
    · cases isLeaf
    · have below := depth_le_of_mem_visitsAll (kind :: path) start children visit mem isLeaf
      rw [List.length_cons] at below
      rw [height]
      omega

theorem depth_le_of_mem_visitsAll (path : List κ) (start : Nat) : (trees : List (Tree κ)) →
    ∀ visit ∈ visitsAll path start trees, visit.isNode = false →
      visit.depth ≤ path.length + heightAll trees
  | [] => fun _ mem => nomatch mem
  | tree :: rest => by
    intro visit mem isLeaf
    rw [heightAll]
    obtain mem | mem := List.mem_append.1 mem
    · have here := depth_le_of_mem_visits path start tree visit mem isLeaf
      omega
    · have later := depth_le_of_mem_visitsAll path (start + tree.size) rest visit mem isLeaf
      omega

end

/-- Around a leaf of a whole tree stand at most as many nodes as the tree is high. -/
theorem depth_le_height {tree : Tree κ} {leaf : Visit κ} (h : leaf ∈ tree.leaves) :
    leaf.depth ≤ tree.height := by
  obtain ⟨mem, isLeaf⟩ := List.mem_filter.1 h
  have bound := depth_le_of_mem_visits [] 0 tree leaf mem (by simpa using isLeaf)
  rwa [List.length_nil, Nat.zero_add] at bound

end Tree

/-! ## Reading up to a limit -/

namespace Parsed

variable {τ α β : Type} {bound : Nat}

/-- What is read with room for less nesting, `limited`, against what is read with room for
    more, `whole`: the same if nothing in `whole` is nested more than `room` deep, and else
    `whole` cut off there, with nothing left. `cut` is given the tokens behind what it cuts
    off, since these are lost in it too. -/
structure Limits (depth : α → Nat) (cut : Nat → α → List τ → α) (room : Nat)
    (whole limited : Parsed τ α bound) : Prop where
  same : depth whole.value ≤ room → limited = whole
  short : room < depth whole.value →
    limited.value = cut room whole.value whole.rest ∧ limited.rest = []

namespace Limits

variable {depth : α → Nat} {cut : Nat → α → List τ → α} {room : Nat}
  {whole limited : Parsed τ α bound}

/-- Where nothing is nested too deeply, the limit makes no difference. -/
theorem refl {parsed : Parsed τ α bound} (h : depth parsed.value ≤ room) :
    Limits depth cut room parsed parsed :=
  ⟨fun _ => rfl, fun deep => absurd deep (Nat.not_lt.2 h)⟩

theorem widen (h : Limits depth cut room whole limited) {larger : Nat} (le : bound ≤ larger) :
    Limits depth cut room (whole.widen le) (limited.widen le) :=
  ⟨fun shallow => congrArg (Parsed.widen · le) (h.same shallow), h.short⟩

/-- Something that adds one level of nesting needs room for one more. -/
theorem map {depth' : β → Nat} {cut' : Nat → β → List τ → β} {f : α → β}
    (h : Limits depth cut room whole limited) (deeper : ∀ a, depth' (f a) = depth a + 1)
    (cuts : ∀ a behind, cut' (room + 1) (f a) behind = f (cut room a behind)) :
    Limits depth' cut' (room + 1) (whole.map f) (limited.map f) where
  same shallow := by
    rw [map_value, deeper] at shallow
    rw [h.same (Nat.le_of_succ_le_succ shallow)]
  short deep := by
    rw [map_value, deeper] at deep
    obtain ⟨value, rest⟩ := h.short (Nat.lt_of_succ_lt_succ deep)
    rw [map_value, map_rest, map_value, map_rest, cuts, value]
    exact ⟨rfl, rest⟩

/-- Something in front of a row that is itself not nested too deeply stays there. -/
theorem cons {depth : List α → Nat} {cut : Nat → List α → List τ → List α}
    {whole limited : Parsed τ (List α) bound} (h : Limits depth cut room whole limited)
    {item : α} (passes : ∀ items, room < depth (item :: items) ↔ room < depth items)
    (keeps : ∀ items behind, cut room (item :: items) behind = item :: cut room items behind)
    {larger : Nat} (le : bound ≤ larger) :
    Limits depth cut room (whole.cons item le) (limited.cons item le) where
  same shallow := by
    rw [h.same (Nat.not_lt.1 fun deep => Nat.not_lt.2 shallow ((passes _).2 deep))]
  short deep := by
    obtain ⟨value, rest⟩ := h.short ((passes _).1 deep)
    rw [cons_value, cons_rest, cons_value, cons_rest, keeps, value]
    exact ⟨rfl, rest⟩

end Limits

end Parsed

end Flashcard
