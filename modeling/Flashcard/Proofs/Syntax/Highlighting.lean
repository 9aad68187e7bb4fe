import Flashcard.Highlight
import Flashcard.Proofs.Syntax.Tiling
import Flashcard.Proofs.Syntax.Walk

/-!
# Invalid tokens

Ranges in a tree are nested: what is below a node lies in the range of the node, and what
stands beside it does not, unless it is empty. So a token that is not empty lies in the range
of a syntax error only if the error node is one of the nodes around it, and those make it
invalid.

Results:
* `inside_of_mem_visits`: what is met in a tree lies in the range of the tree.
* `error_around_iff`: an error node stands around a token iff the token lies in its range.
* `invalid_iff`: the invalid tokens of a tree are those in the range of a syntax error.
* `map_span_highlight`: the tokens that are highlighted.
-/

namespace Flashcard

namespace Tree

variable {κ : Type}

/-! ## Ranges in a tree -/

mutual

/-- What is met in a tree lies in the range of the tree. -/
theorem inside_of_mem_visits (path : List κ) (start : Nat) : (tree : Tree κ) →
    ∀ visit ∈ visits path start tree, visit.span.Inside ⟨start, tree.size⟩
  | leaf _ _ => List.forall_mem_singleton.2 (Span.Inside.refl _)
  | node kind children =>
    List.forall_mem_cons.2 ⟨Span.Inside.refl _,
      inside_of_mem_visitsAll (kind :: path) start children⟩

theorem inside_of_mem_visitsAll (path : List κ) (start : Nat) : (trees : List (Tree κ)) →
    ∀ visit ∈ visitsAll path start trees, visit.span.Inside ⟨start, sizeAll trees⟩
  | [] => nofun
  | tree :: rest => by
    intro visit mem
    simp only [Span.Inside, Span.stop, sizeAll]
    obtain mem | mem := List.mem_append.1 mem
    · obtain ⟨first, last⟩ := inside_of_mem_visits path start tree visit mem
      simp only [Span.stop] at first last
      omega
    · obtain ⟨first, last⟩ := inside_of_mem_visitsAll path (start + tree.size) rest visit mem
      simp only [Span.stop] at first last
      omega

end

mutual

theorem size_pos_of_mem_visits (path : List κ) (start : Nat) : (tree : Tree κ) →
    (∀ token ∈ tree.tokens, token.2 ≠ []) →
      ∀ visit ∈ visits path start tree, visit.isNode = false → 0 < visit.span.size
  | leaf _ _, filled =>
    List.forall_mem_singleton.2 fun _ => Text.size_pos (filled _ List.mem_cons_self)
  | node kind children, filled =>
    List.forall_mem_cons.2 ⟨nofun, size_pos_of_mem_visitsAll (kind :: path) start children filled⟩

theorem size_pos_of_mem_visitsAll (path : List κ) (start : Nat) : (trees : List (Tree κ)) →
    (∀ token ∈ tokensAll trees, token.2 ≠ []) →
      ∀ visit ∈ visitsAll path start trees, visit.isNode = false → 0 < visit.span.size
  | [], _ => nofun
  | tree :: rest, filled => by
    obtain ⟨inTree, inRest⟩ := List.forall_mem_append.1 filled
    exact List.forall_mem_append.2 ⟨size_pos_of_mem_visits path start tree inTree,
      size_pos_of_mem_visitsAll path (start + tree.size) rest inRest⟩

end

/-! ## Error nodes around a token -/

section Errors

variable [Vocabulary κ]

/-- The range lies in that of an error node among some visits. -/
def InError (visits : List (Visit κ)) (span : Span) : Prop :=
  ∃ visit ∈ visits, visit.isErrorNode = true ∧ span.Inside visit.span

theorem inError_cons {visit : Visit κ} {visits : List (Visit κ)} {span : Span} :
    InError (visit :: visits) span ↔
      visit.isErrorNode = true ∧ span.Inside visit.span ∨ InError visits span := by
  simp only [InError, List.mem_cons, exists_eq_or_imp]

theorem inError_append {a b : List (Visit κ)} {span : Span} :
    InError (a ++ b) span ↔ InError a span ∨ InError b span := by
  simp only [InError, List.mem_append, or_and_right, exists_or]

/-- A range that is not empty lies in no error node of trees behind it. -/
theorem not_inError_behind {path : List κ} {start : Nat} {trees : List (Tree κ)} {span : Span}
    (pos : 0 < span.size) (before : span.stop ≤ start) :
    ¬ InError (visitsAll path start trees) span := by
  rintro ⟨visit, mem, -, ⟨first, -⟩⟩
  obtain ⟨least, -⟩ := inside_of_mem_visitsAll path start trees visit mem
  simp only [Span.stop] at before least
  omega

/-- A range that is not empty lies in no error node of a tree in front of it. -/
theorem not_inError_before {path : List κ} {start : Nat} {tree : Tree κ} {span : Span}
    (pos : 0 < span.size) (behind : start + tree.size ≤ span.start) :
    ¬ InError (visits path start tree) span := by
  rintro ⟨visit, mem, -, ⟨-, last⟩⟩
  obtain ⟨-, most⟩ := inside_of_mem_visits path start tree visit mem
  simp only [Span.stop] at last most
  omega

mutual

/-- An error node stands around a token of a tree iff one stands around the tree, or the token
    lies in the range of one in the tree. -/
theorem error_around_iff (path : List κ) (start : Nat) : (tree : Tree κ) →
    (∀ token ∈ tree.tokens, token.2 ≠ []) →
      ∀ leaf ∈ visits path start tree, leaf.isNode = false →
        (leaf.path.any Vocabulary.isErrorNode = true ↔
          path.any Vocabulary.isErrorNode = true ∨ InError (visits path start tree) leaf.span)
  | leaf _ _, _ => by
    refine List.forall_mem_singleton.2 fun _ => ?_
    rw [or_iff_left]
    rintro ⟨visit, mem, error, -⟩
    rw [List.mem_singleton.1 mem] at error
    cases error
  | node kind children, filled => by
    rw [visits]
    refine List.forall_mem_cons.2 ⟨nofun, fun leaf mem isLeaf => ?_⟩
    have here : leaf.span.Inside ⟨start, sizeAll children⟩ :=
      inside_of_mem_visitsAll (kind :: path) start children leaf mem
    rw [error_aroundAll_iff (kind :: path) start children filled leaf mem isLeaf, List.any_cons,
      Bool.or_eq_true, inError_cons, or_assoc, or_left_comm]
    simp only [here, and_true]
    rfl

theorem error_aroundAll_iff (path : List κ) (start : Nat) : (trees : List (Tree κ)) →
    (∀ token ∈ tokensAll trees, token.2 ≠ []) →
      ∀ leaf ∈ visitsAll path start trees, leaf.isNode = false →
        (leaf.path.any Vocabulary.isErrorNode = true ↔
          path.any Vocabulary.isErrorNode = true ∨ InError (visitsAll path start trees) leaf.span)
  | [], _ => nofun
  | tree :: rest, filled => by
    intro leaf mem isLeaf
    have pos := size_pos_of_mem_visitsAll path start (tree :: rest) filled leaf mem isLeaf
    obtain ⟨inTree, inRest⟩ := List.forall_mem_append.1 filled
    rw [visitsAll, inError_append]
    obtain mem | mem := List.mem_append.1 mem
    · -- No error node behind the tree reaches back to the token.
      have last : leaf.span.stop ≤ start + tree.size :=
        (inside_of_mem_visits path start tree leaf mem).2
      rw [error_around_iff path start tree inTree leaf mem isLeaf,
        or_iff_left (not_inError_behind pos last)]
    · have first : start + tree.size ≤ leaf.span.start :=
        (inside_of_mem_visitsAll path (start + tree.size) rest leaf mem).1
      rw [error_aroundAll_iff path (start + tree.size) rest inRest leaf mem isLeaf,
        or_iff_right (not_inError_before pos first)]

end

/-! ## Classes of tokens -/

mutual

/-- Nothing in the tree is highlighted as invalid by its own kind, except below error nodes. -/
def soundOutsideErrors : Tree κ → Bool
  | leaf kind _ => Vocabulary.highlight kind ≠ .invalid
  | node kind children => Vocabulary.isErrorNode kind ||
      (Vocabulary.highlight kind ≠ .invalid && allSoundOutsideErrors children)

/-- Nothing in trees in a row is highlighted as invalid by its own kind, except below error
    nodes. -/
def allSoundOutsideErrors : List (Tree κ) → Bool
  | [] => true
  | tree :: rest => soundOutsideErrors tree && allSoundOutsideErrors rest

end

theorem allSoundOutsideErrors_append (a b : List (Tree κ)) :
    allSoundOutsideErrors (a ++ b) = (allSoundOutsideErrors a && allSoundOutsideErrors b) := by
  induction a with
  | nil => rfl
  | cons tree a ih =>
    rw [List.cons_append, allSoundOutsideErrors, ih, allSoundOutsideErrors, Bool.and_assoc]

/-- The kinds of a token and of the nodes around it are not invalid by themselves. -/
def Visit.Sound (visit : Visit κ) : Prop :=
  ∀ kind ∈ visit.kind :: visit.path, Vocabulary.highlight kind ≠ .invalid

mutual

theorem sound_or_error (path : List κ) (start : Nat) : (tree : Tree κ) →
    (∀ token ∈ tree.tokens, token.2 ≠ []) → tree.soundOutsideErrors = true →
      (∀ kind ∈ path, Vocabulary.highlight kind ≠ .invalid) →
        ∀ leaf ∈ visits path start tree, leaf.isNode = false →
          leaf.path.any Vocabulary.isErrorNode = true ∨ leaf.Sound
  | leaf _ _, _, sound, above =>
    List.forall_mem_singleton.2 fun _ =>
      .inr (List.forall_mem_cons.2 ⟨of_decide_eq_true sound, above⟩)
  | node kind children, filled, sound, above => by
    refine List.forall_mem_cons.2 ⟨nofun, ?_⟩
    obtain error | inside := Bool.or_eq_true_iff.1 sound
    · intro leaf mem isLeaf
      have around : (kind :: path).any Vocabulary.isErrorNode = true :=
        List.any_eq_true.2 ⟨kind, List.mem_cons_self, error⟩
      exact .inl ((error_aroundAll_iff _ start children filled leaf mem isLeaf).2 (.inl around))
    · obtain ⟨here, below⟩ := Bool.and_eq_true_iff.1 inside
      exact sound_or_errorAll (kind :: path) start children filled below
        (List.forall_mem_cons.2 ⟨of_decide_eq_true here, above⟩)

theorem sound_or_errorAll (path : List κ) (start : Nat) : (trees : List (Tree κ)) →
    (∀ token ∈ tokensAll trees, token.2 ≠ []) → allSoundOutsideErrors trees = true →
      (∀ kind ∈ path, Vocabulary.highlight kind ≠ .invalid) →
        ∀ leaf ∈ visitsAll path start trees, leaf.isNode = false →
          leaf.path.any Vocabulary.isErrorNode = true ∨ leaf.Sound
  | [], _, _, _ => nofun
  | tree :: rest, filled, sound, above => by
    obtain ⟨inTree, inRest⟩ := List.forall_mem_append.1 filled
    obtain ⟨first, others⟩ := Bool.and_eq_true_iff.1 sound
    exact List.forall_mem_append.2 ⟨sound_or_error path start tree inTree first above,
      sound_or_errorAll path (start + tree.size) rest inRest others above⟩

end

/-- A token is invalid iff an error node stands around it, if nothing else makes it so. -/
theorem Visit.classify_eq_invalid_iff {leaf : Visit κ}
    (h : leaf.path.any Vocabulary.isErrorNode = true ∨ leaf.Sound) :
    leaf.classify = .invalid ↔ leaf.path.any Vocabulary.isErrorNode = true := by
  rw [classify]
  by_cases error : leaf.path.any Vocabulary.isErrorNode = true
  · simp only [error, if_true]
  · rw [if_neg error]
    refine iff_of_false ?_ error
    generalize found : List.find? _ _ = class?
    cases class? with
    | none => exact HighlightClass.noConfusion
    | some other =>
      obtain ⟨kind, mem, rfl⟩ := List.mem_map.1 (List.mem_of_find?_eq_some found)
      exact h.resolve_left error kind mem

/-! ## Highlights of a tree -/

/-- A token is highlighted as invalid iff its range lies in that of a syntax error, in a tree
    without empty tokens in which nothing but errors is invalid by its own kind. -/
theorem invalid_iff {tree : Tree κ} (filled : ∀ token ∈ tree.tokens, token.2 ≠ [])
    (sound : tree.soundOutsideErrors = true) :
    ∀ found ∈ tree.highlight, found.highlight = .invalid ↔
      ∃ diagnostic ∈ tree.lint, found.span.Inside diagnostic.span := by
  intro found mem
  obtain ⟨leaf, kept, rfl⟩ := List.mem_map.1 mem
  obtain ⟨met, isLeaf⟩ := List.mem_filter.1 (List.mem_filter.1 kept).1
  rw [Bool.not_eq_true'] at isLeaf
  have around := error_around_iff [] 0 tree filled leaf met isLeaf
  have nothing : ¬ ([] : List κ).any Vocabulary.isErrorNode = true := Bool.false_ne_true
  rw [Visit.classify_eq_invalid_iff (sound_or_error [] 0 tree filled sound nofun leaf met isLeaf),
    around, or_iff_right nothing, InError]
  constructor
  · rintro ⟨visit, visited, error, inside⟩
    exact ⟨_, List.mem_map_of_mem (List.mem_filter.2 ⟨visited, error⟩), inside⟩
  · rintro ⟨diagnostic, reported, inside⟩
    obtain ⟨visit, found, rfl⟩ := List.mem_map.1 reported
    obtain ⟨visited, error⟩ := List.mem_filter.1 found
    exact ⟨visit, visited, error, inside⟩

/-- Tokens with a meaning are highlighted, in order and each with its range. -/
theorem map_span_highlight (tree : Tree κ) :
    tree.highlight.map (·.span) =
      (tree.lexemes.filter fun token => !Vocabulary.isTrivia token.kind).map (·.span) := by
  rw [highlight, List.map_map, lexemes_eq_place, ← map_lexeme_leaves, List.filter_map,
    List.map_map]
  rfl

end Errors

end Tree

end Flashcard
