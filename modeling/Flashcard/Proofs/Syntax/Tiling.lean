import Flashcard.Syntax.Tree

/-!
# Tokens that tile a source

The leaves of a syntax tree carry the ranges that their texts take one after
the other. When no text is empty these ranges tile the source: they begin and
end between characters, follow each other without a gap and cover everything.

Results:
* `lexemes_eq_place`: the leaves of a tree, in order, are its tokens laid out
  one behind the other.
* `map_leaves`: the leaves of a tree with the kinds of the nodes around them.
* `tiles_place`: tokens laid out one behind the other tile the text they make
  up.
-/

namespace Flashcard

namespace Text

theorem size_pos {text : Text} (h : text ≠ []) : 0 < text.size := by
  obtain ⟨c, rest, rfl⟩ := List.exists_cons_of_ne_nil h
  have := c.utf8Size_pos
  rw [size_cons]
  omega

theorem splitAt?_append (a b : Text) : splitAt? a.size (a ++ b) = some (a, b) := by
  induction a with
  | nil => cases b <;> rfl
  | cons c a ih =>
    have pos := c.utf8Size_pos
    rw [List.cons_append, splitAt?, size_cons, if_neg (by omega), if_pos (by omega),
      Nat.add_sub_cancel_left, ih]
    rfl

theorem slice?_append (a b c : Text) :
    slice? a.size (a.size + b.size) (a ++ (b ++ c)) = some b := by
  rw [slice?, splitAt?_append]
  show (splitAt? _ (b ++ c)).bind _ = _
  rw [Nat.add_sub_cancel_left, splitAt?_append]
  rfl

end Text

namespace Tree

variable {κ : Type}

/-! ## Leaves in their places -/

/-- A token in its place. -/
structure Lexeme (κ : Type) where
  kind : κ
  span : Span
  text : Text
deriving DecidableEq, Repr

/-- The token that is visited at a leaf. -/
def Visit.lexeme? (visit : Visit κ) : Option (Lexeme κ) :=
  visit.text.map (⟨visit.kind, visit.span, ·⟩)

/-- The leaves of a tree as tokens in their places. -/
def lexemes (tree : Tree κ) : List (Lexeme κ) := tree.leaves.filterMap Visit.lexeme?

/-- Tokens one behind the other, from the byte `start` on. -/
def place (start : Nat) : List (κ × Text) → List (Lexeme κ)
  | [] => []
  | (kind, text) :: rest => ⟨kind, ⟨start, text.size⟩, text⟩ :: place (start + text.size) rest

theorem place_append (start : Nat) (a b : List (κ × Text)) :
    place start (a ++ b) = place start a ++ place (start + Text.size (a.flatMap (·.2))) b := by
  induction a generalizing start with
  | nil => rfl
  | cons token a ih =>
    rw [List.cons_append, place, ih, List.flatMap_cons, Text.size_append, Nat.add_assoc]
    rfl

/-- The token with another kind in place of its own. -/
def Lexeme.map {κ' : Type} (f : κ → κ') (lexeme : Lexeme κ) : Lexeme κ' :=
  ⟨f lexeme.kind, lexeme.span, lexeme.text⟩

theorem place_map {κ' : Type} (f : κ → κ') (start : Nat) (tokens : List (κ × Text)) :
    place start (tokens.map (Prod.map f id)) = (place start tokens).map (Lexeme.map f) := by
  induction tokens generalizing start with
  | nil => rfl
  | cons token tokens ih =>
    rw [List.map_cons, Prod.map, place, ih]
    rfl

theorem mem_of_mem_place {start : Nat} {lexeme : Lexeme κ} {tokens : List (κ × Text)}
    (h : lexeme ∈ place start tokens) : (lexeme.kind, lexeme.text) ∈ tokens := by
  induction tokens generalizing start with
  | nil => cases h
  | cons token tokens ih =>
    obtain rfl | tail := List.mem_cons.1 h
    · exact List.mem_cons_self ..
    · exact List.mem_cons_of_mem _ (ih tail)

mutual

/-- Kinds and texts of the leaves of a tree. -/
def tokens : Tree κ → List (κ × Text)
  | leaf kind text => [(kind, text)]
  | node _ children => tokensAll children

/-- Kinds and texts of the leaves of trees in a row. -/
def tokensAll : List (Tree κ) → List (κ × Text)
  | [] => []
  | tree :: rest => tree.tokens ++ tokensAll rest

end

theorem tokensAll_append (a b : List (Tree κ)) :
    tokensAll (a ++ b) = tokensAll a ++ tokensAll b := by
  induction a with
  | nil => rfl
  | cons tree a ih => rw [List.cons_append, tokensAll, ih, tokensAll, List.append_assoc]

mutual

theorem flatMap_tokens : (tree : Tree κ) → tree.tokens.flatMap (·.2) = tree.text
  | leaf _ text => by simp [tokens]
  | node _ children => flatMap_tokensAll children

theorem flatMap_tokensAll : (trees : List (Tree κ)) →
    (tokensAll trees).flatMap (·.2) = textAll trees
  | [] => rfl
  | tree :: rest => by
    rw [tokensAll, List.flatMap_append, flatMap_tokens tree, flatMap_tokensAll rest,
      textAll_cons]

end

mutual

theorem filterMap_visits (path : List κ) (start : Nat) : (tree : Tree κ) →
    (visits path start tree).filterMap Visit.lexeme? = place start tree.tokens
  | leaf _ _ => rfl
  | node kind children => filterMap_visitsAll (kind :: path) start children

theorem filterMap_visitsAll (path : List κ) (start : Nat) : (trees : List (Tree κ)) →
    (visitsAll path start trees).filterMap Visit.lexeme? = place start (tokensAll trees)
  | [] => rfl
  | tree :: rest => by
    rw [visitsAll, List.filterMap_append, filterMap_visits path start tree,
      filterMap_visitsAll path (start + tree.size) rest, tokensAll, place_append,
      flatMap_tokens, size_eq]

end

/-- The leaves of a tree are its tokens laid out one behind the other. -/
theorem lexemes_eq_place (tree : Tree κ) : tree.lexemes = place 0 tree.tokens := by
  rw [← filterMap_visits [] 0 tree, lexemes, leaves, walk, List.filterMap_filter]
  congr 1
  funext visit
  cases h : visit.text <;> simp [Visit.lexeme?, Visit.isNode, h]

/-- What is visited at a leaf, as a token. -/
def Visit.lexeme (visit : Visit κ) : Lexeme κ := ⟨visit.kind, visit.span, visit.text.getD []⟩

theorem map_lexeme_filter (visits : List (Visit κ)) :
    (visits.filter (!·.isNode)).map Visit.lexeme = visits.filterMap Visit.lexeme? := by
  induction visits with
  | nil => rfl
  | cons visit visits ih =>
    cases h : visit.text <;> simpa [Visit.isNode, Visit.lexeme, Visit.lexeme?, h] using ih

/-- Each leaf of a tree is one of its tokens in their places. -/
theorem map_lexeme_leaves (tree : Tree κ) :
    tree.leaves.map Visit.lexeme = place 0 tree.tokens := by
  rw [leaves, map_lexeme_filter, walk, filterMap_visits]

mutual

/-- The leaves of a tree: the kinds of the nodes around each, innermost first, and
    its own kind. -/
def leafKinds (path : List κ) : Tree κ → List (List κ × κ)
  | leaf kind _ => [(path, kind)]
  | node kind children => leafKindsAll (kind :: path) children

/-- The leaves of trees in a row. -/
def leafKindsAll (path : List κ) : List (Tree κ) → List (List κ × κ)
  | [] => []
  | tree :: rest => leafKinds path tree ++ leafKindsAll path rest

end

theorem leafKindsAll_append (path : List κ) (a b : List (Tree κ)) :
    leafKindsAll path (a ++ b) = leafKindsAll path a ++ leafKindsAll path b := by
  induction a with
  | nil => rfl
  | cons tree a ih =>
    rw [List.cons_append, leafKindsAll, ih, leafKindsAll, List.append_assoc]

mutual

theorem map_filter_visits (path : List κ) (start : Nat) : (tree : Tree κ) →
    ((visits path start tree).filter (!·.isNode)).map (fun visit => (visit.path, visit.kind)) =
      leafKinds path tree
  | leaf _ _ => rfl
  | node kind children => map_filter_visitsAll (kind :: path) start children

theorem map_filter_visitsAll (path : List κ) (start : Nat) : (trees : List (Tree κ)) →
    ((visitsAll path start trees).filter (!·.isNode)).map
        (fun visit => (visit.path, visit.kind)) =
      leafKindsAll path trees
  | [] => rfl
  | tree :: rest => by
    rw [visitsAll, List.filter_append, List.map_append, map_filter_visits path start tree,
      map_filter_visitsAll path (start + tree.size) rest, leafKindsAll]

end

/-- The kinds of the leaves of a tree do not depend on its place. -/
theorem map_leaves (tree : Tree κ) :
    tree.leaves.map (fun visit => (visit.path, visit.kind)) = leafKinds [] tree :=
  map_filter_visits [] 0 tree

mutual

theorem map_leafKinds (path : List κ) : (tree : Tree κ) →
    (leafKinds path tree).map (·.2) = tree.tokens.map (·.1)
  | leaf _ _ => rfl
  | node kind children => map_leafKindsAll (kind :: path) children

theorem map_leafKindsAll (path : List κ) : (trees : List (Tree κ)) →
    (leafKindsAll path trees).map (·.2) = (tokensAll trees).map (·.1)
  | [] => rfl
  | tree :: rest => by
    rw [leafKindsAll, List.map_append, map_leafKinds path tree, map_leafKindsAll path rest,
      tokensAll, List.map_append]

end

/-! ## Tilings -/

/-- The tokens tile the source from the byte `start` to its end: each begins
    where the last one ended, covers at least a byte, and has as its text what
    the source has in its range. -/
def Tiles (source : Text) (start : Nat) : List (Lexeme κ) → Prop
  | [] => start = source.size
  | token :: rest =>
    token.span.start = start ∧ 0 < token.span.size ∧
      source.slice? token.span.start token.span.stop = some token.text ∧
      Tiles source token.span.stop rest

/-- Tokens laid out behind a part of a text tile the rest that they make up. -/
theorem tiles_place (before : Text) (tokens : List (κ × Text))
    (h : ∀ token ∈ tokens, token.2 ≠ []) :
    Tiles (before ++ tokens.flatMap (·.2)) before.size (place before.size tokens) := by
  induction tokens generalizing before with
  | nil =>
    rw [List.flatMap_nil, List.append_nil]
    rfl
  | cons token tokens ih =>
    obtain ⟨kind, text⟩ := token
    have nonempty : 0 < text.size := Text.size_pos (h (kind, text) (List.mem_cons_self ..))
    have rest := ih (before ++ text) fun token ht => h token (List.mem_cons_of_mem _ ht)
    rw [Text.size_append, List.append_assoc] at rest
    rw [List.flatMap_cons, place]
    exact ⟨rfl, nonempty, Text.slice?_append before text _, rest⟩

end Tree

end Flashcard
