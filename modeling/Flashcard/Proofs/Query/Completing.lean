import Flashcard.Proofs.Query.Fragment
import Flashcard.Proofs.Query.Schema
import Flashcard.Proofs.Syntax.Cursor
import Flashcard.Proofs.Text.Part

/-!
# Completions at a cursor

A completion replaces a run of letters, digits and underscores that is read from the text, and
is offered for the token to the left of the cursor, which is found in the tree. Both fit
together: where something is replaced, it lies in a bare word that is a term of its own.

Results:
* `completing_eq`: completing does not panic, at any byte offset.
* `exists_cursorToken`: the token of a query to the left of a cursor, and the node around it.
* `isSound_complete`: what a completion replaces.
* `completions_parse`: all of it for every query and cursor.
-/

namespace Flashcard.Query

open Flashcard.Tree (Encloses)

/-! ## Completing step by step -/

/-- Kinds of the nodes around a cursor, innermost first, from the token to its left. In an empty
    tree there is none. -/
def contextAt (tree : Tree Kind) (offset : Nat) : Except Panic (Option (List Kind)) :=
  if tree.size = 0 then .ok (some [tree.kind])
  else (tree.tokenAt offset).map (·.map (·.path))

/-- Completions at a byte offset of a query, with what can go wrong on the way: the offset may
    lie outside of the tree, and what is replaced may be longer than what stands before it. -/
def completing (tree : Tree Kind) (offset : Nat) (explicit : Bool) :
    Except Panic (Option Completions) :=
  match tree.text.splitAt? offset with
  | none => .ok none
  | some (before, _) => do
    match ← contextAt tree offset with
    | none => .ok none
    | some path =>
      let fragment := (fragmentBefore before).size
      if !offersFilters path then .ok none
      else if fragment = 0 && !explicit then .ok none
      else if offset < fragment then .error .overflow
      else .ok (some ⟨⟨offset - fragment, fragment⟩, filterCompletions⟩)

theorem size_fragmentBefore_le (before : Text) : (fragmentBefore before).size ≤ before.size := by
  obtain ⟨front, whole, -⟩ := exists_fragment before
  have size := congrArg Text.size whole
  rw [Text.size_append] at size
  omega

theorem leaves_eq_nil_iff {κ : Type} {tree : Tree κ} : tree.leaves = [] ↔ tree.tokens = [] := by
  rw [← List.map_eq_nil_iff (f := Tree.Visit.lexeme), Tree.map_lexeme_leaves]
  cases tree.tokens <;> simp [Tree.place]

/-- Inside of a tree without empty tokens the nodes around a cursor are found. -/
theorem contextAt_eq {tree : Tree Kind} {before after : Text}
    (filled : ∀ token ∈ tree.tokens, token.2 ≠ []) (h : tree.text = before ++ after) :
    contextAt tree before.size = .ok (some (pathAt tree before.size)) := by
  have inside : before.size ≤ tree.size := by
    rw [tree.size_eq, h, Text.size_append]
    exact Nat.le_add_right _ _
  rw [contextAt, pathAt]
  split
  · rename_i empty
    have noText : tree.text = [] := by
      by_contra nonempty
      have pos := Text.size_pos nonempty
      rw [← tree.size_eq] at pos
      omega
    have none : tree.leaves = [] := by
      rw [leaves_eq_nil_iff, List.eq_nil_iff_forall_not_mem]
      intro token mem
      rw [← tree.flatMap_tokens, List.flatMap_eq_nil_iff] at noText
      exact filled token mem (noText token mem)
    rw [none]
    rfl
  · rename_i nonempty
    rw [Tree.tokenAt_eq filled inside]
    cases found : tree.leaves.find? fun leaf => before.size ≤ leaf.span.stop with
    | some leaf => rfl
    | none =>
      refine absurd ?_ nonempty
      by_cases begun : before = []
      · -- Every token touches the first byte or stands behind it.
        subst begun
        have none : tree.tokens = [] := by
          rw [← leaves_eq_nil_iff, List.eq_nil_iff_forall_not_mem]
          intro leaf mem
          simpa using List.find?_eq_none.1 found leaf mem
        rw [tree.size_eq, ← tree.flatMap_tokens, none]
        rfl
      · rw [← tree.flatMap_tokens] at h
        obtain ⟨left⟩ := Tree.exists_leftToken h begun
        have same : tree.tokens = tree.tokens.map id := (List.map_id _).symm
        obtain ⟨leaf, isLeaf⟩ := left.exists_isLeaf same
        rw [isLeaf.find?_eq] at found
        cases found

/-- Completing does not panic in a tree without empty tokens. -/
theorem completing_eq {tree : Tree Kind} (filled : ∀ token ∈ tree.tokens, token.2 ≠ [])
    (offset : Nat) (explicit : Bool) :
    completing tree offset explicit = .ok (complete tree offset explicit) := by
  rw [completing, complete]
  cases split : tree.text.splitAt? offset with
  | none => rfl
  | some parts =>
    obtain ⟨before, after⟩ := parts
    obtain ⟨whole, rfl⟩ := Text.splitAt?_eq_some split
    have fits := Nat.not_lt_of_le (size_fragmentBefore_le before)
    show (contextAt tree before.size).bind _ = _
    rw [contextAt_eq filled whole]
    show (if _ then _ else if _ then _ else if _ then _ else _) = _
    rw [if_neg fits]
    cases offersFilters (pathAt tree before.size) with
    | false => rfl
    | true =>
      by_cases empty : (fragmentBefore before).size = 0 <;> cases explicit <;> simp [empty]

/-! ## The token to the left of a cursor -/

/-- The kinds around a place where filters are offered: the top level, or a bare word at the
    top level or in a group. -/
theorem of_offersFilters {kind : Kind} {path : List Kind}
    (h : offersFilters (kind :: path) = true) :
    kind = .program ∨ kind = .simpleString ∧
      ∃ around ∈ path.head?, around = .program ∨ around = .group := by
  unfold offersFilters at h
  split at h
  · rename_i same
    exact .inl (List.cons.inj same).1
  · rename_i around rest same
    obtain ⟨rfl, rfl⟩ := List.cons.inj same
    exact .inr ⟨rfl, around, rfl, by simpa using h⟩
  · cases h

/-- The token of a query to the left of a cursor. -/
abbrev CursorToken (source before after : Text) :=
  Tree.LeftToken (fun token => token.pair.2) (tokenize source) before after

/-- There is one unless the cursor stands at the start. -/
theorem exists_cursorToken {source before after : Text} (h : source = before ++ after)
    (begun : before ≠ []) : Nonempty (CursorToken source before after) := by
  refine Tree.exists_leftToken ?_ begun
  rw [← h]
  exact textAll_tokenize source

/-- It is the leaf of the tree that the cursor finds, below one of the nodes. -/
theorem exists_leaf (limit : Nat) {source before after : Text}
    (found : CursorToken source before after) :
    ∃ leaf, found.IsLeaf (parse limit source).tree leaf ∧
      pathAt (parse limit source).tree before.size = leaf.path ∧
        ∃ o ∈ (parse limit source).tree.occurrences [] 0, Encloses o leaf := by
  obtain ⟨leaf, isLeaf⟩ := found.exists_isLeaf (tokens_parse limit source)
  refine ⟨leaf, isLeaf, ?_, Tree.exists_parent (List.mem_of_find?_eq_some isLeaf.find?_eq)⟩
  rw [pathAt, isLeaf.find?_eq]

/-! ## Where filters are offered -/

theorem eq_root_of_program {limit : Nat} {source : Text} {o : Tree.Occurrence Kind}
    (h : o ∈ (parse limit source).tree.occurrences [] 0) (program : o.tree.kind = .program) :
    o.tree = (parse limit source).tree := by
  have shape := (obeys_parse limit source o h).shape
  rw [HasShape, program] at shape
  obtain rfl | below := List.mem_cons.1 h
  · rfl
  · have inside := Tree.mem_occurrencesAll_above List.mem_cons_self _ _ o below
    rw [shape] at inside
    cases inside

theorem kind_of_tree_eq_leaf {item : Item} {kind : Kind} {text : Text}
    (h : item.tree = .leaf kind text) : kind = .whitespace := by
  cases item with
  | blank _ => exact congrArg Tree.kind h.symm
  | plain value =>
    cases value with
    | word _ => cases h
    | quoted _ closed => cases closed <;> cases h
  | group items closed =>
    rw [tree_group] at h
    cases malformed : !closed || items.all Item.isBlank <;> rw [malformed] at h <;> cases h
  | filter _ _ value => cases value <;> cases h
  | negation _ | disjunction | stray _ | overflow _ => cases h

theorem kind_of_leaf_mem_treeAll {items : List Item} {kind : Kind} {text : Text}
    (h : Tree.leaf kind text ∈ Item.treeAll items) : kind = .whitespace := by
  induction items with
  | nil => cases h
  | cons item items ih =>
    obtain here | later := List.mem_cons.1 h
    · exact kind_of_tree_eq_leaf here.symm
    · exact ih later

/-- The node is a bare word that is a term at the top level or in a group. -/
def IsBareTerm (o : Tree.Occurrence Kind) : Prop :=
  (∃ text, o.tree = .node .simpleString [(Token.word text).leaf]) ∧
    ∃ around ∈ o.above.head?, around.kind = .program ∨ around.kind = .group

/-- Where filters are offered, the text to the left of the cursor ends with blanks or in a bare
    word that is a term of its own. -/
theorem blank_or_bareTerm {limit : Nat} {source before after : Text}
    (found : CursorToken source before after)
    (offers : offersFilters (pathAt (parse limit source).tree before.size) = true) :
    found.token.isBlank = true ∨
      ∃ o ∈ (parse limit source).tree.occurrences [] 0, IsBareTerm o ∧
        o.start = (Token.textAll found.front).size ∧ o.tree.children = [found.token.leaf] := by
  obtain ⟨leaf, isLeaf, path, o, mem, above, front, behind, children, span⟩ :=
    exists_leaf limit found
  have kind : leaf.kind = found.token.kind := congrArg Tree.Lexeme.kind isLeaf.lexeme_eq
  have text : leaf.lexeme.text = found.token.text := congrArg Tree.Lexeme.text isLeaf.lexeme_eq
  have place : leaf.span = ⟨(Token.textAll found.front).size, found.token.text.size⟩ :=
    congrArg Tree.Lexeme.span isLeaf.lexeme_eq
  rw [path, above, List.map_cons] at offers
  rw [kind, text] at children
  obtain program | ⟨simple, around, inside, which⟩ := of_offersFilters offers
  · left
    have child : found.token.leaf ∈ Item.treeAll (parse limit source).items := by
      rw [eq_root_of_program mem program] at children
      show _ ∈ (parse limit source).tree.children
      rw [children]
      exact List.mem_append_right _ List.mem_cons_self
    obtain ⟨text, blank⟩ := eq_blank (kind_of_leaf_mem_treeAll child)
    rw [blank]
    rfl
  · right
    have shape := (obeys_parse limit source o mem).shape
    rw [HasShape, simple] at shape
    obtain ⟨text, word⟩ := shape
    rw [children] at word
    obtain ⟨rfl, alone⟩ : front = [] ∧ found.token.leaf :: behind = [(Token.word text).leaf] := by
      cases front with
      | nil => exact ⟨rfl, word⟩
      | cons tree front => cases front <;> cases (List.cons.inj word).2
    obtain ⟨same, rfl⟩ := List.cons.inj alone
    refine ⟨o, mem, ⟨⟨text, ?_⟩, ?_⟩, ?_, children⟩
    · rw [← same]
      cases whole : o.tree with
      | leaf kind _ =>
        rw [whole] at children
        cases children
      | node kind trees =>
        rw [whole] at children simple
        rw [show kind = .simpleString from simple, show trees = _ from children]
        rfl
    · rw [List.head?_map, Option.mem_def, Option.map_eq_some_iff] at inside
      obtain ⟨tree, head, rfl⟩ := inside
      exact ⟨tree, head, which⟩
    · rw [place] at span
      exact (Span.mk.inj span).1.symm

/-! ## What is replaced -/

/-- The range at the cursor is the longest run of word characters that ends there, and if it is
    not empty, it lies in a bare word that is a term of its own. -/
structure Completions.IsSound (tree : Tree Kind) (source : Text) (offset : Nat)
    (found : Completions) : Prop where
  stop_eq : found.span.stop = offset
  start_isBoundary : source.IsBoundary found.span.start
  stop_isBoundary : source.IsBoundary found.span.stop
  run : ∃ front run behind, source = front ++ (run ++ behind) ∧
    found.span = ⟨Text.size front, Text.size run⟩ ∧
    source.slice? found.span.start found.span.stop = some run ∧
    run.all isFragmentChar = true ∧ ∀ c ∈ front.getLast?, isFragmentChar c = false
  inTerm : found.span.size = 0 ∨ ∃ o ∈ tree.occurrences [] 0,
    IsBareTerm o ∧ found.span.Inside ⟨o.start, o.tree.size⟩

/-- When there are completions, and what they replace. -/
theorem complete_eq_some_iff {tree : Tree Kind} {offset : Nat} {explicit : Bool}
    {found : Completions} : complete tree offset explicit = some found ↔
      ∃ before after, tree.text = before ++ after ∧ before.size = offset ∧
        offersFilters (pathAt tree offset) = true ∧
        (explicit = true ∨ (fragmentBefore before).size ≠ 0) ∧
        found = ⟨⟨offset - (fragmentBefore before).size, (fragmentBefore before).size⟩,
          filterCompletions⟩ := by
  constructor
  · intro h
    rw [complete] at h
    split at h
    · cases h
    · rename_i before after split
      obtain ⟨whole, size⟩ := Text.splitAt?_eq_some split
      obtain ⟨condition, same⟩ := Option.ite_none_right_eq_some.1 h
      simp only [Bool.and_eq_true, Bool.or_eq_true, decide_eq_true_eq] at condition
      exact ⟨before, after, whole, size, condition.1, condition.2, (Option.some.inj same).symm⟩
  · rintro ⟨before, after, whole, rfl, offers, asked, rfl⟩
    have condition : (offersFilters (pathAt tree before.size) &&
        (explicit || (fragmentBefore before).size ≠ 0)) = true := by
      simp only [Bool.and_eq_true, Bool.or_eq_true, decide_eq_true_eq]
      exact ⟨offers, asked⟩
    rw [complete, whole, Text.splitAt?_append]
    exact if_pos condition

theorem fragmentBefore_of_blank {front left : Text} (nonempty : left ≠ [])
    (blank : left.all Unicode.isBlank = true) : fragmentBefore (front ++ left) = [] := by
  have stop : ∀ c ∈ (front ++ left).getLast?, isFragmentChar c = false := by
    intro c last
    rw [List.getLast?_append_of_ne_nil _ nonempty] at last
    exact isFragmentChar_of_isBlank (List.all_eq_true.1 blank c (List.mem_of_getLast? last))
  have same := fragmentBefore_append (b := []) stop
  rwa [List.append_nil] at same

theorem Token.eq_word_of_leaf {token : Token} {text : Text}
    (h : token.leaf = (Token.word text).leaf) : token = .word text := by
  obtain ⟨kind, same⟩ := Tree.leaf.inj h
  obtain ⟨_, rfl⟩ := eq_word kind
  exact congrArg Token.word same

/-- Where something is replaced, it lies in a bare word that is a term of its own. -/
theorem exists_bareTerm {limit : Nat} {source before after : Text} (h : source = before ++ after)
    (offers : offersFilters (pathAt (parse limit source).tree before.size) = true)
    (nonempty : (fragmentBefore before).size ≠ 0) :
    ∃ o ∈ (parse limit source).tree.occurrences [] 0, IsBareTerm o ∧
      o.start ≤ before.size - (fragmentBefore before).size ∧
      before.size ≤ o.start + o.tree.size := by
  have begun : before ≠ [] := by
    rintro rfl
    exact nonempty rfl
  obtain ⟨found⟩ := exists_cursorToken h begun
  obtain blank | ⟨o, mem, bare, start, children⟩ := blank_or_bareTerm found offers
  · refine absurd ?_ nonempty
    have spelled := spelled_of_mem found.mem
    cases token : found.token with
    | blank text =>
      have whole := found.text_eq
      rw [token] at spelled whole
      rw [Token.Spelled, show text = _ from whole, List.all_append, Bool.and_eq_true] at spelled
      rw [found.before_eq, fragmentBefore_of_blank found.left_ne_nil spelled.1]
      rfl
    | _ =>
      rw [token] at blank
      cases blank
  · obtain ⟨text, node⟩ := bare.1
    rw [node] at children
    have token : found.token = .word text := by
      apply Token.eq_word_of_leaf
      exact (List.cons.inj children).1.symm
    have lexed := found.tokens_eq
    have whole := found.text_eq
    rw [token] at lexed whole
    have size : o.tree.size = found.left.size + found.right.size := by
      rw [Tree.size_eq, node, ← Text.size_append, ← whole]
      exact congrArg Text.size (List.append_nil text)
    have inside := size_fragmentBefore_le found.left
    have split : before = Token.textAll found.front ++ found.left := found.before_eq
    rw [split, fragmentBefore_in_word lexed, Text.size_append]
    refine ⟨o, mem, bare, ?_, ?_⟩ <;> omega

/-- What completions replace. -/
theorem isSound_complete {limit : Nat} {source : Text} {offset : Nat} {explicit : Bool}
    {found : Completions}
    (h : complete (parse limit source).tree offset explicit = some found) :
    found.IsSound (parse limit source).tree source offset := by
  obtain ⟨before, after, whole, rfl, offers, -, rfl⟩ := complete_eq_some_iff.1 h
  rw [text_tree_parse] at whole
  obtain ⟨front, split, all, stop⟩ := exists_fragment before
  have sum : before.size = front.size + (fragmentBefore before).size := by
    rw [← Text.size_append, ← split]
  have start : before.size - (fragmentBefore before).size = front.size := by
    omega
  have stands : source.HasAt front.size (fragmentBefore before) :=
    ⟨front, after, by rw [← List.append_assoc, ← split, whole], rfl⟩
  refine ⟨?_, ?_, ?_, ⟨front, fragmentBefore before, after, ?_, ?_, ?_, all, stop⟩, ?_⟩
  · show before.size - (fragmentBefore before).size + (fragmentBefore before).size = _
    omega
  · rw [start]
    exact stands.isBoundary_start
  · rw [start]
    exact stands.isBoundary_stop
  · rw [← List.append_assoc, ← split, whole]
  · rw [start]
  · rw [start]
    exact stands.slice?_eq
  · by_cases empty : (fragmentBefore before).size = 0
    · exact .inl empty
    · obtain ⟨o, mem, bare, first, last⟩ := exists_bareTerm whole offers empty
      refine .inr ⟨o, mem, bare, first, ?_⟩
      simp only [Span.stop]
      omega

/-! ## Every query -/

/-- Completing does not panic, whatever the query, the offset and the request. There is nothing
    to complete at an offset that is no boundary between characters or lies behind the end. What
    is offered replaces the longest run of word characters that ends at the cursor, and unless
    that is empty it lies in a bare word that is a term of its own. What is offered without being
    asked for is also offered to somebody who asks, and the other way round unless nothing would
    be replaced. -/
theorem completions_parse (limit : Nat) (source : Text) (offset : Nat) :
    let tree := (parse limit source).tree
    (∀ explicit, completing tree offset explicit = .ok (complete tree offset explicit)) ∧
      (¬ source.IsBoundary offset → ∀ explicit, complete tree offset explicit = none) ∧
      (∀ explicit found, complete tree offset explicit = some found →
        found.IsSound tree source offset) ∧
      (∀ found, complete tree offset false = some found →
        complete tree offset true = some found) ∧
      ∀ found, complete tree offset true = some found → found.span.size ≠ 0 →
        complete tree offset false = some found := by
  intro tree
  refine ⟨completing_eq ?_ offset, ?_, fun _ _ h => isSound_complete h, ?_, ?_⟩
  · rw [tokens_parse]
    intro pair mem
    obtain ⟨token, lexed, rfl⟩ := List.mem_map.1 mem
    exact text_ne_nil lexed
  · intro inside explicit
    rw [Option.eq_none_iff_forall_ne_some]
    intro found h
    obtain ⟨before, after, whole, size, -⟩ := complete_eq_some_iff.1 h
    rw [text_tree_parse] at whole
    exact inside ⟨before, after, whole, size⟩
  · intro found h
    obtain ⟨before, after, whole, size, offers, -, same⟩ := complete_eq_some_iff.1 h
    exact complete_eq_some_iff.2 ⟨before, after, whole, size, offers, .inl rfl, same⟩
  · intro found h nonempty
    obtain ⟨before, after, whole, size, offers, -, rfl⟩ := complete_eq_some_iff.1 h
    exact complete_eq_some_iff.2 ⟨before, after, whole, size, offers, .inr nonempty, rfl⟩

end Flashcard.Query
