import Flashcard.Proofs.Template.TagEnd

/-!
# Reading a template loses nothing

The tokens of a template tile it, and they are the leaves of its syntax tree,
from left to right. This holds for every template and however deeply blocks may
be nested.

Results:
* `text_ne_nil`: no token of a template is empty.
* `not_isInfix_textAll`: texts that touch hold no beginning of a tag.
* `leaves_parse`: the leaves of a syntax tree are what its source is cut into.
-/

namespace Flashcard.Template

/-! ## Tokens -/

/-- No token of a template is empty. -/
theorem text_ne_nil {inTag : Bool} {source : Text} {token : Token}
    (h : token ∈ tokenizeFrom inTag source) : token.text ≠ [] := by
  fun_induction tokenizeFrom inTag source with
  | case1 => cases h
  | case12 c rest _ _ _ _ _ _ ih => exact ih h
  | _ =>
    rename_i ih
    obtain rfl | later := List.mem_cons.1 h
    · exact List.cons_ne_nil _ _
    · exact ih later

/-- What a run of texts begins with, the source begins with. -/
theorem prefix_of_tokenizeFrom {inTag : Bool} {source : Text} {run : List Token}
    (h : run <+: tokenizeFrom inTag source) : Token.textAll run <+: source := by
  obtain ⟨later, split⟩ := h
  refine ⟨Token.textAll later, ?_⟩
  rw [← Token.textAll_append, split, textAll_tokenizeFrom]

/-- A beginning of a tag in a text without opening braces and what follows it
    stands behind that text. -/
theorem isInfix_of_append {front behind : Text} (h : '{' ∉ front)
    (mem : ['{', '{'] <:+: front ++ behind) : ['{', '{'] <:+: behind := by
  induction front with
  | nil => exact mem
  | cons c front ih =>
    rw [List.mem_cons, not_or] at h
    obtain here | later := List.infix_cons_iff.1 mem
    · exact absurd (List.cons_prefix_cons.1 here).1 h.1
    · exact ih h.2 later

theorem not_isInfix_front {inTag : Bool} {source : Text} {run : List Token}
    (text : ∀ token ∈ run, token.kind = .textContent)
    (h : run <+: tokenizeFrom inTag source) : ¬ ['{', '{'] <:+: Token.textAll run := by
  have nothing : ¬ ['{', '{'] <:+: Token.textAll [] := by decide
  fun_induction tokenizeFrom inTag source generalizing run with
  | case1 =>
    rw [List.prefix_nil.1 h]
    exact nothing
  | case12 c rest _ _ _ _ _ _ ih => exact ih text h
  | case4 rest slash brace ih =>
    cases run with
    | nil => exact nothing
    | cons token run =>
      obtain ⟨rfl, later⟩ := List.cons_prefix_cons.1 h
      intro mem
      rw [Token.textAll_cons, Token.text, List.singleton_append] at mem
      obtain here | behind := List.infix_cons_iff.1 mem
      · -- A second brace would have begun a tag together with the first one.
        obtain ⟨after, split⟩ :=
          (List.cons_prefix_cons.1 here).2.trans (prefix_of_tokenizeFrom later)
        exact brace after split.symm
      · exact ih (fun token mem => text token (List.mem_cons_of_mem _ mem)) later behind
  | case5 c rest _ _ brace ih =>
    cases run with
    | nil => exact nothing
    | cons token run =>
      obtain ⟨rfl, later⟩ := List.cons_prefix_cons.1 h
      have none : '{' ∉ c :: rest.takeWhile (· ≠ '{') := by
        intro mem
        obtain rfl | mem := List.mem_cons.1 mem
        · exact brace rfl
        · have other := List.all_eq_true.1 (List.all_takeWhile (p := (· ≠ '{'))) _ mem
          exact absurd rfl (of_decide_eq_true other)
      intro mem
      exact ih (fun token mem => text token (List.mem_cons_of_mem _ mem)) later
        (isInfix_of_append none mem)
  | _ =>
    cases run with
    | nil => exact nothing
    | cons token run =>
      obtain ⟨rfl, -⟩ := List.cons_prefix_cons.1 h
      exact absurd (text _ (List.mem_cons_self ..)) Kind.noConfusion

/-- Texts that touch hold no beginning of a tag. -/
theorem not_isInfix_textAll {inTag : Bool} {source : Text} {run : List Token}
    (text : ∀ token ∈ run, token.kind = .textContent)
    (h : run <:+: tokenizeFrom inTag source) : ¬ ['{', '{'] <:+: Token.textAll run := by
  have atFront (front : run <+: tokenizeFrom inTag source) := not_isInfix_front text front
  fun_induction tokenizeFrom inTag source with
  | case1 => exact atFront (List.prefix_nil.2 (List.infix_nil.1 h))
  | case12 c rest _ _ _ _ _ _ ih => exact ih h (not_isInfix_front text)
  | _ =>
    rename_i ih
    obtain here | later := List.infix_cons_iff.1 h
    · exact atFront here
    · exact ih later (not_isInfix_front text)

/-! ## The whole template -/

theorem flatMap_pair (tokens : List Token) :
    (tokens.map Token.pair).flatMap (·.2) = Token.textAll tokens := by
  rw [List.flatMap_map]
  rfl

/-- A template is cut in one way, in rounds that each advance, into its tokens. They
    tile the template, and where texts touch, no tag begins in them. They are the
    leaves of the syntax tree, which therefore has the template as its text. The
    one kind that changes is that of the end of a tag that stands for a field by
    itself; it stays where the leaf is loose, below one block more than may be
    nested. -/
theorem leaves_parse (limit : Nat) (source : Text) :
    let found := (tokenize source).map Token.pair
    let tokens := Tree.place 0 found
    let tree := (parse limit source).tree
    (∀ other, Lexical.Lexes source other ↔ other = found) ∧
      (∀ first inside rest, Lexical.Round first inside rest → rest.length < first.length) ∧
      Tree.Tiles source 0 tokens ∧
      (∀ run, run <:+: tokenize source → (∀ token ∈ run, token.kind = .textContent) →
        ¬ ['{', '{'] <:+: Token.textAll run) ∧
      tree.lexemes.map (Tree.Lexeme.map Kind.restored) = tokens ∧
      (∀ i leaf, tree.leaves[i]? = some leaf →
        (leaf.kind = .selfCloseEnd ↔
          ClosesField ((tokenize source).take (i + 1)) ∧ ¬ IsLoose leaf.path)) ∧
      (∀ leaf ∈ tree.leaves, IsLoose leaf.path →
        leaf.path = .error :: (List.replicate (limit + 1) .element ++ [.document])) ∧
      tree.text = source := by
  intro found tokens tree
  refine ⟨Lexical.lexes_iff source, ?_, ?_, ?_, ?_, ?_, ?_, text_tree_parse limit source⟩
  · intro first inside rest round
    exact round.length_lt
  · have nonempty : ∀ pair ∈ found, pair.2 ≠ [] := by
      intro pair mem
      obtain ⟨token, lexed, rfl⟩ := List.mem_map.1 mem
      exact text_ne_nil lexed
    have tiles := Tree.tiles_place [] found nonempty
    rwa [flatMap_pair, textAll_tokenize] at tiles
  · intro run within text
    exact not_isInfix_textAll text within
  · rw [Tree.lexemes_eq_place, ← Tree.place_map, map_restored_parse]
  · intro i leaf here
    have marked : (tree.leaves.map fun leaf => (leaf.path, leaf.kind))[i]? =
        some (leaf.path, leaf.kind) := by
      rw [List.getElem?_map, here]
      rfl
    exact (marks_parse limit source).kind_eq_iff marked
  · intro leaf mem
    exact path_of_isLoose mem

/-- Where no block may be nested, the tag in a block is left over, and its end stays
    as it is. -/
example :
    let tree := (parse 0 "\x7b\x7bA\x7d\x7d\x7b\x7b#B\x7d\x7d\x7b\x7bC\x7d\x7d".toList).tree
    tree.leaves.map (·.kind) =
      [.tagStart, .name, .selfCloseEnd, .tagStart, .ifMark, .name, .tagEnd, .tagStart, .name,
        .tagEnd] := by
  decide +kernel

end Flashcard.Template
