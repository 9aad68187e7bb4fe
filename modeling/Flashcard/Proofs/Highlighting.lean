import Flashcard.Proofs.Query.Spelling
import Flashcard.Proofs.Syntax.Highlighting
import Flashcard.Proofs.Template.Leaf
import Flashcard.Proofs.Template.Lossless

/-!
# Highlighting a source

The highlights of a query or a template are its tokens, in order and each with its range, but
for the blanks of a query. Neither language has a token that is invalid by itself outside of
error nodes: queries have no garbage at all, and a single closing brace in a tag of a template
makes the tag malformed. So the invalid highlights are those in the range of a syntax error.

Results:
* `Tree.exists_mem_place`: every character of a source stands in one of its tokens.
* `Query.soundOutsideErrors_tree`, `Template.Content.soundOutsideErrors_tree`: no token outside
  of error nodes is invalid by itself.
* `highlight_parse`: highlighting covers both sources and agrees with the syntax errors.
-/

namespace Flashcard

/-! ## Characters in tokens -/

/-- Every character of the source stands in one of the ranges, unless it has the property. -/
def CoversAllBut (p : Char → Bool) (source : Text) (spans : List Span) : Prop :=
  ∀ before c after, source = before ++ c :: after → p c = false →
    ∃ span ∈ spans, (Span.mk (Text.size before) c.utf8Size).Inside span

/-- A character of tokens laid out one behind the other stands in one of them. -/
theorem Tree.exists_mem_place {κ : Type} {tokens : List (κ × Text)} {before after : Text} {c : Char}
    (h : tokens.flatMap (·.2) = before ++ c :: after) (start : Nat) :
    ∃ lexeme ∈ place start tokens, c ∈ lexeme.text ∧
      (Span.mk (start + before.size) c.utf8Size).Inside lexeme.span := by
  induction tokens generalizing before start with
  | nil => cases before <;> cases h
  | cons token tokens ih =>
    obtain ⟨kind, text⟩ := token
    rw [List.flatMap_cons] at h
    obtain ⟨front, rfl, behind⟩ | ⟨front, rfl, behind⟩ := List.append_eq_append_iff.1 h
    · obtain ⟨lexeme, mem, found, inside⟩ := ih behind (start + Text.size text)
      refine ⟨lexeme, List.mem_cons_of_mem _ mem, found, ?_⟩
      rwa [Text.size_append, ← Nat.add_assoc]
    · cases front with
      | nil =>
        have first : tokens.flatMap (·.2) = [] ++ c :: after := behind.symm
        obtain ⟨lexeme, mem, found, inside⟩ := ih first _
        refine ⟨lexeme, List.mem_cons_of_mem _ mem, found, ?_⟩
        rwa [List.append_nil, Text.size_nil, Nat.add_zero] at inside
      | cons d front =>
        obtain ⟨rfl, -⟩ := List.cons.inj behind
        refine ⟨_, List.mem_cons_self, by simp, Nat.le_add_right _ _, ?_⟩
        simp only [Span.stop, Text.size_append, Text.size_cons]
        omega

/-! ## Queries -/

namespace Query

theorem kind_ne_whitespace {source : Text} {lexeme : Tree.Lexeme Kind} {c : Char}
    (h : lexeme ∈ Tree.place 0 ((tokenize source).map Token.pair)) (mem : c ∈ lexeme.text)
    (unblank : Unicode.isBlank c = false) : lexeme.kind ≠ .whitespace := by
  obtain ⟨token, lexed, same⟩ := List.mem_map.1 (Tree.mem_of_mem_place h)
  obtain ⟨kind, text⟩ := Prod.mk.inj same
  rw [← kind]
  rw [← text] at mem
  have spelled := spelled_of_mem lexed
  cases token with
  | blank text => exact absurd (List.all_eq_true.1 spelled c mem) (Bool.eq_false_iff.1 unblank)
  | mark field _ => cases field <;> exact Kind.noConfusion
  | _ => exact Kind.noConfusion

theorem allSoundOutsideErrors_leaves (tokens : List Token) :
    Tree.allSoundOutsideErrors (tokens.map Token.leaf) = true := by
  induction tokens with
  | nil => rfl
  | cons token tokens ih =>
    rw [List.map_cons, Tree.allSoundOutsideErrors, ih, Bool.and_true]
    cases token with
    | mark field text => cases field <;> rfl
    | _ => rfl

theorem soundOutsideErrors_markError {malformed : Bool} {tree : Tree Kind}
    (h : tree.soundOutsideErrors = true) : (markError malformed tree).soundOutsideErrors = true := by
  cases malformed with
  | true => rfl
  | false => exact h

theorem soundOutsideErrors_value (value : Value) : value.tree.soundOutsideErrors = true := by
  cases value with
  | word text => rfl
  | quoted content closed =>
    refine soundOutsideErrors_markError ?_
    rw [Tree.soundOutsideErrors, allSoundOutsideErrors_leaves]
    rfl

mutual

/-- Nothing in the tree of an item is invalid by itself, except below error nodes. -/
theorem soundOutsideErrors_tree : (item : Item) → item.tree.soundOutsideErrors = true
  | .blank _ | .disjunction | .stray _ | .overflow _ | .filter _ _ none => rfl
  | .plain value => soundOutsideErrors_value value
  | .negation operand => by
    have inside := soundOutsideErrors_tree operand
    rw [Item.tree, Tree.soundOutsideErrors, Tree.allSoundOutsideErrors,
      Tree.allSoundOutsideErrors, inside]
    rfl
  | .group items closed => by
    have inside := allSoundOutsideErrors_treeAll items
    refine soundOutsideErrors_markError ?_
    rw [Tree.soundOutsideErrors, Tree.allSoundOutsideErrors, Tree.allSoundOutsideErrors_append,
      inside]
    cases closed <;> rfl
  | .filter field mark (some value) => by
    have inside := soundOutsideErrors_value value
    rw [Item.tree, Tree.soundOutsideErrors, Tree.allSoundOutsideErrors,
      Tree.allSoundOutsideErrors, inside]
    cases field <;> rfl

theorem allSoundOutsideErrors_treeAll : (items : List Item) →
    Tree.allSoundOutsideErrors (Item.treeAll items) = true
  | [] => rfl
  | item :: rest => by
    rw [Item.treeAll, Tree.allSoundOutsideErrors, soundOutsideErrors_tree item,
      allSoundOutsideErrors_treeAll rest]
    rfl

end

end Query

/-! ## Templates -/

namespace Template

theorem allSoundOutsideErrors_transformerTrees (transformers : List Text) :
    Tree.allSoundOutsideErrors (transformerTrees transformers) = true := by
  induction transformers with
  | nil => rfl
  | cons name transformers ih => exact ih

theorem Reference.allSoundOutsideErrors_trees (reference : Reference) :
    Tree.allSoundOutsideErrors reference.trees = true := by
  rw [trees, Tree.allSoundOutsideErrors_append, allSoundOutsideErrors_transformerTrees]
  rfl

namespace Content

mutual

/-- Nothing in the tree of a content is invalid by itself, except below error nodes. -/
theorem soundOutsideErrors_tree : (content : Content) → content.tree.soundOutsideErrors = true
  | .plain _ => rfl
  | .field reference => by
    have inside := reference.allSoundOutsideErrors_trees
    simp only [tree, Tree.soundOutsideErrors, Tree.allSoundOutsideErrors,
      Tree.allSoundOutsideErrors_append, inside]
    rfl
  | .block condition reference contents close => by
    have inside := reference.allSoundOutsideErrors_trees
    have below := allSoundOutsideErrors_treeAll contents
    simp only [tree, Tree.soundOutsideErrors, Tree.allSoundOutsideErrors,
      Tree.allSoundOutsideErrors_append, inside, below]
    cases condition <;> cases close <;> rfl
  | .malformed part => by cases part <;> rfl

theorem allSoundOutsideErrors_treeAll : (contents : List Content) →
    Tree.allSoundOutsideErrors (treeAll contents) = true
  | [] => rfl
  | content :: rest => by
    rw [treeAll, Tree.allSoundOutsideErrors, soundOutsideErrors_tree content,
      allSoundOutsideErrors_treeAll rest]
    rfl

end

end Content

theorem tiles_tokenize (source : Text) :
    Tree.Tiles source 0 (Tree.place 0 ((tokenize source).map Token.pair)) := by
  have filled : ∀ pair ∈ (tokenize source).map Token.pair, pair.2 ≠ [] := by
    intro pair mem
    obtain ⟨token, lexed, rfl⟩ := List.mem_map.1 mem
    exact text_ne_nil lexed
  have tiles := Tree.tiles_place [] _ filled
  rwa [flatMap_pair, textAll_tokenize] at tiles

/-- But for the ends of tags, the tokens in the tree of a template are those of the template. -/
theorem map_restored_lexemes (limit : Nat) (source : Text) :
    (parse limit source).tree.lexemes.map (Tree.Lexeme.map Kind.restored) =
      Tree.place 0 ((tokenize source).map Token.pair) := by
  rw [Tree.lexemes_eq_place, ← Tree.place_map, map_restored_parse]

end Template

/-! ## Both languages -/

/-- The highlights of a query are its tokens without the blanks, in order, each once and with
    its range; so only blanks lie between them. Those of a template are all its tokens, which
    tile it. A highlight is invalid iff its range lies in that of a syntax error of the same
    tree. This holds for every source and however deeply terms and blocks may be nested. -/
theorem highlight_parse (limit : Nat) (source : Text) :
    (let tokens := Tree.place 0 ((Query.tokenize source).map Query.Token.pair)
      let tree := (Query.parse limit source).tree
      let found := tree.highlight
      found.map (·.span) = (tokens.filter (·.kind ≠ .whitespace)).map (·.span) ∧
        CoversAllBut Unicode.isBlank source (found.map (·.span)) ∧
        ∀ highlight ∈ found, highlight.highlight = .invalid ↔
          ∃ diagnostic ∈ tree.lint, highlight.span.Inside diagnostic.span) ∧
      (let tokens := Tree.place 0 ((Template.tokenize source).map Template.Token.pair)
        let tree := (Template.parse limit source).tree
        let found := tree.highlight
        found.map (·.span) = tokens.map (·.span) ∧
          Tree.Tiles source 0 tokens ∧
          ∀ highlight ∈ found, highlight.highlight = .invalid ↔
            ∃ diagnostic ∈ tree.lint, highlight.span.Inside diagnostic.span) := by
  refine ⟨?_, ?_⟩
  · intro tokens tree found
    have spans : found.map (·.span) = (tokens.filter (·.kind ≠ .whitespace)).map (·.span) := by
      rw [Tree.map_span_highlight, Tree.lexemes_eq_place, Query.tokens_parse]
      refine congrArg (List.map _) (List.filter_congr fun token _ => ?_)
      exact (decide_not ..).symm
    refine ⟨spans, ?_, Tree.invalid_iff ?_ ?_⟩
    · intro before c after split unblank
      rw [← Query.textAll_tokenize source, ← Query.flatMap_pair] at split
      obtain ⟨lexeme, mem, found, inside⟩ := Tree.exists_mem_place split 0
      rw [Nat.zero_add] at inside
      have meaning := Query.kind_ne_whitespace mem found unblank
      rw [spans]
      exact ⟨lexeme.span, List.mem_map_of_mem
        (List.mem_filter.2 ⟨mem, decide_eq_true meaning⟩), inside⟩
    · rw [Query.tokens_parse]
      intro pair mem
      obtain ⟨token, lexed, rfl⟩ := List.mem_map.1 mem
      exact Query.text_ne_nil lexed
    · exact Query.allSoundOutsideErrors_treeAll _
  · intro tokens tree found
    have restored := Template.map_restored_lexemes limit source
    refine ⟨?_, Template.tiles_tokenize source, Tree.invalid_iff ?_ ?_⟩
    · have all : (tree.lexemes.filter fun token => !Vocabulary.isTrivia token.kind) =
          tree.lexemes := List.filter_eq_self.2 fun _ _ => rfl
      rw [Tree.map_span_highlight, all, show tokens = _ from restored.symm, List.map_map]
      rfl
    · intro pair mem
      have kept := List.mem_map_of_mem (f := Prod.map Template.Kind.restored id) mem
      rw [Template.map_restored_parse] at kept
      obtain ⟨token, lexed, same⟩ := List.mem_map.1 kept
      rw [show pair.2 = token.text from (congrArg Prod.snd same).symm]
      exact Template.text_ne_nil lexed
    · exact Template.Content.allSoundOutsideErrors_treeAll _

end Flashcard
