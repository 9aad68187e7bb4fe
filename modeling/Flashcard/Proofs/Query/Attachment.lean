import Flashcard.Proofs.Query.Completing
import Flashcard.Proofs.Query.Replacing

/-!
# Words behind marks

A word that touches the mark of a filter is the value of the filter, unless terms are nested too
deeply there. So it is no term of its own, and no filters are offered in it.

Results:
* `bound_term`, `bound_sequence`: what is read up to the tokens that are left.
* `isChain_parse`: leaves side by side in the tree of a query.
* `noMark_before`: filters are offered in no word behind a mark.
-/

namespace Flashcard.Query

open Flashcard.Tree (leafKinds leafKindsAll)

/-! ## Leaves side by side -/

/-- Where a word stands behind a mark, no filters are offered in it. Leaves are given by the
    kinds of the nodes around them and their own kinds. -/
def Attached (first second : List Kind × Kind) : Prop :=
  first.2 ∈ markKinds → second.2 = .word → offersFilters second.1 = false

/-- Leaves side by side, in front of tokens of some kinds: no word is left behind a mark. -/
structure Bound (leaves : List (List Kind × Kind)) (rest : List Kind) : Prop where
  chain : leaves.IsChain Attached
  border : ∀ last ∈ leaves.getLast?, last.2 ∈ markKinds → rest.head? ≠ some .word

theorem Bound.of_noMark {leaves : List (List Kind × Kind)}
    (h : ∀ leaf ∈ leaves, leaf.2 ∉ markKinds) (rest : List Kind) : Bound leaves rest := by
  refine ⟨(List.pairwise_of_forall_mem_list ?_).isChain, ?_⟩
  · intro first mem _ _ mark
    exact absurd mark (h first mem)
  · intro last mem mark
    exact absurd mark (h last (List.mem_of_getLast? mem))

/-- Leaves at places where no filters are offered, with nothing behind them. -/
theorem Bound.of_unoffered {leaves : List (List Kind × Kind)}
    (h : ∀ leaf ∈ leaves, offersFilters leaf.1 = false) : Bound leaves [] := by
  refine ⟨(List.pairwise_of_forall_mem_list ?_).isChain, fun _ _ _ => nofun⟩
  intro _ _ second mem _ _
  exact h second mem

theorem Bound.append {a b : List (List Kind × Kind)} {rest : List Kind}
    (ha : Bound a (b.map (·.2) ++ rest)) (hb : Bound b rest) : Bound (a ++ b) rest := by
  refine ⟨List.isChain_append.2 ⟨ha.chain, hb.chain, ?_⟩, ?_⟩
  · intro first last second next mark word
    have notWord := ha.border first last mark
    rw [List.head?_append, List.head?_map, Option.mem_def.1 next] at notWord
    exact absurd (congrArg some word) notWord
  · intro last mem mark
    cases b with
    | nil =>
      rw [List.append_nil] at mem
      exact ha.border last mem mark
    | cons leaf b =>
      rw [List.getLast?_append_of_ne_nil _ (List.cons_ne_nil _ _)] at mem
      exact hb.border last mem mark

/-! ## Kinds of leaves -/

theorem leafKindsAll_leaves (path : List Kind) (tokens : List Token) :
    leafKindsAll path (tokens.map Token.leaf) = tokens.map fun token => (path, token.kind) := by
  induction tokens with
  | nil => rfl
  | cons token tokens ih =>
    rw [List.map_cons, leafKindsAll, ih]
    rfl

theorem kinds_pair (tokens : List Token) :
    (tokens.map Token.pair).map (·.1) = tokens.map Token.kind := List.map_map ..

theorem kinds_leafKindsAll (path : List Kind) (items : List Item) :
    (leafKindsAll path (Item.treeAll items)).map (·.2) =
      (Item.tokensAll items).map Token.kind := by
  rw [Tree.map_leafKindsAll, tokens_treeAll, kinds_pair]

theorem bound_of_tokens {tree : Tree Kind} {tokens : List Token}
    (same : tree.tokens = tokens.map Token.pair) (h : ∀ token ∈ tokens, token.kind ∉ markKinds)
    (path rest : List Kind) : Bound (leafKinds path tree) rest := by
  refine .of_noMark (fun leaf mem => ?_) rest
  have kind : leaf.2 ∈ (leafKinds path tree).map (·.2) := List.mem_map_of_mem mem
  rw [Tree.map_leafKinds, same, kinds_pair] at kind
  obtain ⟨token, lexed, kind⟩ := List.mem_map.1 kind
  rw [← kind]
  exact h token lexed

theorem bound_token {tree : Tree Kind} (token : Token) (same : tree.tokens = [token.pair])
    (h : token.kind ∉ markKinds) (path rest : List Kind) : Bound (leafKinds path tree) rest :=
  bound_of_tokens (show _ = [token].map Token.pair from same) (List.forall_mem_singleton.2 h) ..

theorem Bound.behind {leaves : List (List Kind × Kind)} {rest : List Kind}
    (h : Bound leaves rest) (path : List Kind) {kind : Kind} (noMark : kind ∉ markKinds) :
    Bound ((path, kind) :: leaves) rest := by
  have first : Bound [(path, kind)] (leaves.map (·.2) ++ rest) :=
    .of_noMark (List.forall_mem_singleton.2 noMark) _
  exact first.append h

/-- A tree that may be wrapped in an error node. -/
theorem bound_markError {tree : Tree Kind} {rest : List Kind}
    (h : ∀ path, Bound (leafKinds path tree) rest) (malformed : Bool) (path : List Kind) :
    Bound (leafKinds path (markError malformed tree)) rest := by
  cases malformed with
  | false => exact h path
  | true =>
    show Bound (leafKinds (.error :: path) tree ++ []) rest
    rw [List.append_nil]
    exact h _

/-! ## What is read -/

theorem noMark_quotedValue (tokens : List Token) :
    ∀ token ∈ (quotedValue tokens).value.tokens, token.kind ∉ markKinds := by
  unfold quotedValue
  split <;> simp [Value.tokens, Token.kind, markKinds]

theorem bound_filter (path : List Kind) (field : FilterField) (mark : Text) (tokens : List Token) :
    Bound (leafKinds path (Item.filter field mark (filterValue tokens).value).tree)
      ((filterValue tokens).rest.map Token.kind) := by
  unfold filterValue
  split
  · -- The value is a bare word below the node of the filter.
    refine ⟨.cons_cons (fun _ _ => ?_) (.singleton _), ?_⟩
    · cases field <;> rfl
    · rintro last ⟨⟩ isMark
      exact absurd isMark (of_decide_eq_true rfl)
  · rename_i rest
    have string := bound_of_tokens (tokens_valueTree (quotedValue rest).value)
      (noMark_quotedValue rest) (field.kind :: path) ((quotedValue rest).rest.map Token.kind)
    have first : Bound [(field.kind :: path, (Token.mark field mark).kind)]
        ((leafKinds (field.kind :: path) (quotedValue rest).value.tree).map (·.2) ++
          (quotedValue rest).rest.map Token.kind) := by
      refine ⟨.singleton _, fun _ _ _ => ?_⟩
      rw [Tree.map_leafKinds, tokens_valueTree, kinds_pair, ← List.map_append,
        tokens_quotedValue]
      exact of_decide_eq_true rfl
    have whole := first.append string
    rwa [← List.append_nil (leafKinds _ (quotedValue rest).value.tree)] at whole
  · rename_i noWord noQuote
    refine ⟨.singleton _, fun _ _ _ => ?_⟩
    show (tokens.map Token.kind).head? ≠ _
    cases tokens with
    | nil => exact nofun
    | cons token tokens =>
      cases token with
      | word text => exact absurd rfl (noWord text tokens)
      | mark field _ => cases field <;> exact of_decide_eq_true rfl
      | _ => exact of_decide_eq_true rfl

/-- A group around a row, and its closing parenthesis if that is what comes next. -/
theorem bound_closeGroup {bound : Nat} {row : Parsed Token (List Item) bound}
    (h : ∀ path, Bound (leafKindsAll path (Item.treeAll row.value)) (row.rest.map Token.kind))
    (path : List Kind) :
    Bound (leafKinds path (closeGroup row).value.tree) ((closeGroup row).rest.map Token.kind) := by
  obtain ⟨items, rest, _⟩ := row
  simp only [closeGroup]
  rw [tree_group]
  refine bound_markError (fun path => ?_) _ path
  refine .behind ?_ _ (of_decide_eq_true rfl)
  show Bound (leafKindsAll (.group :: path) _) _
  rw [Tree.leafKindsAll_append]
  cases closed : closes rest with
  | false =>
    rw [if_neg Bool.false_ne_true, if_neg Bool.false_ne_true]
    show Bound (_ ++ []) _
    rw [List.append_nil]
    exact h _
  | true =>
    obtain ⟨rest, rfl⟩ : ∃ later, rest = .parenClose :: later := by
      cases rest with
      | nil => cases closed
      | cons token rest => cases token <;> first | exact ⟨rest, rfl⟩ | cases closed
    have close : Bound [(Kind.group :: path, Kind.parenClose)] (rest.map Token.kind) :=
      .of_noMark (List.forall_mem_singleton.2 (of_decide_eq_true rfl)) _
    exact (h _).append close

/-- A row, up to the tokens that are left behind it, if its terms are bound. -/
theorem bound_sequence
    {term : (token : Token) → (rest : List Token) → Parsed Token Item rest.length}
    (whole : ∀ token rest, (term token rest).value.tokens ++ (term token rest).rest =
      token :: rest)
    (h : ∀ token rest path, Bound (leafKinds path (term token rest).value.tree)
      ((term token rest).rest.map Token.kind))
    (inGroup hasLeft : Bool) (tokens : List Token) (path : List Kind) :
    Bound (leafKindsAll path (Item.treeAll (sequence term inGroup hasLeft tokens).value))
      ((sequence term inGroup hasLeft tokens).rest.map Token.kind) := by
  have step {item : Item} {bound : Nat} {row : Parsed Token (List Item) bound}
      (first : Bound (leafKinds path item.tree)
        ((Item.tokensAll row.value ++ row.rest).map Token.kind))
      (others : Bound (leafKindsAll path (Item.treeAll row.value)) (row.rest.map Token.kind)) :
      Bound (leafKindsAll path (Item.treeAll (item :: row.value))) (row.rest.map Token.kind) := by
    refine .append ?_ others
    rwa [kinds_leafKindsAll, ← List.map_append]
  fun_induction sequence term inGroup hasLeft tokens with
  | case1 | case2 | case4 => exact .of_noMark (List.forall_mem_nil _) _
  | case3 hasLeft text rest _ ih =>
    exact step (bound_token (.blank text) rfl (of_decide_eq_true rfl) ..) ih
  | case5 hasLeft rest _ ih =>
    exact step (bound_token .parenClose rfl (of_decide_eq_true rfl) ..) ih
  | case6 hasLeft rest ih =>
    refine step ?_ ih
    split <;> exact bound_token .orKeyword rfl (of_decide_eq_true rfl) ..
  | case7 hasLeft token rest _ _ _ first _ ih =>
    refine step ?_ ih
    rw [tokensAll_sequence whole]
    exact h token rest path

/-- A term, up to the tokens that are left behind it. -/
theorem bound_term (depth : Nat) (token : Token) (rest : List Token) (path : List Kind) :
    Bound (leafKinds path (term depth token rest).value.tree)
      ((term depth token rest).rest.map Token.kind) := by
  induction depth generalizing token rest path with
  | zero =>
    refine .of_unoffered fun leaf mem => ?_
    rw [show leafKinds path (term 0 token rest).value.tree = _ from
      leafKindsAll_leaves (.error :: path) (token :: rest)] at mem
    obtain ⟨_, -, rfl⟩ := List.mem_map.1 mem
    rfl
  | succ depth ih =>
    unfold term
    split
    · rename_i next rest
      split
      · show Bound (_ :: (leafKinds _ (term depth next rest).value.tree ++ [])) _
        rw [List.append_nil]
        exact (ih next rest _).behind _ (of_decide_eq_true rfl)
      · exact bound_token .minus rfl (of_decide_eq_true rfl) ..
    · exact bound_closeGroup (bound_sequence (tokens_term depth) ih true false _) path
    · exact bound_of_tokens (tokens_valueTree _) (noMark_quotedValue _) ..
    · exact bound_token (.word _) rfl (of_decide_eq_true rfl) ..
    · exact bound_filter ..
    · rename_i noMark _
      refine bound_token token rfl ?_ ..
      cases token with
      | mark field mark => exact absurd rfl (noMark field mark)
      | _ => exact of_decide_eq_true rfl

/-! ## Whole queries -/

/-- Leaves side by side in the tree of a query. -/
theorem isChain_parse (limit : Nat) (source : Text) :
    (leafKinds [] (parse limit source).tree).IsChain Attached := by
  let row := sequence (term limit) false false (tokenize source)
  let last : List Item := row.rest.map fun token => .blank token.text
  have read : Bound (leafKindsAll [.program] (Item.treeAll row.value)) (row.rest.map Token.kind) :=
    bound_sequence (tokens_term limit) (bound_term limit) false false (tokenize source) [.program]
  have allBlank := rest_sequence_all_isBlank (term limit) false (tokenize source)
  have same : Item.tokensAll last = row.rest := tokensAll_blanks allBlank
  have blanks : Bound (leafKindsAll [.program] (Item.treeAll last)) [] := by
    have tokens : (Tree.node .program (Item.treeAll last)).tokens = row.rest.map Token.pair := by
      rw [Tree.tokens, tokens_treeAll, same]
    refine bound_of_tokens tokens (fun token mem => ?_) [] []
    have blank := List.all_eq_true.1 allBlank token mem
    cases token <;> cases blank
    exact of_decide_eq_true rfl
  rw [← same, ← kinds_leafKindsAll [.program], ← List.append_nil (List.map _ _)] at read
  have whole := (read.append blanks).chain
  rwa [← Tree.leafKindsAll_append, ← Item.treeAll_append] at whole

/-- Filters are offered in no word behind a mark. -/
theorem noMark_before {limit : Nat} {source before after : Text}
    (found : CursorToken source before after) (word : found.token.kind = .word)
    (offers : offersFilters (pathAt (parse limit source).tree before.size) = true) :
    ∀ last ∈ found.front.getLast?, last.kind ∉ markKinds := by
  intro last mem mark
  obtain ⟨leaf, isLeaf, path, -⟩ := exists_leaf limit found
  obtain ⟨visited, later, leaves, kinds⟩ := isLeaf.leaves_eq
  have previous : (visited.map (·.kind)).getLast? = some last.kind := by
    rw [kinds, List.getLast?_map, Option.mem_def.1 mem]
    rfl
  rw [List.getLast?_map, Option.map_eq_some_iff] at previous
  obtain ⟨visit, final, same⟩ := previous
  obtain ⟨passed, rfl⟩ := List.getLast?_eq_some_iff.1 final
  have chain := isChain_parse limit source
  rw [← Tree.map_leaves, leaves, List.map_append, List.map_append, List.append_assoc] at chain
  have attached : Attached (visit.path, visit.kind) (leaf.path, leaf.kind) :=
    (List.isChain_append_cons_cons.1 chain).2.1
  have kind : leaf.kind = found.token.kind := congrArg Tree.Lexeme.kind isLeaf.lexeme_eq
  have unoffered := attached (by rw [same]; exact mark) (kind.trans word)
  rw [path, show offersFilters leaf.path = false from unoffered] at offers
  cases offers

end Flashcard.Query
