import Flashcard.Proofs.Query.CutWalk
import Flashcard.Proofs.Query.Cutting

/-!
# The limit of nesting in the tree of a query

Up to the first term that is nested too deeply, the tree of a query does not depend on the limit.
From there on it has one error node with all that is left of the query. So the limit bounds how
high a tree can be.

Results:
* `nestedIn_lt_of_mem_tree`: how deeply terms stand in the tree of an item.
* `cutOff_tree`: the walk through an item that is cut off.
* `height_tree_le`: how high the trees of items are that are read up to a limit.
* `termLimit_parse`: the tree of a query that is parsed with a limit.
-/

namespace Flashcard.Query

/-! ## Items in a walk -/

section Items

variable {limit : Nat}

/-- There is no negation and no group in a tree. -/
def IsUnnested (tree : Tree Kind) : Prop :=
  ∀ node ∈ tree.nodes, node.kind ≠ .negation ∧ node.kind ≠ .group

mutual

theorem nestedIn_of_mem_visits {path : List Kind} (start : Nat) : (tree : Tree Kind) →
    IsUnnested tree → ∀ visit ∈ tree.visits path start, nestedIn visit.path = nestedIn path
  | .leaf _ _, _ => by
    intro visit mem
    rw [List.mem_singleton.1 mem]
  | .node kind children, h => by
    intro visit mem
    have ⟨noSign, noGroup⟩ := h _ (List.mem_cons_self ..)
    obtain rfl | mem := List.mem_cons.1 mem
    · rfl
    · have below := nestedIn_of_mem_visitsAll start children
        (fun node found => h node (List.mem_cons_of_mem _ found)) visit mem
      rw [below, nestedIn, List.countP_cons_of_neg (by simp_all [Tree.kind])]
      rfl

theorem nestedIn_of_mem_visitsAll {path : List Kind} (start : Nat) : (trees : List (Tree Kind)) →
    (∀ node ∈ Tree.nodesAll trees, node.kind ≠ .negation ∧ node.kind ≠ .group) →
      ∀ visit ∈ Tree.visitsAll path start trees, nestedIn visit.path = nestedIn path
  | [], _ => fun _ mem => nomatch mem
  | tree :: rest, h => by
    intro visit mem
    obtain mem | mem := List.mem_append.1 mem
    · exact nestedIn_of_mem_visits start tree
        (fun node found => h node (List.mem_append_left _ found)) visit mem
    · exact nestedIn_of_mem_visitsAll _ rest
        (fun node found => h node (List.mem_append_right _ found)) visit mem

end

theorem nodesAll_leaves (tokens : List Token) : Tree.nodesAll (tokens.map Token.leaf) = [] := by
  induction tokens with
  | nil => rfl
  | cons token tokens ih => exact ih

theorem isUnnested_markError {malformed : Bool} {tree : Tree Kind} (h : IsUnnested tree) :
    IsUnnested (markError malformed tree) := by
  cases malformed with
  | true => simpa [IsUnnested, markError, Tree.nodes, Tree.nodesAll, Tree.kind] using h
  | false => exact h

theorem isUnnested_leaves {kind : Kind} (tokens : List Token)
    (h : kind ≠ .negation ∧ kind ≠ .group) :
    IsUnnested (.node kind (tokens.map Token.leaf)) := by
  simpa [IsUnnested, Tree.nodes, nodesAll_leaves, Tree.kind] using h

theorem isUnnested_value (value : Value) : IsUnnested value.tree := by
  cases value with
  | word text => exact isUnnested_leaves [.word text] (by decide)
  | quoted content closed => exact isUnnested_markError (isUnnested_leaves _ (by decide))

theorem isUnnested_filter (field : FilterField) (mark : Text) (value : Option Value) :
    IsUnnested (Item.filter field mark value).tree := by
  cases value with
  | none =>
    cases field <;>
      simp [IsUnnested, Item.tree, Tree.nodes, Tree.nodesAll, FilterField.kind, Tree.kind,
        Token.leaf]
  | some value =>
    have inner := isUnnested_value value
    cases field <;>
      simpa [IsUnnested, Item.tree, Tree.nodes, Tree.nodesAll, FilterField.kind, Tree.kind,
        Token.leaf] using inner

mutual

/-- Terms in the tree of an item are nested at most as deeply as the item is deep. -/
theorem nestedIn_lt_of_mem_tree (path : List Kind) (start : Nat) : (item : Item) →
    ∀ visit ∈ item.tree.visits path start, isTermVisit visit = true →
      nestedIn visit.path < nestedIn path + item.depth
  | .blank text => by
    intro visit mem isTerm
    rw [List.mem_singleton.1 mem] at isTerm
    cases isTerm
  | .disjunction => by
    intro visit mem isTerm
    simp only [Item.tree, Tree.visits, Tree.visitsAll, Token.leaf, List.append_nil, List.mem_cons,
      List.not_mem_nil, or_false] at mem
    obtain rfl | rfl := mem <;> cases isTerm
  | .plain value => by
    intro visit mem _
    rw [nestedIn_of_mem_visits start _ (isUnnested_value value) visit mem]
    exact Nat.lt_succ_self _
  | .filter field mark value => by
    intro visit mem _
    rw [nestedIn_of_mem_visits start _ (isUnnested_filter field mark value) visit mem]
    exact Nat.lt_succ_self _
  | .overflow tokens => by
    intro visit mem _
    rw [nestedIn_of_mem_visits start _ (isUnnested_leaves tokens (by decide)) visit mem]
    exact Nat.lt_succ_self _
  | .stray token => by
    intro visit mem isTerm
    rw [nestedIn_of_mem_visits start _ (isUnnested_leaves [token] (by decide)) visit mem,
      Item.depth]
    split
    · rename_i noTerm
      simp only [Item.tree, Tree.visits, Tree.visitsAll, Token.leaf, List.append_nil, List.mem_cons,
        List.not_mem_nil, or_false] at mem
      obtain rfl | rfl := noTerm <;> obtain rfl | rfl := mem <;> cases isTerm
    · exact Nat.lt_succ_self _
  | .negation operand => by
    intro visit mem isTerm
    have one : nestedIn (.negation :: path) = nestedIn path + 1 := nestedIn_cons (.inl rfl) path
    obtain rfl | mem := List.mem_cons.1 mem
    · rw [Item.depth]
      exact Nat.lt_add_of_pos_right (Nat.succ_pos _)
    · obtain rfl | mem := List.mem_cons.1 mem
      · cases isTerm
      · rw [Tree.visitsAll, Tree.visitsAll, List.append_nil] at mem
        have inner := nestedIn_lt_of_mem_tree (.negation :: path) _ operand visit mem isTerm
        rw [Item.depth]
        omega
  | .group items closed => by
    intro visit mem isTerm
    obtain ⟨earlier, path', visits, same, -, noTerm⟩ := exists_visits_markError
      (!closed || items.all Item.isBlank) (.node .group (Token.parenOpen.leaf ::
        (Item.treeAll items ++ if closed then [Token.parenClose.leaf] else []))) path start
    rw [Item.tree, visits] at mem
    obtain mem | mem := List.mem_append.1 mem
    · exact absurd isTerm (Bool.eq_false_iff.1 (noTerm visit mem))
    rw [← nestedIn_unmarked path, ← same, nestedIn_unmarked, Item.depth]
    have one : nestedIn (.group :: path') = nestedIn path' + 1 := nestedIn_cons (.inr rfl) path'
    obtain rfl | mem := List.mem_cons.1 mem
    · exact Nat.lt_add_of_pos_right (Nat.succ_pos _)
    · obtain mem | mem := List.mem_append.1 mem
      · rw [List.mem_singleton.1 mem] at isTerm
        cases isTerm
      · rw [Tree.visitsAll_append] at mem
        obtain mem | mem := List.mem_append.1 mem
        · have row := nestedIn_lt_of_mem_treeAll (.group :: path') _ items visit mem isTerm
          omega
        · cases closed with
          | true =>
            rw [List.mem_singleton.1 mem] at isTerm
            cases isTerm
          | false => cases mem

theorem nestedIn_lt_of_mem_treeAll (path : List Kind) (start : Nat) : (items : List Item) →
    ∀ visit ∈ Tree.visitsAll path start (Item.treeAll items), isTermVisit visit = true →
      nestedIn visit.path < nestedIn path + Item.depthAll items
  | [] => fun _ mem => nomatch mem
  | item :: rest => by
    intro visit mem isTerm
    rw [Item.depthAll]
    obtain mem | mem := List.mem_append.1 mem
    · have first := nestedIn_lt_of_mem_tree path start item visit mem isTerm
      omega
    · have row := nestedIn_lt_of_mem_treeAll path _ rest visit mem isTerm
      omega

end

variable {path path' : List Kind} {room depth start : Nat}

theorem isTooDeep_treeAll {items : List Item} (fits : nestedIn path + room = limit)
    (shallow : Item.depthAll items ≤ room) :
    ∀ visit ∈ Tree.visitsAll path start (Item.treeAll items), isTooDeep limit visit = false := by
  intro visit mem
  rw [isTooDeep, Bool.and_eq_false_imp]
  intro isTerm
  have bound := nestedIn_lt_of_mem_treeAll path start items visit mem isTerm
  exact decide_eq_false (by omega)

theorem isTooDeep_tree {item : Item} (fits : nestedIn path + room = limit)
    (shallow : item.depth ≤ room) :
    ∀ visit ∈ item.tree.visits path start, isTooDeep limit visit = false := by
  intro visit mem
  have row : Item.depthAll [item] ≤ room := Nat.max_le.2 ⟨shallow, Nat.zero_le _⟩
  exact isTooDeep_treeAll fits row visit (List.mem_append_left _ mem)

/-! ## Where a walk is cut off -/

/-- What is visited begins with a term at the byte `start`, apart from an error node around it. -/
def BeginsWithTerm (path : List Kind) (start : Nat) (visits : List (Tree.Visit Kind)) : Prop :=
  ∃ (earlier later : List (Tree.Visit Kind)) (first : Tree.Visit Kind),
    visits = earlier ++ first :: later ∧ outline earlier = [] ∧
      (∀ visit ∈ earlier, isTermVisit visit = false) ∧ isTermVisit first = true ∧
      unmarked first.path = unmarked path ∧ first.span.start = start

theorem beginsWithTerm_node {kind : Kind} (isTerm : termKinds.contains kind = true)
    (malformed : Bool) (children : List (Tree Kind)) :
    BeginsWithTerm path start ((markError malformed (.node kind children)).visits path start) := by
  obtain ⟨earlier, path', visits, same, outside, noTerm⟩ :=
    exists_visits_markError malformed (.node kind children) path start
  exact ⟨earlier, _, _, visits, outside, noTerm, isTerm, same, rfl⟩

theorem beginsWithTerm_tree {item : Item} (read : Item.IsRead depth false item) :
    BeginsWithTerm path start (item.tree.visits path start) := by
  cases read with
  | plain value =>
    cases value with
    | word text => exact beginsWithTerm_node rfl false _
    | quoted content closed => exact beginsWithTerm_node rfl (!closed) _
  | filter field mark value =>
    have isTerm : termKinds.contains field.kind = true := by cases field <;> rfl
    cases value with
    | none => exact beginsWithTerm_node isTerm true _
    | some value => exact beginsWithTerm_node isTerm false _
  | minus =>
    refine ⟨[_], _, _, rfl, rfl, ?_, rfl, rfl, rfl⟩
    intro visit mem
    rw [List.mem_singleton.1 mem]
    rfl
  | negation _ => exact beginsWithTerm_node rfl false _
  | group _ _ => exact beginsWithTerm_node rfl _ _

theorem tokens_ne_nil {item : Item} (read : Item.IsRead depth false item) : item.tokens ≠ [] := by
  cases read with
  | plain value => cases value <;> exact List.cons_ne_nil _ _
  | filter field mark value => cases value <;> exact List.cons_ne_nil _ _
  | minus | negation _ | group _ _ => exact List.cons_ne_nil _ _

/-- Where there is no room for a term, everything from it on is cut off. -/
theorem cutOff_here {item : Item} (read : Item.IsRead depth false item) (behind : List Token)
    (same : unmarked path = unmarked path') (fits : nestedIn path = limit) :
    CutOff limit start (item.tokens ++ behind) (item.tree.visits path start)
      ((Item.cut 0 item behind).tree.visits path' start) := by
  obtain ⟨earlier, later, first, whole, outside, noTerm, isTerm, around, begins⟩ :=
    (beginsWithTerm_tree read : BeginsWithTerm path start _)
  refine ⟨earlier, later, [], first, path', [], item.tokens ++ behind, whole, ?_, ?_, rfl, ?_,
    begins, ?_, same.symm.trans around.symm, outside.symm⟩
  · intro visit mem
    rw [isTooDeep, noTerm visit mem]
    rfl
  · have deep : nestedIn first.path = nestedIn path := by
      rw [← nestedIn_unmarked, around, nestedIn_unmarked]
    rw [isTooDeep, isTerm, deep, fits]
    exact decide_eq_true (Nat.lt_succ_self limit)
  · exact List.append_ne_nil_of_left_ne_nil (tokens_ne_nil read) _
  · rw [begins, Item.cut, Item.tree]
    rfl
/-- What stands in a row that has not ended the query: a term or something without depth in front,
    and another such row. -/
theorem rowIsRead_cons {hasLeft : Bool} {item : Item} {items : List Item}
    (read : Item.RowIsRead depth hasLeft false (item :: items)) :
    (item.depth = 0 ∨ Item.IsRead depth false item) ∧
      ∃ hasLeft, Item.RowIsRead depth hasLeft false items := by
  cases read with
  | blank text row => exact ⟨.inl rfl, hasLeft, row⟩
  | disjunction _ row => exact ⟨.inl rfl, false, row⟩
  | stray token row => exact ⟨.inl (if_pos token), _, row⟩
  | term first row => exact ⟨.inr first, true, row⟩

mutual

/-- The walk through an item that is nested too deeply is cut off at a term in it. -/
theorem cutOff_tree : {room depth : Nat} → {p q : List Kind} → (item : Item) →
    Item.IsRead depth false item → (start : Nat) → (behind : List Token) →
    unmarked p = unmarked q → nestedIn p + room = limit → room < item.depth →
      CutOff limit start (item.tokens ++ behind) (item.tree.visits p start)
        ((Item.cut room item behind).tree.visits q start)
  | 0, _, _, _, _, read, _, behind, same, fits, _ => cutOff_here read behind same fits
  | _ + 1, _, _, _, .plain _, _, _, _, _, _, deep
  | _ + 1, _, _, _, .filter _ _ _, _, _, _, _, _, deep =>
    absurd deep (Nat.not_lt.2 (Nat.le_add_left _ _))
  | _ + 1, _, _, _, .stray token, _, _, _, _, _, deep =>
    absurd deep (Nat.not_lt.2 (Nat.le_trans (depth_stray_le token) (Nat.le_add_left _ _)))
  | room + 1, _, p, q, .negation operand, read, start, behind, same, fits, deep => by
    obtain _ | _ | _ | read := read
    have inner := cutOff_tree (p := .negation :: p) (q := .negation :: q) operand read
      (start + Token.minus.leaf.size) behind (unmarked_cons same)
      (by rw [nestedIn_cons (.inl rfl)]; omega) (Nat.lt_of_succ_lt_succ deep)
    have row := (inner.last []).cons [.minus] (unmarked_cons same) rfl
      (List.forall_mem_singleton.2 (isTooDeep_of_noTerm rfl))
    have space : nestedIn p < limit := by omega
    exact row.node same fun _ => isTooDeep_of_lt space
  | room + 1, _, p, q, .group items closed, read, start, behind, same, fits, deep => by
    obtain _ | _ | _ | _ | ⟨read, _⟩ := read
    have tokens : (Item.group items closed).tokens ++ behind = [.parenOpen] ++
        (Item.tokensAll items ++ ((if closed then [.parenClose] else []) ++ behind)) := by
      rw [Item.tokens, List.cons_append, List.append_assoc]
      rfl
    rw [tokens, Item.cut, Item.tree, Item.tree]
    -- Only where the group is cut off does it lack its closing parenthesis for sure.
    refine CutOff.markError same (fun {p' q'} around same => ?_) _ _
    have nested : nestedIn p' = nestedIn p := by
      rw [← nestedIn_unmarked, around, nestedIn_unmarked]
    have inner := cutOff_treeAll (p := .group :: p') (q := .group :: q') items read
      (start + Token.parenOpen.leaf.size) ((if closed then [.parenClose] else []) ++ behind)
      (unmarked_cons same) (by rw [nestedIn_cons (.inr rfl)]; omega) (Nat.lt_of_succ_lt_succ deep)
    have row := (inner.appendTrees (if closed then [Token.parenClose.leaf] else [])).cons
      [.parenOpen] (unmarked_cons same) rfl
      (List.forall_mem_singleton.2 (isTooDeep_of_noTerm rfl))
    rw [if_neg Bool.false_ne_true, List.append_nil]
    have space : nestedIn p' < limit := by omega
    exact row.node same fun _ => isTooDeep_of_lt space

/-- The walk through a row in which terms are nested too deeply is cut off at one of them. -/
theorem cutOff_treeAll : {room depth : Nat} → {hasLeft : Bool} → {p q : List Kind} →
    (items : List Item) → Item.RowIsRead depth hasLeft false items → (start : Nat) →
    (behind : List Token) → unmarked p = unmarked q → nestedIn p + room = limit →
    room < Item.depthAll items →
      CutOff limit start (Item.tokensAll items ++ behind)
        (Tree.visitsAll p start (Item.treeAll items))
        (Tree.visitsAll q start (Item.treeAll (Item.cutAll room items behind)))
  | _, _, _, _, _, [], _, _, _, _, _, deep => absurd deep (Nat.not_lt_zero _)
  | room, _, _, p, q, item :: rest, read, start, behind, same, fits, deep => by
    obtain ⟨first, _, row⟩ := rowIsRead_cons read
    rw [Item.depthAll] at deep
    rw [Item.tokensAll, Item.cutAll, Item.treeAll, List.append_assoc]
    by_cases shallow : item.depth ≤ room
    · have later := cutOff_treeAll (p := p) (q := q) rest row (start + item.tree.size) behind same
        fits (by omega)
      rw [if_pos shallow, Item.treeAll]
      exact later.cons item.tokens same item.text_tree (isTooDeep_tree fits shallow)
    · have isRead := first.resolve_left (by omega)
      have here := cutOff_tree (p := p) (q := q) item isRead start (Item.tokensAll rest ++ behind)
        same fits (Nat.not_le.1 shallow)
      rw [if_neg shallow]
      exact here.last _

end

end Items

/-! ## Heights -/

theorem heightAll_leaves (tokens : List Token) : Tree.heightAll (tokens.map Token.leaf) = 0 :=
  Tree.heightAll_leaves Token.kind Token.text tokens

theorem height_markError_le (malformed : Bool) (tree : Tree Kind) :
    (markError malformed tree).height ≤ tree.height + 1 := by
  cases malformed with
  | true => exact Nat.succ_le_succ (Nat.max_le.2 ⟨Nat.le_refl _, Nat.zero_le _⟩)
  | false => exact Nat.le_succ _

theorem height_value_le (value : Value) : value.tree.height ≤ 2 := by
  cases value with
  | word text => exact Nat.le_succ 1
  | quoted content closed =>
    have string := height_markError_le (!closed)
      (.node .quotedString ((Value.quoted content closed).tokens.map Token.leaf))
    rwa [Tree.height, heightAll_leaves] at string

theorem height_group_le (items : List Item) (closed : Bool) :
    (Item.group items closed).tree.height ≤ Tree.heightAll (Item.treeAll items) + 2 := by
  refine Nat.le_trans (height_markError_le _ _) (Nat.succ_le_succ (Nat.succ_le_succ ?_))
  rw [Tree.heightAll, Tree.heightAll_append]
  cases closed <;> simp [Tree.heightAll, Tree.height, Token.leaf]

mutual

/-- Each level of nesting adds at most two nodes, that of a group and an error node around it;
    the value of a filter and an error node around it stand in the room of one level more. -/
theorem height_tree_le {depth : Nat} {ended : Bool} : {item : Item} →
    Item.IsRead depth ended item → item.tree.height ≤ 2 * depth + 1
  | _, .plain value => by
    have := height_value_le value
    rw [Item.tree]
    omega
  | _, .filter field mark none => Nat.le_add_left 2 _
  | _, .filter field mark (some value) => by
    have := height_value_le value
    simp only [Item.tree, Tree.height, Tree.heightAll, Token.leaf]
    omega
  | _, .minus => Nat.le_add_left 1 _
  | _, .negation read => by
    have := height_tree_le read
    simp only [Item.tree, Tree.height, Tree.heightAll, Token.leaf]
    omega
  | .group items closed, .group row _ => by
    have row := heightAll_treeAll_le row
    have group := height_group_le items closed
    omega
  | .overflow tokens, .overflow _ => by
    have leaves : (Item.overflow tokens).tree.height = 1 := by
      rw [Item.tree, Tree.height, heightAll_leaves]
    exact Nat.le_of_eq leaves

theorem heightAll_treeAll_le {depth : Nat} {hasLeft ended : Bool} : {items : List Item} →
    Item.RowIsRead depth hasLeft ended items →
      Tree.heightAll (Item.treeAll items) ≤ 2 * depth + 1
  | _, .nil => Nat.zero_le _
  | _, .blank _ row => by
    have := heightAll_treeAll_le row
    simp only [Item.tree, Item.treeAll, Tree.height, Tree.heightAll, Token.leaf]
    omega
  | _, .disjunction _ row => by
    have := heightAll_treeAll_le row
    simp only [Item.tree, Item.treeAll, Tree.height, Tree.heightAll, Token.leaf]
    omega
  | _, .stray _ row => by
    have := heightAll_treeAll_le row
    simp only [Item.tree, Item.treeAll, Tree.height, Tree.heightAll, Token.leaf]
    omega
  | _, .term first row => Nat.max_le.2 ⟨height_tree_le first, heightAll_treeAll_le row⟩
  | _, .last item => Nat.max_le.2 ⟨height_tree_le item, Nat.zero_le _⟩

end

/-! ## Whole queries -/

theorem rowIsRead_enough {enough : Nat} {source : Text}
    (h : (tokenize source).length ≤ enough) :
    Item.RowIsRead enough false false (parse enough source).items := by
  obtain ⟨ended, row⟩ := rowIsRead_parse enough source
  cases ended with
  | false => exact row
  | true =>
    have deep := row.lt_depth rfl
    have bound := depthAll_parse_le enough source
    omega

/-- Where terms are nested too deeply, the walk through a query is cut off. -/
theorem cutOff_parse {limit enough : Nat} {source : Text}
    (h : (tokenize source).length ≤ enough)
    (deep : limit < Item.depthAll (parse enough source).items) :
    CutOff limit 0 (tokenize source) (parse enough source).tree.walk
      (parse limit source).tree.walk := by
  have le : limit ≤ enough :=
    Nat.le_of_lt (Nat.lt_of_lt_of_le deep (Nat.le_trans (depthAll_parse_le enough source) h))
  have fits : nestedIn [.program] + limit = limit := Nat.zero_add _
  have row := cutOff_treeAll _ (rowIsRead_enough h) 0 [] (rfl : unmarked [.program] = _) fits deep
  rw [tokensAll_parse, List.append_nil, ← (parse_cut le source).2 deep] at row
  exact row.node rfl fun _ => isTooDeep_of_noTerm rfl

/-- No term of a query is nested too deeply if its items have no more depth than there is
    room. -/
theorem isTooDeep_parse {limit enough : Nat} {source : Text}
    (shallow : Item.depthAll (parse enough source).items ≤ limit) :
    ∀ visit ∈ (parse enough source).tree.walk, isTooDeep limit visit = false :=
  List.forall_mem_cons.2 ⟨isTooDeep_of_noTerm rfl, isTooDeep_treeAll (Nat.zero_add _) shallow⟩

/-- A query is parsed with a limit as it is with room for all its tokens, if no term in it is
    nested beyond the limit. If one is, all tokens from the first such term on are the children of
    one error node, and nothing before them changes. No more than two nodes for each level of
    nesting, and two more, stand around a token. -/
theorem termLimit_parse (limit : Nat) {enough : Nat} {source : Text}
    (h : (tokenize source).length ≤ enough) :
    let whole := (parse enough source).tree
    let limited := (parse limit source).tree
    ((∀ visit ∈ whole.walk, isTooDeep limit visit = false) → limited = whole) ∧
      ((∃ visit ∈ whole.walk, isTooDeep limit visit = true) →
        CutOff limit 0 (tokenize source) whole.walk limited.walk) ∧
      ∀ leaf ∈ limited.leaves, leaf.depth ≤ 2 * limit + 2 := by
  intro whole limited
  refine ⟨fun shallow => ?_, fun ⟨visit, mem, tooDeep⟩ => ?_, fun leaf mem => ?_⟩
  · by_cases deep : limit < Item.depthAll (parse enough source).items
    · obtain ⟨earlier, later, -, first, -, -, -, walk, -, tooDeep, -⟩ := cutOff_parse h deep
      have mem : first ∈ whole.walk := by
        rw [walk]
        exact List.mem_append_right _ (List.mem_cons_self ..)
      rw [shallow first mem] at tooDeep
      cases tooDeep
    · exact congrArg Program.tree (parse_eq_parse h (Nat.not_lt.1 deep))
  · by_cases deep : limit < Item.depthAll (parse enough source).items
    · exact cutOff_parse h deep
    · rw [isTooDeep_parse (Nat.not_lt.1 deep) visit mem] at tooDeep
      cases tooDeep
  · obtain ⟨ended, row⟩ := rowIsRead_parse limit source
    have height := heightAll_treeAll_le row
    exact Nat.le_trans (Tree.depth_le_height mem) (Nat.succ_le_succ height)

/-- Two groups around a term are one more than a limit of one allows: all that comes behind the
    first parenthesis stands below an error node. -/
theorem termLimit_parse_nested :
    let source := "x ((a) OR b) -c".toList
    (tokenize source).length ≤ 14 ∧
      (∃ visit ∈ (parse 14 source).tree.walk, isTooDeep 1 visit = true) ∧
      CutOff 1 0 (tokenize source) (parse 14 source).tree.walk (parse 1 source).tree.walk ∧
      (parse 1 source).tree.nodes.map (fun node => (node.kind, node.size)) =
        [(.program, 15), (.simpleString, 1), (.error, 13), (.group, 13), (.error, 12)] := by
  intro source
  have enough : (tokenize source).length ≤ 14 := by decide +kernel
  have deep : ∃ visit ∈ (parse 14 source).tree.walk, isTooDeep 1 visit = true := by decide +kernel
  exact ⟨enough, deep, (termLimit_parse 1 enough).2.1 deep, by decide +kernel⟩

end Flashcard.Query
