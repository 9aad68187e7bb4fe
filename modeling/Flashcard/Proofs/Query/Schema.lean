import Flashcard.Proofs.Query.Lowering

/-!
# The schema of query trees

Whoever reads the tree of a query relies on what stands below each kind of node, also
where the query is malformed. Strings, filters, negations and groups have one shape each,
and lack a part of it only right below an error node that holds nothing else. An `OR`
stands between two other terms. All other error nodes are single tokens, except for one
that holds the rest of a query where terms are nested too deeply.

Results:
* `obeys_item`, `obeysAll_row`: items that can be read have trees of these shapes.
* `linksBetween_row`: in a row that can be read, an `OR` stands between two other terms.
* `schema_parse`: every query tree obeys the schema, and so whoever lowers it needs no
  answer for other trees.
-/

namespace Flashcard

namespace Tree

variable {κ : Type}

/-- The tree is more than a single token. -/
def isNode : Tree κ → Bool
  | leaf _ _ => false
  | node _ _ => true

/-- The nodes right below a node, without the tokens between them. -/
def childNodes (tree : Tree κ) : List (Tree κ) := tree.children.filter isNode

end Tree

namespace Query

/-! ## The schema -/

/-- The node is the only child of an error node. -/
def IsWrapped (o : Tree.Occurrence Kind) : Prop := o.above.head? = some (.node .error [o.tree])

/-- Negations and groups among some nodes. -/
def nesting (above : List (Tree Kind)) : Nat :=
  above.countP fun tree => tree.kind = .negation || tree.kind = .group

/-- The tree can be the value of a filter: it is a string, perhaps one that lacks its closing
    quote. -/
def IsFilterValue (tree : Tree Kind) : Prop :=
  ∃ children, tree = .node .simpleString children ∨ tree = .node .quotedString children ∨
    tree = .node .error [.node .quotedString children]

/-- Below the node of a filter stands its mark, and then its value unless it has none and is
    wrapped for that. -/
def IsFilter (field : FilterField) (o : Tree.Occurrence Kind) : Prop :=
  ∃ mark, (IsWrapped o ∧ o.tree.children = [(Token.mark field mark).leaf]) ∨
    ∃ value, o.tree.children = [(Token.mark field mark).leaf, value] ∧ IsFilterValue value

/-- What an error node wraps, if it wraps a node. -/
def wrappedKinds : List Kind := [.quotedString, .group, .tag, .deck, .template]

/-- What an error node holds, if it holds a single token. -/
def strayTokens : List Token := [.parenClose, .minus, .orKeyword]

/-- Below the error node stands all that is left of a query that ends at the byte `stop`, where
    terms are nested as deeply as they may be. -/
def IsOverflow (limit stop : Nat) (o : Tree.Occurrence Kind) : Prop :=
  (∃ tokens : List Token, tokens ≠ [] ∧ o.tree.children = tokens.map Token.leaf) ∧
    o.start + o.tree.size = stop ∧ nesting o.above = limit

/-- What stands below a node of each kind. -/
def HasShape (limit stop : Nat) (o : Tree.Occurrence Kind) : Prop :=
  match o.tree.kind with
  | .program => o.above = []
  | .simpleString => ∃ text, o.tree.children = [(Token.word text).leaf]
  | .quotedString =>
    ∃ (content : Option Text) (closed : Bool),
      o.tree.children = Token.quote.leaf ::
        ((content.map fun text => (Token.content text).leaf).toList ++
          if closed then [Token.quote.leaf] else []) ∧
      (closed = false ↔ IsWrapped o)
  | .negation =>
    ∃ operand, o.tree.children = [Token.minus.leaf, operand] ∧ isTerm operand = true
  | .disjunction => o.tree.children = [Token.orKeyword.leaf]
  | .group =>
    o.tree.children.head? = some Token.parenOpen.leaf ∧
      (¬ IsWrapped o → o.tree.children.getLast? = some Token.parenClose.leaf ∧
        ∃ first, o.tree.childNodes.head? = some first ∧ isLink first = false)
  | .tag => IsFilter .tag o
  | .deck => IsFilter .deck o
  | .template => IsFilter .template o
  | .error =>
    (∃ kind ∈ wrappedKinds, ∃ children, o.tree.children = [.node kind children]) ∨
      (∃ token ∈ strayTokens, o.tree.children = [token.leaf]) ∨ IsOverflow limit stop o
  | _ => False

/-- Each `OR` among some nodes has a node on either side that is no `OR`. -/
def LinksBetween (nodes : List (Tree Kind)) : Prop :=
  ∀ before link after, nodes = before ++ link :: after → isLink link = true →
    (∃ left, before.getLast? = some left ∧ isLink left = false) ∧
      ∃ right, after.head? = some right ∧ isLink right = false

/-- The rules for a node of a query that ends at the byte `stop` and may nest terms `limit`
    deep. -/
structure Obeys (limit stop : Nat) (o : Tree.Occurrence Kind) : Prop where
  shape : HasShape limit stop o
  links : LinksBetween o.tree.childNodes

/-! ## Rows of nodes -/

theorem linksBetween_nil : LinksBetween [] := by
  intro before link after nodes
  cases before <;> cases nodes

theorem linksBetween_singleton {node : Tree Kind} (h : isLink node = false) :
    LinksBetween [node] := by
  intro before link after nodes same
  cases before with
  | nil =>
    obtain ⟨rfl, -⟩ := List.cons.inj nodes
    rw [h] at same
    cases same
  | cons first before =>
    have none := (List.cons.inj nodes).2
    cases before <;> cases none

theorem filter_isNode_leaves (tokens : List Token) :
    (tokens.map Token.leaf).filter Tree.isNode = [] := by
  rw [List.filter_eq_nil_iff]
  intro tree mem
  obtain ⟨token, -, rfl⟩ := List.mem_map.1 mem
  exact Bool.false_ne_true

theorem isNode_of_isTerm {tree : Tree Kind} (h : isTerm tree = true) : tree.isNode = true := by
  cases tree with
  | leaf _ _ => cases h
  | node _ _ => rfl

/-- The nodes in a row of items. -/
def nodesOf (items : List Item) : List (Tree Kind) := (Item.treeAll items).filter Tree.isNode

theorem nodesOf_disjunction (items : List Item) :
    nodesOf (.disjunction :: items) = Item.disjunction.tree :: nodesOf items := rfl

theorem nodesOf_term {item : Item} (h : item.isTerm = true) (items : List Item) :
    nodesOf (item :: items) = item.tree :: nodesOf items := by
  rw [nodesOf, Item.treeAll, List.filter_cons_of_pos (isNode_of_isTerm (isTerm_tree h).2), nodesOf]

theorem head?_nodesOf {items : List Item} (h : Item.termNext items = true) :
    ∃ node, (nodesOf items).head? = some node ∧ isLink node = false := by
  induction items with
  | nil => cases h
  | cons item items ih =>
    by_cases ht : item.isTerm = true
    · rw [nodesOf_term ht]
      exact ⟨item.tree, rfl, (isTerm_tree ht).1⟩
    · cases item with
      | blank text => exact ih h
      | disjunction => cases h
      | _ => exact absurd rfl ht

/-- In a row that can be read, an `OR` stands between two terms; to its left there may be
    what stands to the left of the row. -/
theorem linksBetween_row {depth : Nat} {hasLeft ended : Bool} {items : List Item}
    (h : Item.RowIsRead depth hasLeft ended items) {before after : List (Tree Kind)}
    {link : Tree Kind} (nodes : nodesOf items = before ++ link :: after)
    (isOr : isLink link = true) :
    (before = [] ∧ hasLeft = true ∨
        ∃ left, before.getLast? = some left ∧ isLink left = false) ∧
      ∃ right, after.head? = some right ∧ isLink right = false := by
  induction items generalizing hasLeft ended before with
  | nil => cases before <;> cases nodes
  | cons item items ih =>
    have step {hasLeft' ended : Bool} (term : item.isTerm = true)
        (row : Item.RowIsRead depth hasLeft' ended items) :
        (before = [] ∧ hasLeft = true ∨
            ∃ left, before.getLast? = some left ∧ isLink left = false) ∧
          ∃ right, after.head? = some right ∧ isLink right = false := by
      rw [nodesOf_term term] at nodes
      cases before with
      | nil =>
        rw [← (List.cons.inj nodes).1, (isTerm_tree term).1] at isOr
        cases isOr
      | cons first before =>
        obtain ⟨rfl, later⟩ := List.cons.inj nodes
        obtain ⟨left, right⟩ := ih row later
        refine ⟨.inr ?_, right⟩
        obtain ⟨rfl, -⟩ | ⟨left, last, other⟩ := left
        · exact ⟨item.tree, rfl, (isTerm_tree term).1⟩
        · exact ⟨left, by rw [List.getLast?_cons, last]; rfl, other⟩
    cases h with
    | blank text row => exact ih row nodes
    | disjunction next row =>
      rw [nodesOf_disjunction] at nodes
      cases before with
      | nil =>
        rw [← (List.cons.inj nodes).2]
        exact ⟨.inl ⟨rfl, rfl⟩, head?_nodesOf next⟩
      | cons first before =>
        obtain ⟨left, right⟩ := ih row (List.cons.inj nodes).2
        obtain ⟨-, none⟩ | ⟨left, last, other⟩ := left
        · cases none
        · exact ⟨.inr ⟨left, by rw [List.getLast?_cons, last]; rfl, other⟩, right⟩
    | stray _ row => exact step rfl row
    | term here row => exact step here.isTerm row
    | last here => exact step here.isTerm (.nil : Item.RowIsRead depth true false [])

/-- The node of a group. It is wrapped where the group is malformed. -/
def groupNode (items : List Item) (closed : Bool) : Tree Kind :=
  .node .group (Token.parenOpen.leaf ::
    (Item.treeAll items ++ if closed then [Token.parenClose.leaf] else []))

theorem tree_group (items : List Item) (closed : Bool) :
    (Item.group items closed).tree =
      markError (!closed || items.all Item.isBlank) (groupNode items closed) := rfl

theorem childNodes_groupNode (items : List Item) (closed : Bool) :
    (groupNode items closed).childNodes = nodesOf items := by
  have close : (if closed then [Token.parenClose.leaf] else []).filter Tree.isNode = [] := by
    cases closed <;> rfl
  rw [groupNode, Tree.childNodes, Tree.children, List.filter_cons_of_neg Bool.false_ne_true,
    List.filter_append, close, List.append_nil, nodesOf]

/-- Where nothing stands to the left, an `OR` in a row that can be read stands between two
    nodes of the row. -/
theorem Item.RowIsRead.linksBetween {depth : Nat} {ended : Bool} {items : List Item}
    (h : RowIsRead depth false ended items) : LinksBetween (nodesOf items) := by
  intro before link after nodes isOr
  obtain ⟨left, right⟩ := linksBetween_row h nodes isOr
  exact ⟨left.resolve_left fun first => Bool.false_ne_true first.2, right⟩

/-! ## Trees of items -/

/-- Terms nested `depth` deep may stand here, and no error node is right around. -/
structure Holds (limit depth : Nat) (above : List (Tree Kind)) : Prop where
  nesting_add : nesting above + depth = limit
  noError : ∀ tree ∈ above.head?, tree.kind ≠ .error

theorem Holds.inside {limit depth : Nat} {above : List (Tree Kind)} {tree : Tree Kind}
    (h : nesting above + (depth + 1) = limit) (nests : tree.kind = .negation ∨ tree.kind = .group) :
    Holds limit depth (tree :: above) := by
  refine ⟨?_, ?_⟩
  · have one : nesting (tree :: above) = nesting above + 1 :=
      List.countP_cons_of_pos (by simpa using nests)
    omega
  · rintro other ⟨⟩ error
    rw [error] at nests
    rcases nests with nests | nests <;> cases nests

theorem nesting_error (children above : List (Tree Kind)) :
    nesting (.node .error children :: above) = nesting above :=
  List.countP_cons_of_neg Bool.false_ne_true

section Obeys

variable {limit stop : Nat} {above : List (Tree Kind)}

/-- All nodes of a tree obey the rules if the root does and the nodes below it do. -/
theorem obeys_node {start : Nat} {kind : Kind} {children : List (Tree Kind)}
    (here : Obeys limit stop ⟨above, start, .node kind children⟩)
    (below : ∀ o ∈ Tree.occurrencesAll (.node kind children :: above) start children,
      Obeys limit stop o) :
    ∀ o ∈ Tree.occurrences above start (.node kind children), Obeys limit stop o := by
  rw [Tree.occurrences]
  exact List.forall_mem_cons.2 ⟨here, below⟩

theorem obeys_leaves {start : Nat} (kind : Kind) (tokens : List Token)
    (shape : HasShape limit stop ⟨above, start, .node kind (tokens.map Token.leaf)⟩) :
    ∀ o ∈ Tree.occurrences above start (.node kind (tokens.map Token.leaf)),
      Obeys limit stop o := by
  refine obeys_node ⟨shape, ?_⟩ ?_
  · rw [Tree.childNodes, Tree.children, filter_isNode_leaves]
    exact linksBetween_nil
  · rw [occurrencesAll_leaves]
    exact List.forall_mem_nil _

theorem obeys_last {start : Nat} (kind : Kind) (tokens : List Token) {child : Tree Kind}
    (shape : HasShape limit stop ⟨above, start, .node kind (tokens.map Token.leaf ++ [child])⟩)
    (noLink : isLink child = false)
    (below : ∀ o ∈ Tree.occurrences (.node kind (tokens.map Token.leaf ++ [child]) :: above)
      (start + (Token.textAll tokens).size) child, Obeys limit stop o) :
    ∀ o ∈ Tree.occurrences above start (.node kind (tokens.map Token.leaf ++ [child])),
      Obeys limit stop o := by
  refine obeys_node ⟨shape, ?_⟩ ?_
  · rw [Tree.childNodes, Tree.children, List.filter_append, filter_isNode_leaves, List.nil_append]
    cases child with
    | leaf _ _ => exact linksBetween_nil
    | node _ _ => exact linksBetween_singleton noLink
  · rw [occurrencesAll_map_leaf, Tree.occurrencesAll, Tree.occurrencesAll, List.append_nil]
    exact below

theorem obeys_wrapped {start : Nat} {kind : Kind} {children : List (Tree Kind)}
    (wraps : kind ∈ wrappedKinds)
    (below : ∀ o ∈ Tree.occurrences (.node .error [.node kind children] :: above) start
      (.node kind children), Obeys limit stop o) :
    ∀ o ∈ Tree.occurrences above start (.node .error [.node kind children]),
      Obeys limit stop o := by
  have noLink : isLink (.node kind children) = false := by
    simp only [wrappedKinds, List.mem_cons, List.not_mem_nil, or_false] at wraps
    rcases wraps with rfl | rfl | rfl | rfl | rfl <;> rfl
  exact obeys_last .error [] (.inl ⟨kind, wraps, children, rfl⟩) noLink below

theorem obeys_value (noError : ∀ tree ∈ above.head?, tree.kind ≠ .error) (start : Nat) :
    (value : Value) → ∀ o ∈ Tree.occurrences above start value.tree, Obeys limit stop o
  | .word text => obeys_leaves .simpleString [.word text] ⟨text, rfl⟩
  | .quoted content true => by
    refine obeys_leaves .quotedString (Value.quoted content true).tokens ⟨content, true, ?_, ?_⟩
    · cases content <;> rfl
    · exact ⟨fun h => absurd h.symm Bool.false_ne_true, fun h => absurd rfl (noError _ h)⟩
  | .quoted content false => by
    refine obeys_wrapped (by decide) (obeys_leaves .quotedString
      (Value.quoted content false).tokens ⟨content, false, ?_, ?_⟩)
    · cases content <;> rfl
    · exact ⟨fun _ => rfl, fun _ => rfl⟩

theorem isLink_value (value : Value) : isLink value.tree = false := by
  cases value with
  | word text => rfl
  | quoted content closed => cases closed <;> rfl

theorem isFilterValue_tree (value : Value) : IsFilterValue value.tree := by
  cases value with
  | word text => exact ⟨_, .inl rfl⟩
  | quoted content closed =>
    cases closed with
    | true => exact ⟨_, .inr (.inl rfl)⟩
    | false => exact ⟨_, .inr (.inr rfl)⟩

/-- The node of a filter has the shape of its field. -/
theorem hasShape_filter {field : FilterField} {start : Nat} {children : List (Tree Kind)}
    (h : IsFilter field ⟨above, start, .node field.kind children⟩) :
    HasShape limit stop ⟨above, start, .node field.kind children⟩ := by
  cases field <;> exact h

theorem obeys_filter (start : Nat) (field : FilterField) (mark : Text) :
    (value : Option Value) → ∀ o ∈ Tree.occurrences above start (Item.filter field mark value).tree,
      Obeys limit stop o
  | none => by
    refine obeys_wrapped (by cases field <;> decide) ?_
    exact obeys_leaves field.kind [.mark field mark] (hasShape_filter ⟨mark, .inl ⟨rfl, rfl⟩⟩)
  | some value => by
    have noError : ∀ tree ∈ ((Item.filter field mark (some value)).tree :: above).head?,
        tree.kind ≠ .error := by
      rintro tree ⟨⟩
      cases field <;> exact Kind.noConfusion
    exact obeys_last field.kind [.mark field mark]
      (hasShape_filter ⟨mark, .inr ⟨value.tree, rfl, isFilterValue_tree value⟩⟩)
      (isLink_value value) (obeys_value noError _ value)

/-- The node of a group obeys the rules if the nodes of its items do, unless it has to be
    wrapped. -/
theorem obeys_groupNode {depth : Nat} {ended : Bool} {items : List Item}
    (row : Item.RowIsRead depth false ended items) (start : Nat) (closed : Bool)
    (whole : ¬ IsWrapped ⟨above, start, groupNode items closed⟩ →
      (!closed || items.all Item.isBlank) = false)
    (below : ∀ o ∈ Tree.occurrencesAll (groupNode items closed :: above) (start + 1)
      (Item.treeAll items), Obeys limit stop o) :
    ∀ o ∈ Tree.occurrences above start (groupNode items closed), Obeys limit stop o := by
  refine obeys_node ⟨⟨rfl, fun alone => ?_⟩, ?_⟩ ?_
  · obtain ⟨rfl, filled⟩ : closed = true ∧ items.all Item.isBlank = false := by
      simpa using whole alone
    refine ⟨?_, ?_⟩
    · rw [Tree.children, if_pos rfl, ← List.cons_append, List.getLast?_concat]
    · rw [← groupNode, childNodes_groupNode]
      exact head?_nodesOf (by rw [row.termNext_eq, filled]; rfl)
  · rw [← groupNode, childNodes_groupNode]
    exact row.linksBetween
  · rw [occurrencesAll_parens]
    exact below

end Obeys

mutual

/-- All nodes in the tree of an item that can be read obey the rules. -/
theorem obeys_item {limit stop : Nat} : (item : Item) → ∀ {depth : Nat} {ended : Bool},
    item.IsRead depth ended → ∀ {above : List (Tree Kind)}, Holds limit depth above →
    ∀ start : Nat, (ended = true → start + item.tree.size = stop) →
    ∀ o ∈ Tree.occurrences above start item.tree, Obeys limit stop o
  | .blank _, _, _, h, _, _, _, _ | .disjunction, _, _, h, _, _, _, _ => by cases h
  | .plain value, _, _, _, _, holds, start, _ => obeys_value holds.noError start value
  | .filter field mark value, _, _, _, _, _, start, _ => obeys_filter start field mark value
  | .stray token, _, _, h, _, _, start, _ => by
    cases h with
    | minus => exact obeys_leaves .error [.minus] (.inr (.inl ⟨.minus, by decide, rfl⟩))
  | .overflow tokens, _, _, h, _, holds, start, bound => by
    cases h with
    | overflow some =>
      exact obeys_leaves .error tokens
        (.inr (.inr ⟨⟨tokens, some, rfl⟩, bound rfl, holds.nesting_add⟩))
  | .negation operand, _, ended, h, above, holds, start, bound => by
    cases h with
    | @negation depth _ _ inner =>
      have reaches (e : ended = true) : start + 1 + operand.tree.size = stop := by
        have size : start + (1 + (operand.tree.size + 0)) = stop := bound e
        omega
      obtain ⟨noLink, term⟩ := isTerm_tree inner.isTerm
      have around : Holds limit depth ((Item.negation operand).tree :: above) :=
        .inside holds.nesting_add (.inl rfl)
      exact obeys_last .negation [.minus] ⟨operand.tree, rfl, term⟩ noLink
        (obeys_item operand inner around (start + 1) reaches)
  | .group items closed, _, ended, h, above, holds, start, bound => by
    cases h with
    | @group depth _ _ _ row unclosed =>
      have reaches (e : ended = true) :
          start + 1 + Tree.sizeAll (Item.treeAll items) = stop := by
        -- The group has ended the query, so no parenthesis closes it.
        cases closed with
        | true => exact absurd ((unclosed rfl).symm.trans e) Bool.false_ne_true
        | false =>
          have size : start + (1 + Tree.sizeAll (Item.treeAll items ++ []) + 0) = stop := bound e
          rw [List.append_nil] at size
          omega
      rw [tree_group]
      cases malformed : !closed || items.all Item.isBlank with
      | true =>
        have around : Holds limit depth (groupNode items closed ::
            .node .error [groupNode items closed] :: above) :=
          .inside (by rw [nesting_error]; exact holds.nesting_add) (.inr rfl)
        refine obeys_wrapped (by decide) (obeys_groupNode row start closed (fun alone => ?_)
          (obeysAll_row items row around (start + 1) reaches))
        exact absurd rfl alone
      | false =>
        have around : Holds limit depth (groupNode items closed :: above) :=
          .inside holds.nesting_add (.inr rfl)
        exact obeys_groupNode row start closed (fun _ => malformed)
          (obeysAll_row items row around (start + 1) reaches)

/-- All nodes in the trees of a row that can be read obey the rules. -/
theorem obeysAll_row {limit stop : Nat} : (items : List Item) →
    ∀ {depth : Nat} {hasLeft ended : Bool}, Item.RowIsRead depth hasLeft ended items →
    ∀ {above : List (Tree Kind)}, Holds limit depth above →
    ∀ start : Nat, (ended = true → start + Tree.sizeAll (Item.treeAll items) = stop) →
    ∀ o ∈ Tree.occurrencesAll above start (Item.treeAll items), Obeys limit stop o
  | [], _, _, _, _, _, _, _, _ => List.forall_mem_nil _
  | item :: items, depth, _, ended, h, above, holds, start, bound => by
    have later {hasLeft : Bool} (row : Item.RowIsRead depth hasLeft ended items) :
        ∀ o ∈ Tree.occurrencesAll above (start + item.tree.size) (Item.treeAll items),
          Obeys limit stop o := by
      refine obeysAll_row items row holds (start + item.tree.size) fun e => ?_
      have size : start + (item.tree.size + Tree.sizeAll (Item.treeAll items)) = stop := bound e
      omega
    rw [Item.treeAll, Tree.occurrencesAll, List.forall_mem_append]
    cases h with
    | blank text row => exact ⟨List.forall_mem_nil _, later row⟩
    | disjunction _ row => exact ⟨obeys_leaves .disjunction [.orKeyword] rfl, later row⟩
    | @stray _ _ _ token _ which row =>
      have listed : token ∈ strayTokens := by rcases which with rfl | rfl <;> decide
      exact ⟨obeys_leaves .error [token] (.inr (.inl ⟨token, listed, rfl⟩)), later row⟩
    | term here row =>
      exact ⟨obeys_item item here holds start fun e => absurd e Bool.false_ne_true, later row⟩
    | last here =>
      exact ⟨obeys_item item here holds start bound, List.forall_mem_nil _⟩

end

/-! ## Whole queries -/

/-- All nodes in the tree of a query obey the rules. -/
theorem obeys_parse (limit : Nat) (source : Text) :
    ∀ o ∈ (parse limit source).tree.occurrences [] 0, Obeys limit source.size o := by
  obtain ⟨ended, row⟩ := rowIsRead_parse limit source
  have whole : Tree.sizeAll (Item.treeAll (parse limit source).items) = source.size := by
    rw [Tree.sizeAll_eq, ← Tree.text_node Kind.program, ← Program.tree, text_tree_parse]
  have around : Holds limit limit [(parse limit source).tree] := by
    refine ⟨Nat.zero_add limit, ?_⟩
    rintro tree ⟨⟩
    exact Kind.noConfusion
  refine obeys_node ⟨rfl, row.linksBetween⟩ (obeysAll_row _ row around 0 fun _ => ?_)
  rw [whole, Nat.zero_add]

/-- Term that a negation negates: the first one below it, if there is one. -/
def operand? (tree : Tree Kind) : Option (Tree Kind) :=
  tree.children.find? fun child => isLink child || isTerm child

theorem Obeys.isSome_operand? {limit stop : Nat} {o : Tree.Occurrence Kind}
    (h : Obeys limit stop o) (negation : o.tree.kind = .negation) :
    (operand? o.tree).isSome = true := by
  have shape := h.shape
  rw [HasShape, negation] at shape
  obtain ⟨operand, children, term⟩ := shape
  rw [operand?, children, List.find?_cons_of_neg (by decide), List.find?_cons_of_pos (by
    rw [term, Bool.or_true])]
  rfl

/-- The tree of every query obeys the schema, whether or not something in the query is
    malformed. So its conditions are found in the tree without an answer for an `OR` in the
    place of a term, for a negation without an operand or for a group without terms, and what
    always holds is written for a blank query only. -/
theorem schema_parse (limit : Nat) (source : Text) :
    let tree := (parse limit source).tree
    (∀ o ∈ tree.occurrences [] 0, Obeys limit source.size o ∧
      (o.tree.kind = .negation → (operand? o.tree).isSome = true)) ∧
    lower tree = .ok (parse limit source).conditions ∧
    (.one ∈ Condition.piecesAll (parse limit source).conditions ↔
      source.all Unicode.isBlank = true) := by
  refine ⟨fun o mem => ?_, lower_parse limit source, one_mem_piecesAll_parse limit source⟩
  have rules := obeys_parse limit source o mem
  exact ⟨rules, rules.isSome_operand?⟩

/-- The group is nested too deeply for the negation around it, so the rest of the query is the
    operand. -/
example : ((parse 1 "-(a OR".toList).tree.occurrences [] 0).map (fun o => (o.start, o.tree.kind)) =
    [(0, .program), (0, .negation), (1, .error)] := by decide +kernel

end Query

end Flashcard
