import Flashcard.Proofs.Query.Fitting
import Flashcard.Proofs.Query.Printing
import Flashcard.Proofs.Query.Realization

/-!
# Reading back what is printed

A query that is printed and read again is the same query: its syntax tree has no
error node, the terms in the tree are those that were printed, with their texts,
and its predicate is compared with these texts in their order. Terms may be nested
as deeply as the reader allows, and a text may be any text.

Results:
* `Row.allFit_items`: the items of an abstract query fit.
* `Term.ofTree?_item`: a term is found in its tree.
* `parametersAll_ofItems`: the values of a row are those of its items.
* `parse_print`: a query that is printed is read back.
-/

namespace Flashcard.Query.Abstract

/-! ## Nesting -/

mutual

/-- How deeply terms are nested in a term, with itself. -/
def Term.nesting : Term → Nat
  | .text _ | .filter _ _ => 1
  | .negation operand => operand.nesting + 1
  | .group row => row.nesting + 1

/-- How deeply terms are nested in a chain. -/
def Chain.nesting : Chain → Nat
  | .last term => term.nesting
  | .link term rest => max term.nesting rest.nesting

/-- How deeply terms are nested in a row. -/
def Row.nesting : Row → Nat
  | .last chain => chain.nesting
  | .next chain rest => max chain.nesting rest.nesting

end

/-- How deeply terms are nested in a query. -/
def Search.nesting (query : Search) : Nat := query.elim 0 Row.nesting

/-! ## The items of an abstract query fit -/

theorem Literal.isError_value {IsBare : Text → Prop} (literal : Literal IsBare) :
    literal.value.isError = false := by
  cases literal <;> rfl

theorem Term.isTerm_item (term : Term) : term.item.isTerm = true := by
  cases term <;> rfl

theorem Chain.termNext_items (chain : Chain) (rest : List Item) :
    Item.termNext (chain.items ++ rest) = true := by
  cases chain with
  | last term => exact Item.termNext_cons term.isTerm_item rest
  | link term others => exact Item.termNext_cons term.isTerm_item _

theorem Row.termNext_items (row : Row) : Item.termNext row.items = true := by
  cases row with
  | last chain =>
    rw [Row.items, ← List.append_nil chain.items]
    exact chain.termNext_items []
  | next chain rest => exact chain.termNext_items _

mutual

/-- The item of a term fits where the term is not nested too deeply. -/
theorem Term.fits_item : (term : Term) → ∀ {depth : Nat}, term.nesting ≤ depth →
    term.item.fits depth = true
  | .text literal, depth + 1, _ => by rw [Term.item, Item.fits, literal.isError_value]; rfl
  | .filter field literal, depth + 1, _ => by
    rw [Term.item, Item.fits, literal.isError_value]
    rfl
  | .negation operand, depth + 1, h => operand.fits_item (Nat.le_of_succ_le_succ h)
  | .group row, depth + 1, h => by
    rw [Term.item, Item.fits, Item.filled_of_termNext row.termNext_items,
      row.allFit_items (Nat.le_of_succ_le_succ h)]
    rfl

/-- Behind the items of a chain a row goes on as behind a term. -/
theorem Chain.allFit_items : (chain : Chain) → ∀ {depth : Nat}, chain.nesting ≤ depth →
    ∀ (hasLeft : Bool) (rest : List Item),
      Item.allFit depth hasLeft (chain.items ++ rest) = Item.allFit depth true rest
  | .last term, depth, h, hasLeft, rest => by
    rw [Chain.items, List.singleton_append, Item.allFit_cons term.isTerm_item, term.fits_item h,
      Bool.true_and]
  | .link term others, depth, h, hasLeft, rest => by
    rw [Chain.nesting, Nat.max_le] at h
    rw [Chain.items, List.cons_append, Item.allFit_cons term.isTerm_item, term.fits_item h.1,
      Bool.true_and]
    show (true && Item.termNext (others.items ++ rest) &&
      Item.allFit depth false (others.items ++ rest)) = _
    rw [others.termNext_items, others.allFit_items h.2, Bool.true_and, Bool.true_and]

/-- The items of a row fit where its terms are not nested too deeply. -/
theorem Row.allFit_items : (row : Row) → ∀ {depth : Nat}, row.nesting ≤ depth →
    ∀ {hasLeft : Bool}, Item.allFit depth hasLeft row.items = true
  | .last chain, depth, h, hasLeft => by
    rw [Row.items, ← List.append_nil chain.items, chain.allFit_items h, Item.allFit]
  | .next chain rest, depth, h, hasLeft => by
    rw [Row.nesting, Nat.max_le] at h
    rw [Row.items, chain.allFit_items h.1]
    exact rest.allFit_items h.2

end

/-! ## Reading a syntax tree -/

/-- The literal that a string in a tree stands for. -/
def Literal.ofTree? {IsBare : Text → Prop} [DecidablePred IsBare] :
    Tree Kind → Option (Literal IsBare)
  | .node .simpleString children =>
    (tokenText? .word children).bind fun text =>
      if ok : IsBare text then some (.bare text ok) else none
  | .node .quotedString children =>
    some (.quoted (Value.unescape ((tokenText? .stringContent children).getD [])))
  | _ => none

/-- The row with another term joined to its first chain. -/
def Row.link (term : Term) : Row → Row
  | .last chain => .last (.link term chain)
  | .next chain rest => .next (.link term chain) rest

/-- The row that some terms make up, with the `OR`s between them. -/
def Row.ofLinks? : List (Option Term) → Option Row
  | [some term] => some (.last (.last term))
  | some term :: none :: rest => (ofLinks? rest).map (Row.link term)
  | some term :: rest => (ofLinks? rest).map (.next (.last term))
  | _ => none

mutual

/-- The term that a tree shows, if nothing in it is malformed. -/
def Term.ofTree? : Tree Kind → Option Term
  | .leaf _ _ => none
  | .node kind children =>
    match kind with
    | .negation =>
      match links? children with
      | some (some operand :: _) => some (.negation operand)
      | _ => none
    | .group => ((links? children).bind Row.ofLinks?).map .group
    | kind =>
      match kind.field? with
      | some field => (children.findSome? Literal.ofTree?).map (.filter field)
      | none => (Literal.ofTree? (.node kind children)).map .text

/-- The terms among some trees and the `OR`s between them, if none of the terms is
    malformed. -/
def links? : List (Tree Kind) → Option (List (Option Term))
  | [] => some []
  | tree :: rest =>
    if isLink tree then (links? rest).map (none :: ·)
    else if isTerm tree then
      (Term.ofTree? tree).bind fun term => (links? rest).map (some term :: ·)
    else links? rest

end

/-- The query that a tree shows, if nothing in it is malformed. -/
def Search.ofTree? : Tree Kind → Option Search
  | .node .program children =>
    match links? children with
    | some [] => some none
    | some links => (Row.ofLinks? links).map some
    | none => none
  | _ => none

/-! ## A query is found in its tree -/

/-- The terms of a chain with the `OR`s between them. -/
def Chain.links : Chain → List (Option Term)
  | .last term => [some term]
  | .link term rest => some term :: none :: rest.links

/-- The terms of a row with the `OR`s between them. -/
def Row.links : Row → List (Option Term)
  | .last chain => chain.links
  | .next chain rest => chain.links ++ rest.links

theorem Chain.links_eq_cons (chain : Chain) : ∃ term rest, chain.links = some term :: rest := by
  cases chain <;> exact ⟨_, _, rfl⟩

theorem Row.links_eq_cons (row : Row) : ∃ term rest, row.links = some term :: rest := by
  cases row with
  | last chain => exact chain.links_eq_cons
  | next chain rest =>
    obtain ⟨term, others, links⟩ := chain.links_eq_cons
    exact ⟨term, others ++ rest.links, by rw [Row.links, links]; rfl⟩

theorem Row.ofLinks?_chain : (chain : Chain) → ofLinks? chain.links = some (.last chain)
  | .last _ => rfl
  | .link term rest => by
    rw [Chain.links, ofLinks?, ofLinks?_chain rest]
    rfl

theorem Row.ofLinks?_append {row : Row} (h : ofLinks? row.links = some row) :
    (chain : Chain) → ofLinks? (chain.links ++ row.links) = some (.next chain row)
  | .last term => by
    obtain ⟨first, rest, links⟩ := row.links_eq_cons
    rw [links] at h
    rw [Chain.links, links, List.singleton_append, ofLinks?, h]
    · rfl
    all_goals nofun
  | .link term rest => by
    rw [Chain.links, List.cons_append, List.cons_append, ofLinks?, ofLinks?_append h rest]
    rfl

theorem Row.ofLinks?_links : (row : Row) → ofLinks? row.links = some row
  | .last chain => ofLinks?_chain chain
  | .next chain rest => ofLinks?_append (ofLinks?_links rest) chain

theorem Literal.ofTree?_value {IsBare : Text → Prop} [DecidablePred IsBare]
    (literal : Literal IsBare) : ofTree? literal.value.tree = some literal := by
  cases literal with
  | bare text ok =>
    have word : tokenText? .word [(Token.word text).leaf] = some text := rfl
    rw [Literal.value, Value.tree, ofTree?, word, Option.bind_some, dif_pos ok]
  | quoted text =>
    have content : tokenText? .stringContent
        ((Value.quoted (if text = [] then none else some (escape text)) true).tokens.map
          Token.leaf) = if text = [] then none else some (escape text) := by
      split <;> rfl
    rw [Literal.value, Value.tree, Bool.not_true, markError, if_neg Bool.false_ne_true, ofTree?,
      content]
    split
    · rename_i empty
      rw [empty]
      rfl
    · rw [Option.getD_some, unescape_escape]

theorem links?_term {term : Term} (h : Term.ofTree? term.item.tree = some term)
    (rest : List (Tree Kind)) :
    links? (term.item.tree :: rest) = (links? rest).map (some term :: ·) := by
  obtain ⟨noLink, isTerm⟩ := isTerm_tree term.isTerm_item
  rw [links?, noLink, isTerm, if_neg Bool.false_ne_true, if_pos rfl, h, Option.bind_some]

theorem isError_groupItem (row : Row) : (Item.group row.items true).isError = false := by
  rw [Item.isError, Item.filled_of_termNext row.termNext_items]
  rfl

mutual

/-- A term is found in the tree of its item. -/
theorem Term.ofTree?_item : (term : Term) → Term.ofTree? term.item.tree = some term
  | .text literal => by
    have found := literal.ofTree?_value
    obtain ⟨kind, hk, tree⟩ := tree_of_value literal.isError_value
    have string (children : List (Tree Kind)) :
        Term.ofTree? (.node kind children) =
          (Literal.ofTree? (.node kind children)).map Term.text := by
      rcases hk with rfl | rfl <;> rfl
    rw [tree] at found
    rw [Term.item, Item.tree, tree, string, found]
    rfl
  | .filter field literal => by
    have found : [(Token.mark field field.mark).leaf, literal.value.tree].findSome?
        Literal.ofTree? = some literal := by
      rw [List.findSome?_cons_of_isNone rfl, List.findSome?_cons, literal.ofTree?_value]
    cases field <;>
      · show (List.findSome? _ _).map _ = _
        rw [found]
        rfl
  | .negation operand => by
    have links : links? [Token.minus.leaf, operand.item.tree] = some [some operand] :=
      links?_term operand.ofTree?_item []
    rw [Term.item, Item.tree, Term.ofTree?, links]
  | .group row => by
    have links := row.links?_items [Token.parenClose.leaf]
    have ok : (!true || row.items.all Item.isBlank) = false := isError_groupItem row
    rw [Term.item, Item.tree, ok, markError, if_neg Bool.false_ne_true, Term.ofTree?]
    show ((links? (Item.treeAll row.items ++ _)).bind _).map _ = _
    rw [if_pos rfl, links]
    show ((Row.ofLinks? (row.links ++ [])).map _) = _
    rw [List.append_nil, row.ofLinks?_links]
    rfl

theorem Chain.links?_items : (chain : Chain) → ∀ rest : List (Tree Kind),
    links? (Item.treeAll chain.items ++ rest) = (links? rest).map (chain.links ++ ·)
  | .last term, rest => links?_term term.ofTree?_item rest
  | .link term others, rest => by
    rw [Chain.items, Item.treeAll, List.cons_append, links?_term term.ofTree?_item]
    show ((links? (Item.treeAll others.items ++ rest)).map (none :: ·)).map _ = _
    rw [others.links?_items, Option.map_map, Option.map_map]
    rfl

theorem Row.links?_items : (row : Row) → ∀ rest : List (Tree Kind),
    links? (Item.treeAll row.items ++ rest) = (links? rest).map (row.links ++ ·)
  | .last chain, rest => chain.links?_items rest
  | .next chain others, rest => by
    rw [Row.items, Item.treeAll_append, List.append_assoc, chain.links?_items]
    show (links? (Item.treeAll others.items ++ rest)).map _ = _
    rw [others.links?_items, Option.map_map]
    simp only [Row.links, List.append_assoc]
    rfl

end

/-- A query is found in the tree of its items. -/
theorem Search.ofTree?_items (query : Search) :
    Search.ofTree? (.node .program (Item.treeAll query.items)) = some query := by
  cases query with
  | none => rfl
  | some row =>
    obtain ⟨term, rest, cons⟩ := row.links_eq_cons
    have links := row.links?_items []
    have made := row.ofLinks?_links
    rw [List.append_nil, links?, Option.map_some, List.append_nil, cons] at links
    rw [cons] at made
    rw [Search.items, Option.elim_some, Search.ofTree?, links]
    show (Row.ofLinks? _).map some = _
    rw [made]
    rfl

/-! ## Values -/

/-- A text as it is looked for, or a name as it is compared. -/
def textParameter (text : Text) : Text := '%' :: likePattern text ++ ['%']

/-- The text of a literal. -/
def Literal.text {IsBare : Text → Prop} : Literal IsBare → Text
  | .bare text _ => text
  | .quoted text => text

mutual

/-- What a term is compared with. -/
def Term.parameters : Term → List Text
  | .text literal => [textParameter literal.text]
  | .filter _ literal => [foldCase literal.text]
  | .negation operand => operand.parameters
  | .group row => row.parameters

/-- What the terms of a chain are compared with. -/
def Chain.parameters : Chain → List Text
  | .last term => term.parameters
  | .link term rest => term.parameters ++ rest.parameters

/-- What the terms of a row are compared with. -/
def Row.parameters : Row → List Text
  | .last chain => chain.parameters
  | .next chain rest => chain.parameters ++ rest.parameters

end

/-- What the terms of a query are compared with. -/
def Search.parameters (query : Search) : List Text := query.elim [] Row.parameters

/-- The values of a row of items are those of its items, in order. -/
theorem parametersAll_ofItems (left : Option Condition) (pending : Bool) (items : List Item) :
    Condition.parametersAll (Condition.ofItems left pending items) =
      Condition.parametersAll left.toList ++
        items.flatMap fun item => (Condition.ofItem item).parameters := by
  induction items generalizing left pending with
  | nil => rw [Condition.ofItems, List.flatMap_nil, List.append_nil]
  | cons item items ih =>
    by_cases ht : item.isTerm = true
    · rw [ofItems_term left pending ht, List.flatMap_cons]
      cases left <;> cases pending <;>
        simp [Condition.push, Condition.keepLeft, Condition.joinLeft, Condition.parametersAll,
          Condition.parameters, ih]
    · cases item with
      | blank _ | disjunction => exact ih _ _
      | _ => exact absurd rfl ht

theorem Literal.text_value {IsBare : Text → Prop} (literal : Literal IsBare) :
    literal.value.text = literal.text := by
  cases literal with
  | bare text ok => rfl
  | quoted text =>
    rw [Literal.value, Value.text]
    split
    · rename_i empty
      rw [empty]
      rfl
    · exact unescape_escape text

mutual

/-- The values of a term's condition are those of the term. -/
theorem Term.parameters_item : (term : Term) →
    (Condition.ofItem term.item).parameters = term.parameters
  | .text literal => by
    rw [Term.item, Condition.ofItem, literal.isError_value, if_neg Bool.false_ne_true,
      literal.text_value]
    rfl
  | .filter field literal => by
    rw [Term.item, Condition.ofItem, literal.isError_value, if_neg Bool.false_ne_true,
      literal.text_value]
    rfl
  | .negation operand => by
    have clean := Item.hasError_of_fits _ _ (operand.fits_item (Nat.le_refl _))
    rw [Term.item, Condition.ofItem, clean, if_neg Bool.false_ne_true]
    exact operand.parameters_item
  | .group row => by
    have ok : (!true || row.items.all Item.isBlank) = false := isError_groupItem row
    rw [Term.item, Condition.ofItem, ok, if_neg Bool.false_ne_true, Condition.parameters,
      parametersAll_ofItems, Option.toList_none, row.parameters_items]
    rfl

theorem Chain.parameters_items : (chain : Chain) →
    (chain.items.flatMap fun item => (Condition.ofItem item).parameters) = chain.parameters
  | .last term => by
    rw [Chain.items, List.flatMap_singleton, term.parameters_item, Chain.parameters]
  | .link term rest => by
    rw [Chain.items, List.flatMap_cons, term.parameters_item, Chain.parameters,
      ← rest.parameters_items]
    rfl

theorem Row.parameters_items : (row : Row) →
    (row.items.flatMap fun item => (Condition.ofItem item).parameters) = row.parameters
  | .last chain => chain.parameters_items
  | .next chain rest => by
    rw [Row.items, List.flatMap_append, chain.parameters_items, Row.parameters,
      ← rest.parameters_items]
    rfl

end

/-! ## The round trip -/

/-- A query is read back as its items. -/
theorem parse_print_items (query : Search) {limit : Nat} (h : query.nesting ≤ limit) :
    parse limit query.print = ⟨query.items⟩ := by
  rw [parse, query.tokenize_print]
  cases query with
  | none => exact ofTokens_tokensAll (show Item.allFit limit false [] = true from rfl)
  | some row => exact ofTokens_tokensAll (row.allFit_items h)

/-- A query that is printed is read back: its tree has no error node and shows the
    same query, and its predicate is compared with the texts of its terms in order,
    whatever the fragments. -/
theorem parse_print (query : Search) {limit : Nat} (h : query.nesting ≤ limit) :
    (parse limit query.print).tree.hasErrorNode = false ∧
      Search.ofTree? (parse limit query.print).tree = some query ∧
      ∀ fragments : Fragments,
        ((parse limit query.print).compile fragments).parameters = query.parameters := by
  have items := parse_print_items query h
  refine ⟨?_, ?_, ?_⟩
  · rw [hasErrorNode_parse, items]
    cases query with
    | none => rfl
    | some row => exact row.allFit_items h
  · rw [items]
    exact query.ofTree?_items
  · intro fragments
    rw [items, Program.compile, Program.conditions, parametersAll_ofItems, Option.toList_none]
    cases query with
    | none => rfl
    | some row => exact row.parameters_items

/-- `"a\"\\⏎" OR tag:"" -(x-* deck:OR OR --tags)` is read back, with a line feed at
    the end of the first text. -/
theorem parse_print_nestedGroup :
    let query : Search := some (.next
      (.link (.text (.quoted ['a', '"', '\\', '\n'])) (.last (.filter .tag (.quoted []))))
      (.last (.last (.negation (.group (.next
        (.last (.text (.bare "x-*".toList (by decide))))
        (.last (.link (.filter .deck (.bare "OR".toList (by decide)))
          (.last (.negation (.negation (.text (.bare "tags".toList (by decide))))))))))))))
    query.nesting ≤ 5 ∧
      query.print = "\"a\\\"\\\\\n\" OR tag:\"\" -(x-* deck:OR OR --tags)".toList ∧
      (parse 5 query.print).tree.hasErrorNode = false ∧
      Search.ofTree? (parse 5 query.print).tree = some query ∧
      ∀ fragments : Fragments,
        ((parse 5 query.print).compile fragments).parameters =
          ["%a\"\\\\\n%", "", "%x-%%", "or", "%tags%"].map String.toList :=
  ⟨by decide, by decide, (parse_print _ (by decide)).1, (parse_print _ (by decide)).2.1,
    fun fragments => ((parse_print _ (by decide)).2.2 fragments).trans (by decide)⟩

end Flashcard.Query.Abstract
