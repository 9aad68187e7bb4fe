import Flashcard.Proofs.Query.NestingLimit
import Flashcard.Proofs.Query.Schema
import Flashcard.Proofs.Query.Spelling

/-!
# Groups without a closing parenthesis

A group that is not closed goes on to the end of the query, except for the blanks there. So it can
only stand at the end of what it is nested in.

Results:
* `openAtEndAll_sequence`, `leavesBlanks_term`: in what is read, groups that are not closed stand at
  the end.
* `stop_of_unclosed`: such a group ends where the item does that it stands in.
* `blankFrom_unclosed`: what stands behind it in the query are blanks.
-/

namespace Flashcard.Query

namespace Item

/-- The item ends with a group that is not closed. -/
def isOpen : Item → Bool
  | negation operand => operand.isOpen
  | group _ closed => !closed
  | _ => false

mutual

/-- Groups in the item that are not closed stand at its end. -/
def openAtEnd : Item → Bool
  | negation operand => operand.openAtEnd
  | group items closed => openAtEndAll closed items
  | _ => true

/-- Groups in a row that are not closed stand at its end, and there are none if the row itself is
    closed. -/
def openAtEndAll (closed : Bool) : List Item → Bool
  | [] => true
  | item :: rest =>
    item.openAtEnd && (!item.isOpen || (!closed && rest.isEmpty)) && openAtEndAll closed rest

end

theorem openAtEndAll_cons_shut {item : Item} {rest : List Item} {closed : Bool}
    (first : item.openAtEnd = true) (shut : item.isOpen = false)
    (others : openAtEndAll closed rest = true) : openAtEndAll closed (item :: rest) = true := by
  rw [openAtEndAll, first, shut, others]
  rfl

theorem openAtEndAll_cons {item : Item} {rest : List Item} {closed : Bool}
    (first : item.openAtEnd = true) (only : item.isOpen = true → closed = false ∧ rest = [])
    (others : openAtEndAll closed rest = true) :
    openAtEndAll closed (item :: rest) = true := by
  cases shut : item.isOpen with
  | false => exact openAtEndAll_cons_shut first shut others
  | true =>
    obtain ⟨rfl, rfl⟩ := only shut
    rw [openAtEndAll, first, shut]
    rfl

end Item

/-! ## What is read -/

/-- In the item groups that are not closed stand at the end, and only blanks are left behind one
    that ends with such a group. -/
def LeavesBlanks {bound : Nat} (read : Parsed Token Item bound) : Prop :=
  read.value.openAtEnd = true ∧ (read.value.isOpen = true → read.rest.all Token.isBlank = true)

/-- An item that does not end with a group that is not closed. -/
theorem LeavesBlanks.of_shut {bound : Nat} {read : Parsed Token Item bound}
    (atEnd : read.value.openAtEnd = true) (shut : read.value.isOpen = false) :
    LeavesBlanks read :=
  ⟨atEnd, fun endsOpen => absurd (shut.symm.trans endsOpen) Bool.false_ne_true⟩

section Reading

variable {term : (token : Token) → (rest : List Token) → Parsed Token Item rest.length}

theorem sequence_of_all_isBlank {inGroup hasLeft : Bool} {tokens : List Token}
    (h : tokens.all Token.isBlank = true) :
    (sequence term inGroup hasLeft tokens).value = [] ∧
      closes (sequence term inGroup hasLeft tokens).rest = false := by
  cases tokens with
  | nil =>
    rw [sequence]
    exact ⟨rfl, rfl⟩
  | cons token rest =>
    cases token with
    | blank text =>
      have blanks : rest.all Token.isBlank = true := h
      rw [sequence, if_pos blanks]
      exact ⟨rfl, rfl⟩
    | _ => cases h

/-- What a row leaves are blanks, unless it is closed. -/
theorem all_isBlank_or_closes (inGroup hasLeft : Bool) (tokens : List Token) :
    (sequence term inGroup hasLeft tokens).rest.all Token.isBlank = true ∨
      closes (sequence term inGroup hasLeft tokens).rest = true := by
  fun_induction sequence term inGroup hasLeft tokens with
  | case1 => exact .inl rfl
  | case2 hasLeft text rest blank => exact .inl blank
  | case4 => exact .inr rfl
  | case3 _ _ _ _ ih | case5 _ _ _ ih | case6 _ _ ih | case7 _ _ _ _ _ _ _ _ ih => exact ih

/-- In a row groups that are not closed stand at the end, if they do in its terms. -/
theorem openAtEndAll_sequence (leaves : ∀ token rest, LeavesBlanks (term token rest))
    (inGroup hasLeft : Bool) (tokens : List Token) :
    Item.openAtEndAll (closes (sequence term inGroup hasLeft tokens).rest)
      (sequence term inGroup hasLeft tokens).value = true := by
  fun_induction sequence term inGroup hasLeft tokens with
  | case1 | case2 | case4 => rfl
  | case3 hasLeft text rest _ ih => exact Item.openAtEndAll_cons_shut rfl rfl ih
  | case5 hasLeft rest _ ih => exact Item.openAtEndAll_cons_shut rfl rfl ih
  | case6 hasLeft rest ih =>
    refine Item.openAtEndAll_cons_shut ?_ ?_ ih
    · split <;> rfl
    · split <;> rfl
  | case7 hasLeft token rest _ _ _ first _ ih =>
    obtain ⟨atEnd, blanks⟩ := leaves token rest
    exact Item.openAtEndAll_cons atEnd (fun shut => (sequence_of_all_isBlank (blanks shut)).symm) ih

/-- A group that is not closed is open at its end, where only blanks are left. -/
theorem leavesBlanks_closeGroup {bound : Nat} {row : Parsed Token (List Item) bound}
    (atEnd : Item.openAtEndAll (closes row.rest) row.value = true)
    (left : row.rest.all Token.isBlank = true ∨ closes row.rest = true) :
    LeavesBlanks (closeGroup row) := by
  refine ⟨atEnd, fun shut => ?_⟩
  have unclosed : ¬closes row.rest = true := Bool.eq_false_iff.1 ((Bool.not_eq_true' _).mp shut)
  show (if closes row.rest then row.rest.tail else row.rest).all Token.isBlank = true
  rw [if_neg unclosed]
  exact left.resolve_right unclosed

end Reading

/-- In a term groups that are not closed stand at the end, and then only blanks are left. -/
theorem leavesBlanks_term (depth : Nat) (token : Token) (rest : List Token) :
    LeavesBlanks (term depth token rest) := by
  induction depth generalizing token rest with
  | zero => exact .of_shut rfl rfl
  | succ depth ih =>
    unfold term
    split
    · split
      · exact ih _ _
      · exact .of_shut rfl rfl
    · exact leavesBlanks_closeGroup (openAtEndAll_sequence ih true false _)
        (all_isBlank_or_closes true false _)
    · exact .of_shut rfl rfl
    · exact .of_shut rfl rfl
    · exact .of_shut rfl rfl
    · exact .of_shut rfl rfl

/-! ## Trees -/

/-- The tree is a group that is not closed. -/
def IsUnclosed (tree : Tree Kind) : Prop :=
  tree.kind = .group ∧ tree.children.getLast? ≠ some Token.parenClose.leaf

section Trees

variable {above : List (Tree Kind)} {start : Nat}

theorem forall_unclosed_of_isUnnested {Holds : Tree.Occurrence Kind → Prop} {tree : Tree Kind}
    (h : IsUnnested tree) :
    ∀ o ∈ Tree.occurrences above start tree, IsUnclosed o.tree → Holds o := by
  intro o mem unclosed
  have node : o.tree ∈ tree.nodes := by
    rw [← Tree.map_tree_occurrences above start]
    exact List.mem_map_of_mem mem
  exact absurd unclosed.1 (h o.tree node).2

theorem size_markError (malformed : Bool) (tree : Tree Kind) :
    (markError malformed tree).size = tree.size := by
  rw [Tree.size_eq, text_markError, Tree.size_eq]

theorem forall_unclosed_markError {Holds : Tree.Occurrence Kind → Prop} {malformed : Bool}
    {tree : Tree Kind}
    (h : ∀ above, ∀ o ∈ Tree.occurrences above start tree, IsUnclosed o.tree → Holds o) :
    ∀ o ∈ Tree.occurrences above start (markError malformed tree), IsUnclosed o.tree → Holds o := by
  cases malformed with
  | false => exact h above
  | true =>
    refine List.forall_mem_cons.2 ⟨fun unclosed => (nomatch unclosed.1), ?_⟩
    exact List.forall_mem_append.2 ⟨h _, nofun⟩

end Trees

mutual

/-- A group that is not closed ends where the item does that it stands in. -/
theorem stop_of_unclosed (above : List (Tree Kind)) (start : Nat) : (item : Item) →
    item.openAtEnd = true → ∀ o ∈ Tree.occurrences above start item.tree, IsUnclosed o.tree →
      item.isOpen = true ∧ o.start + o.tree.size = start + item.tree.size
  | .blank _, _ => nofun
  | .plain value, _ => forall_unclosed_of_isUnnested (isUnnested_value value)
  | .filter field mark value, _ =>
    forall_unclosed_of_isUnnested (isUnnested_filter field mark value)
  | .disjunction, _ =>
    forall_unclosed_of_isUnnested (isUnnested_leaves [.orKeyword] (by decide))
  | .stray token, _ => forall_unclosed_of_isUnnested (isUnnested_leaves [token] (by decide))
  | .overflow tokens, _ => forall_unclosed_of_isUnnested (isUnnested_leaves tokens (by decide))
  | .negation operand, h => by
    refine List.forall_mem_cons.2 ⟨fun unclosed => (nomatch unclosed.1), ?_⟩
    refine List.forall_mem_append.2 ⟨nofun, List.forall_mem_append.2 ⟨?_, nofun⟩⟩
    intro o mem unclosed
    obtain ⟨shut, stop⟩ := stop_of_unclosed _ _ operand h o mem unclosed
    exact ⟨shut, stop.trans (Nat.add_assoc ..)⟩
  | .group items closed, h => by
    rw [tree_group, size_markError]
    refine forall_unclosed_markError fun above => List.forall_mem_cons.2 ⟨fun unclosed => ?_, ?_⟩
    · cases closed with
      | true =>
        refine absurd ?_ unclosed.2
        rw [Tree.children, if_pos rfl, ← List.cons_append, List.getLast?_concat]
      | false => exact ⟨rfl, rfl⟩
    · rw [occurrencesAll_parens]
      intro o mem unclosed
      obtain ⟨rfl, stop⟩ := stop_of_unclosedAll _ _ items h o mem unclosed
      refine ⟨rfl, stop.trans ?_⟩
      show _ = start + (1 + Tree.sizeAll (_ ++ []))
      rw [List.append_nil, Nat.add_assoc]

theorem stop_of_unclosedAll (above : List (Tree Kind)) (start : Nat) {closed : Bool} :
    (items : List Item) → Item.openAtEndAll closed items = true →
    ∀ o ∈ Tree.occurrencesAll above start (Item.treeAll items), IsUnclosed o.tree →
      closed = false ∧ o.start + o.tree.size = start + Tree.sizeAll (Item.treeAll items)
  | [], _ => nofun
  | item :: rest, h => by
    obtain ⟨front, others⟩ := Bool.and_eq_true_iff.1 h
    obtain ⟨first, only⟩ := Bool.and_eq_true_iff.1 front
    refine List.forall_mem_append.2 ⟨fun o mem unclosed => ?_, fun o mem unclosed => ?_⟩
    · obtain ⟨shut, stop⟩ := stop_of_unclosed _ _ item first o mem unclosed
      rw [shut, Bool.not_true, Bool.false_or, Bool.and_eq_true, List.isEmpty_iff] at only
      obtain ⟨last, rfl⟩ := only
      exact ⟨(Bool.not_eq_true' _).mp last, stop⟩
    · obtain ⟨last, stop⟩ := stop_of_unclosedAll _ _ rest others o mem unclosed
      exact ⟨last, stop.trans (Nat.add_assoc ..)⟩

end

/-! ## Whole queries -/

/-- Nothing but blanks stands in the text from the byte on. -/
def BlankFrom (source : Text) (start : Nat) : Prop :=
  ∃ before after, source = before ++ after ∧ before.size = start ∧
    after.all Unicode.isBlank = true

theorem occurrencesAll_blanks (above : List (Tree Kind)) (start : Nat) (tokens : List Token) :
    Tree.occurrencesAll above start
      (Item.treeAll (tokens.map fun token => .blank token.text)) = [] := by
  induction tokens generalizing start with
  | nil => rfl
  | cons token tokens ih => exact ih _

theorem all_isBlank_textAll {source : Text} {tokens : List Token} (sub : tokens ⊆ tokenize source)
    (blanks : tokens.all Token.isBlank = true) :
    (Token.textAll tokens).all Unicode.isBlank = true := by
  rw [Token.textAll, List.all_flatMap, List.all_eq_true]
  intro token mem
  have blank := List.all_eq_true.1 blanks token mem
  cases token with
  | blank text => exact spelled_of_mem (sub mem)
  | _ => cases blank

/-- Nothing but blanks stands in a query behind a group that is not closed. -/
theorem blankFrom_unclosed {limit : Nat} {source : Text} {o : Tree.Occurrence Kind}
    (mem : o ∈ (parse limit source).tree.occurrences [] 0) (unclosed : IsUnclosed o.tree) :
    BlankFrom source (o.start + o.tree.size) := by
  let row := sequence (term limit) false false (tokenize source)
  have atEnd : Item.openAtEndAll _ row.value = true :=
    openAtEndAll_sequence (leavesBlanks_term limit) false false _
  have tokens : Item.tokensAll row.value ++ row.rest = tokenize source :=
    tokensAll_sequence (tokens_term limit) false false _
  have blanks : row.rest.all Token.isBlank = true := rest_sequence_all_isBlank _ false _
  have known : Item.tokensAll row.value ++ row.rest ⊆ tokenize source := by
    rw [tokens]
    exact fun _ => id
  have split (above : List (Tree Kind)) :
      Tree.occurrencesAll above 0 (Item.treeAll (parse limit source).items) =
        Tree.occurrencesAll above 0 (Item.treeAll row.value) := by
    have items : (parse limit source).items =
        row.value ++ row.rest.map fun token => .blank token.text := rfl
    rw [items, Item.treeAll_append, Tree.occurrencesAll_append, occurrencesAll_blanks,
      List.append_nil]
  obtain rfl | below := List.mem_cons.1 mem
  · cases unclosed.1
  rw [split] at below
  obtain ⟨-, stop⟩ := stop_of_unclosedAll _ _ row.value atEnd o below unclosed
  refine ⟨Token.textAll (Item.tokensAll row.value), Token.textAll row.rest, ?_, ?_, ?_⟩
  · rw [Token.textAll, Token.textAll, ← List.flatMap_append, tokens]
    exact (textAll_tokenize source).symm
  · rw [stop, Tree.sizeAll_eq, Item.textAll_treeAll, Nat.zero_add]
  · exact all_isBlank_textAll (List.append_subset.1 known).2 blanks

end Flashcard.Query
