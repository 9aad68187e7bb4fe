import Flashcard.Proofs.Query.Recovery
import Flashcard.Proofs.Syntax.Limit

/-!
# Queries cut off at the limit of nesting

Where terms are nested too deeply, all that is left of a query is one item. So what is read
up to a limit is what is read with room to spare, cut off in front of the first term
that is nested too deeply: the groups and negations around it end there too.

Results:
* `limits_sequence`, `limits_term`: what is read up to a limit is what is read with more
  room, cut off.
* `parse_cut`: the same for whole queries.
* `depthAll_parse_le`: no query needs more room than it has tokens.
-/

namespace Flashcard.Query

namespace Item

/-! ## Depth of terms -/

mutual

/-- How deeply terms are nested in an item: each sign and each group around a term counts
    one, and so does the term. -/
def depth : Item → Nat
  | blank _ | disjunction => 0
  | plain _ | filter _ _ _ | overflow _ => 1
  | negation operand => operand.depth + 1
  | group items _ => depthAll items + 1
  | stray token => if token = .orKeyword ∨ token = .parenClose then 0 else 1

/-- How deeply terms are nested in a row of items. -/
def depthAll : List Item → Nat
  | [] => 0
  | item :: rest => max item.depth (depthAll rest)

end

theorem depthAll_append (a b : List Item) :
    depthAll (a ++ b) = max (depthAll a) (depthAll b) := by
  induction a with
  | nil => exact (Nat.zero_max _).symm
  | cons item a ih => rw [List.cons_append, depthAll, ih, depthAll, Nat.max_assoc]

theorem depthAll_blanks (blanks : List Token) :
    depthAll (blanks.map fun token => .blank token.text) = 0 := by
  induction blanks with
  | nil => rfl
  | cons token blanks ih =>
    rw [List.map_cons, depthAll, ih]
    rfl

mutual

/-- No term is nested more deeply than there are tokens. -/
theorem depth_le_length_tokens : (item : Item) → item.wellFormed = true →
    item.depth ≤ item.tokens.length
  | blank _, _ | disjunction, _ => Nat.zero_le _
  | plain (.word _), _ | filter _ _ none, _ => Nat.le_refl _
  | plain (.quoted _ _), _ | filter _ _ (some _), _ => Nat.le_add_left _ _
  | stray token, _ => by
    rw [depth]
    split
    · exact Nat.zero_le _
    · exact Nat.le_refl _
  | overflow tokens, h => by
    cases tokens with
    | nil => cases h
    | cons token tokens => exact Nat.le_add_left _ _
  | negation operand, h => by
    rw [wellFormed, Bool.and_eq_true] at h
    exact Nat.succ_le_succ (depth_le_length_tokens operand h.2)
  | group items closed, h => by
    have row := depthAll_le_length_tokens items h
    rw [depth, tokens, List.length_cons, List.length_append]
    omega

theorem depthAll_le_length_tokens : (items : List Item) → allWellFormed items = true →
    depthAll items ≤ (tokensAll items).length
  | [], _ => Nat.le_refl _
  | item :: rest, h => by
    rw [allWellFormed, Bool.and_eq_true] at h
    have first := depth_le_length_tokens item h.1
    have row := depthAll_le_length_tokens rest h.2
    rw [depthAll, tokensAll, List.length_append]
    omega

end

mutual

/-- An item that has ended the query holds a term that is nested too deeply. -/
theorem IsRead.lt_depth {room : Nat} {ended : Bool} : {item : Item} → IsRead room ended item →
    ended = true → room < item.depth
  | _, .negation h, e => Nat.succ_lt_succ (h.lt_depth e)
  | _, .group h _, e => Nat.succ_lt_succ (h.lt_depth e)
  | _, .overflow _, _ => Nat.zero_lt_one

theorem RowIsRead.lt_depth {room : Nat} {hasLeft ended : Bool} : {items : List Item} →
    RowIsRead room hasLeft ended items → ended = true → room < depthAll items
  | _, .blank _ h, e => Nat.lt_of_lt_of_le (h.lt_depth e) (Nat.le_max_right _ _)
  | _, .disjunction _ h, e => Nat.lt_of_lt_of_le (h.lt_depth e) (Nat.le_max_right _ _)
  | _, .stray _ h, e => Nat.lt_of_lt_of_le (h.lt_depth e) (Nat.le_max_right _ _)
  | _, .term _ h, e => Nat.lt_of_lt_of_le (h.lt_depth e) (Nat.le_max_right _ _)
  | _, .last h, _ => Nat.lt_of_lt_of_le (h.lt_depth rfl) (Nat.le_max_left _ _)

end

/-! ## Cutting off -/

mutual

/-- An item that is cut off in front of the first term in it that is nested more than
    `room` deep. What comes from there on is left over, and so is what stands `behind` the
    item. -/
def cut : (room : Nat) → Item → (behind : List Token) → Item
  | 0, item, behind => .overflow (item.tokens ++ behind)
  | room + 1, negation operand, behind => .negation (cut room operand behind)
  | room + 1, group items closed, behind =>
    .group (cutAll room items ((if closed then [.parenClose] else []) ++ behind)) false
  | _ + 1, item, _ => item

/-- A row of items that is cut off in front of the first term that is nested too deeply. -/
def cutAll (room : Nat) : List Item → (behind : List Token) → List Item
  | [], _ => []
  | item :: rest, behind =>
    if item.depth ≤ room then item :: cutAll room rest behind
    else [cut room item (tokensAll rest ++ behind)]

end

variable {room : Nat}

theorem cutAll_append_of_lt {a : List Item} (deep : room < depthAll a) (b : List Item)
    (behind : List Token) :
    cutAll room (a ++ b) behind = cutAll room a (tokensAll b ++ behind) := by
  induction a with
  | nil => exact absurd deep (Nat.not_lt_zero _)
  | cons item a ih =>
    rw [List.cons_append, cutAll, cutAll]
    split
    · rename_i shallow
      rw [depthAll] at deep
      rw [ih (by omega)]
    · rw [tokensAll_append, List.append_assoc]

end Item

/-! ## Reading up to the limit -/

/-- A term that is read up to a limit, against the one that is read with more room. -/
abbrev TermLimits (room : Nat) {bound : Nat} (whole limited : Parsed Token Item bound) : Prop :=
  Parsed.Limits Item.depth Item.cut room whole limited

/-- A row that is read up to a limit, against the one that is read with more room. -/
abbrev RowLimits (room : Nat) {bound : Nat} (whole limited : Parsed Token (List Item) bound) :
    Prop :=
  Parsed.Limits Item.depthAll Item.cutAll room whole limited

variable {room : Nat}

theorem RowLimits.cons {bound larger : Nat} {whole limited : Parsed Token (List Item) bound}
    (h : RowLimits room whole limited) {item : Item} (shallow : item.depth ≤ room)
    (le : bound ≤ larger) : RowLimits room (whole.cons item le) (limited.cons item le) := by
  refine Parsed.Limits.cons h (fun items => ?_) (fun items behind => ?_) le
  · rw [Item.depthAll]
    omega
  · rw [Item.cutAll, if_pos shallow]

/-- A row is read up to the limit if its terms are. -/
theorem limits_sequence
    {whole limited : (token : Token) → (rest : List Token) → Parsed Token Item rest.length}
    (tokens_whole : ∀ token rest, (whole token rest).value.tokens ++ (whole token rest).rest =
      token :: rest)
    (limits : ∀ token rest, token ≠ .orKeyword → token ≠ .parenClose →
      TermLimits room (whole token rest) (limited token rest))
    (inGroup hasLeft : Bool) (tokens : List Token) :
    RowLimits room (sequence whole inGroup hasLeft tokens)
      (sequence limited inGroup hasLeft tokens) := by
  fun_induction sequence whole inGroup hasLeft tokens with
  | case1 => 
    rw [sequence]
    exact .refl (Nat.zero_le _)
  | case2 hasLeft text rest blank =>
    rw [sequence, if_pos blank]
    exact .refl (Nat.zero_le _)
  | case3 hasLeft text rest blank ih =>
    rw [sequence, if_neg blank]
    exact ih.cons (Nat.zero_le _) _
  | case4 hasLeft rest inside =>
    rw [sequence, if_pos inside]
    exact .refl (Nat.zero_le _)
  | case5 hasLeft rest outside ih =>
    rw [sequence, if_neg outside]
    exact ih.cons (Nat.zero_le _) _
  | case6 hasLeft rest ih =>
    rw [sequence]
    refine ih.cons ?_ _
    split <;> exact Nat.zero_le _
  | case7 hasLeft token rest noBlank noClosing noOr first shorter ih =>
    have term := limits token rest noOr noClosing
    have step : sequence limited inGroup hasLeft (token :: rest) =
        (sequence limited inGroup true (limited token rest).rest).cons (limited token rest).value
          (Nat.le_succ_of_le (limited token rest).rest_le) := by
      rw [sequence]
      · exact noBlank
      · exact noClosing
      · exact noOr
    rw [step]
    by_cases shallow : first.value.depth ≤ room
    · rw [term.same shallow]
      exact ih.cons shallow _
    · -- The row ends with the term, since nothing is left of the tokens.
      obtain ⟨value, none⟩ := term.short (Nat.not_le.1 shallow)
      have rest_whole := tokensAll_sequence tokens_whole inGroup true first.rest
      constructor
      · intro deep
        rw [Parsed.cons_value, Item.depthAll] at deep
        omega
      · intro _
        simp only [Parsed.cons_value, Parsed.cons_rest, Item.cutAll, if_neg shallow]
        rw [rest_whole, value, none, sequence]
        exact ⟨rfl, rfl⟩

theorem limits_closeGroup {bound : Nat} {whole limited : Parsed Token (List Item) bound}
    (h : RowLimits room whole limited) :
    TermLimits (room + 1) (closeGroup whole) (closeGroup limited) where
  same shallow := by
    rw [h.same (Nat.le_of_succ_le_succ shallow)]
  short deep := by
    obtain ⟨value, none⟩ := h.short (Nat.lt_of_succ_lt_succ deep)
    simp only [closeGroup, value, none, Item.cut]
    refine ⟨?_, rfl⟩
    -- A closing parenthesis behind the row is left over with the rest.
    fun_cases closes whole.rest <;> simp_all [closes]

theorem depth_term_pos (depth : Nat) {token : Token} (noOr : token ≠ .orKeyword)
    (noClosing : token ≠ .parenClose) (rest : List Token) :
    0 < (term depth token rest).value.depth := by
  have stray : 0 < (Item.stray token).depth := by
    rw [Item.depth, if_neg (not_or.2 ⟨noOr, noClosing⟩)]
    exact Nat.zero_lt_one
  cases depth with
  | zero => exact Nat.zero_lt_one
  | succ depth =>
    unfold term
    split
    · split
      · exact Nat.succ_pos _
      · exact Nat.zero_lt_one
    · exact Nat.succ_pos _
    · exact Nat.zero_lt_one
    · exact Nat.zero_lt_one
    · exact Nat.zero_lt_one
    · exact stray

theorem depth_stray_le (token : Token) : (Item.stray token).depth ≤ 1 := by
  rw [Item.depth]
  split
  · exact Nat.zero_le _
  · exact Nat.le_refl _

/-- A term is read up to the limit. -/
theorem limits_term {depth : Nat} (le : room ≤ depth) (token : Token) (rest : List Token)
    (noOr : token ≠ .orKeyword) (noClosing : token ≠ .parenClose) :
    TermLimits room (term depth token rest) (term room token rest) := by
  induction room generalizing depth token rest with
  | zero =>
    constructor
    · intro shallow
      exact absurd shallow (Nat.not_le.2 (depth_term_pos depth noOr noClosing rest))
    · intro _
      rw [Item.cut, tokens_term]
      exact ⟨rfl, rfl⟩
  | succ room ih =>
    obtain _ | depth := depth
    · exact absurd le (Nat.not_succ_le_zero _)
    · have le := Nat.le_of_succ_le_succ le
      unfold term
      split
      · rename_i next rest
        split
        · rename_i operand
          have noOr : next ≠ .orKeyword := by
            rintro rfl
            cases operand
          have noClosing : next ≠ .parenClose := by
            rintro rfl
            cases operand
          have negation : TermLimits (room + 1) ((term depth next rest).map .negation)
              ((term room next rest).map .negation) :=
            (ih le next rest noOr noClosing).map (fun _ => rfl) (fun _ _ => rfl)
          exact negation.widen _
        · exact .refl (Nat.le_add_left _ _)
      · exact limits_closeGroup (limits_sequence (tokens_term depth) (ih le) true false _)
      · exact .refl (Nat.le_add_left _ _)
      · exact .refl (Nat.le_add_left _ _)
      · exact .refl (Nat.le_add_left _ _)
      · exact .refl (Nat.le_trans (depth_stray_le _) (Nat.le_add_left _ _))

/-! ## Whole queries -/

/-- A query that is read up to a limit is the query read with more room, cut off where terms
    are nested too deeply. -/
theorem parse_cut {depth : Nat} (le : room ≤ depth) (source : Text) :
    (Item.depthAll (parse depth source).items ≤ room → parse room source = parse depth source) ∧
      (room < Item.depthAll (parse depth source).items →
        (parse room source).items = Item.cutAll room (parse depth source).items []) := by
  have row := limits_sequence (tokens_term depth) (limits_term le) false false (tokenize source)
  have blanks := rest_sequence_all_isBlank (term depth) false (tokenize source)
  simp only [parse, Program.ofTokens, Item.depthAll_append, Item.depthAll_blanks, Nat.max_zero]
  constructor
  · intro shallow
    rw [row.same shallow]
  · intro deep
    obtain ⟨value, none⟩ := row.short deep
    rw [Item.cutAll_append_of_lt deep, tokensAll_blanks blanks, value, none,
      List.append_nil, List.map_nil, List.append_nil]

/-- No query needs more room than it has tokens. -/
theorem depthAll_parse_le (limit : Nat) (source : Text) :
    Item.depthAll (parse limit source).items ≤ (tokenize source).length := by
  have bound := Item.depthAll_le_length_tokens _ (allWellFormed_parse limit source)
  rwa [tokensAll_parse] at bound

/-- A limit that no term of a query is nested beyond makes no difference. -/
theorem parse_eq_parse {limit enough : Nat} {source : Text}
    (le : (tokenize source).length ≤ enough)
    (room : Item.depthAll (parse enough source).items ≤ limit) :
    parse limit source = parse enough source := by
  obtain small | large := Nat.le_total limit enough
  · exact (parse_cut small source).1 room
  · exact ((parse_cut large source).1 (Nat.le_trans (depthAll_parse_le limit source) le)).symm

end Flashcard.Query
