import Flashcard.Proofs.Template.MarkPlace
import Flashcard.Proofs.Template.Piece
import Flashcard.Template.Card

/-!
# Numbers of a value and markers that are shown

The numbers of a value are those of all beginnings of markers in it. A card shows one of
its own markers only where the marker is closed and no other one is open before it. So
the numbers tell which cards show a marker as long as some marker of each number is such;
a marker that is never closed, or that begins inside another one, counts although no card
shows it.

Results:
* `mem_ordinals_iff`: the numbers of a value, by its text.
* `showsMarker_iff`: the cards that show a marker of their own, by the text of the value.
* `ordinals_shown`: when the numbers tell which cards these are, and what the warning of a
  missing number then says.
-/

namespace Flashcard.Cloze

/-! ## Markers that are shown -/

/-- The piece is a marker of the card, which is set off when it is shown. -/
def Piece.isActive (ordinal : Nat) : Piece → Bool
  | literal _ => false
  | closed marker => marker.isActive ordinal

/-- The card shows some marker of the value as its own, on either side. -/
def ShowsMarker (ordinal : Nat) (value : Text) : Prop :=
  ∃ piece ∈ pieces value, piece.isActive ordinal = true

instance (ordinal : Nat) (value : Text) : Decidable (ShowsMarker ordinal value) :=
  inferInstanceAs (Decidable (∃ piece ∈ pieces value, piece.isActive ordinal = true))

/-- A marker with the number begins behind `before`, and `rest` follows its colons. -/
def MarkerAt (number : Nat) (value before rest : Text) : Prop :=
  ∃ digits, IsNumber digits ∧ ordinal? digits = some number ∧
    value = before ++ ((Token.opener digits).text ++ rest)

/-- A marker with the number begins where no other one is open, and it is closed. -/
def HasWholeMarker (number : Nat) (value : Text) : Prop :=
  ∃ before rest, MarkerAt number value before rest ∧
    opensAfter false (tokenize before) = false ∧ ['}', '}'] <:+: rest

variable {n : Nat} {value : Text}

/-! ## Numbers by the text -/

/-- The numbers of a value are those of the markers that begin in it. -/
theorem mem_ordinals_iff : n ∈ ordinals value ↔ ∃ before rest, MarkerAt n value before rest := by
  rw [mem_ordinals_iff_token]
  constructor
  · rintro ⟨digits, mem, number⟩
    obtain ⟨isNumber, before, rest, text⟩ := opener_mem_iff.1 mem
    exact ⟨before, rest, digits, isNumber, number, text⟩
  · rintro ⟨before, rest, digits, isNumber, number, text⟩
    exact ⟨digits, opener_mem_iff.2 ⟨isNumber, before, rest, text⟩, number⟩

/-! ## Shown markers among the tokens -/

/-- Among tokens a marker with the number begins where no other one is open, and it is
    closed; `isOpen` tells whether a marker is open before the tokens. -/
def Begins (n : Nat) (isOpen : Bool) (tokens : List Token) : Prop :=
  ∃ front digits back, tokens = front ++ .opener digits :: back ∧
    opensAfter isOpen front = false ∧ ordinal? digits = some n ∧ .closer ∈ back

theorem opensAfter_cons (isOpen : Bool) (token : Token) (rest : List Token) :
    opensAfter isOpen (token :: rest) = opensAfter (opensAfter isOpen [token]) rest := by
  cases token <;> rfl

theorem begins_cons {isOpen : Bool} {token : Token} {rest : List Token} :
    Begins n isOpen (token :: rest) ↔
      (isOpen = false ∧ ∃ digits, token = .opener digits ∧ ordinal? digits = some n ∧
        .closer ∈ rest) ∨ Begins n (opensAfter isOpen [token]) rest := by
  constructor
  · rintro ⟨front, digits, back, tokens, outside, number, closer⟩
    cases front with
    | nil =>
      obtain ⟨rfl, rfl⟩ := List.cons.inj tokens
      exact .inl ⟨outside, digits, rfl, number, closer⟩
    | cons first front =>
      obtain ⟨rfl, rfl⟩ := List.cons.inj tokens
      rw [opensAfter_cons] at outside
      exact .inr ⟨front, digits, back, rfl, outside, number, closer⟩
  · rintro (⟨rfl, digits, rfl, number, closer⟩ | ⟨front, digits, back, rfl, outside, rest⟩)
    · exact ⟨[], digits, rest, rfl, rfl, number, closer⟩
    · refine ⟨token :: front, digits, back, rfl, ?_, rest⟩
      rw [opensAfter_cons, outside]

theorem not_begins_nil {isOpen : Bool} : ¬ Begins n isOpen [] := by
  rintro ⟨front, _, _, tokens, -⟩
  exact absurd (List.append_eq_nil_iff.1 tokens.symm).2 (List.cons_ne_nil _ _)

theorem Marker.isActive_iff {marker : Marker} :
    marker.isActive n = true ↔ marker.ordinal = some n := decide_eq_true_iff

/-- A marker of the card is shown if it is the open one and is closed, or begins where
    none is open and is closed. -/
theorem exists_isActive_iff (marker : Option Marker) (tokens : List Token) :
    (∃ piece ∈ piecesOf marker tokens, piece.isActive n = true) ↔
      (∃ m, marker = some m ∧ m.ordinal = some n ∧ .closer ∈ tokens) ∨
        Begins n marker.isSome tokens := by
  fun_induction piecesOf marker tokens with
  | case1 => simp [not_begins_nil]
  | case2 marker => simp [not_begins_nil, Piece.isActive]
  | case3 digits rest ih =>
    rw [ih, begins_cons]
    simp [opensAfter, Marker.start]
  | case4 token rest noOpener ih =>
    simp only [List.mem_cons, or_and_right, exists_or, exists_eq_left, ih, begins_cons]
    cases token with
    | opener digits => exact absurd rfl (noOpener digits)
    | separator | closer | plain => simp [opensAfter, Piece.isActive]
  | case5 marker rest ih =>
    simp only [List.mem_cons, or_and_right, exists_or, exists_eq_left, ih, begins_cons]
    simp [opensAfter, Piece.isActive, Marker.isActive_iff]
  | case6 marker token rest noCloser ih =>
    rw [ih, begins_cons]
    cases token with
    | closer => exact absurd rfl noCloser
    | opener | separator | plain => simp [opensAfter, Marker.ordinal_add]

/-- A card shows the markers with its number that are closed and begin where no other one
    is open. -/
theorem showsMarker_iff : ShowsMarker n value ↔ HasWholeMarker n value := by
  have tokens : ShowsMarker n value ↔ Begins n false (tokenize value) := by
    rw [ShowsMarker, pieces, exists_isActive_iff]
    simp
  rw [tokens]
  constructor
  · rintro ⟨front, digits, back, split, outside, number, closer⟩
    have mem : .opener digits ∈ tokenize value :=
      split ▸ List.mem_append_right _ (List.mem_cons_self ..)
    obtain ⟨text, inFront, -⟩ := tokenize_split split
    rw [List.append_cons] at split
    obtain ⟨-, -, behind⟩ := tokenize_split split
    rw [List.flatMap_cons] at text
    refine ⟨_, _, ⟨digits, isNumber_of_mem mem, number, text⟩, ?_, closer_mem_iff.1 ?_⟩
    · rw [inFront, outside]
    · rw [behind]
      exact closer
  · rintro ⟨before, rest, ⟨digits, isNumber, number, rfl⟩, outside, closes⟩
    exact ⟨_, digits, _, tokenize_opener isNumber before rest, outside, number,
      closer_mem_iff.2 closes⟩

/-! ## Numbers and shown markers -/

/-- The warning of a missing number, by the numbers of the value. -/
theorem missesOrdinal_iff {card : Template.Card} :
    Template.missesOrdinal card value = true ↔
      (∃ n, n ∈ ordinals value) ∧ card.ordinal ∉ ordinals value := by
  have nonempty : ordinals value ≠ [] ↔ ∃ n, n ∈ ordinals value :=
    ⟨List.exists_mem_of_ne_nil _, fun ⟨_, mem⟩ => List.ne_nil_of_mem mem⟩
  rw [Template.missesOrdinal, Bool.and_eq_true, decide_eq_true_iff, nonempty, Bool.not_eq_true',
    Bool.eq_false_iff, ne_eq, List.contains_iff_mem]

/-- A card shows a value piece by piece, and every card that shows a marker of its own
    among the pieces finds its number among those of the value. The number tells whether the
    card does exactly if one of the markers with the number, when there is any, is closed and
    begins where no other one is open. Where that is so for all numbers, the warning of a
    missing number says that other cards show markers of their own and this one does not. -/
theorem ordinals_shown (value : Text) :
    (∀ ordinal side, render value ordinal side =
        (pieces value).flatMap (Piece.showWith id ordinal side)) ∧
      (∀ n, ShowsMarker n value → n ∈ ordinals value) ∧
      (∀ n, (n ∈ ordinals value ↔ ShowsMarker n value) ↔
        ((∃ before rest, MarkerAt n value before rest) → HasWholeMarker n value)) ∧
      ((∀ n, (∃ before rest, MarkerAt n value before rest) → HasWholeMarker n value) →
        ∀ card : Template.Card, Template.missesOrdinal card value = true ↔
          (∃ n, ShowsMarker n value) ∧ ¬ ShowsMarker card.ordinal value) := by
  have found (n : Nat) (h : ShowsMarker n value) : n ∈ ordinals value := by
    obtain ⟨before, rest, marker, -⟩ := showsMarker_iff.1 h
    exact mem_ordinals_iff.2 ⟨before, rest, marker⟩
  have agree (n : Nat) : (n ∈ ordinals value ↔ ShowsMarker n value) ↔
      ((∃ before rest, MarkerAt n value before rest) → HasWholeMarker n value) := by
    rw [← mem_ordinals_iff, ← showsMarker_iff]
    exact ⟨fun same => same.1, fun shown => ⟨shown, found n⟩⟩
  refine ⟨fun _ _ => render_eq_flatMap value, found, agree, ?_⟩
  intro whole card
  have same (n : Nat) := (agree n).2 (whole n)
  simp only [missesOrdinal_iff, same]

/-- A card behind those of a value with one whole marker, which warns. -/
theorem ordinals_shown_cardBehind :
    let value := ['{', '{', 'c', '1', ':', ':', 'a', '}', '}']
    let card := { Template.Card.standard with ordinal := 2 }
    (∀ n, (∃ before rest, MarkerAt n value before rest) → HasWholeMarker n value) ∧
      (Template.missesOrdinal card value = true ↔
        (∃ n, ShowsMarker n value) ∧ ¬ ShowsMarker 2 value) ∧
      Template.missesOrdinal card value = true := by
  intro value card
  have numbers : ordinals value = [1] := by decide +kernel
  have whole (n : Nat) : (∃ before rest, MarkerAt n value before rest) →
      HasWholeMarker n value := by
    rw [← mem_ordinals_iff, ← showsMarker_iff, numbers, List.mem_singleton]
    rintro rfl
    decide +kernel
  exact ⟨whole, (ordinals_shown value).2.2.2 whole card, by decide +kernel⟩

/-- A number counts although the only marker that has it is never closed. The card shows
    the value as it is, on both sides, and another card warns that it has no marker. -/
theorem ordinals_unclosed :
    let value := ['{', '{', 'c', '1', ':', ':', 'a']
    1 ∈ ordinals value ∧ ¬ ShowsMarker 1 value ∧
      (∀ side, render value 1 side = value) ∧
      Template.missesOrdinal { Template.Card.standard with ordinal := 2 } value = true := by
  refine ⟨by decide +kernel, by decide +kernel, ?_, by decide +kernel⟩
  intro side
  cases side <;> decide +kernel

end Flashcard.Cloze
