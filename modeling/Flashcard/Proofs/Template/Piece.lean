import Flashcard.Proofs.Template.Deletion

/-!
# Pieces of a rendered value

A value is rendered piece by piece: text outside of markers and markers that are never
closed stay as they are, and each closed marker gives way to what the card shows for it.
Which pieces there are does not depend on the card, nor on whether the value is escaped.

Results:
* `render_eq_flatMap`: a rendered value is made up of its rendered pieces.
* `pieces_escape`, `ordinals_escape`: the pieces of an escaped value are the escaped
  pieces of the value, and its markers have the same numbers.
* `render_escape_pieces`: rendering an escaped value escapes what it takes from the value
  and nothing else.
-/

namespace Flashcard.Cloze

/-! ## Pieces -/

/-- A part of a value that is rendered by itself. -/
inductive Piece where
  /-- Text outside of markers, or a marker that is never closed. -/
  | literal (text : Text)
  /-- A marker that is closed. -/
  | closed (marker : Marker)

/-- Pieces of tokens, after the beginning of a marker or outside of one. -/
def piecesOf : Option Marker → List Token → List Piece
  | none, [] => []
  | some marker, [] => [.literal marker.source]
  | none, .opener digits :: rest => piecesOf (some (.start digits)) rest
  | none, token :: rest => .literal token.text :: piecesOf none rest
  | some marker, .closer :: rest => .closed marker :: piecesOf none rest
  | some marker, token :: rest => piecesOf (some (marker.add token)) rest

/-- Pieces of a value. -/
def pieces (value : Text) : List Piece := piecesOf none (tokenize value)

/-- What stands for an answer while it is hidden: its hint if there is one to show.
    `write` gives the hint its form. -/
def blankWith (write : Text → Text) (hint : Option Text) : Text :=
  "[".toList ++
    (match hint with
    | none | some [] => "...".toList
    | some hint => write hint) ++ "]".toList

/-- What a card shows for a closed marker. The parts that come from the value are given
    their form by `write`; the card adds the tags, the brackets and the dots. -/
def display (write : Text → Text) (ordinal : Nat) (side : Side) (number : Option Nat)
    (answer : Text) (hint : Option Text) : Text :=
  if number = some ordinal then
    "<span class=\"cloze\">".toList ++
      (match side with
      | .question => blankWith write hint
      | .answer => write answer) ++ "</span>".toList
  else write answer

/-- What a card shows for a piece. -/
def Piece.showWith (write : Text → Text) (ordinal : Nat) (side : Side) : Piece → Text
  | literal text => write text
  | closed marker => display write ordinal side marker.ordinal marker.answer marker.hint

variable {ordinal : Nat} {side : Side}

/-! ## Rendering piece by piece -/

theorem Marker.blank_eq_blankWith (marker : Marker) : marker.blank = blankWith id marker.hint := by
  obtain ⟨_, _, _, _ | _ | ⟨c, hint⟩⟩ := marker <;> rfl

/-- A closed marker is shown with what comes from the value as it is. -/
theorem Marker.render_eq_display (marker : Marker) :
    marker.render ordinal side =
      display id ordinal side marker.ordinal marker.answer marker.hint := by
  unfold render display
  rw [blank_eq_blankWith]
  by_cases active : marker.ordinal = some ordinal
  · have isActive : marker.isActive ordinal = true := decide_eq_true active
    rw [if_pos active, if_pos isActive]
    rfl
  · have inactive : ¬ marker.isActive ordinal = true := fun h => active (of_decide_eq_true h)
    rw [if_neg active, if_neg inactive]
    rfl

theorem renderTokens_eq_flatMap (marker : Option Marker) (tokens : List Token) :
    renderTokens ordinal side marker tokens =
      (piecesOf marker tokens).flatMap (Piece.showWith id ordinal side) := by
  fun_induction piecesOf marker tokens with
  | case1 => rfl
  | case2 marker => exact (List.append_nil _).symm
  | case3 digits rest ih => exact ih
  | case4 token rest noOpener ih =>
    rw [renderTokens, ih, List.flatMap_cons]
    · rfl
    · exact noOpener
  | case5 marker rest ih =>
    rw [renderTokens, ih, List.flatMap_cons, Piece.showWith, Marker.render_eq_display]
  | case6 marker token rest noCloser ih =>
    rw [renderTokens, ih]
    exact noCloser

/-- A rendered value is made up of its rendered pieces. -/
theorem render_eq_flatMap (value : Text) :
    render value ordinal side = (pieces value).flatMap (Piece.showWith id ordinal side) :=
  renderTokens_eq_flatMap none (tokenize value)

/-! ## Escaped pieces -/

/-- A marker of an escaped value. -/
def Marker.escape (marker : Marker) : Marker where
  ordinal := marker.ordinal
  source := Html.escape marker.source
  answer := Html.escape marker.answer
  hint := marker.hint.map Html.escape

/-- A piece of an escaped value. -/
def Piece.escape : Piece → Piece
  | literal text => literal (Html.escape text)
  | closed marker => closed marker.escape

theorem text_escape_of_mem {token : Token} {value : Text} (h : token ∈ tokenize value) :
    token.escape.text = Html.escape token.text := by
  obtain ⟨_, cut⟩ := exists_cut_of_mem h
  exact cut.text_escape

theorem Marker.escape_add {token : Token} (h : token.escape.text = Html.escape token.text)
    (marker : Marker) : (marker.add token).escape = marker.escape.add token.escape := by
  have nil : Html.escape [] = [] := rfl
  obtain ⟨_, _, _, hint⟩ := marker
  cases hint <;> cases token <;>
    simp only [add, escape, escape_append, ← h, nil, Token.escape, Option.map_some, Option.map_none]

theorem Marker.escape_start {digits : Text}
    (h : (Token.opener digits).escape.text = Html.escape (Token.opener digits).text) :
    (start digits).escape = start digits :=
  congrArg (fun source => Marker.mk (ordinal? digits) source [] none) h.symm

theorem piecesOf_escape (marker : Option Marker) {tokens : List Token}
    (h : ∀ token ∈ tokens, token.escape.text = Html.escape token.text) :
    piecesOf (marker.map Marker.escape) (tokens.map Token.escape) =
      (piecesOf marker tokens).map Piece.escape := by
  fun_induction piecesOf marker tokens with
  | case1 => rfl
  | case2 marker => rfl
  | case3 digits rest ih =>
    obtain ⟨first, later⟩ := List.forall_mem_cons.1 h
    have same := ih later
    rw [Option.map_some, Marker.escape_start first] at same
    exact same
  | case4 token rest noOpener ih =>
    obtain ⟨first, later⟩ := List.forall_mem_cons.1 h
    have outside : piecesOf none (token.escape :: rest.map Token.escape) =
        .literal token.escape.text :: piecesOf none (rest.map Token.escape) := by
      cases token with
      | opener digits => exact absurd rfl (noOpener digits)
      | separator | closer | plain => rfl
    rw [Option.map_none, List.map_cons, outside, first, List.map_cons, ← ih later]
    rfl
  | case5 marker rest ih =>
    rw [List.map_cons (f := Piece.escape), ← ih (List.forall_mem_cons.1 h).2]
    rfl
  | case6 marker token rest noCloser ih =>
    obtain ⟨first, later⟩ := List.forall_mem_cons.1 h
    have inside : piecesOf (some marker.escape) (token.escape :: rest.map Token.escape) =
        piecesOf (some (marker.escape.add token.escape)) (rest.map Token.escape) := by
      cases token with
      | closer => exact absurd rfl noCloser
      | opener | separator | plain => rfl
    rw [Option.map_some, List.map_cons, inside, ← Marker.escape_add first]
    exact ih later

/-- The pieces of an escaped value are the escaped pieces of the value. -/
theorem pieces_escape (value : Text) :
    pieces (Html.escape value) = (pieces value).map Piece.escape := by
  rw [pieces, tokenize_escape]
  exact piecesOf_escape none fun _ => text_escape_of_mem

/-- The markers of an escaped value have the numbers of those of the value. -/
theorem ordinals_escape (value : Text) : ordinals (Html.escape value) = ordinals value := by
  rw [ordinals, tokenize_escape, List.filterMap_map, ordinals]
  congr 2
  funext token
  cases token <;> rfl

theorem escape_eq_nil {text : Text} : Html.escape text = [] ↔ text = [] := by
  cases text with
  | nil => exact Iff.rfl
  | cons c text =>
    obtain same | ⟨_, escaped⟩ := escapeChar_cases c
    · simp [Html.escape, same]
    · simp [Html.escape, escaped]

theorem blankWith_escape (hint : Option Text) :
    blankWith id (hint.map Html.escape) = blankWith Html.escape hint := by
  obtain _ | _ | ⟨c, hint⟩ := hint
  · rfl
  · rfl
  · have nonempty : Html.escape (c :: hint) ≠ [] := fun h => by cases escape_eq_nil.1 h
    obtain ⟨d, rest, escaped⟩ := List.exists_cons_of_ne_nil nonempty
    simp only [blankWith, Option.map_some, escaped, id]

/-- An escaped piece is shown as the piece is, with what comes from the value escaped. -/
theorem Piece.showWith_escape (piece : Piece) :
    piece.escape.showWith id ordinal side = piece.showWith Html.escape ordinal side := by
  cases piece with
  | literal text => rfl
  | closed marker =>
    simp only [escape, showWith, display, Marker.escape, blankWith_escape, id]

/-- Escaping a value does not disturb its markers. Their numbers stay, and the escaped
    value is rendered as the value is, with each text outside of markers, each answer and
    each hint escaped by itself. -/
theorem render_escape_pieces (value : Text) (ordinal : Nat) (side : Side) :
    ordinals (Html.escape value) = ordinals value ∧
      render value ordinal side =
        (pieces value).flatMap (Piece.showWith id ordinal side) ∧
      render (Html.escape value) ordinal side =
        (pieces value).flatMap (Piece.showWith Html.escape ordinal side) := by
  refine ⟨ordinals_escape value, render_eq_flatMap value, ?_⟩
  rw [render_eq_flatMap, pieces_escape, List.flatMap_map]
  simp only [Piece.showWith_escape]

end Flashcard.Cloze
