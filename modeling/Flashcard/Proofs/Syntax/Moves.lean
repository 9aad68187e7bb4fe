import Flashcard.Proofs.Syntax.Machine
import Mathlib.Data.List.Forall2

/-!
# Moves of a parser

What a parser does is told by the stages that it moves between: the tokens that are
ahead, the nodes that are open, and the trees that were built. A move says that the
parser takes all its steps without a panic, from wherever it stands at the first
stage, and stands at the second one then.

Results:
* `Moves.mono`: a parser may as well have looked ahead less often before.
* `Moves.bind`, `Moves.ite_pos`, `Moves.ite_neg`: steps one after the other, and those
  under a condition.
* `Moves.loop_again`, `Moves.loop_done`: rounds of a loop.
-/

namespace Flashcard

variable {κ α β σ : Type}

/-- What a parser has before it and behind it. -/
structure Stage (κ : Type) where
  /-- Tokens without meaning that were passed over and are in no node yet. -/
  blanks : List (κ × Text)
  tokens : List (κ × Text)
  builder : Builder κ
  depth : Nat
  /-- How much deeper the parser may go. -/
  room : Nat

/-- The token has this kind, and this text is in its range. -/
def Holds (source : Text) (token : κ × Span) (pair : κ × Text) : Prop :=
  token.1 = pair.1 ∧ source.slice? token.2.start token.2.stop = some pair.2

/-- The parser stands at a stage and has at least this much fuel. -/
structure Machine.Stands (m : Machine κ) (s : Stage κ) (fuel : Nat) : Prop where
  trivia : List.Forall₂ (Holds m.source) m.trivia s.blanks
  ahead : List.Forall₂ (Holds m.source) m.ahead s.tokens
  builder : m.builder = s.builder
  depth : m.depth = s.depth
  limit : m.limit = s.depth + s.room
  small : m.limit < Parsing.numberBound
  fuel_le : fuel ≤ m.fuel

/-- From wherever the parser stands at the stage `s`, it comes to the result `a` without
    a panic and stands at the stage `t` then. -/
def Moves (act : Parsing κ α) (s : Stage κ) (fuel : Nat) (a : α) (t : Stage κ) (left : Nat) :
    Prop :=
  ∀ m : Machine κ, m.Stands s fuel → ∃ m', act m = .ok (a, m') ∧ m'.Stands t left

namespace Moves

variable {act : Parsing κ α} {s t u : Stage κ} {fuel more left less : Nat} {a : α} {b : β}

/-- A parser may as well have looked ahead less often before, or more often then. -/
theorem mono (h : Moves act s fuel a t left) (before : fuel ≤ more) (behind : less ≤ left) :
    Moves act s more a t less := by
  intro m hm
  obtain ⟨m', runs, stands⟩ := h m { hm with fuel_le := Nat.le_trans before hm.fuel_le }
  exact ⟨m', runs, { stands with fuel_le := Nat.le_trans behind stands.fuel_le }⟩

theorem cast (h : Moves act s fuel a t left) (same : t = u) : Moves act s fuel a u left := same ▸ h

theorem pure (a : α) : Moves (pure a : Parsing κ α) s fuel a s fuel := by
  intro m hm
  exact ⟨m, rfl, hm⟩

theorem done (a : α) (behind : less ≤ fuel) : Moves (Pure.pure a : Parsing κ α) s fuel a s less :=
  (Moves.pure a).mono (Nat.le_refl fuel) behind

/-- One thing after the other. -/
theorem bind {next : α → Parsing κ β} (h : Moves act s fuel a t left)
    (then' : Moves (next a) t left b u less) : Moves (act >>= next) s fuel b u less := by
  intro m hm
  obtain ⟨m', runs, stands⟩ := h m hm
  obtain ⟨m'', runs', stands'⟩ := then' m' stands
  refine ⟨m'', ?_, stands'⟩
  show (act m >>= fun p => next p.1 p.2) = _
  rw [runs]
  exact runs'

section Conditions

variable {condition : Prop} [Decidable condition] {other : Parsing κ α}

theorem ite_pos (holds : condition) (h : Moves act s fuel a t left) :
    Moves (if condition then act else other) s fuel a t left := by
  rw [if_pos holds]
  exact h

theorem ite_neg (fails : ¬ condition) (h : Moves other s fuel a t left) :
    Moves (if condition then act else other) s fuel a t left := by
  rw [if_neg fails]
  exact h

theorem when_true {act : Parsing κ Unit} {condition : Bool} (holds : condition = true)
    (h : Moves act s fuel () t left) : Moves (Parsing.when condition act) s fuel () t left :=
  ite_pos holds h

theorem when_false {act : Parsing κ Unit} {condition : Bool} (fails : condition = false) :
    Moves (Parsing.when condition act) s fuel () s fuel :=
  ite_neg (Bool.eq_false_iff.1 fails) (Moves.pure ())

end Conditions

section Loops

variable {body : σ → Parsing κ (σ ⊕ α)} {x y : σ}

/-- A loop ends with the round that comes to a result. -/
theorem loop_done (h : Moves (body x) s fuel (.inr a) t left) :
    Moves (Parsing.loop body x) s fuel a t left := by
  intro m hm
  obtain ⟨m', runs, stands⟩ := h m hm
  refine ⟨m', ?_, stands⟩
  rw [Parsing.loop, runs]

/-- Every other round takes a token and is followed by more rounds. -/
theorem loop_again (h : Moves (body x) s fuel (.inl y) t left)
    (taken : t.tokens.length < s.tokens.length)
    (then' : Moves (Parsing.loop body y) t left a u less) :
    Moves (Parsing.loop body x) s fuel a u less := by
  intro m hm
  obtain ⟨m', runs, stands⟩ := h m hm
  obtain ⟨m'', runs', stands'⟩ := then' m' stands
  refine ⟨m'', ?_, stands'⟩
  have shorter : m'.ahead.length < m.ahead.length := by
    rw [hm.ahead.length_eq, stands.ahead.length_eq]
    exact taken
  rw [Parsing.loop, runs]
  show (if m'.ahead.length < m.ahead.length then _ else _) = _
  rw [if_pos shorter, runs']

end Loops

end Moves

end Flashcard
