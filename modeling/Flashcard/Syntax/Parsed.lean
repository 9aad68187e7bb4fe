/-!
# Reading from a row of tokens

What reading functions return: a value and the tokens that are left, never more
than there were.
-/

namespace Flashcard

/-- Something read from the front of a row of tokens, and what is left. -/
structure Parsed (τ α : Type) (bound : Nat) where
  value : α
  rest : List τ
  rest_le : rest.length ≤ bound

namespace Parsed

variable {τ α β : Type} {bound : Nat}

/-- Another view of what was read. -/
def map (f : α → β) (parsed : Parsed τ α bound) : Parsed τ β bound :=
  ⟨f parsed.value, parsed.rest, parsed.rest_le⟩

/-- The same, read from a longer row. -/
def widen (parsed : Parsed τ α bound) {larger : Nat} (h : bound ≤ larger) : Parsed τ α larger :=
  ⟨parsed.value, parsed.rest, Nat.le_trans parsed.rest_le h⟩

/-- One more item, read in front. -/
def cons (item : α) (parsed : Parsed τ (List α) bound) {larger : Nat} (h : bound ≤ larger) :
    Parsed τ (List α) larger :=
  ⟨item :: parsed.value, parsed.rest, Nat.le_trans parsed.rest_le h⟩

@[simp] theorem map_value (f : α → β) (parsed : Parsed τ α bound) :
    (parsed.map f).value = f parsed.value := rfl

@[simp] theorem map_rest (f : α → β) (parsed : Parsed τ α bound) :
    (parsed.map f).rest = parsed.rest := rfl

@[simp] theorem widen_value (parsed : Parsed τ α bound) {larger : Nat} (h : bound ≤ larger) :
    (parsed.widen h).value = parsed.value := rfl

@[simp] theorem widen_rest (parsed : Parsed τ α bound) {larger : Nat} (h : bound ≤ larger) :
    (parsed.widen h).rest = parsed.rest := rfl

@[simp] theorem cons_value (item : α) (parsed : Parsed τ (List α) bound) {larger : Nat}
    (h : bound ≤ larger) : (parsed.cons item h).value = item :: parsed.value := rfl

@[simp] theorem cons_rest (item : α) (parsed : Parsed τ (List α) bound) {larger : Nat}
    (h : bound ≤ larger) : (parsed.cons item h).rest = parsed.rest := rfl

end Parsed

end Flashcard
