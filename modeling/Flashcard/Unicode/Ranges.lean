/-!
# Tables of code point ranges

A character property is a list of closed ranges of code points, in increasing
order and without overlap. Looking a character up stops at the first range
that begins after it.
-/

namespace Flashcard.Unicode

/-- The character lies in one of the ranges of `table`. -/
def inRanges (table : List (Nat × Nat)) (c : Char) : Bool :=
  match table with
  | [] => false
  | (low, high) :: rest => low ≤ c.toNat && (c.toNat ≤ high || inRanges rest c)

end Flashcard.Unicode
