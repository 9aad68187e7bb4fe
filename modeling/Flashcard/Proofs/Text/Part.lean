import Flashcard.Proofs.Syntax.Tiling
import Flashcard.Text.Lines

/-!
# Parts of a text

Offsets count bytes, and only an offset between two characters, or at an end of the text, cuts
it in two. A part of a text begins and ends at such offsets, so it can be cut out again by its
place.

Results:
* `HasAt.left`, `HasAt.right`: where the parts of a part stand.
* `HasAt.slice?_eq`: a part can be cut out by its place.
* `IsBoundary.size_upTo`: what stands before a boundary reaches up to it.
-/

namespace Flashcard.Text

variable {text part a b : Text} {start offset : Nat}

/-! ## Boundaries -/

/-- A character begins at this byte of the text, or the text ends there. -/
def IsBoundary (text : Text) (offset : Nat) : Prop :=
  ∃ before after, text = before ++ after ∧ before.size = offset

theorem IsBoundary.le_size (h : text.IsBoundary offset) : offset ≤ text.size := by
  obtain ⟨before, after, rfl, rfl⟩ := h
  rw [size_append]
  exact Nat.le_add_right _ _

theorem upTo_append (a b : Text) : upTo a.size (a ++ b) = a := by
  induction a with
  | nil =>
    cases b with
    | nil => rfl
    | cons c b => exact if_neg (Nat.not_le_of_gt c.utf8Size_pos)
  | cons c a ih =>
    rw [List.cons_append, upTo, size_cons, if_pos (Nat.le_add_right _ _), Nat.add_sub_cancel_left,
      ih]

/-- What stands before a boundary reaches up to it. -/
theorem IsBoundary.size_upTo (h : text.IsBoundary offset) : (text.upTo offset).size = offset := by
  obtain ⟨before, after, rfl, rfl⟩ := h
  rw [upTo_append]

/-! ## Parts -/

/-- The part stands in the text from the byte `start` on. -/
def HasAt (text : Text) (start : Nat) (part : Text) : Prop :=
  ∃ before after, text = before ++ (part ++ after) ∧ before.size = start

theorem hasAt_self (text : Text) : text.HasAt 0 text := ⟨[], [], (List.append_nil text).symm, rfl⟩

/-- The beginning of a part. -/
theorem HasAt.left (h : text.HasAt start (a ++ b)) : text.HasAt start a := by
  obtain ⟨before, after, rfl, size⟩ := h
  exact ⟨before, b ++ after, by rw [List.append_assoc], size⟩

/-- The end of a part. -/
theorem HasAt.right (h : text.HasAt start (a ++ b)) : text.HasAt (start + a.size) b := by
  obtain ⟨before, after, rfl, rfl⟩ := h
  refine ⟨before ++ a, after, ?_, size_append before a⟩
  rw [List.append_assoc, List.append_assoc]

theorem HasAt.isBoundary_start (h : text.HasAt start part) : text.IsBoundary start := by
  obtain ⟨before, after, split, size⟩ := h
  exact ⟨before, part ++ after, split, size⟩

theorem HasAt.isBoundary_stop (h : text.HasAt start part) :
    text.IsBoundary (start + part.size) := by
  obtain ⟨before, after, rfl, rfl⟩ := h
  exact ⟨before ++ part, after, (List.append_assoc ..).symm, size_append before part⟩

/-- A part can be cut out by its place. -/
theorem HasAt.slice?_eq (h : text.HasAt start part) :
    text.slice? start (start + part.size) = some part := by
  obtain ⟨before, after, rfl, rfl⟩ := h
  exact slice?_append before part after

end Flashcard.Text
