import Flashcard.Text.Basic

/-!
# The first place with a property

A place of a text is what stands before it and what follows it. A search from left
to right stops at the first place that has a property, so that place says where the
search must end, whatever the search looks like.

Results:
* `FirstPlace.unique`: there is one first place at most.
* `exists_firstPlace`: where some place has the property, there is a first one.
* `FirstPlace.behind`: the first place is still the first one behind more text, if
  none of the new places has the property.
-/

namespace Flashcard.Text

variable {P : Text → Text → Prop} {text before rest : Text}

/-- Some place of the text has the property. -/
def HasPlace (P : Text → Text → Prop) (text : Text) : Prop :=
  ∃ before rest, text = before ++ rest ∧ P before rest

/-- The place between `before` and `rest` has the property, and no place of the text
    before it has. -/
structure FirstPlace (P : Text → Text → Prop) (text before rest : Text) : Prop where
  split : text = before ++ rest
  holds : P before rest
  first : ∀ before' rest' : Text, text = before' ++ rest' → P before' rest' →
    before.length ≤ before'.length

theorem FirstPlace.unique (h : FirstPlace P text before rest) {before' rest' : Text}
    (h' : FirstPlace P text before' rest') : before = before' ∧ rest = rest' := by
  have length : before.length = before'.length :=
    Nat.le_antisymm (h.first _ _ h'.split h'.holds) (h'.first _ _ h.split h.holds)
  exact List.append_inj (h.split.symm.trans h'.split) length

theorem FirstPlace.hasPlace (h : FirstPlace P text before rest) : HasPlace P text :=
  ⟨before, rest, h.split, h.holds⟩

/-- Where some place has the property, there is a first one. -/
theorem exists_firstPlace (h : HasPlace P text) :
    ∃ before rest, FirstPlace P text before rest := by
  obtain ⟨before, rest, split, holds⟩ := h
  induction length : before.length using Nat.strongRecOn generalizing before rest with
  | ind n ih =>
    by_cases earlier : ∃ b r, text = b ++ r ∧ P b r ∧ b.length < n
    · obtain ⟨b, r, split', holds', less⟩ := earlier
      exact ih b.length less b r split' holds' rfl
    · refine ⟨before, rest, split, holds, ?_⟩
      intro b r split' holds'
      rw [length]
      exact Nat.le_of_not_lt fun less => earlier ⟨b, r, split', holds', less⟩

/-- A place of a text with more in front of it lies before the end of what is in
    front, or it is a place of the text. -/
theorem place_append {front text before rest : Text} (h : front ++ text = before ++ rest) :
    before.length < front.length ∨ ∃ inner, before = front ++ inner ∧ text = inner ++ rest := by
  obtain ⟨inner, rfl, split⟩ | ⟨inner, rfl, split⟩ := List.append_eq_append_iff.1 h
  · exact .inr ⟨inner, rfl, split⟩
  · cases inner with
    | nil => exact .inr ⟨[], by simp, split.symm⟩
    | cons c inner =>
      refine .inl ?_
      rw [List.length_append, List.length_cons]
      omega

/-- The first place is still the first one behind more text, if none of the new
    places has the property. -/
theorem FirstPlace.behind {Q : Text → Text → Prop} {front : Text}
    (h : FirstPlace P text before rest)
    (same : ∀ {inner rest : Text}, Q (front ++ inner) rest ↔ P inner rest)
    (inside : ∀ {b r : Text}, front ++ text = b ++ r → b.length < front.length → ¬ Q b r) :
    FirstPlace Q (front ++ text) (front ++ before) rest where
  split := by rw [h.split, List.append_assoc]
  holds := same.2 h.holds
  first b r split holds := by
    obtain less | ⟨inner, rfl, split'⟩ := place_append split
    · exact absurd holds (inside split less)
    · have least := h.first _ _ split' (same.1 holds)
      rw [List.length_append, List.length_append]
      omega

/-- No place of a text with more in front of it has the property, if none of the text
    and none of the new places has it. -/
theorem not_hasPlace_behind {Q : Text → Text → Prop} {front : Text} (h : ¬ HasPlace P text)
    (same : ∀ {inner rest : Text}, Q (front ++ inner) rest ↔ P inner rest)
    (inside : ∀ {b r : Text}, front ++ text = b ++ r → b.length < front.length → ¬ Q b r) :
    ¬ HasPlace Q (front ++ text) := by
  rintro ⟨b, r, split, holds⟩
  obtain less | ⟨inner, rfl, split'⟩ := place_append split
  · exact inside split less holds
  · exact h ⟨inner, r, split', same.1 holds⟩

end Flashcard.Text
