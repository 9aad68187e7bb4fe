import Flashcard.Proofs.Template.Deletion
import Flashcard.Proofs.Template.Linting
import Flashcard.Proofs.Template.References

/-!
# The question side does not show the answer

On the question side of a card the answer in its deletion is left out. So two notes
that differ in this answer alone make the same question, in every template that
shows the field through `cloze` first.

Results:
* `renderAll_congr`: notes with the same fields make the same page when they agree
  on every reference.
* `agree_insert`: notes that differ in a hidden answer agree.
* `question_independent_of_answer`: values and notes that differ in the answer.
-/

namespace Flashcard.Template

/-! ## Notes that a template does not tell apart -/

/-- Notes with the same fields that agree on every reference of a template. -/
structure Agree (card : Card) (references : List Reference) (fields others : Fields) : Prop where
  names : fields.SameNames others
  filled : ∀ reference, isFilled fields card reference = isFilled others card reference
  body : ∀ reference ∈ references,
    fieldBody fields card reference = fieldBody others card reference
  ordinal : ∀ reference ∈ references, ∀ start,
    missingOrdinal fields card start reference = missingOrdinal others card start reference

variable {card : Card} {fields others : Fields}

theorem Agree.mono {references part : List Reference} (h : Agree card references fields others)
    (sub : part ⊆ references) : Agree card part fields others where
  names := h.names
  filled := h.filled
  body reference mem := h.body reference (sub mem)
  ordinal reference mem := h.ordinal reference (sub mem)

theorem renderField_congr {reference : Reference} (h : Agree card [reference] fields others)
    (visible : Bool) (start : Nat) :
    renderField fields card visible start reference =
      renderField others card visible start reference := by
  unfold renderField
  rw [fieldProblems_congr h.names card card, h.body reference (List.mem_singleton_self _),
    h.ordinal reference (List.mem_singleton_self _)]

theorem holds_congr {references : List Reference} (h : Agree card references fields others)
    (condition : Condition) (reference : Reference) :
    condition.holds fields card reference = condition.holds others card reference := by
  unfold Condition.holds
  rw [h.filled reference]

mutual

/-- Notes that agree on the references of a content make the same part of a page. -/
theorem render_congr : (content : Content) → Agree card content.references fields others →
    ∀ visible start,
      render fields card visible start content = render others card visible start content
  | .plain _, _, _, _ => rfl
  | .field _, h, visible, start => renderField_congr h visible start
  | .block condition reference contents close, h, visible, start => by
    rw [render, render, blockProblems_congr h.names card card, holds_congr h,
      renderAll_congr contents h]
  | .malformed _, _, _, _ => rfl

/-- Notes that agree on the references of contents make the same part of a page. -/
theorem renderAll_congr : (contents : List Content) →
    Agree card (Content.referencesAll contents) fields others →
    ∀ visible start,
      renderAll fields card visible start contents = renderAll others card visible start contents
  | [], _, _, _ => rfl
  | content :: rest, h, visible, start => by
    rw [renderAll, renderAll, render_congr content (h.mono (List.subset_append_left _ _)),
      renderAll_congr rest (h.mono (List.subset_append_right _ _))]

end

/-! ## Notes with a hidden answer -/

/-- The value of the field goes through `cloze` before anything else. -/
def Reference.HidesFirst (reference : Reference) : Prop :=
  reference.transformers.getLast?.map Unicode.trim = some "cloze".toList

instance (reference : Reference) : Decidable reference.HidesFirst :=
  inferInstanceAs (Decidable (_ = _))

/-- Transformers that begin with `cloze` depend on what that shows of a value. -/
theorem applyAll_congr {reference : Reference} {transformers : List Transformer}
    (first : reference.HidesFirst)
    (all : resolveTransformers reference.transformers = some transformers) {value other : Text}
    (same : Cloze.render value card.ordinal card.side = Cloze.render other card.ordinal card.side)
    (field : Text) :
    Transformer.applyAll transformers card field value =
      Transformer.applyAll transformers card field other := by
  unfold Reference.HidesFirst at first
  obtain ⟨last, here, trim⟩ := Option.map_eq_some_iff.1 first
  obtain ⟨names, split⟩ := List.getLast?_eq_some_iff.1 here
  have cloze : Transformer.ofName? (Unicode.trim last) = some .cloze := by
    rw [trim]
    decide
  rw [resolveTransformers, split, List.mapM_append] at all
  obtain ⟨outer, rfl⟩ : ∃ outer, transformers = outer ++ [.cloze] := by
    cases outer : names.mapM (fun name => Transformer.ofName? (Unicode.trim name)) with
    | none => simp [outer] at all
    | some kinds =>
      simp [outer, cloze] at all
      exact ⟨kinds, all.symm⟩
  unfold Transformer.applyAll
  rw [List.foldr_append, List.foldr_append]
  show (List.foldr _ (Cloze.render value card.ordinal card.side, true) _).1 = _
  rw [same]
  rfl

open Cloze

variable {deletion : Deletion} {answer other : Text}

/-- Notes that differ in the answer of a deletion alone agree on the question side. -/
theorem agree_insert (active : deletion.IsFor card.ordinal) (question : card.side = .question)
    (ha : IsAnswer answer) (ho : IsAnswer other) {references : List Reference} {name : Text}
    (first : ∀ reference ∈ references, Unicode.trim reference.name = name → reference.HidesFirst)
    (raw : Bool) :
    Agree card references (fields.insert name ⟨deletion.value answer, raw⟩)
      (fields.insert name ⟨deletion.value other, raw⟩) := by
  -- The notes have the same value in every other field, and none of them is asked
  -- for where the name is that of the question side.
  have found (asked : Text) :
      lookup (fields.insert name ⟨deletion.value answer, raw⟩) card asked =
          lookup (fields.insert name ⟨deletion.value other, raw⟩) card asked ∨
        asked = name ∧
          lookup (fields.insert name ⟨deletion.value answer, raw⟩) card asked =
            some ⟨deletion.value answer, raw⟩ ∧
          lookup (fields.insert name ⟨deletion.value other, raw⟩) card asked =
            some ⟨deletion.value other, raw⟩ := by
    unfold lookup
    rw [Fields.get?_insert, Fields.get?_insert]
    grind
  constructor
  · intro asked
    rw [← Fields.isSome_get?, ← Fields.isSome_get?, Fields.get?_insert, Fields.get?_insert]
    grind
  · intro reference
    unfold isFilled
    obtain same | ⟨-, here, there⟩ := found (Unicode.trim reference.name)
    · rw [same]
    · rw [here, there, Option.any_some, Option.any_some, deletion.isEmpty_value,
        deletion.isEmpty_value]
  · intro reference mem
    unfold fieldBody
    obtain same | ⟨asked, here, there⟩ := found (Unicode.trim reference.name)
    · rw [same]
    · rw [here, there]
      cases all : resolveTransformers reference.transformers with
      | none => rfl
      | some transformers =>
        apply applyAll_congr (first reference mem asked) all
        rw [question]
        cases raw with
        | true => exact active.render_value ha ho
        | false => exact active.render_escape ha ho
  · intro reference mem start
    unfold missingOrdinal
    obtain same | ⟨asked, here, there⟩ := found (Unicode.trim reference.name)
    · rw [same]
    · have misses {answer : Text} (ha : IsAnswer answer) :
          missesOrdinal card (deletion.value answer) = false := by
        rw [missesOrdinal, List.contains_iff_mem.2 (active.mem_ordinals ha), Bool.not_true,
          Bool.and_false]
      rw [here, there]
      cases resolveTransformers reference.transformers with
      | none => rfl
      | some transformers => simp only [misses ha, misses ho]

/-- The question side does not depend on the answer that it hides: neither what is
    shown of the value, nor the page of a template that shows the field through
    `cloze` first, with all of its problems. -/
theorem question_independent_of_answer {deletion : Deletion} {ordinal : Nat} {answer other : Text}
    (active : deletion.IsFor ordinal) (ha : IsAnswer answer) (ho : IsAnswer other) :
    Cloze.render (deletion.value answer) ordinal .question =
        Cloze.render (deletion.value other) ordinal .question ∧
      ∀ (document : Document) (fields : Fields) (name : Text) (raw : Bool) (card : Card),
        card.side = .question → card.ordinal = ordinal →
        (∀ reference ∈ document.references,
          Unicode.trim reference.name = name → reference.HidesFirst) →
        document.compile (fields.insert name ⟨deletion.value answer, raw⟩) card =
          document.compile (fields.insert name ⟨deletion.value other, raw⟩) card := by
  constructor
  · exact active.render_value ha ho
  · intro document fields name raw card question here first
    unfold Document.compile
    rw [renderAll_congr document.contents
      (agree_insert (here ▸ active) question ha ho first raw)]

/-- A typed deletion with a hint inside a block that its own field opens. -/
theorem question_independent_of_answer_typedDeletion :
    let deletion : Cloze.Deletion := ⟨"\x7b".toList, "01".toList, some "h:".toList, "\x7d".toList⟩
    let document := parse defaultNesting
      "\x7b\x7b#F\x7d\x7d\x7b\x7btype: cloze :F\x7d\x7d\x7b\x7b/F\x7d\x7d".toList
    let fields := Fields.ofList [("G".toList, ⟨[], false⟩)]
    let page (answer : Text) :=
      document.compile (fields.insert "F".toList ⟨deletion.value answer, false⟩) .standard
    deletion.IsFor 1 ∧ Cloze.IsAnswer "<".toList ∧ Cloze.IsAnswer "\x7b\x7bc1:a".toList ∧
      (∀ reference ∈ document.references, reference.HidesFirst) ∧
      page "<".toList = page "\x7b\x7bc1:a".toList ∧
      (page "<".toList).body = ("\x7b<span class=\"cloze\">[h:]</span>\x7d" ++
        "<input type=\"text\" class=\"type-answer\" data-field=\"F\">").toList := by
  intro deletion document fields page
  have active : deletion.IsFor 1 := by
    refine ⟨by decide, by decide, by decide, by decide +kernel, ?_⟩
    intro hint given
    obtain rfl := Option.some.inj given
    decide
  have plain : Cloze.IsAnswer "<".toList := .of_concat [] '<' rfl (by decide)
  have marked : Cloze.IsAnswer "\x7b\x7bc1:a".toList :=
    .of_concat "\x7b\x7bc1:".toList 'a' rfl (by decide)
  have first : ∀ reference ∈ document.references, reference.HidesFirst := by decide +kernel
  have same := (question_independent_of_answer active plain marked).2 document fields
    "F".toList false .standard rfl rfl fun reference mem _ => first reference mem
  exact ⟨active, plain, marked, first, same, by decide +kernel⟩

end Flashcard.Template
