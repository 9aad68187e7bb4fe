import Flashcard.Proofs.Syntax.Walk
import Flashcard.Template.Card

/-!
# Problems of a tag

What is reported about the tag of a field, and about the open tag of a block: which problems
there can be, where in the tag they lie, and in which order they come.

Results:
* `renderField_sublist`, `blockProblems_sublist`: which problems there can be.
* `inside_renderField`, `inside_blockProblems`: they lie in the tag.
* `pairwise_renderField`, `pairwise_blockProblems`: they come from left to right, but for a
  block that is not closed, which is reported last.
-/

namespace Flashcard

namespace Template

variable {fields : Fields} {card : Card} {start : Nat} {reference : Reference}
  {diagnostic : Diagnostic}

theorem Output.diagnostics_append (a b : Output) :
    (a ++ b).diagnostics = a.diagnostics ++ b.diagnostics := rfl

/-! ## Which problems there can be -/

/-- The problem that a transformer does not exist. -/
def transformerProblem (name : Text) (span : Span) : Diagnostic :=
  .report .unknownTransformer span (Unicode.trim name)

/-- A problem with the field that a tag names. -/
def nameProblem (kind : DiagnosticKind) (reference : Reference) (start : Nat) : Diagnostic :=
  .report kind (reference.nameSpan start) (Unicode.trim reference.name)

theorem mem_unknownTransformers {transformers : List Text}
    (h : diagnostic ∈ unknownTransformers start transformers) :
    ∃ name span, (name, span) ∈ placeTransformers start transformers ∧
      diagnostic = transformerProblem name span := by
  obtain ⟨⟨name, span⟩, mem, given⟩ := List.mem_filterMap.1 h
  dsimp only at given
  split at given
  · cases given
  · exact ⟨name, span, mem, (Option.some.inj given).symm⟩

/-- About the tag of a field it is reported that a transformer in it or the field does not
    exist. -/
theorem fieldProblems_sublist (fields : Fields) (card : Card) (start : Nat)
    (reference : Reference) :
    (fieldProblems fields card start reference).Sublist
      (unknownTransformers (start + 2) reference.transformers ++
        [nameProblem .unknownField reference (start + 2)]) := by
  refine (List.Sublist.refl _).append ?_
  split
  · exact List.nil_sublist _
  · exact .refl _

theorem missingOrdinal_sublist (fields : Fields) (card : Card) (start : Nat)
    (reference : Reference) :
    (missingOrdinal fields card start reference).Sublist
      [nameProblem .missingClozeOrdinal reference (start + 2)] := by
  unfold missingOrdinal
  split
  · split
    · exact .refl _
    · exact List.nil_sublist _
  · exact List.nil_sublist _

/-- Where the field is shown, a card that its deletions leave out comes last. -/
theorem renderField_sublist (fields : Fields) (card : Card) (visible : Bool) (start : Nat)
    (reference : Reference) :
    (renderField fields card visible start reference).diagnostics.Sublist
      (unknownTransformers (start + 2) reference.transformers ++
        [nameProblem .unknownField reference (start + 2),
          nameProblem .missingClozeOrdinal reference (start + 2)]) := by
  have problems := fieldProblems_sublist fields card start reference
  have whole := problems.append (missingOrdinal_sublist fields card start reference)
  rw [List.append_assoc] at whole
  cases visible with
  | false => exact (List.sublist_append_left _ _).trans whole
  | true => exact whole

/-- About an open tag it is reported that it has transformers, that its field does not exist,
    and that its block is not closed. -/
theorem blockProblems_sublist (fields : Fields) (card : Card) (start : Nat)
    (reference : Reference) (closed : Bool) :
    (blockProblems fields card start reference closed).Sublist
      [.report .transformersOnConditional (reference.openTagSpan start) none,
        nameProblem .unknownConditionalField reference (start + 3),
        .report .unclosedConditional (reference.openTagSpan start)
          (Unicode.trim reference.name)] := by
  show (_ ++ _ ++ _ : Diagnostics).Sublist ([_] ++ [_] ++ [_])
  refine (List.Sublist.append ?_ ?_).append ?_
  all_goals
    split
    · exact List.nil_sublist _
    · exact .refl _

theorem mem_renderField {visible : Bool}
    (h : diagnostic ∈ (renderField fields card visible start reference).diagnostics) :
    (∃ name span, (name, span) ∈ placeTransformers (start + 2) reference.transformers ∧
        diagnostic = transformerProblem name span) ∨
      ∃ kind, (kind = .unknownField ∨ kind = .missingClozeOrdinal) ∧
        diagnostic = nameProblem kind reference (start + 2) := by
  obtain unknown | named := List.mem_append.1 ((renderField_sublist ..).subset h)
  · exact .inl (mem_unknownTransformers unknown)
  · obtain rfl | missing := List.mem_cons.1 named
    · exact .inr ⟨_, .inl rfl, rfl⟩
    · exact .inr ⟨_, .inr rfl, List.mem_singleton.1 missing⟩

theorem mem_blockProblems {closed : Bool}
    (h : diagnostic ∈ blockProblems fields card start reference closed) :
    (∃ kind detail, (kind = .transformersOnConditional ∨ kind = .unclosedConditional) ∧
        diagnostic = .report kind (reference.openTagSpan start) detail) ∨
      diagnostic = nameProblem .unknownConditionalField reference (start + 3) := by
  have listed := (blockProblems_sublist fields card start reference closed).subset h
  simp only [List.mem_cons, List.not_mem_nil, or_false] at listed
  obtain rfl | rfl | rfl := listed
  · exact .inl ⟨_, _, .inl rfl, rfl⟩
  · exact .inr rfl
  · exact .inl ⟨_, _, .inr rfl, rfl⟩

/-! ## Where they lie -/

theorem afterTransformers_cons (start : Nat) (name : Text) (transformers : List Text) :
    afterTransformers start (name :: transformers) =
      afterTransformers (start + name.size + 1) transformers := by
  have tokens : transformerTokens (name :: transformers) =
      .name name :: .colon :: transformerTokens transformers := rfl
  have colon : Token.colon.text.size = 1 := rfl
  rw [afterTransformers, afterTransformers, tokens, Token.textAll_cons, Token.textAll_cons,
    Text.size_append, Text.size_append, colon, Token.text]
  omega

theorem le_afterTransformers (start : Nat) (transformers : List Text) :
    start ≤ afterTransformers start transformers := Nat.le_add_right _ _

theorem mem_placeTransformers {start : Nat} {transformers : List Text} {place : Text × Span}
    (h : place ∈ placeTransformers start transformers) :
    start ≤ place.2.start ∧ place.2.stop ≤ afterTransformers start transformers := by
  induction transformers generalizing start with
  | nil => cases h
  | cons name transformers ih =>
    rw [afterTransformers_cons]
    obtain rfl | later := List.mem_cons.1 h
    · have := le_afterTransformers (start + name.size + 1) transformers
      simp only [Span.stop]
      omega
    · have := ih later
      omega

theorem pairwise_placeTransformers (start : Nat) (transformers : List Text) :
    (placeTransformers start transformers).Pairwise fun a b => a.2.start ≤ b.2.start := by
  induction transformers generalizing start with
  | nil => exact .nil
  | cons name transformers ih =>
    refine List.pairwise_cons.2 ⟨?_, ih _⟩
    intro place later
    have := (mem_placeTransformers later).1
    show start ≤ place.2.start
    omega

theorem stop_nameSpan (reference : Reference) (start : Nat) :
    (reference.nameSpan start).stop = start + (Token.textAll reference.tokens).size := by
  rw [Reference.tokens, Token.textAll_append, Text.size_append, Token.textAll_cons,
    Token.textAll_nil, List.append_nil]
  exact Nat.add_assoc _ _ _

/-- The name of the field lies behind the transformers. -/
theorem le_start_nameSpan (reference : Reference) (start : Nat) :
    start ≤ (reference.nameSpan start).start := le_afterTransformers start reference.transformers

theorem inside_nameSpan (reference : Reference) {start mark : Nat} {outer : Span}
    (first : outer.start ≤ start + mark)
    (last : start + mark + (Token.textAll reference.tokens).size ≤ outer.stop) :
    (reference.nameSpan (start + mark)).Inside outer := by
  rw [Span.Inside, stop_nameSpan]
  exact ⟨Nat.le_trans first (le_start_nameSpan reference _), last⟩

/-- What is reported about the tag of a field lies in the tag. -/
theorem inside_renderField {visible : Bool}
    (h : diagnostic ∈ (renderField fields card visible start reference).diagnostics) :
    diagnostic.span.Inside ⟨start, (Content.field reference).size⟩ := by
  have last : start + 2 + (Token.textAll reference.tokens).size ≤
      Span.stop ⟨start, (Content.field reference).size⟩ := by
    simp only [Span.stop, Content.size]
    omega
  obtain ⟨name, span, mem, rfl⟩ | ⟨kind, -, rfl⟩ := mem_renderField h
  · have place := mem_placeTransformers mem
    have before : afterTransformers (start + 2) reference.transformers ≤
        (reference.nameSpan (start + 2)).stop := Nat.le_add_right _ _
    rw [stop_nameSpan] at before
    exact ⟨Nat.le_trans (Nat.le_add_right _ _) place.1,
      Nat.le_trans place.2 (Nat.le_trans before last)⟩
  · exact inside_nameSpan reference (Nat.le_add_right _ _) last

/-- What is reported about an open tag lies in the tag. -/
theorem inside_blockProblems {closed : Bool}
    (h : diagnostic ∈ blockProblems fields card start reference closed) :
    diagnostic.span.Inside (reference.openTagSpan start) := by
  obtain ⟨kind, detail, -, rfl⟩ | rfl := mem_blockProblems h
  · exact .refl _
  · refine inside_nameSpan reference (Nat.le_add_right _ _) ?_
    simp only [Span.stop, Reference.openTagSpan]
    omega

/-! ## In which order they come -/

theorem pairwise_unknownTransformers (start : Nat) (transformers : List Text) :
    (unknownTransformers start transformers).Pairwise fun a b => a.span.start ≤ b.span.start := by
  refine (pairwise_placeTransformers start transformers).filterMap _ ?_
  intro first second before a ha b hb
  dsimp only at ha hb
  split at ha
  · cases ha
  split at hb
  · cases hb
  rw [← Option.some.inj ha, ← Option.some.inj hb]
  exact before

/-- Problems of the tag of a field are reported from left to right. -/
theorem pairwise_renderField (fields : Fields) (card : Card) (visible : Bool) (start : Nat)
    (reference : Reference) :
    (renderField fields card visible start reference).diagnostics.Pairwise
      fun a b => a.span.start ≤ b.span.start := by
  refine List.Pairwise.sublist (renderField_sublist ..) ?_
  refine List.pairwise_append.2 ⟨pairwise_unknownTransformers _ _, ?_, ?_⟩
  · exact List.pairwise_pair.2 (Nat.le_refl _)
  · -- The transformers stand in front of the name.
    intro a unknown b named
    obtain ⟨name, span, mem, rfl⟩ := mem_unknownTransformers unknown
    have before := Nat.le_trans (Nat.le_add_right _ _) (mem_placeTransformers mem).2
    simp only [List.mem_cons, List.not_mem_nil, or_false] at named
    obtain rfl | rfl := named <;> exact before

/-- Problems of an open tag are reported from left to right, but at last that its block is not
    closed. -/
theorem pairwise_blockProblems (fields : Fields) (card : Card) (start : Nat)
    (reference : Reference) (closed : Bool) :
    (blockProblems fields card start reference closed).Pairwise fun a b =>
      a.span.start ≤ b.span.start ∨
        b.kind = .unclosedConditional ∧ b.span = reference.openTagSpan start := by
  refine List.Pairwise.sublist (blockProblems_sublist ..) ?_
  have name : start ≤ (reference.nameSpan (start + 3)).start :=
    Nat.le_trans (Nat.le_add_right start 3) (le_start_nameSpan reference (start + 3))
  refine List.pairwise_cons.2 ⟨?_, List.pairwise_pair.2 (.inr ⟨rfl, rfl⟩)⟩
  intro b later
  simp only [List.mem_cons, List.not_mem_nil, or_false] at later
  obtain rfl | rfl := later
  · exact .inl name
  · exact .inr ⟨rfl, rfl⟩

end Template

end Flashcard
