import Flashcard.Proofs.Diagnostic.About
import Flashcard.Proofs.Template.Problem
import Flashcard.Proofs.Template.Solid

/-!
# What a problem is about

The range of a problem of a template is that of a part of the template: of a transformer, of
the name of a field, of a whole tag, or of what breaks the grammar. Such a part is not empty,
and where it is a name, the message tells it without the blanks around it.

Results:
* `isAbout_unknownTransformers`, `isAbout_nameProblem`: problems of a name are about it.
* `isAbout_renderAll`: every problem of contents is about a part of the template.
-/

namespace Flashcard.Template

variable {source : Text} {fields : Fields} {card : Card} {start : Nat} {reference : Reference}
  {diagnostic : Diagnostic}

/-! ## Names in a tag -/

theorem hasAt_placeTransformers {transformers : List Text}
    (h : source.HasAt start (Token.textAll (transformerTokens transformers))) :
    ∀ place ∈ placeTransformers start transformers,
      source.HasAt place.2.start place.1 ∧ place.2.size = place.1.size := by
  induction transformers generalizing start with
  | nil => nofun
  | cons name transformers ih =>
    have tokens : Token.textAll (transformerTokens (name :: transformers)) =
        name ++ (Token.colon.text ++ Token.textAll (transformerTokens transformers)) := rfl
    rw [tokens] at h
    exact List.forall_mem_cons.2 ⟨⟨h.left, rfl⟩, ih h.right.right⟩

theorem mem_of_mem_placeTransformers {transformers : List Text} {place : Text × Span}
    (h : place ∈ placeTransformers start transformers) : place.1 ∈ transformers := by
  induction transformers generalizing start with
  | nil => cases h
  | cons name transformers ih =>
    obtain rfl | later := List.mem_cons.1 h
    · exact List.mem_cons_self
    · exact List.mem_cons_of_mem _ (ih later)

/-- A transformer that does not exist is told by the problem. -/
theorem isAbout_unknownTransformers (solid : reference.Solid)
    (h : source.HasAt start (Token.textAll reference.tokens)) {name : Text} {span : Span}
    (mem : (name, span) ∈ placeTransformers start reference.transformers) :
    (transformerProblem name span).IsAbout source name := by
  rw [Reference.tokens, Token.textAll_append] at h
  obtain ⟨place, size⟩ := hasAt_placeTransformers h.left _ mem
  exact {
    nonempty := solid.transformers name (mem_of_mem_placeTransformers mem)
    place := place
    size := size
    named := fun _ => rfl }

/-- The field is told by a problem with it. -/
theorem isAbout_nameProblem (solid : reference.Solid)
    (h : source.HasAt start (Token.textAll reference.tokens)) (kind : DiagnosticKind) :
    (nameProblem kind reference start).IsAbout source reference.name := by
  rw [Reference.tokens, Token.textAll_append, Token.textAll_cons, Token.textAll_nil,
    List.append_nil] at h
  exact {
    nonempty := solid.name
    place := h.right
    size := rfl
    named := fun _ => rfl }

/-! ## Tags -/

/-- What is reported about the tag of a field is about a part of it. -/
theorem isAbout_renderField {visible : Bool} (solid : reference.Solid)
    (h : source.HasAt start (Token.textAll (Content.field reference).tokens)) :
    ∀ diagnostic ∈ (renderField fields card visible start reference).diagnostics,
      ∃ part, diagnostic.IsAbout source part := by
  have chain : source.HasAt (start + 2) (Token.textAll reference.tokens) := by
    rw [Content.tokens, Token.textAll_cons, Token.textAll_append] at h
    exact h.right.left
  intro diagnostic mem
  obtain ⟨name, span, place, rfl⟩ | ⟨kind, -, rfl⟩ := mem_renderField mem
  · exact ⟨name, isAbout_unknownTransformers solid chain place⟩
  · exact ⟨reference.name, isAbout_nameProblem solid chain kind⟩

/-- Text of an open tag. -/
def openTagText (condition : Condition) (reference : Reference) : Text :=
  Token.textAll (.tagStart :: condition.token :: (reference.tokens ++ [.tagEnd]))

theorem openTagText_eq (condition : Condition) (reference : Reference) :
    openTagText condition reference = Token.tagStart.text ++
      (condition.token.text ++ (Token.textAll reference.tokens ++ Token.tagEnd.text)) := by
  rw [openTagText, Token.textAll_cons, Token.textAll_cons, Token.textAll_append, Token.textAll_cons,
    Token.textAll_nil, List.append_nil]

theorem size_openTagText (condition : Condition) (reference : Reference) (start : Nat) :
    (openTagText condition reference).size = (reference.openTagSpan start).size := by
  simp only [openTagText_eq, Text.size_append, Content.size_tagStart, Content.size_tagEnd,
    Content.size_conditionToken, Reference.openTagSpan]
  omega

theorem isAbout_blockProblems {condition : Condition} {closed : Bool} (solid : reference.Solid)
    (h : source.HasAt start (openTagText condition reference)) :
    ∀ diagnostic ∈ blockProblems fields card start reference closed,
      ∃ part, diagnostic.IsAbout source part := by
  have chain : source.HasAt (start + 3) (Token.textAll reference.tokens) := by
    rw [openTagText_eq] at h
    have behind := h.right.right.left
    rwa [Content.size_tagStart, Content.size_conditionToken] at behind
  have nonempty : openTagText condition reference ≠ [] := List.cons_ne_nil _ _
  have span : reference.openTagSpan start = ⟨start, (openTagText condition reference).size⟩ := by
    rw [size_openTagText condition reference start]
    rfl
  intro diagnostic mem
  obtain ⟨kind, detail, whole, rfl⟩ | rfl := mem_blockProblems mem
  · have other : kind.isOfName = false := by
      obtain rfl | rfl := whole <;> rfl
    rw [span]
    exact ⟨_, Diagnostic.isAbout_report other nonempty h detail⟩
  · exact ⟨reference.name, isAbout_nameProblem solid chain _⟩

/-! ## Contents -/

theorem textAll_block (condition : Condition) (reference : Reference) (contents : List Content)
    (close : Option Text) :
    Token.textAll (Content.block condition reference contents close).tokens =
      openTagText condition reference ++
        (Token.textAll (Content.tokensAll contents) ++ Token.textAll (closeTokens close)) := by
  rw [Content.tokens, Token.textAll_append, Token.textAll_append, List.append_assoc]
  rfl

mutual

/-- What is reported about a content is about a part of it. -/
theorem isAbout_render (visible : Bool) {start : Nat} : (content : Content) → content.Solid →
    source.HasAt start (Token.textAll content.tokens) →
      ∀ diagnostic ∈ (render fields card visible start content).diagnostics,
        ∃ part, diagnostic.IsAbout source part
  | .plain _, _, _ => nofun
  | .field _, .field solid, h => isAbout_renderField solid h
  | .block condition reference contents close, .block solid inside, h => by
    rw [textAll_block] at h
    rw [render, Output.diagnostics_append]
    refine List.forall_mem_append.2 ⟨isAbout_blockProblems solid h.left, ?_⟩
    have inner := h.right.left
    rw [size_openTagText condition reference start] at inner
    exact isAbout_renderAll _ contents inside inner
  | .malformed part, .malformed nonempty, h => by
    intro diagnostic mem
    rw [List.mem_singleton.1 mem]
    exact ⟨_, Diagnostic.isAbout_report rfl nonempty h none⟩

/-- What is reported about contents in a row is about parts of them. -/
theorem isAbout_renderAll (visible : Bool) {start : Nat} : (contents : List Content) →
    (∀ content ∈ contents, content.Solid) →
      source.HasAt start (Token.textAll (Content.tokensAll contents)) →
      ∀ diagnostic ∈ (renderAll fields card visible start contents).diagnostics,
        ∃ part, diagnostic.IsAbout source part
  | [], _, _ => nofun
  | content :: rest, solid, h => by
    obtain ⟨first, later⟩ := List.forall_mem_cons.1 solid
    rw [Content.tokensAll, Token.textAll_append] at h
    have behind := h.right
    rw [← content.size_eq] at behind
    rw [renderAll, Output.diagnostics_append]
    exact List.forall_mem_append.2 ⟨isAbout_render visible content first h.left,
      isAbout_renderAll visible rest later behind⟩

end

/-- Every problem of a template is about a part of it. -/
theorem isAbout_parse (limit : Nat) (source : Text) (fields : Fields) (card : Card)
    (visible : Bool) :
    ∀ diagnostic ∈ (renderAll fields card visible 0 (parse limit source).contents).diagnostics,
      ∃ part, diagnostic.IsAbout source part := by
  refine isAbout_renderAll visible _ (solid_parse limit source) ?_
  rw [tokensAll_parse, textAll_tokenize]
  exact source.hasAt_self

end Flashcard.Template
