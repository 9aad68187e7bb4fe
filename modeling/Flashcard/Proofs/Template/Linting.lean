import Flashcard.CommandLine.Run
import Flashcard.Proofs.Template.Problem

/-!
# Checking a template is rendering it

The problems of a template are found whether or not its parts are shown, so they
depend neither on the values of fields nor on the card. The one exception is a
field that has deletions, but none for the card: only a rendered card tells.

Results:
* `isSome_lookup`: which fields there are depends on their names alone.
* `ofTemplate_render`: what a content reports about the template is what it
  reports out of sight.
* `lint_eq_ofTemplate`: rendering reports what checking does, and commands end
  with the exit code that checking gives.
-/

namespace Flashcard

/-! ## Problems of the template itself -/

/-- The problem is one of the template, whatever the card. -/
def Diagnostic.isOfTemplate (diagnostic : Diagnostic) : Bool :=
  diagnostic.kind ≠ .missingClozeOrdinal

theorem Diagnostic.isOfTemplate_of_isError {diagnostic : Diagnostic}
    (h : diagnostic.isError = true) : diagnostic.isOfTemplate = true := by
  unfold isOfTemplate
  by_cases missing : diagnostic.kind = .missingClozeOrdinal
  · simp [isError, severity, missing, DiagnosticKind.severity] at h
  · exact decide_eq_true missing

namespace Diagnostics

/-- The problems of the template, without those of the card. -/
def ofTemplate (diagnostics : Diagnostics) : Diagnostics :=
  diagnostics.filter (·.isOfTemplate)

theorem ofTemplate_append (a b : Diagnostics) :
    ofTemplate (a ++ b) = a.ofTemplate ++ b.ofTemplate :=
  List.filter_append a b

theorem ofTemplate_eq_self {diagnostics : Diagnostics}
    (h : ∀ diagnostic ∈ diagnostics, diagnostic.isOfTemplate = true) :
    diagnostics.ofTemplate = diagnostics :=
  List.filter_eq_self.2 h

theorem errors_ofTemplate (diagnostics : Diagnostics) :
    diagnostics.ofTemplate.errors = diagnostics.errors := by
  unfold errors ofTemplate
  rw [List.filter_filter]
  apply List.filter_congr
  intro diagnostic _
  cases h : diagnostic.isError with
  | false => rfl
  | true => exact Diagnostic.isOfTemplate_of_isError h

theorem hasErrors_ofTemplate (diagnostics : Diagnostics) :
    diagnostics.ofTemplate.hasErrors = diagnostics.hasErrors := by
  unfold hasErrors ofTemplate
  rw [List.any_filter]
  congr 1
  funext diagnostic
  cases h : diagnostic.isError with
  | false => exact Bool.and_false _
  | true => rw [Diagnostic.isOfTemplate_of_isError h]; rfl

end Diagnostics

/-! ## Notes with the same fields -/

/-- Both notes have fields of the same names. -/
def Fields.SameNames (fields others : Fields) : Prop :=
  ∀ name, name ∈ fields.names ↔ name ∈ others.names

theorem Fields.isSome_get? (fields : Fields) (name : Text) :
    (fields.get? name).isSome = true ↔ name ∈ fields.names := by
  unfold get? names
  rw [Option.isSome_map, List.find?_isSome, List.mem_map]
  simp only [decide_eq_true_eq]

namespace Template

variable {fields others : Fields}

/-- Which fields there are depends on their names alone. -/
theorem isSome_lookup (same : fields.SameNames others) (card card' : Card) (name : Text) :
    (lookup fields card name).isSome = (lookup others card' name).isSome := by
  unfold lookup
  by_cases front : name = frontSideName
  · rw [if_pos front, if_pos front]
    rfl
  · rw [if_neg front, if_neg front, Bool.eq_iff_iff, Fields.isSome_get?, Fields.isSome_get?]
    exact same name

theorem fieldProblems_congr (same : fields.SameNames others) (card card' : Card) (start : Nat)
    (reference : Reference) :
    fieldProblems fields card start reference = fieldProblems others card' start reference := by
  have found := isSome_lookup same card card' (Unicode.trim reference.name)
  unfold fieldProblems
  cases here : lookup fields card (Unicode.trim reference.name) <;>
    cases there : lookup others card' (Unicode.trim reference.name)
  case none.none | some.some => rfl
  case none.some | some.none => simp [here, there] at found

theorem blockProblems_congr (same : fields.SameNames others) (card card' : Card) (start : Nat)
    (reference : Reference) (closed : Bool) :
    blockProblems fields card start reference closed =
      blockProblems others card' start reference closed := by
  have found := isSome_lookup same card card' (Unicode.trim reference.name)
  unfold blockProblems
  cases here : lookup fields card (Unicode.trim reference.name) <;>
    cases there : lookup others card' (Unicode.trim reference.name)
  case none.none | some.some => rfl
  case none.some | some.none => simp [here, there] at found

/-! ## What rendering reports -/

theorem ofTemplate_fieldProblems (fields : Fields) (card : Card) (start : Nat)
    (reference : Reference) :
    (fieldProblems fields card start reference).ofTemplate =
      fieldProblems fields card start reference := by
  apply Diagnostics.ofTemplate_eq_self
  intro diagnostic h
  obtain unknown | lost := List.mem_append.1 ((fieldProblems_sublist ..).subset h)
  · obtain ⟨name, span, -, rfl⟩ := mem_unknownTransformers unknown
    rfl
  · rw [List.mem_singleton.1 lost]
    rfl

theorem ofTemplate_blockProblems (fields : Fields) (card : Card) (start : Nat)
    (reference : Reference) (closed : Bool) :
    (blockProblems fields card start reference closed).ofTemplate =
      blockProblems fields card start reference closed := by
  apply Diagnostics.ofTemplate_eq_self
  intro diagnostic h
  obtain ⟨kind, detail, rfl | rfl, rfl⟩ | rfl := mem_blockProblems h <;> rfl

/-- A card that the deletions of a field leave out is no problem of the template. -/
theorem ofTemplate_missingOrdinal (fields : Fields) (card : Card) (start : Nat)
    (reference : Reference) :
    (missingOrdinal fields card start reference).ofTemplate = [] := by
  unfold missingOrdinal
  split
  · split <;> rfl
  · rfl

/-- What a field reference reports about the template is what it reports out of
    sight. -/
theorem ofTemplate_renderField (same : fields.SameNames others) (card card' : Card)
    (visible : Bool) (start : Nat) (reference : Reference) :
    (renderField fields card visible start reference).diagnostics.ofTemplate =
      (renderField others card' false start reference).diagnostics := by
  have hidden : (renderField others card' false start reference).diagnostics =
      fieldProblems others card' start reference := rfl
  rw [hidden, ← fieldProblems_congr same card card']
  cases visible with
  | false => exact ofTemplate_fieldProblems fields card start reference
  | true =>
    show (_ ++ _ : Diagnostics).ofTemplate = _
    rw [Diagnostics.ofTemplate_append, ofTemplate_fieldProblems, ofTemplate_missingOrdinal,
      List.append_nil]

mutual

/-- What a content reports about the template is what it reports out of sight. -/
theorem ofTemplate_render (same : fields.SameNames others) (card card' : Card) (visible : Bool)
    (start : Nat) : (content : Content) →
    (render fields card visible start content).diagnostics.ofTemplate =
      (render others card' false start content).diagnostics
  | .plain _ => rfl
  | .field reference => ofTemplate_renderField same card card' visible start reference
  | .block condition reference contents close => by
    have inside := ofTemplate_renderAll same card card'
      (visible && condition.holds fields card reference) (reference.openTagSpan start).stop contents
    simp only [render, Output.diagnostics_append, Diagnostics.ofTemplate_append,
      ofTemplate_blockProblems, inside, Bool.false_and]
    rw [blockProblems_congr same card card']
  | .malformed _ => rfl

theorem ofTemplate_renderAll (same : fields.SameNames others) (card card' : Card)
    (visible : Bool) (start : Nat) : (contents : List Content) →
    (renderAll fields card visible start contents).diagnostics.ofTemplate =
      (renderAll others card' false start contents).diagnostics
  | [] => rfl
  | content :: rest => by
    rw [renderAll, renderAll, Output.diagnostics_append, Output.diagnostics_append,
      Diagnostics.ofTemplate_append, ofTemplate_render same card card' visible start content,
      ofTemplate_renderAll same card card' visible (start + content.size) rest]

end

/-- What a rendered card reports about the template does not depend on the card. -/
theorem ofTemplate_compile (same : fields.SameNames others) (document : Document) (card : Card) :
    (document.compile fields card).diagnostics.ofTemplate = document.lint others :=
  ofTemplate_renderAll same card .standard true 0 document.contents

end Template

/-! ## Commands -/

namespace CommandLine

/-- The template of a request, if everything that the command needs can be read:
    a style sheet only counts where a card is rendered. -/
def TemplateRequest.loadAll (request : TemplateRequest) (sources : Sources) :
    Except Failure Loaded := do
  let loaded ← request.input.load sources
  match request.format with
  | .tree _ => return loaded
  | .plain | .json =>
    let _ ← request.card sources
    return loaded

/-- A command on a template ends with the exit code that checking gives. -/
theorem exitCode_run {request : TemplateRequest} {others : Fields}
    (same : request.note.SameNames others) (sources : Sources) (colored : Bool) :
    (request.run sources colored).map Outcome.exitCode =
      (request.loadAll sources).map fun loaded =>
        exitCodeOf ((Template.parse Template.defaultNesting loaded.text).lint others) := by
  have rendered (document : Template.Document) (card : Template.Card) :
      (document.compile request.note card).diagnostics.hasErrors =
        (document.lint others).hasErrors := by
    rw [← Template.ofTemplate_compile same document card, Diagnostics.hasErrors_ofTemplate]
  have checked (document : Template.Document) :
      (document.lint request.note).hasErrors = (document.lint others).hasErrors := by
    rw [← rendered document .standard,
      ← Template.ofTemplate_compile (fun _ => Iff.rfl) document .standard,
      Diagnostics.hasErrors_ofTemplate]
  unfold TemplateRequest.run TemplateRequest.loadAll
  cases request.input.load sources with
  | error failure => rfl
  | ok loaded =>
    cases request.format with
    | tree spans =>
      show Except.ok (exitCodeOf (Template.Document.lint _ _)) = Except.ok (exitCodeOf _)
      unfold exitCodeOf
      rw [checked]
    | plain | json =>
      cases request.card sources with
      | error failure => simp [bind, Except.bind, Except.map]
      | ok card =>
        simp [bind, Except.bind, Except.map, pure, Except.pure, Outcome.exitCode, exitCodeOf,
          rendered]

end CommandLine

open CommandLine in
/-- Checking a template is rendering it with the page thrown away. Whatever the
    values of the fields and the card are, rendering reports about the template
    what checking reports, in the same order; so the errors are the same, and a
    command ends with the same exit code whether or not it shows the syntax tree. -/
theorem Template.lint_eq_ofTemplate {fields others : Fields} (same : fields.SameNames others) :
    (∀ (document : Document) (card : Card),
      (document.compile fields card).diagnostics.ofTemplate = document.lint others ∧
        (document.compile fields card).diagnostics.errors = (document.lint others).errors) ∧
      ∀ request : TemplateRequest, request.note = fields →
        ∀ (sources : Sources) (colored : Bool),
          (request.run sources colored).map Outcome.exitCode =
            (request.loadAll sources).map fun loaded =>
              exitCodeOf ((parse defaultNesting loaded.text).lint others) := by
  constructor
  · intro document card
    have whole := ofTemplate_compile same document card
    constructor
    · exact whole
    · rw [← whole, Diagnostics.errors_ofTemplate]
  · intro request note sources colored
    exact exitCode_run (note ▸ same) sources colored

open CommandLine in
/-- A field without a deletion for the card, and an unknown transformer in a block
    that is hidden from one note and shown to another. -/
theorem Template.lint_eq_ofTemplate_hiddenBlock :
    let source :=
      "\x7b\x7bcloze:F\x7d\x7d\x7b\x7b^F\x7d\x7d\x7b\x7bnope:G\x7d\x7d\x7b\x7b/F\x7d\x7d".toList
    let request : TemplateRequest := ⟨.inline source,
      [("F".toList, "\x7b\x7bc2::a\x7d\x7d".toList)], [], .question, 1, none, none, .tree false⟩
    let others := Fields.ofList [("F".toList, ⟨[], true⟩)]
    let document := parse defaultNesting source
    request.note.SameNames others ∧
      (document.compile request.note .standard).diagnostics.map (·.kind) =
        [.missingClozeOrdinal, .unknownTransformer, .unknownField] ∧
      (document.compile request.note .standard).diagnostics.ofTemplate = document.lint others ∧
      (request.run (fun _ => .error .missing) false).map Outcome.exitCode = .ok 1 := by
  intro source request others document
  have same : request.note.SameNames others := fun _ => Iff.rfl
  have general := lint_eq_ofTemplate same
  refine ⟨same, by decide +kernel, (general.1 document .standard).1, ?_⟩
  rw [general.2 request rfl]
  exact congrArg Except.ok (by decide +kernel)

end Flashcard
