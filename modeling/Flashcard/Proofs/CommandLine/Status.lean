import Flashcard.Proofs.CommandLine.Fallible
import Flashcard.Proofs.CommandLine.Script

/-!
# How commands end

A command that fails has printed and reported nothing, and it fails because a source cannot be
read, because the fragments of the predicate cannot be used, or because of an offset outside the
query. A command that does its work tells by its exit code whether there is an error in the
source. This does not depend on how the result is written, although a template is rendered for
some formats and only checked for another. Lines of the log are all else that stands on the
error stream, and they are only there if `-v` was given twice.

Results:
* `arises_of_run`: the reasons for failures.
* `Ends.adds`: what a command adds to the error stream.
* `code_withFormat`: the exit code does not depend on the format.
* `script_settles`: how commands end.
-/

namespace Flashcard

namespace CommandLine

/-! ## Failures -/

/-- The reasons for which a request fails. -/
inductive Failure.Arises (sources : Sources) : Request → Failure → Prop
  | unreadable {request : Request} {source : Source} {fault : ReadFault} :
    source ∈ request.sources → sources source = .error fault →
      Arises sources request (.unreadable source fault)
  | unusableConfig {request : QueryRequest} {path text : Text} {fault : Json.Fault} :
    request.config = some path → sources (.file path) = .ok text →
      Query.Fragments.read text = .error fault →
        Arises sources (.query request) (.unusableConfig path fault)
  | unusableOffset {request : CompleteRequest} :
    request.query.splitAt? request.offset = none →
      Arises sources (.complete request) (.unusableOffset request.offset)

theorem Source.read_eq_ok {source : Source} {sources : Sources} {text : Text}
    (h : source.read sources = .ok text) : sources source = .ok text := by
  unfold read at h
  cases found : sources source with
  | ok text' =>
    rw [found] at h
    cases h
    rfl
  | error fault =>
    rw [found] at h
    cases h

theorem Failure.Arises.of_read {request : Request} {source : Source} {sources : Sources}
    {failure : Failure} (mem : source ∈ request.sources)
    (h : source.read sources = .error failure) : failure.Arises sources request := by
  obtain ⟨fault, unread, rfl⟩ := mapError_eq_error h
  exact .unreadable mem unread

theorem Failure.Arises.of_load {request : Request} {input : Input} {sources : Sources}
    {failure : Failure} (mem : input.sources ⊆ request.sources)
    (h : input.load sources = .error failure) : failure.Arises sources request := by
  cases input with
  | inline text => cases h
  | stored source =>
    obtain unread | ⟨text, -, done⟩ := bind_eq_error h
    · exact .of_read (mem (List.mem_singleton_self source)) unread
    · cases done

theorem Failure.Arises.of_fragments {request : QueryRequest} {sources : Sources}
    {failure : Failure} (h : request.fragments sources = .error failure) :
    failure.Arises sources (.query request) := by
  unfold QueryRequest.fragments at h
  cases config : request.config with
  | none =>
    rw [config] at h
    cases h
  | some path =>
    rw [config] at h
    have mem : Source.file path ∈ (Request.query request).sources := by
      simp [Request.sources, fileSources, config]
    obtain unread | ⟨text, read, unusable⟩ := bind_eq_error h
    · exact .of_read mem unread
    · obtain ⟨fault, malformed, rfl⟩ := mapError_eq_error unusable
      exact .unusableConfig config (Source.read_eq_ok read) malformed

theorem Failure.Arises.of_card {request : TemplateRequest} {sources : Sources}
    {failure : Failure} (h : request.card sources = .error failure) :
    failure.Arises sources (.template request) := by
  unfold TemplateRequest.card at h
  cases css : request.css with
  | none =>
    rw [css] at h
    cases h
  | some path =>
    rw [css] at h
    have mem : Source.file path ∈ (Request.template request).sources := by
      simp [Request.sources, fileSources, css]
    obtain unread | ⟨text, -, done⟩ := bind_eq_error h
    · exact .of_read mem unread
    · cases done

/-- The reasons for failures. -/
theorem Request.arises_of_run {request : Request} {sources : Sources} {colored : Bool}
    {failure : Failure} (h : request.run sources colored = .error failure) :
    failure.Arises sources request := by
  cases request with
  | query request =>
    obtain unread | ⟨loaded, -, h⟩ := bind_eq_error h
    · exact .of_load (List.subset_append_left _ _) unread
    · obtain unusable | ⟨fragments, -, done⟩ := bind_eq_error h
      · exact .of_fragments unusable
      · cases done
  | template request =>
    obtain unread | ⟨loaded, -, h⟩ := bind_eq_error h
    · exact .of_load (List.subset_append_left _ _) unread
    · cases format : request.format with
      | tree spans =>
        simp only [format] at h
        cases h
      | json | plain =>
        simp only [format] at h
        obtain unread | ⟨card, -, done⟩ := bind_eq_error h
        · exact .of_card unread
        · cases done
  | complete request =>
    change request.run = _ at h
    unfold CompleteRequest.run at h
    split at h
    · next outside =>
      cases h
      exact .unusableOffset (Option.isNone_iff_eq_none.1 outside)
    · cases h
  | highlight request =>
    obtain unread | ⟨loaded, -, done⟩ := bind_eq_error h
    · exact .of_load (List.Subset.refl _) unread
    · cases done

/-! ## Exit codes and reports -/

/-- What a command added to the error stream, where `-v` was given `count` times: these reports
    and, from the second time on, lines of the log. -/
def Console.Adds (before : Console) (count : Nat) (reports : List Text) (after : Console) : Prop :=
  ∃ added, after.errors (.ofCount count) = before.errors (.ofCount count) ++ added ∧
    added.filterMap Notice.report? = reports ∧ (count < 2 → added = reports.map .report)

/-- The exit code tells whether there is an error among the problems that checking finds, and
    there is a report on what the command found, if it found something. -/
structure Reported (loaded : Loaded) (colored : Bool) (count : Nat)
    (checked found : Diagnostics) (before after : Console) (code : Nat) : Prop where
  code_le_one : code ≤ 1
  code_eq_one : code = 1 ↔ ∃ diagnostic ∈ checked, diagnostic.severity = .error
  adds : before.Adds count (loaded.reports colored found) after
  reported : (∃ text ∈ loaded.reports colored found, text ≠ []) ↔ found ≠ []

/-- What a command finds in a template: problems of the card too, if it renders one. -/
def TemplateRequest.findings (request : TemplateRequest) (sources : Sources)
    (document : Template.Document) : Except Failure Diagnostics :=
  match request.format with
  | .tree _ => .ok (document.lint request.note)
  | .json | .plain => do
    let card ← request.card sources
    return (document.compile request.note card).diagnostics

/-- How a command ends that began with the console `before`. -/
def Request.Settles (request : Request) (sources : Sources) (colored : Bool) (count : Nat)
    (before after : Console) : Except Failure Nat → Prop
  | .error failure =>
    after.output = before.output ∧ before.Adds count [] after ∧ failure.Arises sources request
  | .ok code =>
    match request with
    | .query request =>
      ∃ loaded, request.input.load sources = .ok loaded ∧
        let found := (Query.parse Query.defaultNesting loaded.text).tree.lint
        Reported loaded colored count found found before after code
    | .template request =>
      ∃ loaded found, request.input.load sources = .ok loaded ∧
        let document := Template.parse Template.defaultNesting loaded.text
        request.findings sources document = .ok found ∧
          Reported loaded colored count (document.lint request.note) found before after code
    | .complete _ | .highlight _ => code = 0 ∧ before.Adds count [] after

/-- The same request for a result in another format. -/
def Request.withFormat (format : Format) : Request → Request
  | .query request => .query { request with format }
  | .template request => .template { request with format }
  | request => request

section Ends

variable {console : Console} {reports : List Text} {final : Except Failure Nat × Console}

theorem Ends.adds {result : Except Failure Outcome} (h : Ends console reports result final)
    (count : Nat) : console.Adds count reports final.2 := by
  obtain ⟨notices, trail, rfl⟩ := h
  obtain ⟨texts, quiet⟩ := trail.filter_isShown (.ofCount count)
  refine ⟨notices.filter (·.isShown (.ofCount count)), ?_, texts, fun few => quiet ?_⟩
  · cases result <;> exact List.filter_append ..
  · rw [← Bool.not_eq_true, LogLevel.includes_details_ofCount]
    omega

theorem Ends.failed {failure : Failure} (h : Ends console reports (.error failure) final) :
    final.1 = .error failure ∧ final.2.output = console.output := by
  obtain ⟨notices, -, rfl⟩ := h
  exact ⟨rfl, rfl⟩

theorem Ends.done {outcome : Outcome} (h : Ends console reports (.ok outcome) final) :
    final.1 = .ok outcome.exitCode := by
  obtain ⟨notices, -, rfl⟩ := h
  rfl

end Ends

/-- A command reported what it found, and the errors among that are those that checking finds. -/
theorem Reported.of_errors {loaded : Loaded} {colored : Bool} {count : Nat}
    {checked found : Diagnostics} (h : found.hasErrors = checked.hasErrors)
    {before after : Console} (adds : before.Adds count (loaded.reports colored found) after) :
    Reported loaded colored count checked found before after (exitCodeOf found) where
  code_le_one := by
    unfold exitCodeOf
    split <;> decide
  code_eq_one := by
    rw [exitCodeOf, h, Diagnostics.hasErrors]
    simp [Diagnostic.isError]
  adds := adds
  reported := by
    rw [← found.annotated_ne_nil loaded.text loaded.name colored, loaded.reports_eq]
    show _ ↔ loaded.report colored found ≠ []
    by_cases silent : loaded.report colored found = [] <;> simp [silent]

/-- Rendering finds the errors that checking finds. -/
theorem hasErrors_findings {request : TemplateRequest} {sources : Sources}
    {document : Template.Document} {found : Diagnostics}
    (h : request.findings sources document = .ok found) :
    found.hasErrors = (document.lint request.note).hasErrors := by
  unfold TemplateRequest.findings at h
  cases format : request.format with
  | tree spans =>
    simp only [format] at h
    cases h
    rfl
  | json | plain =>
    simp only [format] at h
    obtain ⟨card, -, page⟩ := bind_eq_ok h
    cases page
    rw [← Template.ofTemplate_compile (fun _ => Iff.rfl) document card,
      Diagnostics.hasErrors_ofTemplate]

theorem TemplateRequest.exists_findings {request : TemplateRequest} {sources : Sources}
    {colored : Bool} {outcome : Outcome} (h : request.run sources colored = .ok outcome) :
    ∃ loaded found, request.input.load sources = .ok loaded ∧
      request.findings sources (Template.parse Template.defaultNesting loaded.text) = .ok found ∧
      outcome.report = loaded.report colored found ∧ outcome.exitCode = exitCodeOf found := by
  obtain ⟨loaded, input, h⟩ := bind_eq_ok h
  unfold findings
  cases format : request.format with
  | tree spans =>
    simp only [format] at h
    cases h
    exact ⟨loaded, _, input, rfl, rfl, rfl⟩
  | json | plain =>
    simp only [format] at h
    obtain ⟨card, read, page⟩ := bind_eq_ok h
    cases page
    rw [read]
    exact ⟨loaded, _, input, rfl, rfl, rfl⟩

theorem Request.settles (request : Request) (sources : Sources) (colored : Bool) (count : Nat)
    (before : Console) :
    request.Settles sources colored count before (request.script colored sources before).2
      (request.script colored sources before).1 := by
  have ends := request.ends_script colored sources before
  have adds := ends.adds count
  cases run : request.run sources colored with
  | error failure =>
    rw [run] at ends adds
    rw [ends.failed.1]
    exact ⟨ends.failed.2, adds, arises_of_run run⟩
  | ok outcome =>
    rw [run] at ends adds
    rw [ends.done]
    cases request with
    | query request =>
      obtain ⟨loaded, input, h⟩ := bind_eq_ok run
      obtain ⟨fragments, -, done⟩ := bind_eq_ok h
      cases done
      rw [reportsOf, Outcome.reports, ← loaded.reports_eq] at adds
      exact ⟨loaded, input, .of_errors rfl adds⟩
    | template request =>
      obtain ⟨loaded, found, input, finds, report, code⟩ := TemplateRequest.exists_findings run
      rw [reportsOf, Outcome.reports, report, ← loaded.reports_eq] at adds
      rw [code]
      exact ⟨loaded, found, input, finds, .of_errors (hasErrors_findings finds) adds⟩
    | complete request =>
      change request.run = _ at run
      unfold CompleteRequest.run at run
      split at run
      · cases run
      · cases run
        exact ⟨rfl, adds⟩
    | highlight request =>
      obtain ⟨loaded, -, done⟩ := bind_eq_ok run
      cases done
      exact ⟨rfl, adds⟩

/-- Commands that report on the same problems end with the same exit code. -/
theorem Reported.code_unique {loaded : Loaded} {colored : Bool} {count : Nat}
    {checked found found' : Diagnostics} {before after after' : Console} {code code' : Nat}
    (h : Reported loaded colored count checked found before after code)
    (h' : Reported loaded colored count checked found' before after' code') : code = code' := by
  have same : code = 1 ↔ code' = 1 := h.code_eq_one.trans h'.code_eq_one.symm
  have := h.code_le_one
  have := h'.code_le_one
  omega

/-- The exit code does not depend on the format of the result. -/
theorem Request.code_withFormat (request : Request) (sources : Sources) (colored : Bool)
    (before : Console) {format format' : Format} {code code' : Nat}
    (h : ((request.withFormat format).script colored sources before).1 = .ok code)
    (h' : ((request.withFormat format').script colored sources before).1 = .ok code') :
    code = code' := by
  have ends := (request.withFormat format).settles sources colored 0 before
  have ends' := (request.withFormat format').settles sources colored 0 before
  rw [h] at ends
  rw [h'] at ends'
  cases request with
  | query request =>
    obtain ⟨loaded, input, reported⟩ := ends
    obtain ⟨loaded', input', reported'⟩ := ends'
    cases input.symm.trans input'
    exact reported.code_unique reported'
  | template request =>
    obtain ⟨loaded, found, input, -, reported⟩ := ends
    obtain ⟨loaded', found', input', -, reported'⟩ := ends'
    cases input.symm.trans input'
    exact reported.code_unique reported'
  | complete request | highlight request =>
    rw [ends.1, ends'.1]

/-- How commands end. Step by step a command prints and reports what it does as a whole. If it
    fails, it printed and reported nothing. Else its exit code tells of errors in the source and
    of nothing else, however the result is written, and it reports if it found something. Beside
    that there are lines of the log on the error stream, if `-v` was given twice. -/
theorem Request.script_settles (request : Request) (sources : Sources) (colored : Bool)
    (count : Nat) (before : Console) :
    Ends before (reportsOf (request.run sources colored)) (request.run sources colored)
        (request.script colored sources before) ∧
      request.Settles sources colored count before (request.script colored sources before).2
        (request.script colored sources before).1 ∧
      ∀ format format' code code',
        ((request.withFormat format).script colored sources before).1 = .ok code →
        ((request.withFormat format').script colored sources before).1 = .ok code' →
          code = code' :=
  ⟨request.ends_script colored sources before, request.settles sources colored count before,
    fun _ _ _ _ => request.code_withFormat sources colored before⟩

/-- An unknown transformer ends both commands with 1, and a field without a deletion for the card
    changes nothing about that. -/
theorem Request.script_settles_unknownTransformer :
    let source := "\x7b\x7bnope:F\x7d\x7d\x7b\x7bcloze:F\x7d\x7d".toList
    let request : Request := .template ⟨.inline source,
      [("F".toList, "\x7b\x7bc1::a\x7d\x7d".toList)], [], .question, 2, none, none, .plain⟩
    let sources : Sources := fun _ => .error .missing
    let page := (request.withFormat .plain).script false sources .empty
    let tree := (request.withFormat (.tree true)).script false sources .empty
    (∃ code code', page.1 = .ok code ∧ tree.1 = .ok code' ∧ code = code') ∧ page.1 = .ok 1 ∧
      request.Settles sources false 2 .empty page.2 page.1 := by
  intro source request sources page tree
  have shown : page.1 = .ok 1 := congrArg Except.ok (by decide +kernel)
  have checked : tree.1 = .ok 1 := congrArg Except.ok (by decide +kernel)
  obtain ⟨-, settles, same⟩ := request.script_settles sources false 2 .empty
  exact ⟨⟨1, 1, shown, checked, same _ _ _ _ shown checked⟩, shown, settles⟩

/-- Where `-v` is given twice, a command that fails has told of the file that it read. And a field
    without a deletion for the card is reported with the page, but not with the tree. -/
theorem Invocation.script_tells_of_file :
    let sources : Sources := fun source =>
      if source = .file "q.txt".toList then .ok "a".toList else .error .missing
    let card := ["template", "-t", "\x7b\x7bcloze:F\x7d\x7d", "--field",
      "F=\x7b\x7bc1::a\x7d\x7d", "--ordinal", "2"]
    (∃ invocation,
      parse (["query", "-vv", "-f", "q.txt", "--config", "missing.json"].map String.toList) =
        .ok invocation ∧
      let final := invocation.script false sources .empty
      final.1 = .error (.unreadable (.file "missing.json".toList) .missing) ∧
        final.2.errors invocation.level = [.logged (.loaded "q.txt".toList "a".toList)]) ∧
    ∃ page tree, parse (card.map String.toList) = .ok page ∧
      parse ((card ++ ["--cst"]).map String.toList) = .ok tree ∧
      (page.script false sources .empty).1 = .ok 0 ∧
      (page.script false sources .empty).2.errors page.level ≠ [] ∧
      (tree.script false sources .empty).1 = .ok 0 ∧
      (tree.script false sources .empty).2.errors tree.level = [] :=
  ⟨⟨_, rfl, rfl, rfl⟩, _, _, rfl, rfl, congrArg Except.ok (by decide +kernel), by decide +kernel,
    congrArg Except.ok (by decide +kernel), by decide +kernel⟩

end CommandLine

end Flashcard
