import Flashcard.CommandLine.Script
import Flashcard.Proofs.Template.Linting

/-!
# What a command leaves on the console

The steps of a command together do what `Request.run` says, which names the result as a whole:
the command prints its output, ends with its exit code, and reports once if there is something
to report. Beside this it only logs, and every event is a detail at least. That nothing is
reported or printed when a command fails rests on the order of its steps: all that can fail
comes before all that reports and prints.

Results:
* `annotated_ne_nil`: a report on something says something.
* `Trail.filter_isShown`: where no details are logged, the error stream has reports only.
* `Ends.attempt`, `Ends.log`, `Ends.report`: a step that may fail, one that logs and one that
  reports.
* `ends_script`: what a command leaves on the console.
-/

namespace Flashcard

/-! ## Reports -/

theorem Text.join_ne_nil {separator text : Text} {texts : List Text} (mem : text ∈ texts)
    (h : text ≠ []) : Text.join separator texts ≠ [] := by
  induction texts with
  | nil => cases mem
  | cons first rest ih =>
    cases rest with
    | nil => rwa [join, ← List.mem_singleton.1 mem]
    | cons second rest =>
      show first ++ separator ++ join separator (second :: rest) ≠ []
      obtain rfl | later := List.mem_cons.1 mem
      · exact List.append_ne_nil_of_left_ne_nil (List.append_ne_nil_of_left_ne_nil h _) _
      · exact List.append_ne_nil_of_right_ne_nil _ (ih later)

theorem Diagnostic.annotated_ne_nil (source : Text) (path : Option Text) (colored : Bool)
    (diagnostic : Diagnostic) : diagnostic.annotated source path colored ≠ [] := by
  -- the row under the place has the bar at least
  have bar (frame : Frame) : Row.write colored (frame.row []) ≠ [] := by
    cases colored <;> simp [Row.write, Frame.row, Run.write, Run.blanks, Ink.off, Ink.control]
  obtain ⟨frame, mem⟩ : ∃ frame : Frame, frame.row [] ∈ diagnostic.reportRows source path := by
    unfold reportRows
    exact ⟨_, List.mem_append_left _ (List.mem_append_right _ (List.mem_singleton_self _))⟩
  exact Text.join_ne_nil (List.mem_map_of_mem mem) (bar frame)

/-- A report on something says something. -/
theorem Diagnostics.annotated_ne_nil (source : Text) (path : Option Text) (colored : Bool)
    (diagnostics : Diagnostics) :
    diagnostics.annotated source path colored ≠ [] ↔ diagnostics ≠ [] := by
  cases diagnostics with
  | nil => exact ⟨fun h => absurd rfl h, fun h => absurd rfl h⟩
  | cons diagnostic rest =>
    have first := diagnostic.annotated_ne_nil source path colored
    exact ⟨fun _ => List.cons_ne_nil _ _,
      fun _ => Text.join_ne_nil (List.mem_map_of_mem List.mem_cons_self) first⟩

namespace CommandLine

/-- The reports that an outcome has: one, unless it is empty. -/
def Outcome.reports (outcome : Outcome) : List Text :=
  if outcome.report = [] then [] else [outcome.report]

theorem Loaded.reports_eq (loaded : Loaded) (colored : Bool) (diagnostics : Diagnostics) :
    loaded.reports colored diagnostics =
      let report := loaded.report colored diagnostics
      if report = [] then [] else [report] := by
  cases diagnostics with
  | nil => rfl
  | cons diagnostic rest =>
    have nonempty : loaded.report colored (diagnostic :: rest) ≠ [] :=
      (Diagnostics.annotated_ne_nil _ _ _ _).2 (List.cons_ne_nil _ _)
    rw [if_neg nonempty]
    rfl

/-! ## Events on the way -/

/-- The event is logged where details are, or later. -/
def Event.IsDetail (event : Event) : Prop := event.level.includes .details = true

/-- The notices are these reports and, between them, events that are details. -/
structure Trail (reports : List Text) (notices : List Notice) : Prop where
  reports_eq : notices.filterMap Notice.report? = reports
  isDetail : ∀ event, .logged event ∈ notices → event.IsDetail

namespace Trail

theorem nil : Trail [] [] := ⟨rfl, fun _ mem => by cases mem⟩

theorem append {reports reports' : List Text} {notices notices' : List Notice}
    (h : Trail reports notices) (h' : Trail reports' notices') :
    Trail (reports ++ reports') (notices ++ notices') where
  reports_eq := by rw [List.filterMap_append, h.reports_eq, h'.reports_eq]
  isDetail event mem := (List.mem_append.1 mem).elim (h.isDetail event) (h'.isDetail event)

theorem logged {events : List Event} (details : ∀ event ∈ events, event.IsDetail) :
    Trail [] (events.map .logged) where
  reports_eq := by simp [Notice.report?]
  isDetail event mem := by
    obtain ⟨event', mem', same⟩ := List.mem_map.1 mem
    cases same
    exact details event mem'

theorem reported (reports : List Text) : Trail reports (reports.map .report) where
  reports_eq := by simp [List.filterMap_map, Notice.report?, Function.comp_def]
  isDetail event mem := by
    obtain ⟨text, -, same⟩ := List.mem_map.1 mem
    cases same

/-- What is shown has the reports and, where no details are logged, nothing else. -/
theorem filter_isShown {reports : List Text} {notices : List Notice} (h : Trail reports notices)
    (level : LogLevel) :
    (notices.filter (·.isShown level)).filterMap Notice.report? = reports ∧
      (level.includes .details = false →
        notices.filter (·.isShown level) = reports.map .report) := by
  obtain ⟨rfl, details⟩ := h
  induction notices with
  | nil => exact ⟨rfl, fun _ => rfl⟩
  | cons notice notices ih =>
    obtain ⟨same, quiet⟩ := ih fun event mem => details event (List.mem_cons_of_mem _ mem)
    cases notice with
    | report text =>
      have shown : (Notice.report text).isShown level = true := rfl
      rw [List.filter_cons_of_pos shown]
      exact ⟨congrArg (text :: ·) same, fun low => congrArg (.report text :: ·) (quiet low)⟩
    | logged event =>
      refine ⟨?_, fun low => ?_⟩
      · rw [List.filter_cons]
        split <;> exact same
      · have hidden : ¬ (Notice.logged event).isShown level = true := by
          have atLeast := details event List.mem_cons_self
          simp only [Event.IsDetail, Notice.isShown, LogLevel.includes, decide_eq_true_eq,
            decide_eq_false_iff_not] at atLeast low ⊢
          omega
        rw [List.filter_cons_of_neg hidden]
        exact quiet low

end Trail

theorem Event.isDetail_parsing (language : Language) (source : Text) :
    ∀ event ∈ parsing language source, event.IsDetail := by
  simp [parsing, counted, IsDetail, LogLevel.includes, LogLevel.rank]

theorem Input.isDetail_events (input : Input) (text : Text) :
    ∀ event ∈ input.events text, event.IsDetail := by
  intro event mem
  unfold events at mem
  split at mem
  · rw [List.mem_singleton.1 mem]
    rfl
  all_goals cases mem

/-! ## The steps together -/

/-- Work that comes to this as a whole ends like this, on a console to which all notices were
    written before. -/
def Console.finish (console : Console) : Except Failure Outcome → Except Failure Nat × Console
  | .ok outcome =>
    (.ok outcome.exitCode, { console with output := console.output ++ outcome.output })
  | .error failure => (.error failure, console)

/-- Work that began with the console ended like this: it came to the result as a whole, with
    these reports and some events. -/
def Ends (console : Console) (reports : List Text) (result : Except Failure Outcome)
    (final : Except Failure Nat × Console) : Prop :=
  ∃ notices, Trail reports notices ∧ final = (console.add notices).finish result

/-- The reports of a command that comes to this as a whole: none if it fails. -/
def reportsOf : Except Failure Outcome → List Text
  | .ok outcome => outcome.reports
  | .error _ => []

open Script

namespace Ends

variable {console : Console} {reports : List Text} {result : Except Failure Outcome}
  {final : Except Failure Nat × Console} {sources : Sources} {next : Unit → Script Nat}

theorem finish (console : Console) (result : Except Failure Outcome) :
    Ends console [] result (console.finish result) :=
  ⟨[], .nil, by rw [Console.add, List.append_nil]⟩

theorem behind {front : List Notice} {first : List Text} (h : Trail first front)
    (later : Ends (console.add front) reports result final) :
    Ends console (first ++ reports) result final := by
  obtain ⟨notices, trail, rfl⟩ := later
  exact ⟨front ++ notices, h.append trail, by simp [Console.add]⟩

theorem log {events : List Event} (details : ∀ event ∈ events, event.IsDetail)
    (later : Ends (console.add (events.map .logged)) reports result
      (next () sources (console.add (events.map .logged)))) :
    Ends console reports result ((Script.log events >>= next) sources console) := by
  rw [Script.log, note_bind]
  exact behind (.logged details) later

/-- What depends on the sources alone comes first, and its value is left to the rest. -/
theorem attempt {α : Type} {work : Sources → Except Failure α} {next : α → Script Nat}
    {whole : α → Except Failure Outcome}
    (later : ∀ value, Ends console (reportsOf (whole value)) (whole value)
      (next value sources console)) :
    Ends console (reportsOf (work sources >>= whole)) (work sources >>= whole)
      ((Script.attempt work >>= next) sources console) := by
  cases h : work sources with
  | error failure =>
    rw [attempt_bind_error h]
    exact .finish console (.error failure)
  | ok value =>
    rw [attempt_bind_ok h]
    exact later value

/-- The report of the whole is written here, and none behind it. -/
theorem report {loaded : Loaded} {colored : Bool} {diagnostics : Diagnostics} {output : Text}
    {failed : Bool}
    (later : ∀ console, Ends console [] (.ok ⟨output, loaded.report colored diagnostics, failed⟩)
      (next () sources console)) :
    let outcome : Outcome := ⟨output, loaded.report colored diagnostics, failed⟩
    Ends console outcome.reports (.ok outcome)
      ((Script.report loaded colored diagnostics >>= next) sources console) := by
  intro outcome
  have reports : outcome.reports = loaded.reports colored diagnostics ++ [] := by
    rw [List.append_nil, loaded.reports_eq]
    rfl
  rw [reports, Script.report, note_bind]
  exact behind (.reported _) (later _)

end Ends

/-- It is the same to look for errors among the problems and to look at the errors. -/
theorem exitCode_errors (diagnostics : Diagnostics) :
    (if diagnostics.errors.isEmpty then 0 else 1) = exitCodeOf diagnostics := by
  unfold exitCodeOf Diagnostics.errors Diagnostics.hasErrors
  induction diagnostics with
  | nil => rfl
  | cons diagnostic diagnostics ih =>
    rw [List.filter_cons, List.any_cons]
    cases diagnostic.isError with
    | true => rfl
    | false => exact ih

theorem QueryRequest.ends_script (request : QueryRequest) (colored : Bool) (sources : Sources)
    (console : Console) :
    Ends console (reportsOf (request.run sources colored)) (request.run sources colored)
      (request.script colored sources console) := by
  unfold script run
  refine .attempt fun loaded => .log (request.input.isDetail_events _) ?_
  refine .attempt fun fragments => .log (Event.isDetail_parsing _ _) ?_
  refine .log (List.forall_mem_singleton.2 rfl) (.report fun console => ?_)
  cases request.format with
  | tree spans => exact .finish console _
  | json => exact .log (List.forall_mem_singleton.2 rfl) (.finish _ _)
  | plain => exact .log (List.forall_mem_singleton.2 rfl) (.finish _ _)

theorem TemplateRequest.ends_script (request : TemplateRequest) (colored : Bool)
    (sources : Sources) (console : Console) :
    Ends console (reportsOf (request.run sources colored)) (request.run sources colored)
      (request.script colored sources console) := by
  unfold script run
  refine .attempt fun loaded => .log (request.input.isDetail_events _) ?_
  refine .log (Event.isDetail_parsing _ _) ?_
  cases request.format with
  | tree spans => exact .report fun console => .finish console _
  | json | plain =>
    refine .attempt fun card => .log (List.forall_mem_singleton.2 rfl) (.report fun console => ?_)
    rw [exitCode_errors]
    exact .finish console _

theorem CompleteRequest.ends_script (request : CompleteRequest) (sources : Sources)
    (console : Console) :
    Ends console (reportsOf request.run) request.run (request.script sources console) := by
  unfold script run
  cases (request.query.splitAt? request.offset).isNone with
  | true => exact .finish console _
  | false =>
    have details (completions : Option Query.Completions) :
        ∀ event ∈ (completions.map Event.completing).toList, event.IsDetail := by
      cases completions with
      | none => exact List.forall_mem_nil _
      | some completions => exact List.forall_mem_singleton.2 rfl
    refine .log (Event.isDetail_parsing _ _) (.log (details _) ?_)
    cases request.json with
    | true => exact .finish _ _
    | false =>
      show Ends _ _ _ ((print? _ >>= _) sources _)
      rw [print?_bind]
      exact .finish _ _

theorem HighlightRequest.ends_script (request : HighlightRequest) (sources : Sources)
    (console : Console) :
    Ends console (reportsOf (request.run sources)) (request.run sources)
      (request.script sources console) := by
  unfold script run
  refine .attempt fun loaded => .log (request.input.isDetail_events _) ?_
  refine .log (Event.isDetail_parsing _ _) ?_
  cases request.language with
  | query | template =>
    cases request.json <;> exact .log (List.forall_mem_singleton.2 rfl) (.finish _ _)

/-- A command prints the output of the whole and ends with its exit code. It reports what the
    whole does, and nothing if it fails; else it only logs. -/
theorem Request.ends_script (request : Request) (colored : Bool) (sources : Sources)
    (console : Console) :
    Ends console (reportsOf (request.run sources colored)) (request.run sources colored)
      (request.script colored sources console) := by
  cases request with
  | query request => exact request.ends_script colored sources console
  | template request => exact request.ends_script colored sources console
  | complete request => exact request.ends_script sources console
  | highlight request => exact request.ends_script sources console

end CommandLine

end Flashcard
