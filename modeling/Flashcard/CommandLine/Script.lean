import Flashcard.CommandLine.Log

/-!
# Commands step by step

A command reads its sources, then reports, then prints, and each of these happens while it goes
on, as does its log. A failure leaves what was written before it. What a command comes to as a
whole is `Request.run`.

Results:
* `attempt_bind_ok`, `attempt_bind_error`: work that depends on the sources alone.
* `note_bind`, `print?_bind`: what is written stands behind what was written before.
-/

namespace Flashcard.CommandLine

/-- What was written so far. -/
structure Console where
  /-- Results. -/
  output : Text
  /-- Reports and events, whether or not these are logged. -/
  notices : List Notice
deriving DecidableEq, Repr

namespace Console

/-- Nothing was written. -/
def empty : Console := ⟨[], []⟩

/-- More was written to the error stream. -/
def add (console : Console) (notices : List Notice) : Console :=
  { console with notices := console.notices ++ notices }

/-- What stands on the error stream, where events up to this level are logged. -/
def errors (console : Console) (level : LogLevel) : List Notice :=
  console.notices.filter (·.isShown level)

end Console

/-! ## Steps -/

/-- Work that reads sources, writes and can fail. What was written stays when it fails. -/
abbrev Script := ReaderT Sources (ExceptT Failure (StateM Console))

namespace Script

variable {α β : Type}

/-- What depends on the sources alone. -/
def attempt (work : Sources → Except Failure α) : Script α :=
  fun sources => ExceptT.mk (pure (work sources))

/-- Writes a result. -/
def print (text : Text) : Script Unit :=
  modify fun console => { console with output := console.output ++ text }

/-- Writes a result, if there is one. -/
def print? : Option Text → Script Unit
  | some text => print text
  | none => pure ()

/-- Writes reports and events. -/
def note (notices : List Notice) : Script Unit := modify (·.add notices)

/-- Tells what happened. -/
def log (events : List Event) : Script Unit := note (events.map .logged)

/-- Reports on a source, if there is something to report. -/
def report (loaded : Loaded) (colored : Bool) (diagnostics : Diagnostics) : Script Unit :=
  note ((loaded.reports colored diagnostics).map .report)

variable {work : Sources → Except Failure α} {sources : Sources}

theorem attempt_bind_ok {value : α} (h : work sources = .ok value) (next : α → Script β)
    (console : Console) : (attempt work >>= next) sources console = next value sources console := by
  show (ExceptT.bindCont _ (work sources) : StateM Console _) console = _
  rw [h]
  rfl

theorem attempt_bind_error {failure : Failure} (h : work sources = .error failure)
    (next : α → Script β) (console : Console) :
    (attempt work >>= next) sources console = (.error failure, console) := by
  show (ExceptT.bindCont _ (work sources) : StateM Console _) console = _
  rw [h]
  rfl

theorem note_bind (notices : List Notice) (next : Unit → Script β) (sources : Sources)
    (console : Console) :
    (note notices >>= next) sources console = next () sources (console.add notices) :=
  rfl

theorem print?_bind (text : Option Text) (next : Unit → Script β) (sources : Sources)
    (console : Console) :
    (print? text >>= next) sources console =
      next () sources { console with output := console.output ++ text.getD [] } := by
  cases text with
  | none =>
    rw [Option.getD_none, List.append_nil]
    rfl
  | some text => rfl

end Script

open Script

/-! ## Commands -/

/-- Compiles a query. -/
def QueryRequest.script (request : QueryRequest) (colored : Bool) : Script Nat := do
  let loaded ← attempt request.input.load
  log (request.input.events loaded.text)
  let fragments ← attempt request.fragments
  log (Event.parsing .query loaded.text)
  let program := Query.parse Query.defaultNesting loaded.text
  let diagnostics := program.tree.lint
  log [.linted Query.Kind diagnostics]
  report loaded colored diagnostics
  match request.format with
  | .tree spans => print (program.tree.outline (outlineOptions spans))
  | format =>
    let predicate := program.compile fragments
    log [.compiled predicate]
    print (if format = .json then jsonLines predicate.toJson else predicateLines predicate)
  return exitCodeOf diagnostics

/-- Renders a template, or shows its syntax tree with the style sheet left unread. -/
def TemplateRequest.script (request : TemplateRequest) (colored : Bool) : Script Nat := do
  let loaded ← attempt request.input.load
  log (request.input.events loaded.text)
  log (Event.parsing .template loaded.text)
  let document := Template.parse Template.defaultNesting loaded.text
  if let .tree spans := request.format then
    let diagnostics := document.lint request.note
    report loaded colored diagnostics
    print (document.tree.outline (outlineOptions spans))
    return exitCodeOf diagnostics
  let card ← attempt request.card
  let page := document.compile request.note card
  log [.rendered page.diagnostics]
  report loaded colored page.diagnostics
  if request.format = .json then print (jsonLines page.toJson) else print (pageLines page)
  return if page.diagnostics.errors.isEmpty then 0 else 1

/-- Completes a query. Without completions nothing is printed, unless as JSON. -/
def CompleteRequest.script (request : CompleteRequest) : Script Nat := do
  if (request.query.splitAt? request.offset).isNone then
    throw (.unusableOffset request.offset)
  log (Event.parsing .query request.query)
  let program := Query.parse Query.defaultNesting request.query
  let completions := Query.complete program.tree request.offset request.explicit
  log (completions.map .completing).toList
  if request.json then print (jsonLines ((completions.map (·.toJson)).getD .null))
  else print? (completions.map completionLines)
  return 0

/-- Classifies the tokens of a source. -/
def HighlightRequest.script (request : HighlightRequest) : Script Nat := do
  let loaded ← attempt request.input.load
  log (request.input.events loaded.text)
  log (Event.parsing request.language loaded.text)
  let (highlighted, event) := match request.language with
    | .query =>
      let highlighted := (Query.parse Query.defaultNesting loaded.text).tree.highlight
      (highlighted, Event.highlighted Query.Kind highlighted)
    | .template =>
      let highlighted := (Template.parse Template.defaultNesting loaded.text).tree.highlight
      (highlighted, Event.highlighted Template.Kind highlighted)
  log [event]
  if request.json then print (jsonLines (.array (highlighted.map (·.toJson))))
  else print (highlightLines loaded.text highlighted)
  return 0

/-- Does what a request asks for, step by step. -/
def Request.script (request : Request) (colored : Bool) : Script Nat :=
  match request with
  | .query request => request.script colored
  | .template request => request.script colored
  | .complete request => request.script
  | .highlight request => request.script

/-- Does what an invocation asks for; `terminal` says whether reports go to one. -/
def Invocation.script (invocation : Invocation) (terminal : Bool) : Script Nat :=
  invocation.request.script (invocation.color.holds terminal)

end Flashcard.CommandLine
