import Flashcard.CommandLine.Invocation
import Flashcard.Diagnostic.Json
import Flashcard.Diagnostic.Report
import Flashcard.Query.Json
import Flashcard.Syntax.Lint
import Flashcard.Syntax.Outline

/-!
# Running a command

A command reads its sources, writes its result, and reports on what is wrong
with the source. Reports do not stop it, but a report of an error shows in the
exit code. A source that cannot be read, fragments that cannot be used or an
offset outside the query are failures, and then nothing is written.
-/

namespace Flashcard.CommandLine

/-- Why a source cannot be read. -/
inductive ReadFault where
  | missing
  | directory
  /-- The bytes are no text. -/
  | notText
  | other (reason : Text)
deriving DecidableEq, Repr

/-- What to tell the user. -/
def ReadFault.message : ReadFault → Text
  | missing => "No such file or directory (os error 2)".toList
  | directory => "Is a directory (os error 21)".toList
  | notText => "stream did not contain valid UTF-8".toList
  | other reason => reason

/-- Text of bytes. -/
def decode (bytes : ByteArray) : Except ReadFault Text :=
  match String.fromUTF8? bytes with
  | some text => .ok text.toList
  | none => .error .notText

/-- Contents of all sources. -/
abbrev Sources := Source → Except ReadFault Text

/-- Why a command cannot do its work. -/
inductive Failure where
  | unreadable (source : Source) (fault : ReadFault)
  | unusableConfig (path : Text) (fault : Json.Fault)
  | unusableOffset (offset : Nat)

namespace Failure

/-- What is wrong with a text that should be JSON. -/
def jsonMessage : Json.Fault → Text
  | .malformed => "the text is not well formed".toList
  | .mismatch => "a member has another type or is repeated".toList
  | .unfinished => "the text ends too early".toList

/-- What to tell the user. -/
def message : Failure → Text
  | unreadable source fault =>
    "failed to read '".toList ++ source.name ++ "': ".toList ++ fault.message
  | unusableConfig path fault =>
    "invalid JSON in '".toList ++ path ++ "': ".toList ++ jsonMessage fault
  | unusableOffset offset =>
    "offset ".toList ++ Text.ofNat offset ++
      " is outside the query or not on a character boundary".toList

end Failure

/-- What a command leaves behind. -/
structure Outcome where
  /-- The result. -/
  output : Text
  /-- Reports on the source. -/
  report : Text
  /-- There was an error in the source. -/
  failed : Bool
deriving DecidableEq, Repr

/-- Exit code of a command that did its work. -/
def Outcome.exitCode (outcome : Outcome) : Nat := if outcome.failed then 1 else 0

/-- Exit code of a command that found these problems. -/
def exitCodeOf (diagnostics : Diagnostics) : Nat := if diagnostics.hasErrors then 1 else 0

/-! ## Reading -/

/-- Text of a source. -/
def Source.read (source : Source) (sources : Sources) : Except Failure Text :=
  (sources source).mapError (.unreadable source)

/-- A text to work on, and its name if it has one. -/
structure Loaded where
  text : Text
  name : Option Text
deriving DecidableEq, Repr

/-- The text to work on. -/
def Input.load (input : Input) (sources : Sources) : Except Failure Loaded :=
  match input with
  | .inline text => .ok ⟨text, none⟩
  | .stored source => do
    let text ← source.read sources
    return ⟨text, some source.title⟩

/-- Report on a text. -/
def Loaded.report (loaded : Loaded) (colored : Bool) (diagnostics : Diagnostics) : Text :=
  diagnostics.annotated loaded.text loaded.name colored

/-! ## Writing -/

/-- A value as JSON on lines of its own. -/
def jsonLines (json : Json) : Text := json.pretty ++ ['\n']

/-- A range in bytes. -/
def spanText (span : Span) : Text :=
  Text.ofNat span.start ++ "..".toList ++ Text.ofNat span.stop

/-- The predicate on a line, then its parameters on numbered lines. -/
def predicateLines (predicate : Query.Predicate) : Text :=
  predicate.text ++ ['\n'] ++ predicate.parameters.zipIdx.flatMap fun (parameter, index) =>
    "  ?".toList ++ Text.ofNat (index + 1) ++ " = ".toList ++ parameter.quote ++ ['\n']

/-- The style sheet, if there is one, then the body. -/
def pageLines (page : Template.Page) : Text :=
  let style := match page.css with
    | some css =>
      "<style>\n".toList ++ Unicode.trimEnd css ++ "\n</style>\n".toList
    | none => []
  let text := style ++ page.body
  if text.getLast? = some '\n' then text else text ++ ['\n']

/-- A line for each completion: the range to replace and the text to put
    there. -/
def completionLines (completions : Query.Completions) : Text :=
  completions.options.flatMap fun option =>
    spanText completions.span ++ [' '] ++ option.apply ++ ['\n']

/-- A line for each token: its range, its class and its text. -/
def highlightLines (source : Text) (highlighted : List HighlightSpan) : Text :=
  highlighted.flatMap fun token =>
    spanText token.span ++ [' '] ++ token.highlight.name ++ [' '] ++
      ((source.slice? token.span.start token.span.stop).getD []).quote ++ ['\n']

/-- How a syntax tree is shown. -/
def outlineOptions (spans : Bool) : OutlineOptions := ⟨true, false, spans⟩

/-! ## Commands -/

/-- Fragments of the predicate, from the file of a request or the standard
    ones. -/
def QueryRequest.fragments (request : QueryRequest) (sources : Sources) :
    Except Failure Query.Fragments :=
  match request.config with
  | none => .ok .standard
  | some path => do
    let text ← (Source.file path).read sources
    (Query.Fragments.read text).mapError (.unusableConfig path)

/-- Compiles a query. -/
def QueryRequest.run (request : QueryRequest) (sources : Sources) (colored : Bool) :
    Except Failure Outcome := do
  let loaded ← request.input.load sources
  let fragments ← request.fragments sources
  let program := Query.parse Query.defaultNesting loaded.text
  let diagnostics := program.tree.lint
  let output := match request.format with
    | .tree spans => program.tree.outline (outlineOptions spans)
    | .json => jsonLines (program.compile fragments).toJson
    | .plain => predicateLines (program.compile fragments)
  return ⟨output, loaded.report colored diagnostics, diagnostics.hasErrors⟩

/-- Fields of a note. A raw value replaces one that is escaped. -/
def TemplateRequest.note (request : TemplateRequest) : Fields :=
  let escaped := request.fields.foldl
    (fun note (name, value) => note.insert name ⟨value, false⟩) Fields.empty
  request.rawFields.foldl (fun note (name, value) => note.insert name ⟨value, true⟩) escaped

/-- Card to render, with its style sheet. -/
def TemplateRequest.card (request : TemplateRequest) (sources : Sources) :
    Except Failure Template.Card :=
  match request.css with
  | none => .ok ⟨request.side, request.ordinal, request.frontSide, none⟩
  | some path => do
    let css ← (Source.file path).read sources
    return ⟨request.side, request.ordinal, request.frontSide, some css⟩

/-- Renders a template. Its syntax tree is shown without rendering it. -/
def TemplateRequest.run (request : TemplateRequest) (sources : Sources) (colored : Bool) :
    Except Failure Outcome := do
  let loaded ← request.input.load sources
  let document := Template.parse Template.defaultNesting loaded.text
  let page (card : Template.Card) := document.compile request.note card
  match request.format with
  | .tree spans =>
    let diagnostics := document.lint request.note
    return ⟨document.tree.outline (outlineOptions spans), loaded.report colored diagnostics,
      diagnostics.hasErrors⟩
  | .json =>
    let page := page (← request.card sources)
    return ⟨jsonLines page.toJson, loaded.report colored page.diagnostics,
      page.diagnostics.hasErrors⟩
  | .plain =>
    let page := page (← request.card sources)
    return ⟨pageLines page, loaded.report colored page.diagnostics, page.diagnostics.hasErrors⟩

/-- Completes a query at an offset between two of its characters. -/
def CompleteRequest.run (request : CompleteRequest) : Except Failure Outcome :=
  if (request.query.splitAt? request.offset).isNone then .error (.unusableOffset request.offset)
  else
    let program := Query.parse Query.defaultNesting request.query
    let completions := Query.complete program.tree request.offset request.explicit
    let output :=
      if request.json then jsonLines ((completions.map (·.toJson)).getD .null)
      else (completions.map completionLines).getD []
    .ok ⟨output, [], false⟩

/-- Classifies the tokens of a source. -/
def HighlightRequest.run (request : HighlightRequest) (sources : Sources) :
    Except Failure Outcome := do
  let loaded ← request.input.load sources
  let highlighted := match request.language with
    | .query => (Query.parse Query.defaultNesting loaded.text).tree.highlight
    | .template => (Template.parse Template.defaultNesting loaded.text).tree.highlight
  let output :=
    if request.json then jsonLines (.array (highlighted.map (·.toJson)))
    else highlightLines loaded.text highlighted
  return ⟨output, [], false⟩

/-- Does what a request asks for. -/
def Request.run (request : Request) (sources : Sources) (colored : Bool) :
    Except Failure Outcome :=
  match request with
  | .query request => request.run sources colored
  | .template request => request.run sources colored
  | .complete request => request.run
  | .highlight request => request.run sources

/-- Runs an invocation; `terminal` says whether reports go to one. -/
def Invocation.run (invocation : Invocation) (sources : Sources) (terminal : Bool) :
    Except Failure Outcome :=
  invocation.request.run sources (invocation.color.holds terminal)

/-! ## Sources of a request -/

/-- Sources of an input. -/
def Input.sources : Input → List Source
  | .inline _ => []
  | .stored source => [source]

/-- The source under a path, if there is one. -/
def fileSources (path : Option Text) : List Source := path.toList.map .file

/-- Sources that a request may read. -/
def Request.sources : Request → List Source
  | .query request => request.input.sources ++ fileSources request.config
  | .template request => request.input.sources ++ fileSources request.css
  | .complete _ => []
  | .highlight request => request.input.sources

end Flashcard.CommandLine
