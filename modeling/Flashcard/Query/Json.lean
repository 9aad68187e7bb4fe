import Flashcard.Diagnostic.Json
import Flashcard.Json.Reader
import Flashcard.Query.Completion
import Flashcard.Query.Predicate

/-!
# Query data as JSON

Predicates and completions are written as JSON. Fragments can also be read, as
an object that may leave some of them out or as an array of the first ones; what
is left out is standard.
-/

namespace Flashcard.Query

/-- A predicate as JSON. -/
def Predicate.toJson (predicate : Predicate) : Json :=
  .object [("predicate".toList, .string predicate.text),
    ("params".toList, .array (predicate.parameters.map .string))]

/-- A completion as JSON. -/
def Completion.toJson (completion : Completion) : Json :=
  .object [("label".toList, .string completion.label), ("apply".toList, .string completion.apply)]

/-- Completions as JSON. -/
def Completions.toJson (completions : Completions) : Json :=
  .object (completions.span.members ++
    [("options".toList, .array (completions.options.map Completion.toJson))])

namespace Fragments

/-- Names of the fragments in JSON, in order. -/
def memberNames : List Text :=
  ["text_predicate".toList, "tag_predicate".toList, "deck_predicate".toList,
    "template_predicate".toList]

/-- Fragments as JSON. -/
def toJson (fragments : Fragments) : Json :=
  .object (memberNames.zip
    ([fragments.text, fragments.tag, fragments.deck, fragments.template].map .string))

/-- Fragments from those that are given under a name. -/
def ofNamed (given : List (Text × Text)) : Fragments :=
  let fragment (name : String) (default : Text) : Text :=
    (given.lookup name.toList).getD default
  { text := fragment "text_predicate" standard.text
    tag := fragment "tag_predicate" standard.tag
    deck := fragment "deck_predicate" standard.deck
    template := fragment "template_predicate" standard.template }

/-- The text of a member that gives a fragment. -/
def namedText (member : Text × Json) : Option (Text × Text) :=
  match member.2 with
  | .string text => some (member.1, text)
  | _ => none

/-- Fragments that a JSON value describes. -/
def ofJson? : Json → Option Fragments
  | .object members =>
    ((members.filter fun (name, _) => memberNames.contains name).mapM namedText).map ofNamed
  | .array items =>
    if items.length ≤ memberNames.length then
      ((memberNames.zip items).mapM namedText).map ofNamed
    else none
  | _ => none

/-! ## Reading fragments from a text -/

open Flashcard.Json (Fault skipBlanks)

/-- The fault of a value that should be something else: what is wrong with the
    value itself comes first. -/
def mismatch (text : Text) : Fault :=
  match text with
  | '[' :: _ | '{' :: _ => .mismatch
  | _ =>
    match Json.readValue .keep 1 text with
    | .error fault => fault
    | .ok _ => .mismatch

/-- A string. -/
def readText (text : Text) : Except Fault (Text × Text) :=
  match skipBlanks text with
  | [] => .error .unfinished
  | '"' :: rest => Json.readString .keep rest
  | rest => .error (mismatch rest)

/-- A member of fragments, after the quote of its name: fragments are kept,
    once each, and other members skipped. -/
def readMember (given : List (Text × Text)) (text : Text) :
    Except Fault (List (Text × Text) × Text) := do
  let (name, rest) ← Json.readString .keep text
  if !memberNames.contains name then
    let rest ← Json.readColon rest
    let (_, rest) ← Json.readValue .skip (rest.length + 1) rest
    return (given, rest)
  else if (given.lookup name).isSome then throw .mismatch
  else
    let rest ← Json.readColon rest
    let (value, rest) ← readText rest
    return ((name, value) :: given, rest)

/-- Members up to the closing bracket, after the quote of the first one's name;
    `fuel` bounds their number. -/
def readMembers : (fuel : Nat) → (given : List (Text × Text)) → Text →
    Except Fault (List (Text × Text) × Text)
  | 0, _, _ => .error .malformed
  | fuel + 1, given, text => do
    let (given, rest) ← readMember given text
    match skipBlanks rest with
    | [] => throw .unfinished
    | '}' :: rest => return (given, rest)
    | ',' :: rest =>
      match skipBlanks rest with
      | [] => throw .unfinished
      | '"' :: rest => readMembers fuel given rest
      | _ => throw .malformed
    | _ => throw .malformed

/-- Fragments for the names that are left, up to the closing bracket; a comma
    stands before each but the first. -/
def readItems (first : Bool) (given : List (Text × Text)) :
    (names : List Text) → Text → Except Fault (List (Text × Text) × Text)
  | [], text =>
    match skipBlanks text with
    | [] => .error .unfinished
    | ']' :: rest => .ok (given, rest)
    | _ => .error .malformed
  | name :: names, text =>
    match skipBlanks text with
    | [] => .error .unfinished
    | ']' :: rest => .ok (given, rest)
    | rest => do
      let rest ← if first then pure rest else
        match rest with
        | ',' :: rest =>
          match skipBlanks rest with
          | [] => throw .unfinished
          | ']' :: _ => throw .malformed
          | rest => pure rest
        | _ => throw .malformed
      let (value, rest) ← readText rest
      readItems false ((name, value) :: given) names rest

/-- Fragments that a text describes in JSON. The first fault decides, whether
    the text is no JSON or the JSON no fragments. -/
def read (text : Text) : Except Fault Fragments := do
  let (given, rest) ← match skipBlanks text with
    | [] => throw .unfinished
    | '{' :: rest =>
      match skipBlanks rest with
      | [] => throw .unfinished
      | '}' :: rest => pure ([], rest)
      | '"' :: rest => readMembers (text.length + 1) [] rest
      | _ => throw .malformed
    | '[' :: rest => readItems true [] memberNames rest
    | rest => throw (mismatch rest)
  Json.finish rest
  return ofNamed given

end Fragments

end Flashcard.Query
