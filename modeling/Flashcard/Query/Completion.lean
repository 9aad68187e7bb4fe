import Flashcard.Query.Program
import Flashcard.Unicode.Alphanumeric

/-!
# Completion of filter marks

Where a term can begin, at the top level or inside a group, the marks of the
filters are offered. They replace the word characters to the left of the
cursor. Where there are none, only somebody who asks gets an answer.
-/

namespace Flashcard.Query

/-- A text on offer, and how it is called. -/
structure Completion where
  label : Text
  apply : Text
deriving DecidableEq, Repr

/-- What is on offer at a cursor, and the range that it replaces. -/
structure Completions where
  span : Span
  options : List Completion
deriving DecidableEq, Repr

/-- The filter marks on offer, in alphabetical order. -/
def filterCompletions : List Completion :=
  ["deck", "tag", "template"].map fun label => ⟨label.toList, label.toList ++ [':']⟩

/-- The character belongs to the word that a completion replaces. -/
def isFragmentChar (c : Char) : Bool := Unicode.isAlphanumeric c || c = '_'

/-- The longest row of word characters at the end of a text. -/
def fragmentBefore (before : Text) : Text := (before.reverse.takeWhile isFragmentChar).reverse

/-- Kinds of the nodes around a cursor, innermost first. Between two tokens the
    one to the left counts. -/
def pathAt (tree : Tree Kind) (offset : Nat) : List Kind :=
  match tree.leaves.find? fun leaf => offset ≤ leaf.span.stop with
  | some leaf => leaf.path
  | none => [tree.kind]

/-- Filter marks are offered between terms at the top level, and inside bare
    words that are not the value of a filter. -/
def offersFilters : List Kind → Bool
  | .program :: _ => true
  | .simpleString :: around :: _ => around = .program || around = .group
  | _ => false

/-- Completions at a byte offset of a query; `explicit` tells that somebody
    asked for them. -/
def complete (tree : Tree Kind) (offset : Nat) (explicit : Bool) : Option Completions :=
  match tree.text.splitAt? offset with
  | none => none
  | some (before, _) =>
    let fragment := (fragmentBefore before).size
    if offersFilters (pathAt tree offset) && (explicit || fragment ≠ 0) then
      some ⟨⟨offset - fragment, fragment⟩, filterCompletions⟩
    else none

end Flashcard.Query
