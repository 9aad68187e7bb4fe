import Flashcard.Text.Basic

/-!
# HTML in field values

Field values are escaped before they go into a page, and tags can be stripped
from them.
-/

namespace Flashcard.Html

/-- A character as text of a page. -/
def escapeChar : Char → Text
  | '&' => "&amp;".toList
  | '<' => "&lt;".toList
  | '>' => "&gt;".toList
  | '"' => "&quot;".toList
  | '\'' => "&#39;".toList
  | c => [c]

/-- A text such that a page shows it as it is. -/
def escape (text : Text) : Text := text.flatMap escapeChar

/-- What follows the first `>`. -/
def afterTag (text : Text) : Text := (text.dropWhile (· ≠ '>')).tail

theorem length_afterTag_le (text : Text) : (afterTag text).length ≤ text.length := by
  have := (List.dropWhile_sublist (l := text) (fun c => decide (c ≠ '>'))).length_le
  rw [afterTag, List.length_tail]
  omega

/-- The text without its tags. A tag reaches from `<` to the first `>` after it;
    a `<` that nothing closes stays, with all that follows. -/
def stripTags (text : Text) : Text :=
  match text with
  | [] => []
  | c :: rest =>
    if c = '<' then if rest.contains '>' then stripTags (afterTag rest) else c :: rest
    else c :: stripTags rest
termination_by text.length
decreasing_by
  · have := length_afterTag_le rest
    simp only [List.length_cons]
    omega
  · simp

end Flashcard.Html
