import Flashcard.Query.Predicate
import Mathlib.Data.List.Infix

/-!
# What a search text matches

The text of a term goes to the database as a pattern of `LIKE`. In the term only `*` means
something: it stands for any text. In the pattern that is `%`, and there `_` and the backslash
mean something as well. A text matches the pattern of a term exactly if the pieces of the term
between its stars stand in the text, one behind the other.

Results:
* `like_percent_iff`, `like_escape_iff`, `like_self_iff`: what a pattern matches, by what it
  begins with.
* `like_likePattern_iff`: a text begins with the pieces of a term iff it matches the term's
  pattern and then anything.
* `like_parameter_iff`: the value for the placeholder of a term matches what the term means.
-/

namespace Flashcard.Query

/-! ## Patterns -/

/-- The text matches the pattern, with the backslash as the escape character: `%` stands for
    any text, `_` for any character, and a character behind a backslash for itself, as does
    any other character. A backslash at the very end stands for nothing. -/
inductive Like : (pattern text : Text) → Prop
  | nil : Like [] []
  | percent {pattern text : Text} (run : Text) : Like pattern text →
      Like ('%' :: pattern) (run ++ text)
  | underscore {pattern text : Text} (c : Char) : Like pattern text →
      Like ('_' :: pattern) (c :: text)
  | escape {pattern text : Text} (c : Char) : Like pattern text →
      Like ('\\' :: c :: pattern) (c :: text)
  | self {pattern text : Text} {c : Char} : c ∉ ['%', '_', '\\'] → Like pattern text →
      Like (c :: pattern) (c :: text)

/-- Every backslash in the pattern escapes one of the characters that mean something, or is
    escaped by the one in front of it. -/
inductive WellEscaped : (pattern : Text) → Prop
  | nil : WellEscaped []
  | escape {pattern : Text} {c : Char} : c ∈ ['%', '_', '\\'] → WellEscaped pattern →
      WellEscaped ('\\' :: c :: pattern)
  | self {pattern : Text} {c : Char} : c ≠ '\\' → WellEscaped pattern → WellEscaped (c :: pattern)

/-- The text is made up of the pieces, in order, with any texts between them. -/
inductive Spaced : (pieces : List Text) → (text : Text) → Prop
  | last (piece : Text) : Spaced [piece] piece
  | more {pieces : List Text} {text : Text} (piece gap : Text) : Spaced pieces text →
      Spaced (piece :: pieces) (piece ++ gap ++ text)

/-! ## What patterns match -/

theorem like_nil_iff {text : Text} : Like [] text ↔ text = [] := by
  constructor
  · intro h
    cases h
    rfl
  · rintro rfl
    exact .nil

/-- Behind any text comes what the rest of the pattern matches. -/
theorem like_percent_iff {pattern text : Text} :
    Like ('%' :: pattern) text ↔ ∃ run rest, text = run ++ rest ∧ Like pattern rest := by
  constructor
  · intro h
    cases h with
    | percent run later => exact ⟨run, _, rfl, later⟩
    | self plain _ => exact absurd (List.mem_cons_self ..) plain
  · rintro ⟨run, rest, rfl, later⟩
    exact .percent run later

theorem like_underscore_iff {pattern text : Text} :
    Like ('_' :: pattern) text ↔ ∃ c rest, text = c :: rest ∧ Like pattern rest := by
  constructor
  · intro h
    cases h with
    | underscore c later => exact ⟨c, _, rfl, later⟩
    | self plain _ => exact absurd (by decide) plain
  · rintro ⟨c, rest, rfl, later⟩
    exact .underscore c later

theorem like_escape_iff {c : Char} {pattern text : Text} :
    Like ('\\' :: c :: pattern) text ↔ ∃ rest, text = c :: rest ∧ Like pattern rest := by
  constructor
  · intro h
    cases h with
    | escape _ later => exact ⟨_, rfl, later⟩
    | self plain _ => exact absurd (by decide) plain
  · rintro ⟨rest, rfl, later⟩
    exact .escape c later

theorem not_like_backslash (text : Text) : ¬ Like ['\\'] text := by
  intro h
  cases h with
  | self plain _ => exact absurd (by decide) plain

theorem like_self_iff {c : Char} (h : c ∉ ['%', '_', '\\']) {pattern text : Text} :
    Like (c :: pattern) text ↔ ∃ rest, text = c :: rest ∧ Like pattern rest := by
  constructor
  · intro like
    cases like with
    | self _ later => exact ⟨_, rfl, later⟩
    | percent _ _ | underscore _ _ | escape _ _ => exact absurd (by decide) h
  · rintro ⟨rest, rfl, later⟩
    exact .self h later

section Decide

variable {p : Text → Prop} [DecidablePred p]

/-- A condition on what stands behind a character that the text must begin with. -/
local instance decidableBehind (c : Char) : (text : Text) →
    Decidable (∃ rest, text = c :: rest ∧ p rest)
  | [] => isFalse nofun
  | d :: rest =>
    decidable_of_iff (d = c ∧ p rest) ⟨fun ⟨same, h⟩ => ⟨rest, same ▸ rfl, h⟩,
      fun ⟨_, same, h⟩ => ⟨(List.cons.inj same).1, (List.cons.inj same).2 ▸ h⟩⟩

/-- A condition on what stands behind any character. -/
local instance decidableBehindAny : (text : Text) → Decidable (∃ c rest, text = c :: rest ∧ p rest)
  | [] => isFalse nofun
  | d :: rest =>
    decidable_of_iff (p rest) ⟨fun h => ⟨d, rest, rfl, h⟩,
      fun ⟨_, _, same, h⟩ => (List.cons.inj same).2 ▸ h⟩

/-- A condition on what stands behind any text. -/
local instance decidableBehindRun (text : Text) :
    Decidable (∃ run rest, text = run ++ rest ∧ p rest) :=
  decidable_of_iff (∃ rest ∈ text.tails, p rest) <| by
    simp only [List.mem_tails]
    constructor
    · rintro ⟨rest, ⟨run, rfl⟩, h⟩
      exact ⟨run, rest, rfl, h⟩
    · rintro ⟨run, rest, rfl, h⟩
      exact ⟨rest, List.suffix_append run rest, h⟩

/-- Whether a text matches a pattern can be computed. -/
instance decidableLike : (pattern text : Text) → Decidable (Like pattern text)
  | [], text => decidable_of_iff (text = []) like_nil_iff.symm
  | c :: pattern, text =>
    have (rest : Text) : Decidable (Like pattern rest) := decidableLike pattern rest
    if percent : c = '%' then
      decidable_of_iff _ (percent ▸ like_percent_iff).symm
    else if underscore : c = '_' then
      decidable_of_iff _ (underscore ▸ like_underscore_iff).symm
    else if escape : c = '\\' then
      match pattern with
      | [] => isFalse (escape ▸ not_like_backslash text)
      | d :: pattern =>
        have (rest : Text) : Decidable (Like pattern rest) := decidableLike pattern rest
        decidable_of_iff _ (escape ▸ like_escape_iff).symm
    else
      decidable_of_iff _ (like_self_iff (by simp [percent, underscore, escape])).symm

end Decide

/-! ## The pattern of a term -/

theorem likePattern_star (text : Text) : likePattern ('*' :: text) = '%' :: likePattern text := rfl

theorem likePattern_special {c : Char} (h : c ∈ ['%', '_', '\\']) (text : Text) :
    likePattern (c :: text) = '\\' :: c :: likePattern text := by
  have special : c = '\\' ∨ c = '%' ∨ c = '_' := by
    simpa [or_comm, or_left_comm] using h
  simp [likePattern, special]

theorem likePattern_self {c : Char} (h : c ∉ ['%', '_', '\\']) (star : c ≠ '*') (text : Text) :
    likePattern (c :: text) = c :: likePattern text := by
  have plain : ¬ (c = '\\' ∨ c = '%' ∨ c = '_') := by
    simpa [and_comm, and_left_comm, and_assoc] using h
  simp [likePattern, plain, star]

/-- In the pattern of a term a character that is no star stands for itself. -/
theorem like_likePattern_cons {c : Char} (star : c ≠ '*') (search after text : Text) :
    Like (likePattern (c :: search) ++ after) text ↔
      ∃ rest, text = c :: rest ∧ Like (likePattern search ++ after) rest := by
  by_cases special : c ∈ ['%', '_', '\\']
  · rw [likePattern_special special]
    exact like_escape_iff
  · rw [likePattern_self special star]
    exact like_self_iff special

/-- Nothing but the characters of the term is escaped in its pattern. -/
theorem wellEscaped_likePattern_append (search : Text) {after : Text} (h : WellEscaped after) :
    WellEscaped (likePattern search ++ after) := by
  induction search with
  | nil => exact h
  | cons c search ih =>
    by_cases special : c ∈ ['%', '_', '\\']
    · rw [likePattern_special special]
      exact .escape special ih
    · have plain : c ≠ '\\' := by
        rintro rfl
        exact special (by decide)
      by_cases star : c = '*'
      · rw [star, likePattern_star]
        exact .self (by decide) ih
      · rw [likePattern_self special star]
        exact .self plain ih

/-! ## The pieces of a term -/

theorem splitOn_star (search : Text) :
    ('*' :: search).splitOn '*' = [] :: search.splitOn '*' := by
  rw [List.splitOn_eq_splitOnP, List.splitOn_eq_splitOnP, List.splitOnP_cons_eq_if_modifyHead]
  rfl

theorem splitOn_cons {c : Char} (star : c ≠ '*') (search : Text) :
    (c :: search).splitOn '*' = (search.splitOn '*').modifyHead (c :: ·) := by
  rw [List.splitOn_eq_splitOnP, List.splitOn_eq_splitOnP, List.splitOnP_cons_eq_if_modifyHead,
    if_neg (by simpa using star)]

/-- In front of further pieces an empty one leaves a gap. -/
theorem spaced_gap_iff {pieces : List Text} (h : pieces ≠ []) {text : Text} :
    Spaced ([] :: pieces) text ↔ ∃ gap rest, text = gap ++ rest ∧ Spaced pieces rest := by
  constructor
  · intro spaced
    cases spaced with
    | last => exact absurd rfl h
    | more _ gap later => exact ⟨gap, _, rfl, later⟩
  · rintro ⟨gap, rest, rfl, later⟩
    exact .more [] gap later

/-- A character in front of the first piece comes first in the text. -/
theorem spaced_modifyHead_iff {c : Char} {pieces : List Text} {text : Text} :
    Spaced (pieces.modifyHead (c :: ·)) text ↔ ∃ rest, text = c :: rest ∧ Spaced pieces rest := by
  cases pieces with
  | nil =>
    constructor
    · nofun
    · rintro ⟨rest, -, none⟩
      cases none
  | cons piece pieces =>
    constructor
    · intro spaced
      cases spaced with
      | last => exact ⟨piece, rfl, .last piece⟩
      | more _ gap later => exact ⟨_, rfl, .more piece gap later⟩
    · rintro ⟨rest, rfl, spaced⟩
      cases spaced with
      | last => exact .last (c :: piece)
      | more _ gap later => exact .more (c :: piece) gap later

/-! ## Texts that match -/

/-- A text begins with the pieces of a term iff it matches the pattern of the term and then
    anything. -/
theorem like_likePattern_iff (search text : Text) :
    Like (likePattern search ++ ['%']) text ↔
      ∃ front, front <+: text ∧ Spaced (search.splitOn '*') front := by
  induction search generalizing text with
  | nil =>
    constructor
    · intro _
      exact ⟨[], List.nil_prefix, .last []⟩
    · intro _
      exact like_percent_iff.2 ⟨text, [], (List.append_nil text).symm, .nil⟩
  | cons c search ih =>
    by_cases star : c = '*'
    · -- The star stands for the gap behind an empty piece.
      rw [star, likePattern_star, splitOn_star]
      have pieces : search.splitOn '*' ≠ [] := List.splitOn_ne_nil '*' search
      constructor
      · intro like
        obtain ⟨run, rest, rfl, later⟩ := like_percent_iff.1 like
        obtain ⟨front, starts, spaced⟩ := (ih rest).1 later
        exact ⟨run ++ front, (List.prefix_append_right_inj run).2 starts,
          (spaced_gap_iff pieces).2 ⟨run, front, rfl, spaced⟩⟩
      · rintro ⟨front, ⟨after, rfl⟩, spaced⟩
        obtain ⟨gap, rest, rfl, later⟩ := (spaced_gap_iff pieces).1 spaced
        have like := (ih (rest ++ after)).2 ⟨rest, List.prefix_append rest after, later⟩
        exact like_percent_iff.2 ⟨gap, rest ++ after, List.append_assoc gap rest after, like⟩
    · rw [like_likePattern_cons star, splitOn_cons star]
      constructor
      · rintro ⟨rest, rfl, like⟩
        obtain ⟨front, starts, spaced⟩ := (ih rest).1 like
        exact ⟨c :: front, List.cons_prefix_cons.2 ⟨rfl, starts⟩,
          spaced_modifyHead_iff.2 ⟨front, rfl, spaced⟩⟩
      · rintro ⟨front, ⟨after, rfl⟩, spaced⟩
        obtain ⟨rest, rfl, later⟩ := spaced_modifyHead_iff.1 spaced
        have like := (ih (rest ++ after)).2 ⟨rest, List.prefix_append rest after, later⟩
        exact ⟨rest ++ after, rfl, like⟩

/-- The value for the placeholder of a term is one pattern. A text matches it iff somewhere in
    the text stand the pieces of the term between its stars, one behind the other with any
    texts between them. In the pattern only characters that mean something are escaped, and no
    backslash stands at its end with nothing to escape. -/
theorem like_parameter_iff (search : Text) :
    let pattern := '%' :: likePattern search ++ ['%']
    (Condition.text search).parameters = [pattern] ∧
      (∀ text, Like pattern text ↔
        ∃ middle, middle <:+: text ∧ Spaced (search.splitOn '*') middle) ∧
      WellEscaped pattern := by
  intro pattern
  have atEnd : WellEscaped ['%'] := .self (by decide) .nil
  refine ⟨rfl, ?_, .self (by decide) (wellEscaped_likePattern_append search atEnd)⟩
  intro text
  constructor
  · intro like
    obtain ⟨before, rest, rfl, later⟩ := like_percent_iff.1 like
    obtain ⟨middle, ⟨after, rfl⟩, spaced⟩ := (like_likePattern_iff search rest).1 later
    exact ⟨middle, ⟨before, after, List.append_assoc before middle after⟩, spaced⟩
  · rintro ⟨middle, ⟨before, after, rfl⟩, spaced⟩
    have later := (like_likePattern_iff search (middle ++ after)).2
      ⟨middle, List.prefix_append middle after, spaced⟩
    exact like_percent_iff.2 ⟨before, middle ++ after, List.append_assoc before middle after, later⟩

/-- A star between characters that mean something in a pattern. -/
example :
    let pattern := '%' :: likePattern "5%*\\_".toList ++ ['%']
    pattern = "%5\\%%\\\\\\_%".toList ∧ Like pattern "at 5% of \\_".toList ∧
      ¬ Like pattern "at 5 of \\_".toList := by
  decide +kernel

end Flashcard.Query
