import Flashcard.Text.Quoted

/-!
# Reading quoted texts

A quoted text keeps every character of the text: as it is, behind a backslash, or as its code
point in hexadecimal between braces. So it can be read back, and since no line end is kept as
it is, it stands on one line whatever the text is.

Results:
* `unescape_quoteChar`: a quoted character is read as the character.
* `unquote_quote`: a quoted text is read as the text.
* `not_isLineEnd_quote`: a quoted text has no line ends.
-/

namespace Flashcard.Text

/-! ## Reading back -/

/-- Value of a hexadecimal digit. -/
def hexDigit (c : Char) : Nat := if c.isDigit then c.toNat - '0'.toNat else c.toNat - 'a'.toNat + 10

/-- Character of a letter behind a backslash; quotes and backslashes stand for themselves. -/
def ofShortEscape (c : Char) : Char :=
  if c = '0' then '\x00'
  else if c = 't' then '\t'
  else if c = 'n' then '\n'
  else if c = 'r' then '\r'
  else c

/-- How much of an escape is read. -/
inductive Escape where
  | nothing
  | backslash
  /-- The letter of a code point, with its brace to come. -/
  | letter
  /-- Digits of a code point, with their value. -/
  | digits (value : Nat)

/-- The text of characters that are printed with escapes. -/
def unescape : Escape → Text → Text
  | _, [] => []
  | .nothing, c :: rest =>
    if c = '\\' then unescape .backslash rest else c :: unescape .nothing rest
  | .backslash, c :: rest =>
    if c = 'u' then unescape .letter rest else ofShortEscape c :: unescape .nothing rest
  | .letter, _ :: rest => unescape (.digits 0) rest
  | .digits value, c :: rest =>
    if c = '}' then Char.ofNat value :: unescape .nothing rest
    else unescape (.digits (16 * value + hexDigit c)) rest

/-- The text that is quoted. -/
def unquote (quoted : Text) : Text := unescape .nothing quoted.tail.dropLast

/-! ## Code points -/

theorem hexDigit_digitChar : ∀ n < 16, hexDigit n.digitChar = n ∧ n.digitChar ≠ '}' := by
  decide

theorem unescape_toDigits (n : Nat) (more : Text) :
    unescape (.digits 0) (Nat.toDigits 16 n ++ more) = unescape (.digits n) more := by
  induction n using Nat.strongRecOn generalizing more with
  | ind n ih =>
    have digit {value last : Nat} (h : last < 16) (more : Text) :
        unescape (.digits value) (last.digitChar :: more) =
          unescape (.digits (16 * value + last)) more := by
      obtain ⟨value_eq, notBrace⟩ := hexDigit_digitChar last h
      rw [unescape, if_neg notBrace, value_eq]
    by_cases small : n < 16
    · rw [Nat.toDigits_of_lt_base small, List.singleton_append, digit small, Nat.mul_zero,
        Nat.zero_add]
    · have large : 16 ≤ n := Nat.le_of_not_lt small
      rw [Nat.toDigits_of_base_le (by decide) large, List.append_assoc, ih (n / 16) (by omega),
        List.singleton_append, digit (Nat.mod_lt n (by decide)), Nat.div_add_mod]

theorem mem_toDigits {n : Nat} {c : Char} (h : c ∈ Nat.toDigits 16 n) :
    ∃ digit < 16, c = digit.digitChar := by
  induction n using Nat.strongRecOn with
  | ind n ih =>
    by_cases small : n < 16
    · rw [Nat.toDigits_of_lt_base small] at h
      exact ⟨n, small, List.mem_singleton.1 h⟩
    · have large : 16 ≤ n := Nat.le_of_not_lt small
      rw [Nat.toDigits_of_base_le (by decide) large, List.mem_append] at h
      obtain front | last := h
      · exact ih (n / 16) (by omega) front
      · exact ⟨n % 16, Nat.mod_lt n (by decide), List.mem_singleton.1 last⟩

/-! ## Characters -/

/-- A quoted character is read as the character. -/
theorem unescape_quoteChar (c : Char) (more : Text) :
    unescape .nothing (quoteChar c ++ more) = c :: unescape .nothing more := by
  unfold quoteChar
  split
  iterate 6 rfl
  rename_i _ _ _ _ backslash _
  split
  · rw [List.singleton_append, unescape, if_neg backslash]
  · rw [List.append_assoc]
    show unescape (.digits 0) (Nat.toDigits 16 c.toNat ++ ('}' :: more)) = _
    rw [unescape_toDigits, unescape, if_pos rfl, Char.ofNat_toNat]

/-- The character ends a line, or belongs to the end of one. -/
def IsLineEnd (c : Char) : Prop := c = '\n' ∨ c = '\r'

theorem not_isLineEnd_digitChar : ∀ n < 16, ¬ IsLineEnd n.digitChar := by
  unfold IsLineEnd
  decide

/-- Among what a character is quoted by is no line end. -/
theorem not_isLineEnd_quoteChar {c d : Char} (h : d ∈ quoteChar c) : ¬ IsLineEnd d := by
  have short {a b : Char} (ha : ¬ IsLineEnd a) (hb : ¬ IsLineEnd b) (h : d ∈ [a, b]) :
      ¬ IsLineEnd d := by
    simp only [List.mem_cons, List.not_mem_nil, or_false] at h
    obtain rfl | rfl := h
    · exact ha
    · exact hb
  unfold quoteChar at h
  split at h
  iterate 6 exact short (by simp [IsLineEnd]) (by simp [IsLineEnd]) h
  rename_i _ _ feed carriage _ _
  split at h
  · rw [List.mem_singleton.1 h]
    rintro (rfl | rfl)
    · exact feed rfl
    · exact carriage rfl
  · obtain front | last := List.mem_append.1 h
    · obtain frame | digits := List.mem_append.1 front
      · simp only [List.mem_cons, List.not_mem_nil, or_false] at frame
        obtain rfl | rfl | rfl := frame <;> simp [IsLineEnd]
      · obtain ⟨n, bound, rfl⟩ := mem_toDigits digits
        exact not_isLineEnd_digitChar n bound
    · rw [List.mem_singleton.1 last]
      simp [IsLineEnd]

/-! ## Texts -/

theorem quote_ne_nil (text : Text) : text.quote ≠ [] := List.cons_ne_nil _ _

/-- A quoted text is read as the text. -/
theorem unquote_quote (text : Text) : unquote text.quote = text := by
  have body (text : Text) : unescape .nothing (text.flatMap quoteChar) = text := by
    induction text with
    | nil => rfl
    | cons c text ih => rw [List.flatMap_cons, unescape_quoteChar, ih]
  rw [unquote, quote, List.cons_append, List.tail_cons, List.dropLast_concat, body]

/-- A quoted text stands on one line. -/
theorem not_isLineEnd_quote {text : Text} {c : Char} (h : c ∈ text.quote) : ¬ IsLineEnd c := by
  rw [quote, List.mem_append, List.mem_cons, List.mem_flatMap] at h
  obtain (rfl | ⟨d, -, mem⟩) | last := h
  · simp [IsLineEnd]
  · exact not_isLineEnd_quoteChar mem
  · rw [List.mem_singleton.1 last]
    simp [IsLineEnd]

end Flashcard.Text
