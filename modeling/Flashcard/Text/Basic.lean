/-!
# Texts

A text is a list of characters. Positions in a text are byte offsets of its
UTF-8 form, so `size` counts bytes, and an offset is usable only where a
character begins or the text ends.
-/

namespace Flashcard

/-- A text, as the list of its characters. -/
abbrev Text := List Char

namespace Text

/-- Number of bytes of the UTF-8 form. -/
def size : Text → Nat
  | [] => 0
  | c :: rest => c.utf8Size + size rest

@[simp] theorem size_nil : size [] = 0 := rfl

@[simp] theorem size_cons (c : Char) (text : Text) :
    size (c :: text) = c.utf8Size + size text := rfl

@[simp] theorem size_append (a b : Text) : size (a ++ b) = size a + size b := by
  induction a with
  | nil => simp
  | cons c a ih => simp [ih, Nat.add_assoc]

/-- Parts before and after a byte offset; nothing inside a character or
    beyond the end. -/
def splitAt? (offset : Nat) : Text → Option (Text × Text)
  | [] => if offset = 0 then some ([], []) else none
  | c :: rest =>
    if offset = 0 then some ([], c :: rest)
    else if c.utf8Size ≤ offset then
      (splitAt? (offset - c.utf8Size) rest).map fun (before, after) => (c :: before, after)
    else none

/-- The two parts make up the text, and the first has the requested size. -/
theorem splitAt?_eq_some {offset : Nat} {text before after : Text}
    (h : splitAt? offset text = some (before, after)) :
    text = before ++ after ∧ before.size = offset := by
  induction text generalizing offset before with
  | nil =>
    simp only [splitAt?] at h
    split at h <;> simp_all
  | cons c rest ih =>
    simp only [splitAt?] at h
    split at h
    · simp_all
    · split at h
      · obtain ⟨⟨b, a⟩, hb, he⟩ := Option.map_eq_some_iff.1 h
        obtain ⟨rfl, rfl⟩ := Prod.mk.inj he
        obtain ⟨h1, h2⟩ := ih hb
        refine ⟨by rw [h1, List.cons_append], ?_⟩
        rw [size_cons, h2]
        omega
      · simp at h

/-- The text between two byte offsets, when both are usable. -/
def slice? (start stop : Nat) (text : Text) : Option Text := do
  let (_, tail) ← text.splitAt? start
  let (middle, _) ← splitAt? (stop - start) tail
  return middle

/-- Decimal digits of a number. -/
def ofNat (n : Nat) : Text := Nat.toDigits 10 n

/-- The texts one after the other, with `separator` between neighbours. -/
def join (separator : Text) : List Text → Text
  | [] => []
  | [t] => t
  | t :: rest => t ++ separator ++ join separator rest

/-- A run of characters does not depend on what follows it, if it ends before that or if what
    follows does not go on with it. -/
theorem run_append {p : Char → Bool} (text more : Text)
    (h : text.dropWhile p ≠ [] ∨ ∀ c ∈ more.head?, p c = false) :
    (text ++ more).takeWhile p = text.takeWhile p ∧
      (text ++ more).dropWhile p = text.dropWhile p ++ more := by
  induction text with
  | nil =>
    have stop := h.resolve_left (absurd rfl)
    cases more with
    | nil => exact ⟨rfl, rfl⟩
    | cons c more =>
      have stop : ¬ p c = true := Bool.eq_false_iff.1 (stop c rfl)
      exact ⟨List.takeWhile_cons_of_neg stop, List.dropWhile_cons_of_neg stop⟩
  | cons c text ih =>
    by_cases hc : p c = true
    · rw [List.dropWhile_cons_of_pos hc] at h
      obtain ⟨taken, dropped⟩ := ih h
      rw [List.cons_append, List.takeWhile_cons_of_pos hc, List.dropWhile_cons_of_pos hc, taken,
        dropped, List.takeWhile_cons_of_pos hc, List.dropWhile_cons_of_pos hc]
      exact ⟨rfl, rfl⟩
    · rw [List.cons_append, List.takeWhile_cons_of_neg hc, List.dropWhile_cons_of_neg hc,
        List.takeWhile_cons_of_neg hc, List.dropWhile_cons_of_neg hc]
      exact ⟨rfl, rfl⟩

theorem run_of_all {p : Char → Bool} {run more : Text} (all : ∀ c ∈ run, p c = true)
    (stop : ∀ c ∈ more.head?, p c = false) :
    (run ++ more).takeWhile p = run ∧ (run ++ more).dropWhile p = more := by
  rw [List.takeWhile_append_of_pos all, List.dropWhile_append_of_pos all]
  cases more with
  | nil => exact ⟨List.append_nil run, rfl⟩
  | cons c more =>
    have other : ¬ p c = true := Bool.eq_false_iff.1 (stop c rfl)
    rw [List.takeWhile_cons_of_neg other, List.dropWhile_cons_of_neg other, List.append_nil]
    exact ⟨rfl, rfl⟩

end Text

end Flashcard
