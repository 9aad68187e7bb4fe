/-!
# Work that can fail

Reading a command line and running a command are work in steps, of which each can fail. When the
whole is done every step was done, and when it failed one of the steps did, behind those that
were done.

Results:
* `bind_eq_ok`, `bind_eq_error`: work in two steps.
* `mapError_eq_error`: work whose failures get another name.
-/

namespace Flashcard.CommandLine

variable {ε ε' α β : Type}

/-- Work in two steps is done when both are. -/
theorem bind_eq_ok {first : Except ε α} {next : α → Except ε β} {result : β}
    (h : first >>= next = .ok result) :
    ∃ value, first = .ok value ∧ next value = .ok result := by
  cases first with
  | error failure => cases h
  | ok value => exact ⟨value, rfl, h⟩

/-- Work in two steps fails in the first or, behind it, in the second. -/
theorem bind_eq_error {first : Except ε α} {next : α → Except ε β} {failure : ε}
    (h : first >>= next = .error failure) :
    first = .error failure ∨ ∃ value, first = .ok value ∧ next value = .error failure := by
  cases first with
  | error other =>
    cases h
    exact .inl rfl
  | ok value => exact .inr ⟨value, rfl, h⟩

/-- Work fails under another name when it fails. -/
theorem mapError_eq_error {work : Except ε α} {name : ε → ε'} {failure : ε'}
    (h : work.mapError name = .error failure) :
    ∃ fault, work = .error fault ∧ failure = name fault := by
  cases work with
  | ok value => cases h
  | error fault =>
    cases h
    exact ⟨fault, rfl, rfl⟩

end Flashcard.CommandLine
