import Flashcard.Diagnostic.Report
import Flashcard.Proofs.Text.Part

/-!
# What a diagnostic is about

A diagnostic has a range of bytes, not the text in it. If the range is that of a part of the
source that is not empty, it can be cut out and marked as it is.

Results:
* `IsAbout.inSource`: the range of a diagnostic that is about a part of the source is sound.
-/

namespace Flashcard

/-- Problems of this kind are problems of a name. -/
def DiagnosticKind.isOfName : DiagnosticKind → Bool
  | unknownTransformer | unknownField | unknownConditionalField | missingClozeOrdinal => true
  | syntaxError | transformersOnConditional | unclosedConditional => false

namespace Diagnostic

/-- The diagnostic is about a part of the source that is not empty. -/
structure IsAbout (diagnostic : Diagnostic) (source part : Text) : Prop where
  nonempty : part ≠ []
  place : source.HasAt diagnostic.span.start part
  size : diagnostic.span.size = part.size
  /-- The message of a problem of a name tells the name. -/
  named : diagnostic.kind.isOfName = true →
    diagnostic.message = diagnostic.kind.message (some (Unicode.trim part))

theorem isAbout_report {kind : DiagnosticKind} (h : kind.isOfName = false) {source part : Text}
    {start : Nat} (nonempty : part ≠ []) (place : source.HasAt start part)
    (detail : Option Text) : (report kind ⟨start, part.size⟩ detail).IsAbout source part where
  nonempty := nonempty
  place := place
  size := rfl
  named name := absurd (h.symm.trans name) Bool.false_ne_true

/-- The range of the diagnostic can be cut out of the source and marked in it. -/
structure InSource (diagnostic : Diagnostic) (source : Text) : Prop where
  start_lt_stop : diagnostic.span.start < diagnostic.span.stop
  stop_le_size : diagnostic.span.stop ≤ source.size
  isBoundary_start : source.IsBoundary diagnostic.span.start
  isBoundary_stop : source.IsBoundary diagnostic.span.stop
  /-- The range can be cut out, and the message of a problem of a name tells what is in it,
      without the blanks around it. -/
  slice : ∃ part, source.slice? diagnostic.span.start diagnostic.span.stop = some part ∧
    (diagnostic.kind.isOfName = true →
      diagnostic.message = diagnostic.kind.message (some (Unicode.trim part)))
  /-- The range is marked as it is, since it is not empty. -/
  markedRange_eq :
    diagnostic.markedRange source.size = (diagnostic.span.start, diagnostic.span.stop)
  marksCharacters : diagnostic.marksCharacters source = true

variable {diagnostic : Diagnostic} {source part : Text}

theorem markedRange_of_pos (h : 0 < diagnostic.span.size) (size : Nat) :
    diagnostic.markedRange size = (diagnostic.span.start, diagnostic.span.stop) :=
  if_neg (Nat.ne_of_gt h)

/-- A mark between characters of the source. -/
theorem marksCharacters_of_isBoundary (h : 0 < diagnostic.span.size)
    (start : source.IsBoundary diagnostic.span.start)
    (stop : source.IsBoundary diagnostic.span.stop) :
    diagnostic.marksCharacters source = true := by
  rw [marksCharacters, markedRange_of_pos h]
  simp only [start.size_upTo, stop.size_upTo, Nat.min_eq_left start.le_size,
    Nat.min_eq_left stop.le_size, decide_true, Bool.and_self]

/-- The range of a diagnostic that is about a part of the source is sound. -/
theorem IsAbout.inSource (h : diagnostic.IsAbout source part) : diagnostic.InSource source := by
  have pos : 0 < diagnostic.span.size := by
    rw [h.size]
    exact Text.size_pos h.nonempty
  have stop : diagnostic.span.stop = diagnostic.span.start + part.size := by
    rw [Span.stop, h.size]
  have isBoundary_stop : source.IsBoundary diagnostic.span.stop := by
    rw [stop]
    exact h.place.isBoundary_stop
  exact {
    start_lt_stop := Nat.lt_add_of_pos_right pos
    stop_le_size := isBoundary_stop.le_size
    isBoundary_start := h.place.isBoundary_start
    isBoundary_stop := isBoundary_stop
    slice := ⟨part, by rw [stop]; exact h.place.slice?_eq, h.named⟩
    markedRange_eq := markedRange_of_pos pos source.size
    marksCharacters := marksCharacters_of_isBoundary pos h.place.isBoundary_start isBoundary_stop }

end Diagnostic

end Flashcard
