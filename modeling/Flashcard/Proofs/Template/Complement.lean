import Flashcard.Proofs.Template.Concatenation
import Flashcard.Proofs.Template.Linting
import Flashcard.Proofs.Template.NestingLimit
import Flashcard.Proofs.Template.Printing

/-!
# Blocks around a template

A template that is intact and has room for one more level of nesting can be put into a block of
its own. The close tag of that block closes it, whatever blocks and references the template
holds, and so the page of the block is the page of the template if the condition of the block
is met, and empty if it is not. The two conditions exclude each other.

Results:
* `Content.Fits.of_depth`: how much room contents without errors need.
* `contents_enclose`: a template in a block is read as the block around its contents.
* `body_hidden`: out of sight, nothing is added to the page.
* `compile_complementary`: the pages of both blocks around a template.
-/

namespace Flashcard.Template

open Abstract (IsName printOpen printClose)

/-! ## Templates in a block -/

/-- A template in a block with a condition on a field. -/
def enclose (condition : Condition) (name inner : Text) : Text :=
  '{' :: '{' :: (condition.token.text ++ name ++ ['}', '}']) ++ inner ++
    '{' :: '{' :: '/' :: (name ++ ['}', '}'])

/-- The condition is met by the value of its field. -/
def Condition.isMet (condition : Condition) (value : FieldValue) : Bool :=
  match condition with
  | ifFilled => !value.isEmpty
  | unlessFilled => value.isEmpty

theorem isMet_other {first second : Condition} (differ : first ≠ second) (value : FieldValue) :
    second.isMet value = !first.isMet value := by
  cases first <;> cases second
  · exact absurd rfl differ
  · exact (Bool.not_not _).symm
  · rfl
  · exact absurd rfl differ

/-! ## Room for nesting -/

/-- Contents without errors need as much room as blocks are nested in them. -/
theorem Content.Fits.of_depth {limit room : Nat} {content : Content} (h : content.Fits limit)
    (le : content.depth ≤ room) : content.Fits room := by
  induction h generalizing room with
  | plain => exact .plain
  | field => exact .field
  | @block depth condition reference contents name _ same ih =>
    obtain _ | room := room
    · exact absurd le (Nat.not_succ_le_zero _)
    · have inside := Nat.le_of_succ_le_succ le
      exact .block (fun content mem => ih content mem
        (Nat.le_trans (Content.depth_le_of_mem mem) inside)) same

/-- A template that is intact and has room for a block around it fits into the block. -/
theorem fits_inside {room : Nat} {inner : Text} (intact : Intact (parse (room + 1) inner).tree)
    (shallow : blockDepth (parse (room + 1) inner).tree < room + 1) :
    ∀ content ∈ (parse (room + 1) inner).contents, content.Fits room := by
  intro content mem
  rw [blockDepth_document] at shallow
  have depth := Content.depth_le_of_mem mem
  exact ((fits_parse _ _).2 intact content mem).of_depth (by omega)

/-! ## Reading a template in a block -/

theorem tokenize_enclose (limit : Nat) {inner name : Text} (noBrace : inner.getLast? ≠ some '{')
    (named : IsName name) (condition : Condition) (more : Text) :
    tokenize (enclose condition name inner ++ more) =
      (Content.block condition ⟨[], name⟩ (parse limit inner).contents (some name)).tokens ++
        tokenize more := by
  have written : enclose condition name inner ++ more =
      printOpen condition (Abstract.Chain.ofName named) ++
        (inner ++ (printClose (Abstract.Chain.ofName named) ++ more)) := by
    simp [enclose, printOpen, printClose, Abstract.Chain.print, Abstract.names, Text.join,
      Abstract.Chain.ofName]
  have border : tokenize (inner ++ (printClose (Abstract.Chain.ofName named) ++ more)) =
      tokenize inner ++ tokenize (printClose (Abstract.Chain.ofName named) ++ more) :=
    tokenize_append_brace noBrace _
  rw [written, Abstract.tokenize_open, border, Abstract.tokenize_close, Content.tokens,
    tokensAll_parse]
  simp [Abstract.Chain.ofName]

/-- A template in a block is read as the block around its contents, whatever follows. -/
theorem contents_enclose {limit : Nat} {inner name : Text}
    (intact : Intact (parse limit inner).tree) (noBrace : inner.getLast? ≠ some '{')
    (shallow : blockDepth (parse limit inner).tree < limit) (named : IsName name)
    (condition : Condition) (more : Text) :
    (parse limit (enclose condition name inner ++ more)).contents =
      .block condition ⟨[], name⟩ (parse limit inner).contents (some name) ::
        (parse limit more).contents := by
  obtain _ | room := limit
  · exact absurd shallow (Nat.not_lt_zero _)
  · have inside := readsBack_tokensAll (fits_inside intact shallow)
    have same : Unicode.trim name = Unicode.trim (Reference.mk [] name).name := rfl
    have block := readsBack_block inside condition ⟨[], name⟩ same
    rw [parse, Document.ofTokens, tokenize_enclose _ noBrace named, (block none _).1]
    rfl

/-! ## Rendering a block -/

section Rendering

variable (fields : Fields) (card : Card)

mutual

/-- Out of sight, a content adds nothing to the page. -/
theorem body_render_hidden (start : Nat) : (content : Content) →
    (render fields card false start content).body = []
  | .plain _ | .field _ | .malformed _ => rfl
  | .block _ reference contents _ => body_hidden (reference.openTagSpan start).stop contents

/-- Out of sight, contents add nothing to the page. -/
theorem body_hidden (start : Nat) : (contents : List Content) →
    (renderAll fields card false start contents).body = []
  | [] => rfl
  | content :: rest => by
    show (render fields card false start content).body ++
      (renderAll fields card false (start + content.size) rest).body = []
    rw [body_render_hidden start content, body_hidden _ rest]
    rfl

end

/-- What a block that is closed and asks for a known field adds to a page. -/
theorem render_block {name : Text} {value : FieldValue}
    (known : lookup fields card (Unicode.trim name) = some value) (condition : Condition)
    (contents : List Content) :
    render fields card true 0 (.block condition ⟨[], name⟩ contents (some name)) =
      (renderAll fields card (condition.isMet value) 0 contents).shift (name.size + 5) := by
  have holds : condition.holds fields card ⟨[], name⟩ = condition.isMet value := by
    cases condition <;> simp [Condition.holds, Condition.isMet, isFilled, known]
  have problems : blockProblems fields card 0 ⟨[], name⟩ true = [] := by
    simp [blockProblems, known]
  have behind : ((Reference.mk [] name).openTagSpan 0).stop = 0 + (name.size + 5) := by
    simp [Reference.openTagSpan, Span.stop, Reference.tokens, transformerTokens, Token.text]
  rw [render, Option.isSome_some, problems, holds, Bool.true_and, behind, renderAll_add]
  rfl

variable {limit : Nat} {inner name : Text} {value : FieldValue}

theorem contents_nil : (parse limit []).contents = [] := by
  rw [parse, Document.ofTokens, tokenize_nil, readContents]

theorem renderAll_enclose (intact : Intact (parse limit inner).tree)
    (noBrace : inner.getLast? ≠ some '{')
    (shallow : blockDepth (parse limit inner).tree < limit) (named : IsName name)
    (known : lookup fields card (Unicode.trim name) = some value) (condition : Condition)
    (more : Text) :
    ∃ offset,
      renderAll fields card true 0 (parse limit (enclose condition name inner ++ more)).contents =
        (renderAll fields card (condition.isMet value) 0 (parse limit inner).contents).shift
            (name.size + 5) ++
          (renderAll fields card true 0 (parse limit more).contents).shift offset := by
  rw [contents_enclose intact noBrace shallow named, renderAll, render_block fields card known,
    renderAll_add]
  exact ⟨_, rfl⟩

/-- A template in a block adds its page if the condition is met, and nothing else. -/
theorem body_enclose (intact : Intact (parse limit inner).tree)
    (noBrace : inner.getLast? ≠ some '{')
    (shallow : blockDepth (parse limit inner).tree < limit) (named : IsName name)
    (known : lookup fields card (Unicode.trim name) = some value) (condition : Condition)
    (more : Text) :
    ((parse limit (enclose condition name inner ++ more)).compile fields card).body =
      (if condition.isMet value then ((parse limit inner).compile fields card).body else []) ++
        ((parse limit more).compile fields card).body := by
  obtain ⟨offset, output⟩ :=
    renderAll_enclose fields card intact noBrace shallow named known condition more
  have body := congrArg Output.body output
  cases met : condition.isMet value with
  | true =>
    rw [met] at body
    exact body
  | false =>
    rw [met] at body
    refine Eq.trans body (congrArg (· ++ _) ?_)
    exact body_hidden fields card 0 _

theorem diagnostics_hidden (contents : List Content) :
    (renderAll fields card false 0 contents).diagnostics =
      (renderAll fields card true 0 contents).diagnostics.ofTemplate :=
  (ofTemplate_renderAll (fun _ => Iff.rfl) card card true 0 contents).symm

/-- A template in a block reports its own problems, further behind. -/
theorem diagnostics_enclose (intact : Intact (parse limit inner).tree)
    (noBrace : inner.getLast? ≠ some '{')
    (shallow : blockDepth (parse limit inner).tree < limit) (named : IsName name)
    (known : lookup fields card (Unicode.trim name) = some value) (condition : Condition) :
    let alone := (parse limit inner).compile fields card
    ((parse limit (enclose condition name inner)).compile fields card).diagnostics =
      (if condition.isMet value then alone.diagnostics else alone.diagnostics.ofTemplate).map
        (Diagnostic.shift (name.size + 5)) := by
  intro alone
  obtain ⟨offset, output⟩ :=
    renderAll_enclose fields card intact noBrace shallow named known condition []
  have problems := congrArg Output.diagnostics output
  rw [List.append_nil, contents_nil, Output.diagnostics_append] at problems
  have own := problems.trans (List.append_nil _)
  cases met : condition.isMet value with
  | true =>
    rw [met] at own
    exact own
  | false =>
    rw [met] at own
    exact own.trans (congrArg _ (diagnostics_hidden fields card _))

end Rendering

/-- An intact template that has room for one more level of nesting and does not end in an opening
    brace, in a block with a known field: the page is that of the template if the field is filled
    and empty if it is not, or the other way round, and the two blocks one behind the other make
    the page of the template. The problems are those of the template, as many bytes further behind
    as the open tag has; only those that come with a shown field are gone if it is not shown. -/
theorem compile_complementary {limit : Nat} {inner name : Text} {fields : Fields} {card : Card}
    {value : FieldValue} (intact : Intact (parse limit inner).tree)
    (noBrace : inner.getLast? ≠ some '{')
    (shallow : blockDepth (parse limit inner).tree < limit) (named : IsName name)
    (known : lookup fields card (Unicode.trim name) = some value) :
    let alone := (parse limit inner).compile fields card
    let page condition := (parse limit (enclose condition name inner)).compile fields card
    (page .ifFilled).body = (if value.isEmpty then [] else alone.body) ∧
      (page .unlessFilled).body = (if value.isEmpty then alone.body else []) ∧
      (∀ first second, first ≠ second →
        ((parse limit (enclose first name inner ++ enclose second name inner)).compile
          fields card).body = alone.body) ∧
      ∀ condition, (page condition).diagnostics =
        (if condition.isMet value then alone.diagnostics else alone.diagnostics.ofTemplate).map
          (Diagnostic.shift (name.size + 5)) := by
  intro alone page
  have body (condition : Condition) :
      (page condition).body = if condition.isMet value then alone.body else [] := by
    have both := body_enclose fields card intact noBrace shallow named known condition []
    have nothing : ((parse limit []).compile fields card).body = [] := by
      rw [Document.compile, contents_nil]
      rfl
    rwa [nothing, List.append_nil, List.append_nil] at both
  refine ⟨?_, ?_, fun first second differ => ?_, fun condition => ?_⟩
  · rw [body, show Condition.ifFilled.isMet value = !value.isEmpty from rfl]
    cases value.isEmpty <;> rfl
  · exact body .unlessFilled
  · have behind := body second
    rw [isMet_other differ] at behind
    rw [body_enclose fields card intact noBrace shallow named known first, behind]
    cases first.isMet value with
    | true => exact List.append_nil _
    | false => rfl
  · exact diagnostics_enclose fields card intact noBrace shallow named known condition

/-- A template that itself asks for the field, with spaces around the name. -/
theorem compile_complementary_inner :
    let inner := "\x7b\x7b#A\x7d\x7dx\x7b\x7bA\x7d\x7d\x7b\x7b/A\x7d\x7d!".toList
    let fields := Fields.ofList [("A".toList, ⟨"1".toList, false⟩)]
    let page condition := (parse 2 (enclose condition " A".toList inner)).compile fields .standard
    Intact (parse 2 inner).tree ∧ inner.getLast? ≠ some '{' ∧
      blockDepth (parse 2 inner).tree < 2 ∧ IsName " A".toList ∧
      lookup fields .standard (Unicode.trim " A".toList) = some ⟨"1".toList, false⟩ ∧
      (page .ifFilled).body = ((parse 2 inner).compile fields .standard).body ∧
      (page .unlessFilled).body = [] ∧ (page .ifFilled).body = "x1!".toList := by
  intro inner fields page
  have intact : Intact (parse 2 inner).tree := by decide +kernel
  have noBrace : inner.getLast? ≠ some '{' := by decide
  have shallow : blockDepth (parse 2 inner).tree < 2 := by decide +kernel
  have named : IsName " A".toList := by decide
  have known : lookup fields .standard (Unicode.trim " A".toList) = some ⟨"1".toList, false⟩ := by
    decide +kernel
  obtain ⟨shown, hidden, -⟩ := compile_complementary intact noBrace shallow named known
  exact ⟨intact, noBrace, shallow, named, known, shown, hidden, by decide +kernel⟩

end Flashcard.Template
