import Flashcard.Proofs.Template.Blocks
import Flashcard.Proofs.Template.Closing
import Flashcard.Proofs.Template.NestingLimit
import Flashcard.Proofs.Template.Printing
import Flashcard.Proofs.Template.References

/-!
# Blocks that are left open

A block that is not closed is rendered as if it ended with the template. Where a close tag behind
the template closes the innermost of these blocks, the page stays as it is, and the only problem
that is gone is that this block is not closed. The name of a block is made of characters that a
name can have, so that the close tag can be written whatever the template is.

Results:
* `Content.unclosed_of_closes`: only the innermost block is closed.
* `without_render`: what a close tag for that block changes about the output.
* `isName_of_unclosed`: a block that is left open has a name that can be written.
* `compile_closeInnermost`: a template with a close tag behind it for the innermost of its blocks.
-/

namespace Flashcard.Template

open Abstract (IsName)

/-! ## Blocks that are still open -/

namespace Content

variable {name : Text} {block : OpenBlock}

mutual

/-- In a content, only the innermost block that is not closed is closed. -/
theorem unclosed_of_closes {start : Nat} {content closed : Content} :
    Closes name block start content closed →
      content.unclosed start = closed.unclosed start ++ [block]
  | .here allClosed opened => by
    rw [unclosed, unclosed, allClosed, opened]
    rfl
  | .inside inner => by
    rw [unclosed, unclosed, unclosedAll_of_closesAll inner, List.append_assoc]

/-- In contents in a row, only the innermost block that is not closed is closed. -/
theorem unclosedAll_of_closesAll {start : Nat} {contents closed : List Content} :
    ClosesAll name block start contents closed →
      unclosedAll start contents = unclosedAll start closed ++ [block]
  | .last closes => by
    rw [unclosedAll, unclosedAll, unclosed_of_closes closes, unclosedAll, unclosedAll,
      List.append_nil, List.append_nil]
  | .cons _ closes => by
    rw [unclosedAll, unclosedAll, unclosedAll_of_closesAll closes, List.append_assoc]

end

end Content

/-! ## Output without a problem -/

/-- The output `b` is the output `a` without one of its problems. -/
structure Output.Without (problem : Diagnostic) (a b : Output) : Prop where
  body : b.body = a.body
  diagnostics : ∃ before after, a.diagnostics = before ++ problem :: after ∧
    b.diagnostics = before ++ after

namespace Output.Without

variable {problem : Diagnostic} {a b : Output}

theorem append_left (h : Without problem a b) (c : Output) : Without problem (c ++ a) (c ++ b) := by
  obtain ⟨body, before, after, whole, rest⟩ := h
  refine ⟨congrArg (c.body ++ ·) body, c.diagnostics ++ before, after, ?_, ?_⟩
  · rw [diagnostics_append, whole, List.append_assoc]
  · rw [diagnostics_append, rest, List.append_assoc]

theorem append_right (h : Without problem a b) (c : Output) :
    Without problem (a ++ c) (b ++ c) := by
  obtain ⟨body, before, after, whole, rest⟩ := h
  refine ⟨congrArg (· ++ c.body) body, before, after ++ c.diagnostics, ?_, ?_⟩
  · rw [diagnostics_append, whole, List.append_assoc, List.cons_append]
  · rw [diagnostics_append, rest, List.append_assoc]

end Output.Without

section Rendering

variable (fields : Fields) (card : Card)

/-- Without its close tag, a block has one problem more, behind those of its open tag. -/
theorem blockProblems_unclosed (start : Nat) (reference : Reference) :
    blockProblems fields card start reference false =
      blockProblems fields card start reference true ++ [(reference.opened start).report] := by
  rw [blockProblems, blockProblems, if_neg Bool.false_ne_true, if_pos rfl, List.append_nil]
  rfl

mutual

/-- A close tag for a block in a content takes away the problem that it is not closed. -/
theorem without_render {name : Text} {block : OpenBlock} (visible : Bool) {start : Nat}
    {content closed : Content} : content.Closes name block start closed →
      Output.Without block.report (render fields card visible start content)
        (render fields card visible start closed)
  | @Content.Closes.here _ _ _ condition reference contents _ opened => by
    have own : Output.Without block.report
        ⟨[], blockProblems fields card start reference false⟩
        ⟨[], blockProblems fields card start reference true⟩ := by
      rw [blockProblems_unclosed, opened]
      exact ⟨rfl, _, [], rfl, (List.append_nil _).symm⟩
    exact own.append_right _
  | .inside inner => by
    rw [render, render]
    exact (without_renderAll _ inner).append_left _

theorem without_renderAll {name : Text} {block : OpenBlock} (visible : Bool) {start : Nat}
    {contents closed : List Content} : Content.ClosesAll name block start contents closed →
      Output.Without block.report (renderAll fields card visible start contents)
        (renderAll fields card visible start closed)
  | .last closes => by
    rw [renderAll, renderAll, renderAll, renderAll]
    exact (without_render visible closes).append_right _
  | .cons _ closes => by
    rw [renderAll, renderAll]
    exact (without_renderAll visible closes).append_left _

end

end Rendering

/-! ## Names of blocks that are left open -/

mutual

/-- The name of a block in a content is a token of it, but for the spaces around it. -/
theorem exists_name_of_unclosed {block : OpenBlock} {start : Nat} : (content : Content) →
    block ∈ content.unclosed start →
      ∃ name, Token.name name ∈ content.tokens ∧ block.name = Unicode.trim name
  | .plain _, mem | .field _, mem | .malformed _, mem => nomatch mem
  | .block condition reference contents close, mem => by
    obtain own | inside := List.mem_append.1 mem
    · split at own
      · cases own
      · have opening : Token.name reference.name ∈
            Token.tagStart :: condition.token :: (reference.tokens ++ [.tagEnd]) :=
          List.mem_cons_of_mem _
            (List.mem_cons_of_mem _ (List.mem_append_left _ reference.name_mem_tokens))
        rw [List.mem_singleton.1 own, Content.tokens]
        exact ⟨reference.name, List.mem_append_left _ (List.mem_append_left _ opening), rfl⟩
    · obtain ⟨name, found, same⟩ := exists_name_of_unclosedAll contents inside
      rw [Content.tokens]
      exact ⟨name, List.mem_append_left _ (List.mem_append_right _ found), same⟩

theorem exists_name_of_unclosedAll {block : OpenBlock} {start : Nat} : (contents : List Content) →
    block ∈ Content.unclosedAll start contents →
      ∃ name, Token.name name ∈ Content.tokensAll contents ∧ block.name = Unicode.trim name
  | [], mem => nomatch mem
  | content :: rest, mem => by
    rw [Content.tokensAll]
    obtain here | later := List.mem_append.1 mem
    · obtain ⟨name, found, same⟩ := exists_name_of_unclosed content here
      exact ⟨name, List.mem_append_left _ found, same⟩
    · obtain ⟨name, found, same⟩ := exists_name_of_unclosedAll rest later
      exact ⟨name, List.mem_append_right _ found, same⟩

end

/-- A block that is left open has a name that can be written, if it has a name at all. -/
theorem isName_of_unclosed {limit : Nat} {source : Text} {block : OpenBlock}
    (mem : block ∈ Content.unclosedAll 0 (parse limit source).contents) (named : block.name ≠ []) :
    IsName block.name ∧ Unicode.trim block.name = block.name := by
  obtain ⟨name, found, same⟩ := exists_name_of_unclosedAll _ mem
  rw [tokensAll_parse] at found
  have letters := List.all_eq_true.1 (all_isNameChar_of_mem found)
  refine ⟨⟨named, List.all_eq_true.2 fun c mem => ?_⟩, ?_⟩
  · rw [same] at mem
    exact letters c (mem_of_mem_trim mem)
  · rw [same, trim_trim]

/-! ## Whole templates -/

/-- A template that does not end in an opening brace, in which blocks are not nested too deeply, and
    in which `block` is the innermost of the blocks that are not closed. With a close tag for that
    block behind it, its page is the same, and so are its problems in their order, but for the one
    that this block is not closed: the `outer` blocks are still reported as such, and no others. -/
theorem compile_closeInnermost {limit : Nat} {source : Text} {outer : List OpenBlock}
    {block : OpenBlock} (noBrace : source.getLast? ≠ some '{')
    (shallow : blockDepth (parse limit source).tree ≤ limit)
    (unclosed : Content.unclosedAll 0 (parse limit source).contents = outer ++ [block])
    (named : block.name ≠ []) (fields : Fields) (card : Card) :
    let alone := (parse limit source).compile fields card
    let closed := (parse limit (source ++ '{' :: '{' :: '/' :: (block.name ++ ['}', '}']))).compile
      fields card
    closed.body = alone.body ∧
      (∃ before after, alone.diagnostics = before ++ block.report :: after ∧
        closed.diagnostics = before ++ after) ∧
      closed.diagnostics.unclosed = outer.map OpenBlock.report := by
  intro alone closed
  have last : (Content.unclosedAll 0 (parse limit source).contents).getLast? = some block := by
    rw [unclosed, List.getLast?_concat]
  have mem : block ∈ Content.unclosedAll 0 (parse limit source).contents :=
    List.mem_of_getLast? last
  obtain ⟨isName, trimmed⟩ := isName_of_unclosed mem named
  have closeTag : tokenize ('{' :: '{' :: '/' :: (block.name ++ ['}', '}'])) =
      closeTokens (some block.name) := by
    have written := Abstract.tokenize_close (Abstract.Chain.ofName isName) []
    rwa [tokenize_nil, List.append_nil, List.append_nil] at written
  have tokens := tokenize_append_brace noBrace ('{' :: '/' :: (block.name ++ ['}', '}']))
  rw [closeTag] at tokens
  rw [blockDepth_document] at shallow
  have closes := closing_parse tokens shallow last trimmed
  obtain ⟨body, diagnostics⟩ := without_renderAll fields card true closes
  refine ⟨body, diagnostics, ?_⟩
  have both := Content.unclosedAll_of_closesAll closes
  rw [unclosed] at both
  obtain ⟨left, -⟩ := List.append_inj' both rfl
  rw [left]
  exact unclosed_renderAll fields card true 0 _

/-- A block that is left open in another one, with spaces around its name. The close tag of the
    outer block closes nothing there, and the template ends inside a tag. -/
theorem compile_closeInnermost_nested :
    let source := "\x7b\x7b#A\x7d\x7d\x7b\x7b^ B \x7d\x7dx\x7b\x7b/A\x7d\x7d\x7b\x7bf".toList
    let fields := Fields.ofList [("A".toList, ⟨"1".toList, false⟩)]
    let closed := (parse 2 (source ++ "\x7b\x7b/B\x7d\x7d".toList)).compile fields .standard
    source.getLast? ≠ some '{' ∧ blockDepth (parse 2 source).tree ≤ 2 ∧
      Content.unclosedAll 0 (parse 2 source).contents =
        [⟨⟨0, 6⟩, "A".toList⟩] ++ [⟨⟨6, 8⟩, "B".toList⟩] ∧
      closed.body = ((parse 2 source).compile fields .standard).body ∧ closed.body = "x".toList ∧
      closed.diagnostics.unclosed = [OpenBlock.report ⟨⟨0, 6⟩, "A".toList⟩] ∧
      closed.diagnostics.map (fun diagnostic => (diagnostic.kind, diagnostic.span)) =
        [(.unclosedConditional, ⟨0, 6⟩), (.unknownConditionalField, ⟨9, 3⟩),
          (.syntaxError, ⟨15, 6⟩), (.syntaxError, ⟨21, 3⟩)] := by
  intro source fields closed
  have noBrace : source.getLast? ≠ some '{' := by decide
  have shallow : blockDepth (parse 2 source).tree ≤ 2 := by decide +kernel
  have unclosed : Content.unclosedAll 0 (parse 2 source).contents =
      [⟨⟨0, 6⟩, "A".toList⟩] ++ [⟨⟨6, 8⟩, "B".toList⟩] := by decide +kernel
  obtain ⟨body, -, left⟩ :=
    compile_closeInnermost noBrace shallow unclosed (by decide) fields .standard
  exact ⟨noBrace, shallow, unclosed, body, by decide +kernel, left, by decide +kernel⟩

end Flashcard.Template
