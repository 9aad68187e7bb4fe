import Flashcard.Proofs.Template.Fitting
import Flashcard.Proofs.Template.Seam

/-!
# Rendering templates put together

A template that is intact and does not end in an opening brace leaves nothing behind:
no tag is open that goes on, and no block that more could belong to. What follows it is
cut, read and rendered as if it stood alone, only further behind. Where both templates
have a text at the seam, these are one text, which is rendered the same.

Results:
* `renderAll_add`: what stands further behind is rendered the same, with its problems
  further behind.
* `exists_border`: the contents of two templates that are put together.
* `compile_append`: templates put together are rendered one after the other.
-/

namespace Flashcard

/-- The range that begins some bytes further behind. -/
def Span.shift (offset : Nat) (span : Span) : Span := ⟨span.start + offset, span.size⟩

/-- The diagnostic for a range some bytes further behind. -/
def Diagnostic.shift (offset : Nat) (diagnostic : Diagnostic) : Diagnostic :=
  { diagnostic with span := diagnostic.span.shift offset }

namespace Template

/-! ## Outputs -/

namespace Output

variable {a b c : Output}

theorem append_assoc (a b c : Output) : a ++ b ++ c = a ++ (b ++ c) := by
  obtain ⟨body, problems⟩ := a
  show Output.mk (body ++ b.body ++ c.body) (problems ++ b.diagnostics ++ c.diagnostics) = _
  rw [List.append_assoc, List.append_assoc]
  rfl

/-- An output for a part of a template that stands some bytes further behind. -/
def shift (offset : Nat) (output : Output) : Output :=
  ⟨output.body, output.diagnostics.map (Diagnostic.shift offset)⟩

theorem shift_append (offset : Nat) (a b : Output) :
    (a ++ b).shift offset = a.shift offset ++ b.shift offset := by
  show Output.mk _ ((a.diagnostics ++ b.diagnostics).map _) = _
  rw [List.map_append]
  rfl

end Output

/-! ## Places further behind -/

theorem placeTransformers_add (offset start : Nat) (transformers : List Text) :
    placeTransformers (start + offset) transformers =
      (placeTransformers start transformers).map (Prod.map id (Span.shift offset)) := by
  induction transformers generalizing start with
  | nil => rfl
  | cons name rest ih =>
    have next : start + offset + name.size + 1 = start + name.size + 1 + offset := by omega
    rw [placeTransformers, placeTransformers, next, ih]
    rfl

theorem unknownTransformers_add (offset start : Nat) (transformers : List Text) :
    unknownTransformers (start + offset) transformers =
      (unknownTransformers start transformers).map (Diagnostic.shift offset) := by
  rw [unknownTransformers, unknownTransformers, placeTransformers_add, List.filterMap_map,
    List.map_filterMap]
  congr 1
  funext ⟨name, span⟩
  simp only [Function.comp_apply, Prod.map, id]
  split <;> rfl

theorem nameSpan_add (reference : Reference) (offset start : Nat) :
    reference.nameSpan (start + offset) = (reference.nameSpan start).shift offset := by
  simp only [Reference.nameSpan, afterTransformers, Span.shift]
  congr 1
  omega

theorem openTagSpan_add (reference : Reference) (offset start : Nat) :
    reference.openTagSpan (start + offset) = (reference.openTagSpan start).shift offset := rfl

/-! ## Rendering further behind -/

variable (fields : Fields) (card : Card)

theorem fieldProblems_add (offset start : Nat) (reference : Reference) :
    fieldProblems fields card (start + offset) reference =
      (fieldProblems fields card start reference).map (Diagnostic.shift offset) := by
  have inside : start + offset + 2 = start + 2 + offset := by omega
  rw [fieldProblems, fieldProblems, List.map_append, inside, unknownTransformers_add,
    nameSpan_add]
  congr 1
  split <;> rfl

theorem missingOrdinal_add (offset start : Nat) (reference : Reference) :
    missingOrdinal fields card (start + offset) reference =
      (missingOrdinal fields card start reference).map (Diagnostic.shift offset) := by
  have inside : start + offset + 2 = start + 2 + offset := by omega
  rw [missingOrdinal, missingOrdinal, inside, nameSpan_add]
  split
  · split <;> rfl
  · rfl

theorem blockProblems_add (offset start : Nat) (reference : Reference) (closed : Bool) :
    blockProblems fields card (start + offset) reference closed =
      (blockProblems fields card start reference closed).map (Diagnostic.shift offset) := by
  have inside : start + offset + 3 = start + 3 + offset := by omega
  rw [blockProblems, blockProblems, List.map_append, List.map_append, inside, nameSpan_add,
    openTagSpan_add]
  congr 1
  · congr 1
    · split <;> rfl
    · split <;> rfl
  · split <;> rfl

mutual

/-- A content further behind is rendered the same, with its problems further behind. -/
theorem render_add (visible : Bool) (offset start : Nat) : (content : Content) →
    render fields card visible (start + offset) content =
      (render fields card visible start content).shift offset
  | .plain _ => rfl
  | .field reference => by
    rw [render, render, renderField, renderField, fieldProblems_add, missingOrdinal_add]
    cases visible with
    | false => rfl
    | true =>
      show Output.mk _ (_ ++ _) = Output.mk _ ((_ ++ _ : Diagnostics).map _)
      rw [List.map_append]
      rfl
  | .block condition reference contents close => by
    have inside : (reference.openTagSpan (start + offset)).stop =
        (reference.openTagSpan start).stop + offset := by
      simp only [Span.stop, Reference.openTagSpan]
      omega
    rw [render, render, Output.shift_append, inside, blockProblems_add,
      renderAll_add _ offset _ contents]
    rfl
  | .malformed _ => rfl

/-- So are contents in a row. -/
theorem renderAll_add (visible : Bool) (offset start : Nat) : (contents : List Content) →
    renderAll fields card visible (start + offset) contents =
      (renderAll fields card visible start contents).shift offset
  | [] => rfl
  | content :: rest => by
    have behind : start + offset + content.size = start + content.size + offset := by omega
    rw [renderAll, renderAll, Output.shift_append, render_add visible offset start content, behind,
      renderAll_add visible offset _ rest]

end

theorem renderAll_append (visible : Bool) (start : Nat) (a b : List Content) :
    renderAll fields card visible start (a ++ b) =
      renderAll fields card visible start a ++
        renderAll fields card visible (start + Content.sizeAll a) b := by
  induction a generalizing start with
  | nil => rfl
  | cons content a ih =>
    rw [List.cons_append, renderAll, ih, renderAll, Output.append_assoc, Content.sizeAll,
      Nat.add_assoc]

/-! ## Contents at the border -/

/-- A text as contents, if it is not empty. -/
def plainContents (text : Text) : List Content := if text = [] then [] else [.plain text]

theorem sizeAll_plainContents (text : Text) : Content.sizeAll (plainContents text) = text.size := by
  unfold plainContents
  split
  · rename_i empty
    rw [empty]
    rfl
  · rfl

theorem renderAll_plainContents (visible : Bool) (start : Nat) (text : Text) :
    renderAll fields card visible start (plainContents text) =
      ⟨if visible then text else [], []⟩ := by
  unfold plainContents
  split
  · rename_i empty
    rw [empty, ite_self]
    rfl
  · show Output.mk (_ ++ []) _ = _
    rw [List.append_nil]
    rfl

/-- Texts that are one text are rendered as they are one by one. -/
theorem renderAll_joined (visible : Bool) (start : Nat) (a b : Text) (contents : List Content) :
    renderAll fields card visible start (plainContents (a ++ b) ++ contents) =
      renderAll fields card visible start (plainContents a) ++
        renderAll fields card visible (start + a.size) (plainContents b ++ contents) := by
  have joined : Output.mk (if visible then a ++ b else []) [] =
      Output.mk (if visible then a else []) [] ++ Output.mk (if visible then b else []) [] := by
    cases visible <;> rfl
  rw [renderAll_append, renderAll_append, renderAll_plainContents, renderAll_plainContents,
    renderAll_plainContents, sizeAll_plainContents, sizeAll_plainContents, Text.size_append,
    joined, Output.append_assoc, Nat.add_assoc]

theorem readsBack_plainRun (reader : TagReader) (text : Text) :
    reader.ReadsBack (plainRun text) (plainContents text) := by
  unfold plainRun plainContents
  split
  · exact fun enclosing more => ⟨rfl, rfl⟩
  · exact readsBack_plain text

theorem Content.Fits.ends {depth : Nat} {content : Content} (h : content.Fits depth) :
    (∃ text, content = .plain text) ∨ ∃ front, content.tokens = front ++ [.tagEnd] := by
  cases h with
  | @plain _ text => exact .inl ⟨text, rfl⟩
  | @field _ reference => exact .inr ⟨.tagStart :: reference.tokens, rfl⟩
  | @block _ condition reference contents name =>
    refine .inr ⟨.tagStart :: condition.token :: (reference.tokens ++ [.tagEnd]) ++
      tokensAll contents ++ [.closeTagStart, .name name], ?_⟩
    rw [Content.tokens, closeTokens, List.append_assoc _ [Token.closeTagStart, .name name]]
    rfl

/-- What follows contents that fit stands outside tags. -/
theorem insideBehind_tokensAll {depth : Nat} {contents : List Content}
    (h : ∀ content ∈ contents, content.Fits depth) :
    insideBehind false (Content.tokensAll contents) = false := by
  induction contents with
  | nil => rfl
  | cons content rest ih =>
    obtain ⟨first, later⟩ := List.forall_mem_cons.1 h
    rw [Content.tokensAll, insideBehind_append]
    have outside : insideBehind false content.tokens = false := by
      obtain ⟨text, rfl⟩ | ⟨front, tokens⟩ := first.ends
      · rfl
      · rw [tokens, insideBehind_append]
        rfl
    rw [outside]
    exact ih later

/-- A text at the end of the tokens is the last of the contents. -/
theorem exists_plainContents {depth : Nat} {contents : List Content}
    (h : ∀ content ∈ contents, content.Fits depth) {front : List Token} {text : Text}
    (tokens : Content.tokensAll contents = front ++ plainRun text) :
    ∃ others, contents = others ++ plainContents text ∧ Content.tokensAll others = front := by
  unfold plainRun at tokens
  unfold plainContents
  split at tokens
  · rename_i empty
    rw [if_pos empty]
    exact ⟨contents, (List.append_nil contents).symm, by rw [tokens, List.append_nil]⟩
  · rename_i some
    rw [if_neg some]
    obtain rfl | ⟨others, content, rfl⟩ := List.eq_nil_or_concat contents
    · simp [Content.tokensAll] at tokens
    · rw [List.concat_eq_append] at h tokens ⊢
      rw [Content.tokensAll_append, Content.tokensAll, Content.tokensAll, List.append_nil] at tokens
      have last := h content (List.mem_append_right _ (List.mem_singleton.2 rfl))
      obtain ⟨own, rfl⟩ | ⟨inner, ending⟩ := last.ends
      · obtain ⟨same, text⟩ := List.append_inj' tokens rfl
        cases text
        exact ⟨others, rfl, same⟩
      · rw [ending, ← List.append_assoc] at tokens
        obtain ⟨-, text⟩ := List.append_inj' tokens rfl
        cases text

/-- The contents of two templates that are put together: a text at the end of the first
    and one at the beginning of the second are one text. -/
theorem exists_border {limit : Nat} {a : Text} (intact : Intact (parse limit a).tree)
    (noBrace : a.getLast? ≠ some '{') (b : Text) :
    ∃ front text next rest, (parse limit a).contents = front ++ plainContents text ∧
      (parse limit b).contents = plainContents next ++ rest ∧
      (parse limit (a ++ b)).contents = front ++ (plainContents (text ++ next) ++ rest) := by
  have fits := (fits_parse limit a).2 intact
  have tokens := tokensAll_parse limit a
  have outside := insideBehind_tokensAll fits
  rw [tokens] at outside
  obtain ⟨front, text, seam⟩ := exists_seam false a outside noBrace
  obtain ⟨others, contents, rfl⟩ := exists_plainContents fits (tokens.trans seam.tokens)
  rw [contents, List.forall_mem_append] at fits
  refine ⟨others, text, b.takeWhile (· ≠ '{'),
    (readContents (readElement limit) none (tokenize (b.dropWhile (· ≠ '{')))).value, contents,
    ?_, ?_⟩
  · have cut := tokenize_run (show '{' ∉ ([] : Text) by simp) b
    rw [List.nil_append, List.nil_append] at cut
    rw [parse, Document.ofTokens, cut, (readsBack_plainRun _ _ none _).1]
  · rw [parse, Document.ofTokens, tokenize, seam.behind, (readsBack_tokensAll fits.1 none _).1,
      tokenize_run seam.noBrace, (readsBack_plainRun _ _ none _).1]

/-- Behind a template that is intact and does not end in an opening brace, any template
    is rendered as if it stood alone: the page is that of the one and then that of the
    other, and so are the problems, those of the second further behind. -/
theorem compile_append {limit : Nat} {a : Text} (intact : Intact (parse limit a).tree)
    (noBrace : a.getLast? ≠ some '{') (b : Text) (fields : Fields) (card : Card) :
    ((parse limit (a ++ b)).compile fields card).body =
        ((parse limit a).compile fields card).body ++ ((parse limit b).compile fields card).body ∧
      ((parse limit (a ++ b)).compile fields card).diagnostics =
        ((parse limit a).compile fields card).diagnostics ++
          ((parse limit b).compile fields card).diagnostics.map (Diagnostic.shift a.size) := by
  obtain ⟨front, text, next, rest, first, second, both⟩ := exists_border intact noBrace b
  have size : Content.sizeAll front + text.size = a.size := by
    have whole : Content.sizeAll (parse limit a).contents = a.size := by
      rw [Content.sizeAll_eq, show Content.tokensAll (parse limit a).contents = tokenize a from
        Document.tokens_ofTokens limit (tokenize a), textAll_tokenize]
    have parts : Content.sizeAll (front ++ plainContents text) =
        Content.sizeAll front + Content.sizeAll (plainContents text) := by
      rw [Content.sizeAll_eq, Content.tokensAll_append, Token.textAll_append, Text.size_append,
        Content.sizeAll_eq, Content.sizeAll_eq]
    rw [← whole, first, parts, sizeAll_plainContents]
  have behind : renderAll fields card true a.size (parse limit b).contents =
      (renderAll fields card true 0 (parse limit b).contents).shift a.size := by
    have shifted := renderAll_add fields card true a.size 0 (parse limit b).contents
    rwa [Nat.zero_add] at shifted
  have output : renderAll fields card true 0 (parse limit (a ++ b)).contents =
      renderAll fields card true 0 (parse limit a).contents ++
        (renderAll fields card true 0 (parse limit b).contents).shift a.size := by
    rw [← behind, both, first, second, renderAll_append, renderAll_joined,
      renderAll_append fields card true 0 front, Nat.zero_add, size, Output.append_assoc]
  simp only [Document.compile, output]
  exact ⟨rfl, rfl⟩

/-- A block with a text behind it, and in front of a close tag for that block a text that
    goes on. Characters of two bytes stand in both. -/
theorem compile_append_closeTag :
    let a := "\x7b\x7b#Front\x7d\x7d\x7b \x7d\x7b\x7b/Front \x7d\x7dé".toList
    let b := "ü\x7b\x7b/Front\x7d\x7d\x7b\x7b^Back\x7d\x7d!".toList
    let fields := Fields.ofList [("Front".toList, ⟨"1".toList, false⟩)]
    let page := (parse 1 (a ++ b)).compile fields .standard
    Intact (parse 1 a).tree ∧ a.getLast? ≠ some '{' ∧
      page.body = ((parse 1 a).compile fields .standard).body ++
        ((parse 1 b).compile fields .standard).body ∧
      page.diagnostics = ((parse 1 a).compile fields .standard).diagnostics ++
        ((parse 1 b).compile fields .standard).diagnostics.map (Diagnostic.shift 26) ∧
      page.body = "\x7b \x7déü!".toList ∧
      page.diagnostics.map (·.span) = [⟨28, 10⟩, ⟨41, 4⟩, ⟨38, 9⟩] := by
  intro a b fields page
  have intact : Intact (parse 1 a).tree := by decide +kernel
  have noBrace : a.getLast? ≠ some '{' := by decide
  obtain ⟨body, problems⟩ := compile_append intact noBrace b fields .standard
  exact ⟨intact, noBrace, body, problems, by decide +kernel, by decide +kernel⟩

end Template

end Flashcard
