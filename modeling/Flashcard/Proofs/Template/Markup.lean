import Flashcard.Proofs.Template.ClozeToken
import Flashcard.Proofs.Template.References
import Flashcard.Proofs.Template.TagRemoval
import Flashcard.Template.Card

/-!
# Field values bring no markup of their own

What a field reference adds to a page is made up of the tags that transformers
write, and of texts that a page shows as they are. Transformers work on what
other ones made, and none of them cuts a tag or an entity in two: braces and
colons, where markers are cut, stand in neither, and tags are removed as a whole.

Results:
* `Markup.of_append`: markup can be cut where no plain characters touch.
* `Markup.cloze`, `Markup.stripTags`, `Transformer.markup_apply`: what
  transformers make of markup is markup.
* `isComposed_field`: what a reference to a field that is not raw adds to a page.
-/

namespace Flashcard.Html

/-! ## What a page shows as it is -/

/-- What stands for the characters that have a meaning in a page. -/
def entities : List Text :=
  ["&amp;".toList, "&lt;".toList, "&gt;".toList, "&quot;".toList, "&#39;".toList]

/-- A page shows the text as it is: it has none of the characters that tags are
    made of, and an entity begins at every `&`. -/
structure IsPlainText (text : Text) : Prop where
  special : ∀ c ∈ text, c ≠ '<' ∧ c ≠ '>' ∧ c ≠ '"' ∧ c ≠ '\''
  entity : ∀ before after, text = before ++ '&' :: after →
    ∃ entity ∈ entities, entity <+: '&' :: after

/-- The tags that transformers write around values, whatever the field. -/
def fixedTags : List Text :=
  ["<span class=\"cloze\">".toList, "</span>".toList, "<div class=\"type-answer\">".toList,
    "</div>".toList, "<details class=\"hint\">".toList, "<summary>".toList,
    "</summary>".toList, "</details>".toList]

/-- The tag of the box in which the value of a field is typed. -/
def inputTag (field : Text) : Text :=
  "<input type=\"text\" class=\"type-answer\" data-field=\"".toList ++ escape field ++
    "\">".toList

/-- The tags that transformers write around the value of a field. -/
def tags (field : Text) : List Text := inputTag field :: fixedTags

/-- The text is made up of tags and of texts that a page shows as they are. -/
def IsComposed (field text : Text) : Prop :=
  ∃ pieces : List Text, text = pieces.flatten ∧
    ∀ piece ∈ pieces, piece ∈ tags field ∨ IsPlainText piece

/-! ## Markup, atom by atom -/

/-- The character has no meaning in a page. -/
def isHarmless (c : Char) : Bool := c ≠ '&' && c ≠ '<' && c ≠ '>' && c ≠ '"' && c ≠ '\''

/-- A piece of markup that cannot be cut. -/
inductive Atom (field : Text) : Text → Prop
  | char {c : Char} : isHarmless c = true → Atom field [c]
  | entity {text : Text} : text ∈ entities → Atom field text
  | tag {text : Text} : text ∈ tags field → Atom field text

/-- A row of atoms. -/
inductive Markup (field : Text) : Text → Prop
  | nil : Markup field []
  | cons {atom rest : Text} : Atom field atom → Markup field rest → Markup field (atom ++ rest)

variable {field : Text}

theorem isPlainText_of_mem_entities {text : Text} (h : text ∈ entities) : IsPlainText text where
  special := by
    have harmless : ∀ text ∈ entities,
        text.all (fun c => c ≠ '<' && c ≠ '>' && c ≠ '"' && c ≠ '\'') = true := by decide
    intro c hc
    have here := List.all_eq_true.1 (harmless text h) c hc
    simpa [and_assoc] using here
  entity := by
    have once : ∀ text ∈ entities, '&' ∉ text.tail := by decide
    intro before after split
    cases before with
    | nil => exact ⟨text, h, split ▸ List.prefix_rfl⟩
    | cons c before =>
      have later : '&' ∈ text.tail := by
        rw [split]
        exact List.mem_append_right _ (List.mem_cons_self ..)
      exact absurd later (once text h)

theorem Atom.isComposed {atom : Text} (h : Atom field atom) :
    atom ∈ tags field ∨ IsPlainText atom := by
  cases h with
  | tag tag => exact .inl tag
  | @char c harmless =>
    simp only [isHarmless, Bool.and_eq_true, decide_eq_true_eq] at harmless
    refine .inr ⟨?_, ?_⟩
    · intro d hd
      obtain rfl := List.mem_singleton.1 hd
      exact ⟨harmless.1.1.1.2, harmless.1.1.2, harmless.1.2, harmless.2⟩
    · intro before after split
      have there : '&' ∈ [c] := split ▸ List.mem_append_right _ (List.mem_cons_self ..)
      exact absurd (List.mem_singleton.1 there).symm harmless.1.1.1.1
  | entity entity => exact .inr (isPlainText_of_mem_entities entity)

theorem Markup.isComposed {text : Text} (h : Markup field text) : IsComposed field text := by
  induction h with
  | nil => exact ⟨[], rfl, fun _ h => absurd h List.not_mem_nil⟩
  | @cons atom rest first _ ih =>
    obtain ⟨pieces, rfl, all⟩ := ih
    refine ⟨atom :: pieces, rfl, ?_⟩
    intro piece hp
    obtain rfl | hp := List.mem_cons.1 hp
    · exact first.isComposed
    · exact all piece hp

theorem Markup.atom {atom : Text} (h : Atom field atom) : Markup field atom := by
  have := Markup.cons h .nil
  rwa [List.append_nil] at this

theorem Markup.tag {tag : Text} (h : tag ∈ fixedTags) : Markup field tag :=
  .atom (.tag (List.mem_cons_of_mem _ h))

theorem Markup.append {a b : Text} (ha : Markup field a) (hb : Markup field b) :
    Markup field (a ++ b) := by
  induction ha with
  | nil => exact hb
  | cons first _ ih =>
    rw [List.append_assoc]
    exact .cons first ih

theorem Markup.of_harmless {text : Text} (h : text.all isHarmless = true) : Markup field text := by
  induction text with
  | nil => exact .nil
  | cons c text ih =>
    rw [List.all_cons, Bool.and_eq_true] at h
    exact .cons (.char h.1) (ih h.2)

theorem Markup.of_escape (text : Text) : Markup field (escape text) := by
  induction text with
  | nil => exact .nil
  | cons c text ih =>
    rw [escape, List.flatMap_cons]
    apply Markup.append _ ih
    unfold escapeChar
    split
    case h_6 amp lt gt quote apostrophe =>
      apply Markup.of_harmless
      simpa [isHarmless] using ⟨⟨⟨⟨amp, lt⟩, gt⟩, quote⟩, apostrophe⟩
    all_goals exact .atom (.entity (by decide))

/-! ## Cutting markup -/

/-- The box has neither braces nor colons when the name of its field has none. -/
theorem all_inputTag (named : field.all Cloze.isPlainChar = true) :
    (inputTag field).all Cloze.isPlainChar = true := by
  have front : "<input type=\"text\" class=\"type-answer\" data-field=\"".toList.all
      Cloze.isPlainChar = true := by decide
  have back : "\">".toList.all Cloze.isPlainChar = true := by decide
  have middle := Cloze.all_escape named
  unfold inputTag
  rw [List.all_append, List.all_append, front, back, middle]
  rfl

/-- An atom is a single character, or it has neither braces nor colons. -/
theorem Atom.single_or_plain (named : field.all Cloze.isPlainChar = true) {atom : Text}
    (h : Atom field atom) : (∃ c, atom = [c]) ∨ atom.all Cloze.isPlainChar = true := by
  cases h with
  | @char c _ => exact .inl ⟨c, rfl⟩
  | entity entity =>
    have plain : ∀ text ∈ entities, text.all Cloze.isPlainChar = true := by decide
    exact .inr (plain atom entity)
  | tag tag =>
    have plain : ∀ text ∈ fixedTags, text.all Cloze.isPlainChar = true := by decide
    obtain own | fixed := List.mem_cons.1 tag
    · exact .inr (own ▸ all_inputTag named)
    · exact .inr (plain atom fixed)

/-- Markup can be cut where no plain characters touch. -/
theorem Markup.of_append (named : field.all Cloze.isPlainChar = true) {a b : Text}
    (border : ∀ c d, [c] <:+ a → [d] <+: b → Cloze.isPlainChar c = true →
      Cloze.isPlainChar d = false)
    (h : Markup field (a ++ b)) : Markup field a ∧ Markup field b := by
  generalize whole : a ++ b = text at h
  induction h generalizing a with
  | nil =>
    obtain ⟨rfl, rfl⟩ := List.append_eq_nil_iff.1 whole
    exact ⟨.nil, .nil⟩
  | @cons atom rest first markup ih =>
    obtain ⟨part, rfl, rfl⟩ | ⟨part, rfl, rfl⟩ := List.append_eq_append_iff.1 whole
    · -- The border is at an end of the first atom: it cannot lie inside.
      by_cases left : a = []
      · rw [left] at first ⊢
        exact ⟨.nil, .cons first markup⟩
      by_cases right : part = []
      · rw [right, List.append_nil] at first
        rw [right]
        exact ⟨.atom first, markup⟩
      have last : [a.getLast left] <:+ a := ⟨a.dropLast, List.dropLast_concat_getLast left⟩
      have next : [part.head right] <+: part ++ rest :=
        ⟨part.tail ++ rest, by rw [← List.append_assoc, List.singleton_append, List.cons_head_tail]⟩
      obtain ⟨c, single⟩ | plain := first.single_or_plain named
      · have one := congrArg List.length single
        have := List.length_pos_iff.2 left
        have := List.length_pos_iff.2 right
        rw [List.length_append, List.length_singleton] at one
        omega
      · rw [List.all_append, Bool.and_eq_true] at plain
        have stop := border _ _ last next (List.all_eq_true.1 plain.1 _ (List.getLast_mem left))
        rw [List.all_eq_true.1 plain.2 _ (List.head_mem right)] at stop
        cases stop
    · obtain ⟨front, back⟩ := ih (a := part)
        (fun c d last => border c d (last.trans (List.suffix_append atom part))) rfl
      exact ⟨.cons first front, back⟩

/-- The tokens of markup are markup. -/
theorem Markup.of_mem_tokenize (named : field.all Cloze.isPlainChar = true) {value : Text}
    (h : Markup field value) : ∀ token ∈ Cloze.tokenize value, Markup field token.text := by
  induction value using Cloze.cutInduction with
  | nil => simp [Cloze.tokenize]
  | cut token rest first ih =>
    obtain ⟨here, later⟩ := h.of_append named first.border
    rw [Cloze.tokenize_cut first]
    intro other mem
    obtain rfl | mem := List.mem_cons.1 mem
    · exact here
    · exact ih later other mem

/-! ## Cloze deletions -/

/-- The parts of a marker are markup. -/
structure MarkerParts (field : Text) (marker : Cloze.Marker) : Prop where
  source : Markup field marker.source
  answer : Markup field marker.answer
  hint : ∀ hint ∈ marker.hint, Markup field hint

theorem MarkerParts.add {marker : Cloze.Marker} (h : MarkerParts field marker)
    {token : Cloze.Token} (ht : Markup field token.text) :
    MarkerParts field (marker.add token) := by
  have source := h.source.append ht
  unfold Cloze.Marker.add
  split
  · exact ⟨source, h.answer, fun _ hint => Option.some.inj hint ▸ .nil⟩
  · rename_i none _
    exact ⟨source, h.answer.append ht, fun _ hint => by simp [none] at hint⟩
  · rename_i hint some
    refine ⟨source, h.answer, fun _ hint => ?_⟩
    rw [← Option.some.inj hint]
    exact (h.hint _ some).append ht

theorem MarkerParts.render {marker : Cloze.Marker} (h : MarkerParts field marker) (ordinal : Nat)
    (side : Side) : Markup field (marker.render ordinal side) := by
  have hint : Markup field (marker.hint.getD []) := by
    cases some : marker.hint with
    | none => exact .nil
    | some hint => exact h.hint hint some
  unfold Cloze.Marker.render
  split
  · refine .append (.append (.tag (by decide)) ?_) (.tag (by decide))
    cases side with
    | answer => exact h.answer
    | question =>
      refine .append (.append (.of_harmless (by decide)) ?_) (.of_harmless (by decide))
      split
      · exact .of_harmless (by decide)
      · exact hint
  · exact h.answer

/-- Rendering tokens that are markup gives markup. -/
theorem Markup.renderTokens (ordinal : Nat) (side : Side) {marker : Option Cloze.Marker}
    {tokens : List Cloze.Token} (pending : ∀ m ∈ marker, MarkerParts field m)
    (all : ∀ token ∈ tokens, Markup field token.text) :
    Markup field (Cloze.renderTokens ordinal side marker tokens) := by
  fun_induction Cloze.renderTokens ordinal side marker tokens with
  | case1 => exact .nil
  | case2 marker => exact (pending marker rfl).source
  | case3 digits rest ih =>
    obtain ⟨opener, all⟩ := List.forall_mem_cons.1 all
    refine ih ?_ all
    rintro _ ⟨⟩
    exact ⟨opener, .nil, fun _ hint => by cases hint⟩
  | case4 token rest _ ih =>
    obtain ⟨first, all⟩ := List.forall_mem_cons.1 all
    exact first.append (ih pending all)
  | case5 marker rest ih =>
    obtain ⟨-, all⟩ := List.forall_mem_cons.1 all
    exact ((pending marker rfl).render ordinal side).append (ih (fun _ h => by cases h) all)
  | case6 marker token rest _ ih =>
    obtain ⟨first, all⟩ := List.forall_mem_cons.1 all
    refine ih ?_ all
    rintro _ ⟨⟩
    exact (pending marker rfl).add first

/-- Rendering the deletions in markup gives markup. -/
theorem Markup.cloze (named : field.all Cloze.isPlainChar = true) {value : Text}
    (h : Markup field value) (ordinal : Nat) (side : Side) :
    Markup field (Cloze.render value ordinal side) :=
  .renderTokens ordinal side (fun _ none => by cases none) (h.of_mem_tokenize named)

/-! ## Stripped tags -/

theorem notMem_escape (text : Text) : '>' ∉ escape text := by
  intro h
  obtain ⟨c, -, hc⟩ := List.mem_flatMap.1 h
  unfold escapeChar at hc
  split at hc
  case h_6 other _ _ => exact other (List.mem_singleton.1 hc).symm
  all_goals exact absurd hc (by decide)

theorem exists_of_mem_tags {tag : Text} (h : tag ∈ tags field) :
    ∃ inside, tag = '<' :: (inside ++ ['>']) ∧ '>' ∉ inside := by
  have fixed : ∀ tag ∈ fixedTags, tag = '<' :: (tag.tail.dropLast ++ ['>']) ∧
      '>' ∉ tag.tail.dropLast := by decide
  obtain own | h := List.mem_cons.1 h
  · have front : "<input type=\"text\" class=\"type-answer\" data-field=\"".toList =
        '<' :: "input type=\"text\" class=\"type-answer\" data-field=\"".toList := by decide
    have back : "\">".toList = ['"', '>'] := by decide
    have once : '>' ∉ "input type=\"text\" class=\"type-answer\" data-field=\"".toList := by decide
    refine ⟨"input type=\"text\" class=\"type-answer\" data-field=\"".toList ++
      escape field ++ ['"'], ?_, ?_⟩
    · have parts := congr (congrArg (· ++ escape field ++ ·) front) back
      rw [own]
      refine parts.trans ?_
      simp only [List.cons_append, List.append_assoc, List.nil_append]
    · simp only [List.mem_append, not_or]
      exact ⟨⟨once, notMem_escape field⟩, by decide⟩
  · exact ⟨_, fixed tag h⟩

/-- Markup without its tags is markup. -/
theorem Markup.stripTags {value : Text} (h : Markup field value) :
    Markup field (Html.stripTags value) := by
  induction h with
  | nil =>
    rw [Html.stripTags]
    exact .nil
  | @cons atom rest first _ ih =>
    cases first with
    | tag tag =>
      obtain ⟨inside, rfl, once⟩ := exists_of_mem_tags tag
      rw [List.cons_append, List.append_assoc, List.singleton_append, stripTags_tag once]
      exact ih
    | @char c harmless =>
      have kept : '<' ∉ [c] := by
        intro h
        rw [← List.mem_singleton.1 h] at harmless
        exact absurd harmless (by decide)
      rw [stripTags_append kept]
      exact .cons (.char harmless) ih
    | entity entity =>
      have kept : ∀ text ∈ entities, '<' ∉ text := by decide
      rw [stripTags_append (kept atom entity)]
      exact .cons (.entity entity) ih

end Flashcard.Html

/-! ## Transformers -/

namespace Flashcard.Template

open Html

variable {field : Text}

/-- What a transformer makes of markup is markup. -/
theorem Transformer.markup_apply (named : field.all Cloze.isPlainChar = true)
    (transformer : Transformer) (card : Card) (transformed : Bool) {value : Text}
    (h : Markup field value) : Markup field (transformer.apply card field transformed value) := by
  cases transformer with
  | cloze => exact h.cloze named card.ordinal card.side
  | text => exact h.stripTags
  | typeIn =>
    have box : Markup field (inputBox field) := .atom (.tag (List.mem_cons_self ..))
    unfold apply
    cases card.side with
    | question =>
      apply Markup.append _ box
      cases transformed with
      | true => exact h
      | false => exact .nil
    | answer => exact .append (.append (.tag (by decide)) h) (.tag (by decide))
  | hint =>
    unfold apply
    by_cases blank : value.all Unicode.isBlank = true
    · rw [if_pos blank]
      exact .nil
    · rw [if_neg blank]
      have opening : "<details class=\"hint\"><summary>Hint</summary>".toList =
          "<details class=\"hint\">".toList ++ ("<summary>".toList ++
            ("Hint".toList ++ "</summary>".toList)) := by decide
      rw [opening]
      refine .append (.append (.append (.tag (by decide)) ?_) h) (.tag (by decide))
      exact .append (.tag (by decide)) (.append (.of_harmless (by decide)) (.tag (by decide)))

theorem Transformer.markup_applyAll (named : field.all Cloze.isPlainChar = true)
    (transformers : List Transformer) (card : Card) {value : Text} (h : Markup field value) :
    Markup field (Transformer.applyAll transformers card field value) := by
  unfold applyAll
  induction transformers with
  | nil => exact h
  | cons transformer rest ih => exact transformer.markup_apply named card _ ih

theorem isPlainChar_of_isNameChar {c : Char} (h : isNameChar c = true) :
    Cloze.isPlainChar c = true := by
  simp only [isNameChar, Bool.and_eq_true, decide_eq_true_eq] at h
  simp [Cloze.isPlainChar, h]

/-- What a reference of a template to a field that is not raw adds to a page, shown
    or hidden, is made up of the tags of transformers and of texts that the page
    shows as they are. -/
theorem isComposed_field (limit : Nat) (source : Text) (fields : Fields) (card : Card)
    (visible : Bool) (start : Nat) {reference : Reference}
    (found : reference ∈ (parse limit source).references)
    (other : Unicode.trim reference.name ≠ frontSideName) {value : FieldValue}
    (stored : fields.get? (Unicode.trim reference.name) = some value)
    (escaped : value.raw = false) :
    IsComposed (Unicode.trim reference.name)
      (render fields card visible start (.field reference)).body := by
  have named : (Unicode.trim reference.name).all Cloze.isPlainChar = true := by
    rw [List.all_eq_true]
    intro c hc
    exact isPlainChar_of_isNameChar (List.all_eq_true.1 (all_isNameChar_trim found) c hc)
  have seen : lookup fields card (Unicode.trim reference.name) = some value := by
    rw [lookup, if_neg other, stored]
  have body : Markup (Unicode.trim reference.name) (fieldBody fields card reference) := by
    unfold fieldBody
    rw [seen]
    cases resolveTransformers reference.transformers with
    | none => exact .nil
    | some transformers =>
      show Markup _ (Transformer.applyAll transformers card _ _)
      rw [escaped]
      exact Transformer.markup_applyAll named transformers card (.of_escape value.text)
  cases visible with
  | true => exact body.isComposed
  | false => exact Markup.nil.isComposed

/-- A deletion with a hint that has special characters, inside a hint and beside a
    box. -/
theorem isComposed_field_hintedCloze :
    let source := "\x7b\x7b#F\x7d\x7d\x7b\x7btype:hint:cloze: F \x7d\x7d\x7b\x7b/F\x7d\x7d".toList
    let reference : Reference :=
      ⟨["type".toList, "hint".toList, "cloze".toList], " F ".toList⟩
    let value : FieldValue := ⟨"\x7b\x7bc1::<i>::\"&\x7d\x7d".toList, false⟩
    let fields := Fields.ofList [("F".toList, value)]
    reference ∈ (parse defaultNesting source).references ∧
      Unicode.trim reference.name ≠ frontSideName ∧
      fields.get? (Unicode.trim reference.name) = some value ∧ value.raw = false ∧
      (render fields .standard true 6 (.field reference)).body =
        "<details class=\"hint\"><summary>Hint</summary>".toList ++
          "<span class=\"cloze\">[&quot;&amp;]</span></details>".toList ++
            "<input type=\"text\" class=\"type-answer\" data-field=\"F\">".toList ∧
      IsComposed "F".toList (render fields .standard true 6 (.field reference)).body := by
  intro source reference value fields
  have found : reference ∈ (parse defaultNesting source).references := by decide +kernel
  have other : Unicode.trim reference.name ≠ frontSideName := by decide +kernel
  have stored : fields.get? (Unicode.trim reference.name) = some value := by decide +kernel
  have name : Unicode.trim reference.name = "F".toList := by decide +kernel
  have composed :=
    isComposed_field defaultNesting source fields .standard true 6 found other stored rfl
  rw [name] at composed
  exact ⟨found, other, stored, rfl, by decide +kernel, composed⟩

end Flashcard.Template
