import Flashcard.Template.Html
import Mathlib.Data.List.Basic

/-!
# Removing tags

A text can be divided at its tags: each one begins at the first `<` that still has a `>`
behind it, and ends with the first such `>`. What is left without them has no tag, so that
nothing comes together where one was cut out, and removing tags once more changes nothing.

Results:
* `exists_division`: every text can be divided at its tags.
* `Division.stripTags_text`: what is left when tags are removed, whatever the division.
* `Division.tagFree_kept`: no tag is in what is left.
* `stripTags_append_unended`: where no `>` is in the end of a text, the end stays as it is.
* `stripTags_cuts_tags`: all tags go, and nothing else does.
-/

namespace Flashcard.Html

/-! ## Texts without tags -/

/-- No `<` has a `>` anywhere behind it. -/
def TagFree (text : Text) : Prop := ¬ ['<', '>'].Sublist text

instance : DecidablePred TagFree := fun text =>
  inferInstanceAs (Decidable (¬ ['<', '>'].Sublist text))

theorem tagFree_cons {c : Char} {text : Text} :
    TagFree (c :: text) ↔ (c = '<' → '>' ∉ text) ∧ TagFree text := by
  rw [TagFree, List.cons_sublist_cons', List.singleton_sublist, not_or, not_and, and_comm,
    eq_comm, ← TagFree]

theorem tagFree_of_notMem {text : Text} (h : '>' ∉ text) : TagFree text := fun tag =>
  h (tag.subset (by decide))

theorem tagFree_append {before : Text} (plain : '<' ∉ before) (text : Text) :
    TagFree (before ++ text) ↔ TagFree text := by
  induction before with
  | nil => rfl
  | cons c before ih =>
    rw [List.mem_cons, not_or] at plain
    rw [List.cons_append, tagFree_cons, ih plain.2]
    exact and_iff_right fun same => absurd same.symm plain.1

/-- Only a `>` can make a tag of what stands in front of it. -/
theorem TagFree.append {text behind : Text} (h : TagFree text) (unended : '>' ∉ behind) :
    TagFree (text ++ behind) := by
  induction text with
  | nil => exact tagFree_of_notMem unended
  | cons c text ih =>
    obtain ⟨first, later⟩ := tagFree_cons.1 h
    have unclosed (same : c = '<') : '>' ∉ text ++ behind := by
      rw [List.mem_append, not_or]
      exact ⟨first same, unended⟩
    exact tagFree_cons.2 ⟨unclosed, ih later⟩

/-! ## Texts divided at their tags -/

/-- A text, divided at its tags. -/
inductive Division where
  /-- There is no tag to cut out. -/
  | rest (text : Text) (tagFree : TagFree text)
  /-- A tag, with the text in front of it and what follows. The tag begins with the first
      `<`, and ends with the first `>` behind that. -/
  | tag (before inside : Text) (plain : '<' ∉ before) (unended : '>' ∉ inside)
      (later : Division)

namespace Division

/-- The text that is divided. -/
def text : Division → Text
  | rest text _ => text
  | tag before inside _ _ later => before ++ '<' :: (inside ++ '>' :: later.text)

/-- The text with its tags cut out. -/
def kept : Division → Text
  | rest text _ => text
  | tag before _ _ _ later => before ++ later.kept

/-- No tag comes together where others were cut out. -/
theorem tagFree_kept (division : Division) : TagFree division.kept := by
  induction division with
  | rest text tagFree => exact tagFree
  | tag before inside plain unended later ih => exact (tagFree_append plain _).2 ih

/-- A division of the text with more behind it that ends no tag. -/
def extend (behind : Text) (unended : '>' ∉ behind) : Division → Division
  | rest text tagFree => rest (text ++ behind) (tagFree.append unended)
  | tag before inside plain once later =>
    tag before inside plain once (later.extend behind unended)

theorem text_extend {behind : Text} (unended : '>' ∉ behind) (division : Division) :
    (division.extend behind unended).text = division.text ++ behind := by
  induction division with
  | rest => rfl
  | tag before inside _ _ later ih => simp [extend, text, ih]

theorem kept_extend {behind : Text} (unended : '>' ∉ behind) (division : Division) :
    (division.extend behind unended).kept = division.kept ++ behind := by
  induction division with
  | rest => rfl
  | tag before inside _ _ later ih => rw [extend, kept, ih, kept, List.append_assoc]

end Division

/-- A text that has a tag begins with plain characters and a tag. -/
theorem exists_tag_of_not_tagFree {text : Text} (h : ¬ TagFree text) :
    ∃ before inside later, '<' ∉ before ∧ '>' ∉ inside ∧
      text = before ++ '<' :: (inside ++ '>' :: later) := by
  have tag : ['<', '>'].Sublist text := Decidable.not_not.1 h
  obtain ⟨before, behind, rfl, plain⟩ :=
    List.eq_append_cons_of_mem (tag.subset List.mem_cons_self)
  -- The tag found need not begin at the first `<`, but it ends behind that all the same.
  have ended : '>' ∈ behind := by
    rw [tagFree_append plain, tagFree_cons] at h
    refine Decidable.byContradiction fun unended => h ⟨fun _ => unended, ?_⟩
    exact tagFree_of_notMem unended
  obtain ⟨inside, later, rfl, unended⟩ := List.eq_append_cons_of_mem ended
  exact ⟨before, inside, later, plain, unended, rfl⟩

/-- Every text can be divided at its tags. -/
theorem exists_division (text : Text) : ∃ division : Division, division.text = text := by
  induction length : text.length using Nat.strongRecOn generalizing text with
  | ind n ih =>
    by_cases tagFree : TagFree text
    · exact ⟨.rest text tagFree, rfl⟩
    · obtain ⟨before, inside, later, plain, unended, rfl⟩ := exists_tag_of_not_tagFree tagFree
      have shorter : later.length < n := by
        simp only [List.length_append, List.length_cons] at length
        omega
      obtain ⟨division, rfl⟩ := ih later.length shorter later rfl
      exact ⟨.tag before inside plain unended division, rfl⟩

/-! ## What is left of a text -/

theorem stripTags_append {text : Text} (h : '<' ∉ text) (rest : Text) :
    stripTags (text ++ rest) = text ++ stripTags rest := by
  induction text with
  | nil => rfl
  | cons c text ih =>
    rw [List.mem_cons, not_or] at h
    rw [List.cons_append, stripTags, if_neg (Ne.symm h.1), ih h.2, List.cons_append]

/-- A tag goes as a whole. -/
theorem stripTags_tag {inside : Text} (h : '>' ∉ inside) (rest : Text) :
    stripTags ('<' :: (inside ++ '>' :: rest)) = stripTags rest := by
  have closed : (inside ++ '>' :: rest).contains '>' = true := by simp
  have plain : ∀ c ∈ inside, decide (c ≠ '>') = true := by
    intro c hc
    exact decide_eq_true fun same => h (same ▸ hc)
  have after : afterTag (inside ++ '>' :: rest) = rest := by
    rw [afterTag, List.dropWhile_append_of_pos plain]
    simp
  rw [stripTags, if_pos rfl, if_pos closed, after]

theorem TagFree.stripTags {text : Text} (h : TagFree text) : Html.stripTags text = text := by
  fun_induction Html.stripTags text with
  | case1 => rfl
  | case2 rest ended => exact absurd (List.contains_iff_mem.1 ended) ((tagFree_cons.1 h).1 rfl)
  | case3 => rfl
  | case4 c rest _ ih => rw [ih (tagFree_cons.1 h).2]

/-- Removing tags leaves what any division at the tags keeps. -/
theorem Division.stripTags_text (division : Division) :
    stripTags division.text = division.kept := by
  induction division with
  | rest text tagFree => exact tagFree.stripTags
  | tag before inside plain unended later ih =>
    rw [text, stripTags_append plain, stripTags_tag unended, ih, kept]

/-- The end of a text stays as it is where it ends no tag. -/
theorem stripTags_append_unended (front : Text) {behind : Text} (unended : '>' ∉ behind) :
    stripTags (front ++ behind) = stripTags front ++ behind := by
  obtain ⟨division, rfl⟩ := exists_division front
  rw [← division.text_extend unended, Division.stripTags_text, Division.stripTags_text,
    division.kept_extend unended]

/-- Of a text without its tags, no `<` has a `>` behind it, and there is nothing more to
    remove. It is the text with tags cut out, each from a `<` to the first `>` behind it;
    and a `<` without such a `>` is kept, with all that follows. -/
theorem stripTags_cuts_tags (html : Text) :
    TagFree (stripTags html) ∧ stripTags (stripTags html) = stripTags html ∧
      (∃ division : Division, division.text = html ∧ division.kept = stripTags html) ∧
      ∀ front behind : Text, html = front ++ '<' :: behind → '>' ∉ behind →
        stripTags html = stripTags front ++ '<' :: behind := by
  obtain ⟨division, rfl⟩ := exists_division html
  have tagFree : TagFree (stripTags division.text) := by
    rw [division.stripTags_text]
    exact division.tagFree_kept
  refine ⟨tagFree, tagFree.stripTags, ⟨division, rfl, division.stripTags_text.symm⟩, ?_⟩
  intro front behind split unended
  have kept : '>' ∉ '<' :: behind := by
    rw [List.mem_cons, not_or]
    exact ⟨by decide, unended⟩
  rw [split, stripTags_append_unended front kept]

/-- A tag with a `<` inside, a `>` that ends nothing, and a `<` that nothing closes. -/
theorem stripTags_cuts_tags_doubled :
    let html := "1<<b>2>3<i>4<5<6".toList
    html = "1<<b>2>3<i>4".toList ++ '<' :: "5<6".toList ∧ '>' ∉ "5<6".toList ∧
      stripTags html = "12>34".toList ++ '<' :: "5<6".toList ∧ TagFree (stripTags html) ∧
      stripTags (stripTags html) = stripTags html := by
  intro html
  have split : html = "1<<b>2>3<i>4".toList ++ '<' :: "5<6".toList := by decide
  have unended : '>' ∉ "5<6".toList := by decide
  have front : stripTags "1<<b>2>3<i>4".toList = "12>34".toList := by decide +kernel
  obtain ⟨tagFree, again, -, kept⟩ := stripTags_cuts_tags html
  refine ⟨split, unended, ?_, tagFree, again⟩
  rw [kept _ _ split unended, front]

end Flashcard.Html
