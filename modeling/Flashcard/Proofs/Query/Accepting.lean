import Flashcard.Proofs.Query.Attachment

/-!
# Accepting a completion

Whoever accepts a completion puts the mark of a filter in place of the word fragment at the
cursor. If the fragment begins a word, or nothing but blanks stands in front of it, the mark
becomes a token of its own: what stands in front of it is cut as before, and the mark is cut off
from whatever follows.

Results:
* `exists_acceptance`: the tokens of the query before and after.
* `createsFilter_of_wordStart`: what accepting a completion does at the start of a word.
-/

namespace Flashcard

/-- The text with another one in place of a range, if the range begins and ends between
    characters. -/
def Text.replace? (text : Text) (range : Span) (replacement : Text) : Option Text := do
  let (before, rest) ← text.splitAt? range.start
  let (_, after) ← Text.splitAt? range.size rest
  return before ++ (replacement ++ after)

theorem Text.replace?_append (before middle after replacement : Text) :
    (before ++ (middle ++ after)).replace? ⟨before.size, middle.size⟩ replacement =
      some (before ++ (replacement ++ after)) := by
  simp only [replace?, splitAt?_append]
  show (splitAt? middle.size (middle ++ after)).bind _ = _
  rw [splitAt?_append]
  rfl

/-- Parts of one text that take as many bytes are the same. -/
theorem Text.eq_of_append_eq {a b c d : Text} (h : a ++ b = c ++ d) (size : a.size = c.size) :
    a = c := by
  have first := splitAt?_append a b
  rw [h, size, splitAt?_append c d] at first
  exact (Prod.mk.inj (Option.some.inj first)).1.symm

namespace Query

/-- The tokens of a query in their places. -/
def lexed (source : Text) : List (Tree.Lexeme Kind) :=
  Tree.place 0 ((tokenize source).map Token.pair)

/-- What completions replace begins the query or the word to the left of the cursor, or blanks
    stand there. -/
def IsWordStart (source : Text) (offset : Nat) (found : Completions) : Prop :=
  found.span.start = 0 ∨ ∃ token ∈ lexed source,
    token.span.start < offset ∧ offset ≤ token.span.stop ∧
      (token.kind = .whitespace ∨ token.kind = .word ∧ token.span.start = found.span.start)

/-- The tokens with a meaning that begin before the byte `stop`. -/
def lexedBefore (stop : Nat) (source : Text) : List (Tree.Lexeme Kind) :=
  (lexed source).filter fun token => token.kind ≠ .whitespace ∧ token.span.start < stop

/-- Accepting an option puts the mark of a filter as a token in place of what is replaced, and
    the tokens in front of it, all of which end there, stay as they are. -/
def CreatesFilter (source : Text) (found : Completions) (option : Completion) : Prop :=
  ∃ field accepted, option.apply = field.mark ∧
    source.replace? found.span option.apply = some accepted ∧
    ⟨Lexical.markKind field, ⟨found.span.start, option.apply.size⟩, option.apply⟩ ∈
      lexed accepted ∧
    lexedBefore found.span.start accepted = lexedBefore found.span.start source ∧
    ∀ token ∈ lexedBefore found.span.start accepted, token.span.stop ≤ found.span.start

/-! ## The tokens before and after -/

/-- A mark is put behind some text of a query: the tokens in front that stay as they are, the
    blanks behind them before and after, and the rest of the tokens. -/
structure Acceptance (source front accepted : Text) (field : FilterField) where
  kept : List Token
  oldGap : List Token
  newGap : List Token
  oldRest : List Token
  newRest : List Token
  old_eq : tokenize source = kept ++ (oldGap ++ oldRest)
  new_eq : tokenize accepted = kept ++ (newGap ++ .mark field field.mark :: newRest)
  oldGap_blank : oldGap.all Token.isBlank = true
  newGap_blank : newGap.all Token.isBlank = true
  front_eq : front = Token.textAll (kept ++ newGap)
  front_le : front.size ≤ (Token.textAll (kept ++ oldGap)).size

/-- The mark of a filter is cut off from what follows it. -/
theorem exists_tokenize_mark (field : FilterField) (after : Text) :
    ∃ rest, tokenize (field.mark ++ after) = .mark field field.mark :: rest := by
  have letters : (after.takeWhile isWordChar).all isWordChar = true := List.all_takeWhile
  have ends : Abstract.EndsWord (after.dropWhile isWordChar) := eq_false_of_head?_dropWhile
  have cut := Abstract.tokenize_mark field letters ends
  rw [List.append_assoc, List.takeWhile_append_dropWhile] at cut
  exact ⟨_, cut⟩

variable {source : Text} {front behind : List Token}

/-- At the start of the query. -/
theorem acceptance_first (source after : Text) (field : FilterField) :
    Nonempty (Acceptance source [] (field.mark ++ after) field) := by
  obtain ⟨rest, cut⟩ := exists_tokenize_mark field after
  exact ⟨[], [], [], tokenize source, rest, rfl, cut, rfl, rfl, rfl, Nat.le_refl _⟩

theorem Alike.of_isWordChar {c d : Char} (hc : isWordChar c = true) (hd : isWordChar d = true) :
    Alike c d := by
  refine ⟨?_, hd.trans hc.symm, ?_⟩
  · rw [isBlank_of_isWordChar hc, isBlank_of_isWordChar hd]
  · rintro rfl
    exact absurd hc (by decide)

theorem exists_cons_of_all {p : Char → Bool} {text : Text} (nonempty : text ≠ [])
    (all : text.all p = true) : ∃ c rest, text = c :: rest ∧ p c = true ∧ rest.all p = true := by
  obtain ⟨c, rest, rfl⟩ := List.exists_cons_of_ne_nil nonempty
  rw [List.all_cons, Bool.and_eq_true] at all
  exact ⟨c, rest, rfl, all⟩

theorem acceptance_word {text : Text} (h : tokenize source = front ++ .word text :: behind)
    (free : ∀ last ∈ front.getLast?, last.kind ∉ markKinds) (after : Text) (field : FilterField) :
    Nonempty (Acceptance source (Token.textAll front)
      (Token.textAll front ++ (field.mark ++ after)) field) := by
  have mem : Token.word text ∈ tokenize source := by
    rw [h]
    exact List.mem_append_right _ List.mem_cons_self
  obtain ⟨c, more, rfl, hc, -⟩ := exists_cons_of_all (text_ne_nil mem) (spelled_of_mem mem)
  obtain ⟨d, tail, mark, hd, -⟩ := Abstract.mark_eq_cons field
  obtain ⟨rest, cut⟩ := exists_tokenize_mark field after
  have alike : BeginAlike (c :: more) (field.mark ++ after) := by
    rw [mark]
    exact ⟨c, rfl, d, rfl, .of_isWordChar hc hd⟩
  have kept := tokenize_replace h (.inl rfl) (fun _ => free) alike
  rw [cut] at kept
  refine ⟨front, [], [], .word (c :: more) :: behind, rest, h, kept, rfl, rfl, ?_,
    Nat.le_of_eq ?_⟩ <;> rw [List.append_nil]

theorem acceptance_blank {left right : Text}
    (h : tokenize source = front ++ .blank (left ++ right) :: behind) (nonempty : left ≠ [])
    (after : Text) (field : FilterField) :
    Nonempty (Acceptance source (Token.textAll front ++ left)
      (Token.textAll front ++ (left ++ (field.mark ++ after))) field) := by
  have mem : Token.blank (left ++ right) ∈ tokenize source := by
    rw [h]
    exact List.mem_append_right _ List.mem_cons_self
  have spelled : (left ++ right).all Unicode.isBlank = true := spelled_of_mem mem
  rw [List.all_append, Bool.and_eq_true] at spelled
  obtain ⟨c, left, rfl, hc, all⟩ := exists_cons_of_all nonempty spelled.1
  obtain ⟨d, tail, mark, hd, -⟩ := Abstract.mark_eq_cons field
  obtain ⟨rest, cut⟩ := exists_tokenize_mark field after
  have stop : ∀ d ∈ (field.mark ++ after).head?, Unicode.isBlank d = false := by
    rw [mark]
    rintro _ ⟨⟩
    exact isBlank_of_isWordChar hd
  have gap := tokenize_blank_run hc all stop
  have alike : BeginAlike (c :: left ++ right) (c :: (left ++ (field.mark ++ after))) :=
    ⟨c, rfl, c, rfl, rfl, rfl, id⟩
  have kept := tokenize_replace h (.inr rfl) nofun alike
  rw [gap, cut] at kept
  refine ⟨front, [.blank (c :: left ++ right)], [.blank (c :: left)], behind, rest, h, kept, rfl,
    rfl, ?_, ?_⟩
  · rw [Token.textAll_append]
    exact congrArg _ (List.append_nil _).symm
  · rw [Token.textAll_append, Text.size_append, Text.size_append]
    show _ ≤ _ + Text.size (c :: left ++ right ++ [])
    rw [Text.size_append, Text.size_append]
    omega

/-! ## Tokens in their places -/

/-- Of tokens laid out one behind the other, those with a meaning that begin before some byte,
    when only blanks go on across it. -/
theorem filter_place {kept gap rest : List Token} {stop : Nat}
    (filled : ∀ token ∈ kept, token.text ≠ []) (blank : gap.all Token.isBlank = true)
    (least : (Token.textAll kept).size ≤ stop)
    (most : stop ≤ (Token.textAll (kept ++ gap)).size) :
    (Tree.place 0 ((kept ++ (gap ++ rest)).map Token.pair)).filter
        (fun token => token.kind ≠ .whitespace ∧ token.span.start < stop) =
      (Tree.place 0 (kept.map Token.pair)).filter (·.kind ≠ .whitespace) := by
  have inFront : (Tree.place 0 (kept.map Token.pair)).filter
      (fun token => token.kind ≠ .whitespace ∧ token.span.start < stop) =
        (Tree.place 0 (kept.map Token.pair)).filter (·.kind ≠ .whitespace) := by
    refine List.filter_congr fun lexeme mem => ?_
    have last := Tree.stop_le_of_mem_place mem
    obtain ⟨token, found, same⟩ := List.mem_map.1 (Tree.mem_of_mem_place mem)
    have pos := Text.size_pos (filled token found)
    have size : lexeme.span.size = token.text.size := by
      rw [Tree.size_of_mem_place mem, ← (Prod.mk.inj same).2]
    rw [flatMap_pair, Nat.zero_add, Span.stop] at last
    have begun : lexeme.span.start < stop := by omega
    simp only [begun, and_true]
  have between : (Tree.place (Token.textAll kept).size (gap.map Token.pair)).filter
      (fun token => token.kind ≠ .whitespace ∧ token.span.start < stop) = [] := by
    rw [List.filter_eq_nil_iff]
    intro lexeme mem
    obtain ⟨token, found, same⟩ := List.mem_map.1 (Tree.mem_of_mem_place mem)
    have whitespace : lexeme.kind = .whitespace := by
      rw [← (Prod.mk.inj same).1]
      have blank := List.all_eq_true.1 blank token found
      cases token <;> cases blank
      rfl
    simp [whitespace]
  have after : (Tree.place (Token.textAll (kept ++ gap)).size (rest.map Token.pair)).filter
      (fun token => token.kind ≠ .whitespace ∧ token.span.start < stop) = [] := by
    rw [List.filter_eq_nil_iff]
    intro lexeme mem
    have first := Tree.start_le_of_mem_place mem
    have late : ¬ lexeme.span.start < stop := by omega
    simp [late]
  rw [← List.append_assoc, List.map_append, List.map_append, Tree.place_append, Tree.place_append,
    ← List.map_append, flatMap_pair, flatMap_pair, Nat.zero_add, Nat.zero_add, List.filter_append,
    List.filter_append, inFront, between, after, List.append_nil, List.append_nil]

/-! ## Filters -/

/-- The mark is one of the tokens, and those in front of it stay as they are. -/
theorem Acceptance.createsFilter {source front accepted : Text} {field : FilterField}
    (h : Acceptance source front accepted field) {found : Completions} {option : Completion}
    (start : found.span.start = front.size) (apply : option.apply = field.mark)
    (replaced : source.replace? found.span option.apply = some accepted) :
    CreatesFilter source found option := by
  obtain ⟨kept, oldGap, newGap, oldRest, newRest, oldTokens, newTokens, oldBlank, newBlank, rfl,
    most⟩ := h
  have filled : ∀ token ∈ kept, token.text ≠ [] := by
    intro token mem
    have inSource : token ∈ tokenize source := by
      rw [oldTokens]
      exact List.mem_append_left _ mem
    exact text_ne_nil inSource
  have least : (Token.textAll kept).size ≤ (Token.textAll (kept ++ newGap)).size := by
    rw [Token.textAll_append, Text.size_append]
    exact Nat.le_add_right _ _
  have old : lexedBefore found.span.start source =
      (Tree.place 0 (kept.map Token.pair)).filter (·.kind ≠ .whitespace) := by
    rw [lexedBefore, lexed, oldTokens, start]
    exact filter_place filled oldBlank least most
  have new : lexedBefore found.span.start accepted =
      (Tree.place 0 (kept.map Token.pair)).filter (·.kind ≠ .whitespace) := by
    rw [lexedBefore, lexed, newTokens, start]
    exact filter_place filled newBlank least (Nat.le_refl _)
  refine ⟨field, accepted, apply, replaced, ?_, new.trans old.symm, ?_⟩
  · rw [lexed, newTokens, ← List.append_assoc, List.map_append, Tree.place_append, flatMap_pair,
      Nat.zero_add, ← start, apply]
    refine List.mem_append_right _ ?_
    cases field <;> exact List.mem_cons_self
  · rw [new, start]
    intro token mem
    have last := Tree.stop_le_of_mem_place (List.mem_filter.1 mem).1
    rw [flatMap_pair, Nat.zero_add] at last
    omega

theorem exists_field {option : Completion} (h : option ∈ filterCompletions) :
    ∃ field : FilterField, option.apply = field.mark := by
  simp only [filterCompletions, List.map_cons, List.map_nil, List.mem_cons, List.not_mem_nil,
    or_false] at h
  obtain rfl | rfl | rfl := h
  · exact ⟨.deck, rfl⟩
  · exact ⟨.tag, rfl⟩
  · exact ⟨.template, rfl⟩

/-- The token to the left of a cursor in its place. -/
theorem CursorToken.eq_lexeme {source before after : Text} (cursor : CursorToken source before after)
    {lexeme : Tree.Lexeme Kind} (placed : lexeme ∈ lexed source)
    (begun : lexeme.span.start < before.size) (stop : before.size ≤ lexeme.span.stop) :
    lexeme = ⟨cursor.token.kind, ⟨(Token.textAll cursor.front).size, cursor.token.text.size⟩,
      cursor.token.text⟩ := by
  obtain ⟨front, token, behind, left, right, tokens, text, filled, rfl, -⟩ := cursor
  have text : token.text = left ++ right := text
  have pos := Text.size_pos filled
  have here : ⟨token.kind, ⟨(Token.textAll front).size, token.text.size⟩, token.text⟩ ∈
      lexed source := by
    rw [lexed, tokens, List.map_append, Tree.place_append, flatMap_pair, Nat.zero_add]
    exact List.mem_append_right _ List.mem_cons_self
  refine Tree.eq_of_mem_place placed here ⟨begun, stop⟩ ⟨?_, ?_⟩
  · rw [Text.size_append]
    exact Nat.lt_add_of_pos_right pos
  · rw [Text.size_append, text, Text.size_append]
    exact Nat.add_le_add_left (Nat.le_add_right _ _) _

/-- Where filters are offered and a word begins, or behind blanks, the mark of a filter can be put
    in place of the fragment of a word. -/
theorem exists_acceptance {limit : Nat} {source before after front : Text} {found : Completions}
    (whole : source = before ++ after) (split : before = front ++ fragmentBefore before)
    (offers : offersFilters (pathAt (parse limit source).tree before.size) = true)
    (span : found.span.start = front.size) (start : IsWordStart source before.size found)
    (field : FilterField) :
    Nonempty (Acceptance source front (front ++ (field.mark ++ after)) field) := by
  obtain first | ⟨lexeme, placed, begun, stop, kind⟩ := start
  · have none : front = [] := by
      by_contra nonempty
      have pos := Text.size_pos nonempty
      omega
    rw [none]
    exact acceptance_first source after field
  · have nonempty : before ≠ [] := by
      rintro rfl
      exact Nat.not_lt_zero _ begun
    obtain ⟨cursor⟩ := exists_cursorToken whole nonempty
    obtain rfl := cursor.eq_lexeme placed begun stop
    have free (word : cursor.token.kind = .word) := noMark_before cursor word offers
    obtain ⟨kept, token, behind, left, right, tokens, text, filled, before_eq, _⟩ := cursor
    obtain whitespace | ⟨word, startsWord⟩ := kind
    · obtain ⟨blanks, rfl⟩ := eq_blank whitespace
      obtain rfl : blanks = left ++ right := text
      have inSource : Token.blank (left ++ right) ∈ tokenize source := by
        rw [tokens]
        exact List.mem_append_right _ List.mem_cons_self
      have spelled : (left ++ right).all Unicode.isBlank = true := spelled_of_mem inSource
      rw [List.all_append, Bool.and_eq_true] at spelled
      have none : fragmentBefore before = [] := by
        rw [before_eq]
        exact fragmentBefore_of_blank filled spelled.1
      have front_eq : front = Token.textAll kept ++ left := by
        rw [none, List.append_nil] at split
        exact split.symm.trans before_eq
      rw [front_eq, List.append_assoc]
      exact acceptance_blank tokens filled after field
    · obtain ⟨letters, rfl⟩ := eq_word word
      have same : front ++ (fragmentBefore before ++ after) =
          Token.textAll kept ++ Token.textAll (.word letters :: behind) := by
        rw [← Token.textAll_append, ← tokens, textAll_tokenize, whole, ← List.append_assoc, ← split]
      have front_eq := Text.eq_of_append_eq same (span.symm.trans startsWord.symm)
      rw [front_eq]
      exact acceptance_word tokens (free rfl) after field

/-- Accepting an option where a word begins, or behind blanks, creates a filter: the mark
    becomes a token in place of what is replaced, and the tokens in front of it stay as they
    are. -/
theorem createsFilter_of_wordStart {limit : Nat} {source : Text} {offset : Nat} {explicit : Bool}
    {found : Completions}
    (h : complete (parse limit source).tree offset explicit = some found)
    (start : IsWordStart source offset found) :
    ∀ option ∈ found.options, CreatesFilter source found option := by
  obtain ⟨before, after, whole, rfl, offers, -, rfl⟩ := complete_eq_some_iff.1 h
  rw [text_tree_parse] at whole
  obtain ⟨front, split, -⟩ := exists_fragment before
  have size : before.size = front.size + (fragmentBefore before).size := by
    rw [← Text.size_append, ← split]
  have first : before.size - (fragmentBefore before).size = front.size := by omega
  intro option mem
  obtain ⟨field, apply⟩ := exists_field mem
  obtain ⟨acceptance⟩ := exists_acceptance whole split offers first start field
  refine acceptance.createsFilter first apply ?_
  have source_eq : source = front ++ (fragmentBefore before ++ after) := by
    rw [← List.append_assoc, ← split, whole]
  rw [first, source_eq, Text.replace?_append, apply]

/-- The second word of a query is completed. -/
theorem createsFilter_second_word :
    let source : Text := "a fo".toList
    let found : Completions := ⟨⟨2, 2⟩, filterCompletions⟩
    (complete (parse defaultNesting source).tree 4 false = some found ∧
        IsWordStart source 4 found) ∧
      ∀ option ∈ found.options, CreatesFilter source found option := by
  have offered : complete (parse defaultNesting "a fo".toList).tree 4 false =
      some ⟨⟨2, 2⟩, filterCompletions⟩ := by decide +kernel
  have start : IsWordStart "a fo".toList 4 ⟨⟨2, 2⟩, filterCompletions⟩ :=
    .inr ⟨⟨.word, ⟨2, 2⟩, "fo".toList⟩, by decide +kernel, by decide, by decide, .inr ⟨rfl, rfl⟩⟩
  exact ⟨⟨offered, start⟩, createsFilter_of_wordStart offered start⟩

end Query

end Flashcard
