import Flashcard.Template.Cloze
import Flashcard.Template.Html

/-!
# Tokens of a field value

A value begins with a mark, with a run of plain characters, or with a single
brace or colon that begins no mark. Which of them it is depends on a few
characters only, so that values can be put together and escaped token by token.

Results:
* `tokenize_cut`, `cutInduction`: the first token, and induction token by token.
* `tokenize_append`: where no token crosses the border, the tokens of two texts
  are those of the one and then those of the other.
* `tokenize_escape`: escaping a value escapes the plain tokens and leaves the
  marks alone.
-/

namespace Flashcard.Cloze

/-! ## Marks -/

/-- The tokens that markers are made of. -/
inductive IsMark : Token → Prop
  | opener {digits : Text} : digits ≠ [] → digits.all Char.isDigit = true → IsMark (.opener digits)
  | separator : IsMark .separator
  | closer : IsMark .closer

theorem mem_text_opener {digits : Text} {c : Char} (h : c ∈ (Token.opener digits).text) :
    c = '{' ∨ c = 'c' ∨ c ∈ digits ∨ c = ':' := by
  simp only [Token.text, List.cons_append, List.nil_append, List.mem_cons, List.mem_append,
    List.not_mem_nil, or_false] at h
  rcases h with h | h | h | h | h | h <;> simp [h]

theorem takeWhile_run {p : Char → Bool} {run rest : Text} (all : run.all p = true)
    (stop : ∀ c, [c] <+: rest → p c = false) :
    (run ++ rest).takeWhile p = run ∧ (run ++ rest).dropWhile p = rest := by
  refine Text.run_of_all (List.all_eq_true.1 all) fun c first => stop c ?_
  obtain ⟨behind, rfl⟩ := List.head?_eq_some_iff.1 first
  exact ⟨behind, rfl⟩

/-- A marker begins where a text begins with its digits between the braces and
    the colons. -/
theorem opener?_eq_some_iff {text digits : Text} :
    opener? text = some digits ↔
      digits ≠ [] ∧ digits.all Char.isDigit = true ∧ (Token.opener digits).text <+: text := by
  constructor
  · intro h
    unfold opener? at h
    split at h
    · rename_i rest
      split at h
      · rename_i digit digits' behind front back
        obtain rfl := Option.some.inj h
        refine ⟨List.cons_ne_nil _ _, front ▸ List.all_takeWhile, behind, ?_⟩
        rw [← List.takeWhile_append_dropWhile (p := Char.isDigit) (l := rest), front, back]
        simp [Token.text]
      · cases h
    · cases h
  · rintro ⟨nonempty, all, behind, rfl⟩
    have colon : ∀ c, [c] <+: ':' :: ':' :: behind → c.isDigit = false := by
      rintro c ⟨_, h⟩
      obtain rfl := (List.cons.inj h).1
      rfl
    obtain ⟨front, back⟩ := takeWhile_run all colon
    obtain ⟨digit, digits, rfl⟩ := List.exists_cons_of_ne_nil nonempty
    have text : (Token.opener (digit :: digits)).text ++ behind =
        '{' :: '{' :: 'c' :: (digit :: digits ++ ':' :: ':' :: behind) := by simp [Token.text]
    rw [text, opener?, front, back]
    rfl

/-! ## The first token -/

/-- The token comes first where the text that follows it is `rest`. -/
inductive Cut : Token → Text → Prop
  | mark {token : Token} {rest : Text} : IsMark token → Cut token rest
  /-- A run of plain characters is as long as can be. -/
  | run {c : Char} {text rest : Text} : (c :: text).all isPlainChar = true →
      (∀ d, [d] <+: rest → isPlainChar d = false) → Cut (.plain (c :: text)) rest
  | single {c : Char} {rest : Text} : isPlainChar c = false →
      (∀ token, IsMark token → ¬ token.text <+: c :: rest) → Cut (.plain [c]) rest

theorem Cut.text_ne_nil {token : Token} {rest : Text} (h : Cut token rest) : token.text ≠ [] := by
  cases h with
  | mark mark => cases mark <;> exact List.cons_ne_nil _ _
  | run | single => exact List.cons_ne_nil _ _

theorem IsMark.last {token : Token} (mark : IsMark token) {c : Char} (h : [c] <:+ token.text) :
    isPlainChar c = false := by
  have last (text : Text) (d : Char) (h : [c] <:+ text ++ [d]) : c = d := by
    obtain ⟨before, split⟩ := h
    exact (List.append_singleton_inj.1 split).2
  cases mark with
  | separator => rw [last [':'] ':' h]; rfl
  | closer => rw [last ['}'] '}' h]; rfl
  | opener =>
    rw [Token.text, List.append_cons _ ':' [':']] at h
    rw [last _ ':' h]
    rfl

theorem Cut.border {token : Token} {rest : Text} (h : Cut token rest) (c d : Char)
    (last : [c] <:+ token.text) (next : [d] <+: rest) (plain : isPlainChar c = true) :
    isPlainChar d = false := by
  cases h with
  | mark mark => exact absurd plain (Bool.eq_false_iff.1 (mark.last last))
  | run all stop => exact stop d next
  | @single c' _ special _ =>
    obtain ⟨before, split⟩ := last
    obtain ⟨-, rfl⟩ := List.append_singleton_inj.1 (show before ++ [c] = [] ++ [c'] from split)
    exact absurd plain (Bool.eq_false_iff.1 special)

theorem ne_of_isPlainChar {c : Char} (h : isPlainChar c = true) : c ≠ '{' ∧ c ≠ '}' ∧ c ≠ ':' := by
  simpa [isPlainChar, and_assoc] using h

theorem IsMark.not_prefix {c : Char} {rest : Text} (h : isPlainChar c = true) {token : Token}
    (mark : IsMark token) : ¬ token.text <+: c :: rest := by
  obtain ⟨opening, closing, colon⟩ := ne_of_isPlainChar h
  rintro ⟨behind, text⟩
  cases mark with
  | opener => exact opening (List.cons.inj text).1.symm
  | separator => exact colon (List.cons.inj text).1.symm
  | closer => exact closing (List.cons.inj text).1.symm

/-- Where no mark begins, a run or a single character does. -/
theorem tokenize_cons {c : Char} {rest : Text}
    (h : ∀ token, IsMark token → ¬ token.text <+: c :: rest) :
    tokenize (c :: rest) =
      if isPlainChar c then
        .plain (c :: rest.takeWhile isPlainChar) :: tokenize (rest.dropWhile isPlainChar)
      else .plain [c] :: tokenize rest := by
  have none : opener? (c :: rest) = none := by
    cases found : opener? (c :: rest) with
    | none => rfl
    | some digits =>
      obtain ⟨nonempty, all, front⟩ := opener?_eq_some_iff.1 found
      exact absurd front (h _ (.opener nonempty all))
  rw [tokenize]
  · rw [none]
  · rintro behind rfl rfl
    exact h _ .separator ⟨behind, rfl⟩
  · rintro behind rfl rfl
    exact h _ .closer ⟨behind, rfl⟩

/-- The token that comes first is cut off. -/
theorem tokenize_cut {token : Token} {rest : Text} (h : Cut token rest) :
    tokenize (token.text ++ rest) = token :: tokenize rest := by
  cases h with
  | mark mark =>
    cases mark with
    | separator | closer => simp [Token.text, tokenize]
    | @opener digits nonempty all =>
      have found : opener? ((Token.opener digits).text ++ rest) = some digits :=
        opener?_eq_some_iff.2 ⟨nonempty, all, List.prefix_append _ _⟩
      have text : (Token.opener digits).text ++ rest =
          '{' :: ('{' :: 'c' :: (digits ++ ':' :: ':' :: rest)) := by simp [Token.text]
      rw [text] at found ⊢
      rw [tokenize]
      · simp [found]
      all_goals simp
  | @run c text rest all stop =>
    obtain ⟨plain, all⟩ := Bool.and_eq_true_iff.1 all
    obtain ⟨front, back⟩ := takeWhile_run all stop
    show tokenize (c :: (text ++ rest)) = _
    rw [tokenize_cons fun _ mark => mark.not_prefix plain, if_pos plain, front, back]
  | @single c rest special none =>
    show tokenize (c :: rest) = _
    rw [tokenize_cons none, if_neg (Bool.eq_false_iff.1 special)]

theorem exists_cut {value : Text} (h : value ≠ []) :
    ∃ token rest, value = token.text ++ rest ∧ Cut token rest := by
  by_cases marked : ∃ token, IsMark token ∧ token.text <+: value
  · obtain ⟨token, mark, rest, rfl⟩ := marked
    exact ⟨token, rest, rfl, .mark mark⟩
  · obtain ⟨c, rest, rfl⟩ := List.exists_cons_of_ne_nil h
    by_cases plain : isPlainChar c = true
    · refine ⟨.plain (c :: rest.takeWhile isPlainChar), rest.dropWhile isPlainChar, ?_, ?_⟩
      · show _ = c :: (_ ++ _)
        rw [List.takeWhile_append_dropWhile]
      · apply Cut.run
        · rw [List.all_cons, plain, List.all_takeWhile]
          rfl
        · rintro d ⟨behind, h⟩
          have head := List.head?_dropWhile_not isPlainChar rest
          rw [← h] at head
          simpa using head
    · refine ⟨.plain [c], rest, rfl, .single (Bool.eq_false_iff.2 plain) ?_⟩
      intro token mark front
      exact marked ⟨token, mark, front⟩

/-- Induction on a value, token by token. -/
theorem cutInduction {motive : Text → Prop} (nil : motive [])
    (cut : ∀ token rest, Cut token rest → motive rest → motive (token.text ++ rest))
    (value : Text) : motive value := by
  by_cases h : value = []
  · rw [h]
    exact nil
  · obtain ⟨token, rest, text, first⟩ := exists_cut h
    have shorter : rest.length < value.length := by
      have := List.length_pos_iff.2 first.text_ne_nil
      rw [text, List.length_append]
      omega
    rw [text]
    exact cut token rest first (cutInduction nil cut rest)
termination_by value.length

theorem flatMap_text_tokenize (value : Text) : (tokenize value).flatMap Token.text = value := by
  induction value using cutInduction with
  | nil => simp [tokenize]
  | cut token rest first ih => rw [tokenize_cut first, List.flatMap_cons, ih]

theorem exists_cut_of_mem {token : Token} {value : Text} (h : token ∈ tokenize value) :
    ∃ rest, Cut token rest := by
  induction value using cutInduction with
  | nil => simp [tokenize] at h
  | cut first rest cut ih =>
    rw [tokenize_cut cut] at h
    obtain rfl | later := List.mem_cons.1 h
    · exact ⟨rest, cut⟩
    · exact ih later

theorem text_isInfix_of_mem {token : Token} {value : Text} (h : token ∈ tokenize value) :
    token.text <:+: value := by
  obtain ⟨before, after, split⟩ := List.append_of_mem h
  refine ⟨before.flatMap Token.text, after.flatMap Token.text, ?_⟩
  rw [← flatMap_text_tokenize value, split, List.flatMap_append, List.flatMap_cons,
    List.append_assoc]

/-! ## Values put together -/

/-- No token crosses the border between two texts. -/
structure Apart (front behind : Text) : Prop where
  run : ∀ c d, [c] <:+ front → [d] <+: behind → isPlainChar c = true → isPlainChar d = false
  mark : ∀ token, IsMark token → ∀ part, part ≠ [] → part <:+ front →
    token.text <+: part ++ behind → token.text <+: part

theorem Apart.of_append {a b behind : Text} (h : Apart (a ++ b) behind) : Apart b behind where
  run c d front := h.run c d (front.trans (List.suffix_append a b))
  mark token mark part nonempty front :=
    h.mark token mark part nonempty (front.trans (List.suffix_append a b))

/-- No token crosses the border to a brace or a colon, when no mark does. -/
theorem Apart.of_special {front behind : Text} {c : Char} (special : isPlainChar c = false)
    (mark : ∀ token, IsMark token → ∀ part beyond, part ≠ [] → part <:+ front →
      token.text = part ++ c :: beyond → beyond <+: behind → False) :
    Apart front (c :: behind) where
  run _ d _ next _ := by
    obtain ⟨_, h⟩ := next
    obtain rfl : d = c := (List.cons.inj h).1
    exact special
  mark token isMark part nonempty last crossing := by
    obtain ⟨after, h⟩ := crossing
    obtain ⟨beyond, rfl, -⟩ | ⟨beyond, text, next⟩ := List.append_eq_append_iff.1 h
    · exact List.prefix_append _ _
    · cases beyond with
      | nil => exact ⟨[], by rw [text, List.append_nil, List.append_nil]⟩
      | cons d beyond =>
        obtain ⟨rfl, later⟩ := List.cons.inj next
        exact (mark token isMark part beyond nonempty last text ⟨after, later.symm⟩).elim

/-- The tokens of two texts, one behind the other. -/
theorem tokenize_append {front behind : Text} (h : Apart front behind) :
    tokenize (front ++ behind) = tokenize front ++ tokenize behind := by
  induction front using cutInduction with
  | nil => simp [tokenize]
  | cut token rest first ih =>
    have still : Cut token (rest ++ behind) := by
      cases first with
      | mark mark => exact .mark mark
      | @run c text rest all stop =>
        apply Cut.run all
        intro d front
        cases rest with
        | nil =>
          have last : [(c :: text).getLast (List.cons_ne_nil _ _)] <:+ c :: text ++ [] := by
            rw [List.append_nil]
            exact ⟨(c :: text).dropLast, List.dropLast_concat_getLast _⟩
          exact h.run _ d last front (List.all_eq_true.1 all _ (List.getLast_mem _))
        | cons e rest =>
          apply stop
          obtain ⟨behind, h⟩ := front
          obtain rfl := (List.cons.inj h).1
          exact ⟨rest, rfl⟩
      | @single c rest special none =>
        apply Cut.single special
        intro token mark front
        exact none token mark (h.mark token mark (c :: rest) (List.cons_ne_nil _ _)
          List.suffix_rfl front)
    rw [List.append_assoc, tokenize_cut still, ih h.of_append, tokenize_cut first, List.cons_append]

/-! ## Escaped values -/

theorem escapeChar_cases (c : Char) :
    Html.escapeChar c = [c] ∨ ∃ rest, Html.escapeChar c = '&' :: rest := by
  unfold Html.escapeChar
  split
  case h_6 => exact .inl rfl
  all_goals exact .inr ⟨_, rfl⟩

theorem escape_append (a b : Text) : Html.escape (a ++ b) = Html.escape a ++ Html.escape b :=
  List.flatMap_append

/-- What an escaped text begins with, the text itself begins with, unless it is an
    entity. -/
theorem prefix_of_prefix_escape {part text : Text} (h : '&' ∉ part)
    (front : part <+: Html.escape text) : part <+: text := by
  induction text generalizing part with
  | nil => exact front
  | cons c text ih =>
    cases part with
    | nil => exact List.nil_prefix
    | cons d part =>
      rw [List.mem_cons, not_or] at h
      rw [Html.escape, List.flatMap_cons] at front
      obtain same | ⟨entity, escaped⟩ := escapeChar_cases c
      · rw [same, List.singleton_append, List.cons_prefix_cons] at front
        rw [front.1, List.cons_prefix_cons]
        exact ⟨rfl, ih h.2 front.2⟩
      · rw [escaped, List.cons_append, List.cons_prefix_cons] at front
        exact absurd front.1.symm h.1

theorem escapeChar_of_not_plain {c : Char} (h : isPlainChar c = false) :
    Html.escapeChar c = [c] := by
  obtain same | ⟨rest, escaped⟩ := escapeChar_cases c
  · exact same
  · unfold Html.escapeChar at escaped ⊢
    split
    case h_6 => rfl
    all_goals exact absurd h (by decide)

theorem all_escapeChar {c : Char} (h : isPlainChar c = true) :
    (Html.escapeChar c).all isPlainChar = true := by
  unfold Html.escapeChar
  split
  case h_6 =>
    rw [List.all_cons, h]
    rfl
  all_goals decide

theorem all_escape {text : Text} (h : text.all isPlainChar = true) :
    (Html.escape text).all isPlainChar = true := by
  rw [Html.escape, List.all_flatMap, List.all_eq_true]
  intro c hc
  exact all_escapeChar (List.all_eq_true.1 h c hc)

theorem IsMark.escapeChar_eq {token : Token} (mark : IsMark token) {c : Char}
    (h : c ∈ token.text) : Html.escapeChar c = [c] := by
  cases mark with
  | separator | closer =>
    simp only [Token.text, List.mem_cons, List.not_mem_nil, or_false, or_self] at h
    rw [h]
    rfl
  | opener _ all =>
    rcases mem_text_opener h with rfl | rfl | digit | rfl
    · rfl
    · rfl
    · have isDigit := List.all_eq_true.1 all c digit
      unfold Html.escapeChar
      split
      case h_6 => rfl
      all_goals exact absurd isDigit (by decide)
    · rfl

theorem IsMark.escape_text {token : Token} (mark : IsMark token) :
    Html.escape token.text = token.text := by
  rw [Html.escape, List.flatMap_def, List.map_congr_left fun c hc => mark.escapeChar_eq hc,
    ← List.flatMap_def, List.flatMap_singleton']

theorem IsMark.notMem {token : Token} (mark : IsMark token) : '&' ∉ token.text :=
  fun h => absurd (mark.escapeChar_eq h) (by decide)

/-- A token of an escaped value. -/
def Token.escape : Token → Token
  | plain text => plain (Html.escape text)
  | token => token

theorem IsMark.escape {token : Token} (mark : IsMark token) : token.escape = token := by
  cases mark <;> rfl

theorem Cut.text_escape {token : Token} {rest : Text} (h : Cut token rest) :
    token.escape.text = Html.escape token.text := by
  cases h with
  | mark mark => rw [mark.escape, mark.escape_text]
  | run | single => rfl

/-- The first token of a value, escaped, is the first one of the escaped value. -/
theorem Cut.escape {token : Token} {rest : Text} (h : Cut token rest) :
    Cut token.escape (Html.escape rest) := by
  cases h with
  | mark mark =>
    rw [mark.escape]
    exact .mark mark
  | @run c text rest all stop =>
    have all := all_escape all
    have nonempty : Html.escape (c :: text) ≠ [] := by
      rw [Html.escape, List.flatMap_cons]
      obtain same | ⟨_, escaped⟩ := escapeChar_cases c
      · rw [same]
        exact List.cons_ne_nil _ _
      · rw [escaped]
        exact List.cons_ne_nil _ _
    obtain ⟨d, text', escaped⟩ := List.exists_cons_of_ne_nil nonempty
    rw [Token.escape, escaped]
    rw [escaped] at all
    apply Cut.run all
    rintro e ⟨behind, front⟩
    cases rest with
    | nil => cases front
    | cons f rest =>
      have special : isPlainChar f = false := stop f ⟨rest, rfl⟩
      rw [Html.escape, List.flatMap_cons, escapeChar_of_not_plain special] at front
      obtain rfl := (List.cons.inj front).1
      exact special
  | @single c rest special none =>
    have same : Html.escape [c] = [c] := by
      rw [Html.escape, List.flatMap_cons, escapeChar_of_not_plain special]
      rfl
    rw [Token.escape, same]
    apply Cut.single special
    intro token mark front
    apply none token mark
    apply prefix_of_prefix_escape mark.notMem
    have whole := escape_append [c] rest
    rw [same] at whole
    rw [← List.singleton_append, whole]
    exact front

/-- Escaping a value escapes its plain tokens. -/
theorem tokenize_escape (value : Text) :
    tokenize (Html.escape value) = (tokenize value).map Token.escape := by
  induction value using cutInduction with
  | nil => simp [Html.escape, tokenize]
  | cut token rest first ih =>
    rw [escape_append, ← first.text_escape, tokenize_cut first.escape, ih, tokenize_cut first,
      List.map_cons]

end Flashcard.Cloze
