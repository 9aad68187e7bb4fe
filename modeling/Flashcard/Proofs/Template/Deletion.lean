import Flashcard.Proofs.Template.ClozeToken
import Flashcard.Template.Fields

/-!
# Values with a deletion

A deletion has an answer between its number and its hint. Whatever stands before
and behind it, an answer without marks of its own is cut into tokens by itself, and
on the question side the card with that number shows nothing of it.

Results:
* `apart_opener`, `apart_closer`, `apart_separator`: where no token crosses the
  border of an answer.
* `tokenize_value`: the tokens of a value with a deletion.
* `mem_ordinals_iff_token`: the numbers of a value are those among its tokens.
* `renderTokens_question`: the question does not depend on tokens of the answer.
* `render_value`, `render_escape`: nor does what the question side shows of a value,
  escaped or not.
-/

namespace Flashcard.Cloze

/-! ## Values with a deletion -/

/-- Tokens leave a marker open; `isOpen` tells whether one is open before them. -/
def opensAfter (isOpen : Bool) : List Token → Bool
  | [] => isOpen
  | .opener _ :: rest => opensAfter true rest
  | .closer :: rest => opensAfter false rest
  | _ :: rest => opensAfter isOpen rest

/-- What stands around an answer: the text before its marker, the digits of the
    marker, its hint if it has one, and the text behind it. -/
structure Deletion where
  before : Text
  digits : Text
  hint : Option Text
  behind : Text

namespace Deletion

/-- The end of the marker, behind the answer. -/
def ending (deletion : Deletion) : Text :=
  match deletion.hint with
  | none => ['}', '}']
  | some hint => ':' :: ':' :: (hint ++ ['}', '}'])

/-- The value with an answer. -/
def value (deletion : Deletion) (answer : Text) : Text :=
  deletion.before ++ ((Token.opener deletion.digits).text ++
    (answer ++ (deletion.ending ++ deletion.behind)))

/-- The marker is that of the card. No marker is open before it, and its hint does
    not end early. -/
structure IsFor (deletion : Deletion) (ordinal : Nat) : Prop where
  nonempty : deletion.digits ≠ []
  digits : deletion.digits.all Char.isDigit = true
  ordinal : ordinal? deletion.digits = some ordinal
  before : opensAfter false (tokenize deletion.before) = false
  hint : ∀ hint ∈ deletion.hint, ¬ ['}', '}'] <:+: hint ∧ ¬ ['}'] <:+ hint

end Deletion

/-- The text ends where its marker says, with no hint or opener of its own. -/
structure IsAnswer (answer : Text) : Prop where
  closer : ¬ ['}', '}'] <:+: answer
  separator : ¬ [':', ':'] <:+: answer
  brace : ¬ ['}'] <:+ answer
  colon : ¬ [':'] <:+ answer
  opener : ∀ digits, digits ≠ [] → digits.all Char.isDigit = true →
    ¬ ['{', '{', 'c'] ++ digits <:+ answer

theorem IsAnswer.of_concat (front : Text) (last : Char) (noDigit : last.isDigit = false)
    (no : ¬ ['}', '}'] <:+: front ++ [last] ∧ ¬ [':', ':'] <:+: front ++ [last] ∧
      ¬ ['}'] <:+ front ++ [last] ∧ ¬ [':'] <:+ front ++ [last]) :
    IsAnswer (front ++ [last]) := by
  refine ⟨no.1, no.2.1, no.2.2.1, no.2.2.2, ?_⟩
  intro digits nonempty all ending
  obtain ⟨before, split⟩ := (List.suffix_append _ digits).trans ending
  have mem : last ∈ digits := by
    rw [← List.dropLast_concat_getLast nonempty, ← List.append_assoc] at split
    rw [← (List.append_singleton_inj.1 split).2]
    exact List.getLast_mem nonempty
  exact Bool.eq_false_iff.1 noDigit (List.all_eq_true.1 all last mem)

/-! ## No token crosses the border -/

theorem notMem_of_isDigit {digits : Text} (all : digits.all Char.isDigit = true) {c : Char}
    (h : c.isDigit = false) : c ∉ digits :=
  fun mem => Bool.eq_false_iff.1 h (List.all_eq_true.1 all c mem)

/-- No token crosses the border to the beginning of a marker. -/
theorem apart_opener (front digits rest : Text) :
    Apart front ((Token.opener digits).text ++ rest) := by
  apply Apart.of_special rfl
  intro token mark part beyond nonempty _ text next
  obtain ⟨d, part, rfl⟩ := List.exists_cons_of_ne_nil nonempty
  have mem : '{' ∈ token.text.tail := text ▸ List.mem_append_right _ (List.mem_cons_self ..)
  cases mark with
  | separator | closer => simp [Token.text] at mem
  | @opener digits' _ all =>
    -- The first brace lies before the border and the second one behind it, so that
    -- the letter would have to be a brace.
    obtain ⟨-, tail⟩ := List.cons.inj text
    cases part with
    | nil =>
      obtain ⟨-, rfl⟩ := List.cons.inj tail
      obtain ⟨_, next⟩ := next
      exact absurd (List.cons.inj next).1 (by decide)
    | cons e part =>
      have tail : 'c' :: (digits' ++ [':', ':']) = part ++ '{' :: beyond := (List.cons.inj tail).2
      have found : '{' ∈ 'c' :: (digits' ++ [':', ':']) :=
        tail ▸ List.mem_append_right _ (List.mem_cons_self ..)
      simp [notMem_of_isDigit all] at found

/-- No token crosses the border to the end of a marker. -/
theorem apart_closer {front : Text} (h : ¬ ['}'] <:+ front) (rest : Text) :
    Apart front ('}' :: '}' :: rest) := by
  apply Apart.of_special rfl
  intro token mark part beyond nonempty last text _
  have mem : '}' ∈ token.text := text ▸ List.mem_append_right _ (List.mem_cons_self ..)
  cases mark with
  | separator => simp [Token.text] at mem
  | opener _ all => simp [Token.text, notMem_of_isDigit all] at mem
  | closer =>
    obtain ⟨d, part, rfl⟩ := List.exists_cons_of_ne_nil nonempty
    obtain ⟨rfl, tail⟩ := List.cons.inj text
    cases part with
    | nil => exact h last
    | cons e part => simp at tail

/-- No token crosses the border to a hint. -/
theorem apart_separator {answer : Text} (h : IsAnswer answer) (rest : Text) :
    Apart answer (':' :: ':' :: rest) := by
  apply Apart.of_special rfl
  intro token mark part beyond nonempty last text _
  have mem : ':' ∈ token.text := text ▸ List.mem_append_right _ (List.mem_cons_self ..)
  cases mark with
  | closer => simp [Token.text] at mem
  | separator =>
    obtain ⟨d, part, rfl⟩ := List.exists_cons_of_ne_nil nonempty
    obtain ⟨rfl, tail⟩ := List.cons.inj text
    cases part with
    | nil => exact h.colon last
    | cons e part => simp at tail
  | @opener digits some all =>
    -- The border lies before one of the two colons.
    have none : ':' ∉ ['{', '{', 'c'] ++ digits := by simp [notMem_of_isDigit all]
    obtain ⟨colons, rfl, rest⟩ | ⟨digits', front, rest⟩ := List.append_eq_append_iff.1 text
    · obtain _ | ⟨c, _ | ⟨d, colons⟩⟩ := colons
      · rw [List.append_nil] at last
        exact h.opener digits some all last
      · obtain ⟨rfl, -⟩ := List.cons.inj rest
        exact h.colon ((List.suffix_append _ _).trans last)
      · simp at rest
    · cases digits' with
      | nil =>
        rw [List.append_nil] at front
        exact h.opener digits some all (front ▸ last)
      | cons c digits' =>
        obtain ⟨rfl, -⟩ := List.cons.inj rest
        exact none (front ▸ List.mem_append_right _ (List.mem_cons_self ..))

/-! ## Tokens of a value -/

/-- The token is no mark. -/
def Token.IsPlain (token : Token) : Prop := ∃ text, token = .plain text

/-- An answer has no marks. -/
theorem IsAnswer.isPlain {answer : Text} (h : IsAnswer answer) {token : Token}
    (mem : token ∈ tokenize answer) : token.IsPlain := by
  have within := text_isInfix_of_mem mem
  cases token with
  | plain text => exact ⟨text, rfl⟩
  | separator => exact absurd within h.separator
  | closer => exact absurd within h.closer
  | opener digits =>
    have colons : [':', ':'] <:+: (Token.opener digits).text := (List.suffix_append _ _).isInfix
    exact absurd (colons.trans within) h.separator

namespace Deletion

/-- The tokens between an answer and the end of its marker. -/
def hintTokens (deletion : Deletion) : List Token :=
  match deletion.hint with
  | none => []
  | some hint => .separator :: tokenize hint

variable {deletion : Deletion} {ordinal : Nat}

theorem IsFor.closer_notMem (h : deletion.IsFor ordinal) : Token.closer ∉ deletion.hintTokens := by
  intro mem
  unfold hintTokens at mem
  split at mem
  · cases mem
  · rename_i hint eq
    obtain here | later := List.mem_cons.1 mem
    · cases here
    · exact (h.hint hint eq).1 (text_isInfix_of_mem later)

theorem IsFor.tokenize_ending (h : deletion.IsFor ordinal) :
    tokenize (deletion.ending ++ deletion.behind) =
      deletion.hintTokens ++ .closer :: tokenize deletion.behind := by
  have closed : tokenize ('}' :: '}' :: deletion.behind) = .closer :: tokenize deletion.behind :=
    tokenize_cut (.mark .closer)
  unfold ending hintTokens
  cases hint : deletion.hint with
  | none => exact closed
  | some hint' =>
    have inside := tokenize_append (apart_closer (h.hint hint' hint).2 deletion.behind)
    rw [closed] at inside
    have whole : ':' :: ':' :: (hint' ++ ['}', '}']) ++ deletion.behind =
        Token.separator.text ++ (hint' ++ '}' :: '}' :: deletion.behind) := by simp [Token.text]
    rw [whole, tokenize_cut (.mark .separator), inside, List.cons_append]

/-- No token crosses the border between an answer and what follows it. -/
theorem apart_ending (deletion : Deletion) {answer : Text} (h : IsAnswer answer) :
    Apart answer (deletion.ending ++ deletion.behind) := by
  unfold ending
  cases deletion.hint with
  | none => exact apart_closer h.brace deletion.behind
  | some hint => exact apart_separator h _

/-- The tokens of a value with an answer. -/
theorem IsFor.tokenize_value (h : deletion.IsFor ordinal) {answer : Text} (ha : IsAnswer answer) :
    tokenize (deletion.value answer) =
      tokenize deletion.before ++ .opener deletion.digits ::
        (tokenize answer ++ (deletion.hintTokens ++ .closer :: tokenize deletion.behind)) := by
  rw [value, tokenize_append (apart_opener _ _ _),
    tokenize_cut (.mark (.opener h.nonempty h.digits)), tokenize_append (deletion.apart_ending ha),
    h.tokenize_ending]

end Deletion

/-! ## Numbers of a value -/

theorem mem_insertOrdinal {n m : Nat} {numbers : List Nat} :
    n ∈ insertOrdinal m numbers ↔ n = m ∨ n ∈ numbers := by
  fun_induction insertOrdinal m numbers <;> grind

/-- The numbers of a value are those of the beginnings of markers among its tokens. -/
theorem mem_ordinals_iff_token {n : Nat} {value : Text} :
    n ∈ ordinals value ↔ ∃ digits, .opener digits ∈ tokenize value ∧ ordinal? digits = some n := by
  have sorted (numbers : List Nat) : n ∈ numbers.foldr insertOrdinal [] ↔ n ∈ numbers := by
    induction numbers with
    | nil => rfl
    | cons m numbers ih => rw [List.foldr_cons, mem_insertOrdinal, ih, List.mem_cons]
  rw [ordinals, sorted, List.mem_filterMap]
  constructor
  · rintro ⟨token, mem, number⟩
    cases token with
    | opener digits => exact ⟨digits, mem, number⟩
    | separator | closer | plain => cases number
  · rintro ⟨digits, mem, number⟩
    exact ⟨.opener digits, mem, number⟩

/-! ## The question -/

section Question

variable {ordinal : Nat} {side : Side}

/-- Tokens that leave no marker open are rendered on their own. -/
theorem renderTokens_append (marker : Option Marker) {front : List Token} (rest : List Token)
    (h : opensAfter marker.isSome front = false) :
    renderTokens ordinal side marker (front ++ rest) =
      renderTokens ordinal side marker front ++ renderTokens ordinal side none rest := by
  induction front generalizing marker with
  | nil =>
    cases marker with
    | none => rfl
    | some marker => cases h
  | cons token front ih =>
    cases marker with
    | none =>
      cases token with
      | opener digits => exact ih (some (.start digits)) h
      | separator | closer | plain =>
        simp only [List.cons_append, renderTokens]
        rw [ih none h, List.append_assoc]
    | some marker =>
      cases token with
      | closer =>
        simp only [List.cons_append, renderTokens]
        rw [ih none h, List.append_assoc]
      | opener | separator | plain => exact ih (some (marker.add _)) h

/-- Up to its end a marker takes up every token. -/
theorem renderTokens_body (marker : Marker) {body : List Token} (rest : List Token)
    (h : .closer ∉ body) :
    renderTokens ordinal side (some marker) (body ++ .closer :: rest) =
      (body.foldl Marker.add marker).render ordinal side ++
        renderTokens ordinal side none rest := by
  induction body generalizing marker with
  | nil => rfl
  | cons token body ih =>
    have later := ih (marker.add token) fun mem => h (List.mem_cons_of_mem _ mem)
    cases token with
    | closer => exact absurd (List.mem_cons_self ..) h
    | opener | separator | plain => exact later

/-- The hint of a marker with a token of its body. -/
def addHint : Option Text → Token → Option Text
  | none, .separator => some []
  | none, _ => none
  | some hint, token => some (hint ++ token.text)

theorem Marker.hint_add (marker : Marker) (token : Token) :
    (marker.add token).hint = addHint marker.hint token := by
  obtain ⟨_, _, _, hint⟩ := marker
  cases hint <;> cases token <;> rfl

theorem Marker.ordinal_add (marker : Marker) (token : Token) :
    (marker.add token).ordinal = marker.ordinal := by
  unfold add
  split <;> rfl

theorem Marker.hint_foldl (marker : Marker) (body : List Token) :
    (body.foldl add marker).hint = body.foldl addHint marker.hint := by
  induction body generalizing marker with
  | nil => rfl
  | cons token body ih => rw [List.foldl_cons, List.foldl_cons, ih, hint_add]

theorem Marker.ordinal_foldl (marker : Marker) (body : List Token) :
    (body.foldl add marker).ordinal = marker.ordinal := by
  induction body generalizing marker with
  | nil => rfl
  | cons token body ih => rw [List.foldl_cons, ih, ordinal_add]

theorem foldl_addHint_plain {answer : List Token} (h : ∀ token ∈ answer, token.IsPlain) :
    answer.foldl addHint none = none := by
  induction answer with
  | nil => rfl
  | cons token answer ih =>
    obtain ⟨⟨text, rfl⟩, later⟩ := List.forall_mem_cons.1 h
    exact ih later

/-- The question shows the hint of its marker, and nothing of the answer. -/
theorem Marker.render_question {marker other : Marker} (h : marker.ordinal = some ordinal)
    (ho : other.ordinal = some ordinal) (hint : marker.hint = other.hint) :
    marker.render ordinal .question = other.render ordinal .question := by
  have active (marker : Marker) (h : marker.ordinal = some ordinal) :
      marker.isActive ordinal = true := decide_eq_true h
  unfold render blank
  rw [if_pos (active marker h), if_pos (active other ho), hint]

/-- Where the answers of a deletion have no marks, the question does not depend on
    the answer. -/
theorem renderTokens_question {front answer other hint : List Token} {digits : Text}
    (rest : List Token) (closed : opensAfter false front = false)
    (active : ordinal? digits = some ordinal) (ha : ∀ token ∈ answer, token.IsPlain)
    (ho : ∀ token ∈ other, token.IsPlain) (inside : .closer ∉ hint) :
    renderTokens ordinal .question none
        (front ++ .opener digits :: (answer ++ (hint ++ .closer :: rest))) =
      renderTokens ordinal .question none
        (front ++ .opener digits :: (other ++ (hint ++ .closer :: rest))) := by
  let marker (answer : List Token) := (answer ++ hint).foldl Marker.add (.start digits)
  have shown {answer : List Token} (plain : ∀ token ∈ answer, token.IsPlain) :
      renderTokens ordinal .question none
          (front ++ .opener digits :: (answer ++ (hint ++ .closer :: rest))) =
        renderTokens ordinal .question none front ++
          ((marker answer).render ordinal .question ++
            renderTokens ordinal .question none rest) := by
    have body : .closer ∉ answer ++ hint := by
      intro mem
      obtain mem | mem := List.mem_append.1 mem
      · obtain ⟨text, eq⟩ := plain _ mem
        cases eq
      · exact inside mem
    rw [renderTokens_append none _ closed, ← List.append_assoc answer, renderTokens,
      renderTokens_body _ _ body]
  have kept {answer : List Token} (plain : ∀ token ∈ answer, token.IsPlain) :
      (marker answer).hint = hint.foldl addHint none := by
    rw [Marker.hint_foldl, List.foldl_append]
    exact congrArg (hint.foldl addHint) (foldl_addHint_plain plain)
  have isActive (answer : List Token) : (marker answer).ordinal = some ordinal := by
    rw [Marker.ordinal_foldl]
    exact active
  rw [shown ha, shown ho, Marker.render_question (isActive answer) (isActive other)]
  rw [kept ha, kept ho]

theorem opensAfter_escape (isOpen : Bool) (tokens : List Token) :
    opensAfter isOpen (tokens.map Token.escape) = opensAfter isOpen tokens := by
  induction tokens generalizing isOpen with
  | nil => rfl
  | cons token tokens ih => cases token <;> exact ih _

variable {deletion : Deletion} {answer other : Text}

/-- The question of a value does not depend on the answer. -/
theorem Deletion.IsFor.render_value (h : deletion.IsFor ordinal) (ha : IsAnswer answer)
    (ho : IsAnswer other) :
    render (deletion.value answer) ordinal .question =
      render (deletion.value other) ordinal .question := by
  unfold render
  rw [h.tokenize_value ha, h.tokenize_value ho,
    renderTokens_question _ h.before h.ordinal (fun _ => ha.isPlain) (fun _ => ho.isPlain)
      h.closer_notMem]

/-- The question of an escaped value does not depend on the answer. -/
theorem Deletion.IsFor.render_escape (h : deletion.IsFor ordinal) (ha : IsAnswer answer)
    (ho : IsAnswer other) :
    render (Html.escape (deletion.value answer)) ordinal .question =
      render (Html.escape (deletion.value other)) ordinal .question := by
  have closed : opensAfter false ((tokenize deletion.before).map Token.escape) = false := by
    rw [opensAfter_escape, h.before]
  have plain {answer : Text} (ha : IsAnswer answer) :
      ∀ token ∈ (tokenize answer).map Token.escape, token.IsPlain := by
    intro _ mem
    obtain ⟨token, found, rfl⟩ := List.mem_map.1 mem
    obtain ⟨text, plain⟩ := ha.isPlain found
    rw [plain]
    exact ⟨_, rfl⟩
  have inside : .closer ∉ deletion.hintTokens.map Token.escape := by
    intro mem
    obtain ⟨token, mem, eq⟩ := List.mem_map.1 mem
    cases token with
    | closer => exact h.closer_notMem mem
    | opener | separator | plain => cases eq
  have tokens {answer : Text} (ha : IsAnswer answer) :
      tokenize (Html.escape (deletion.value answer)) =
        (tokenize deletion.before).map Token.escape ++ .opener deletion.digits ::
          ((tokenize answer).map Token.escape ++ (deletion.hintTokens.map Token.escape ++
            .closer :: (tokenize deletion.behind).map Token.escape)) := by
    rw [tokenize_escape, h.tokenize_value ha]
    simp only [List.map_append, List.map_cons, Token.escape]
  unfold render
  rw [tokens ha, tokens ho,
    renderTokens_question _ closed h.ordinal (plain ha) (plain ho) inside]

/-- The marker counts among those of the value. -/
theorem Deletion.IsFor.mem_ordinals (h : deletion.IsFor ordinal) (ha : IsAnswer answer) :
    ordinal ∈ ordinals (deletion.value answer) := by
  refine mem_ordinals_iff_token.2 ⟨deletion.digits, ?_, h.ordinal⟩
  rw [h.tokenize_value ha]
  exact List.mem_append_right _ (List.mem_cons_self ..)

theorem Deletion.isEmpty_value (deletion : Deletion) (answer : Text) (raw : Bool) :
    FieldValue.isEmpty ⟨deletion.value answer, raw⟩ = false := by
  have mem : '{' ∈ deletion.value answer := by simp [value, Token.text]
  apply Bool.eq_false_iff.2
  intro blank
  exact absurd (List.all_eq_true.1 blank _ mem) (by decide)

end Question

end Flashcard.Cloze
