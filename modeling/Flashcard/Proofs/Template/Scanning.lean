import Flashcard.Proofs.Template.MarkPlace
import Flashcard.Proofs.Template.Piece

/-!
# Rendering by searching for marks

A rendered value can be had without its tokens, by searching the text from left to right:
for the beginning of a marker, for the closing braces behind it, and between them for the
colons in front of the hint. Colons that belong to the beginning of another marker are
passed over; nothing else in a body matters, be it braces or further markers.

Results:
* `firstPlace_separator`: the first separating token of a body is where such colons stand
  first.
* `splits_foldl`: the answer and the hint that rendering gathers are those of the search.
* `Scan.render`, `exists_scan`: what the search shows is the rendered value, and it always
  shows something.
* `scan_iff_render`: the search and the rendering are the same.
-/

namespace Flashcard.Cloze

open Text (FirstPlace HasPlace exists_firstPlace place_append)

/-! ## The search -/

/-- A marker begins here. -/
def OpensAt (_before rest : Text) : Prop :=
  ∃ digits, IsNumber digits ∧ (Token.opener digits).text <+: rest

/-- Two colons follow that overlap the beginning of no marker in the body. -/
def SeparatesAt (body before rest : Text) : Prop :=
  [':', ':'] <+: rest ∧ ∀ front digits behind, IsNumber digits →
    body = front ++ ((Token.opener digits).text ++ behind) →
      front.length + (Token.opener digits).text.length ≤ before.length ∨
        before.length + 2 ≤ front.length

/-- The answer and the hint of a marker with this body. -/
inductive Splits (body : Text) : Text → Option Text → Prop
  | plain : ¬ HasPlace (SeparatesAt body) body → Splits body body none
  | hinted {answer hint : Text} :
      FirstPlace (SeparatesAt body) body answer (':' :: ':' :: hint) →
      Splits body answer (some hint)

/-- What a card shows for a value. The text in front of the first marker stays. A marker
    that is not closed stays with all that follows; a closed one gives way to what the card
    shows for its answer and hint, and the search goes on behind it. -/
inductive Scan (ordinal : Nat) (side : Side) : Text → Text → Prop
  | plain {value : Text} : ¬ HasPlace OpensAt value → Scan ordinal side value value
  | unclosed {value before digits rest : Text} : IsNumber digits →
      FirstPlace OpensAt value before ((Token.opener digits).text ++ rest) →
      ¬ HasPlace ClosesAt rest → Scan ordinal side value value
  | closed {value before digits rest body behind answer shown : Text} {hint : Option Text} :
      IsNumber digits →
      FirstPlace OpensAt value before ((Token.opener digits).text ++ rest) →
      FirstPlace ClosesAt rest body ('}' :: '}' :: behind) → Splits body answer hint →
      Scan ordinal side behind shown →
      Scan ordinal side value
        (before ++ (display id ordinal side (ordinal? digits) answer hint ++ shown))

/-! ## Colons in a body -/

/-- A separating token stands at colons that overlap the beginning of no marker. -/
theorem separatesAt_token {body : Text} {front back : List Token}
    (h : tokenize body = front ++ .separator :: back) :
    SeparatesAt body (front.flatMap Token.text) (':' :: ':' :: back.flatMap Token.text) := by
  refine ⟨⟨_, rfl⟩, ?_⟩
  rintro before digits behind number rfl
  rw [tokenize_opener number] at h
  have length (text : Text) : ((tokenize text).flatMap Token.text).length = text.length := by
    rw [flatMap_text_tokenize]
  obtain ⟨between, rfl, later⟩ | ⟨between, split, later⟩ := List.append_eq_append_iff.1 h
  · -- The marker begins in front of the separator.
    cases between with
    | nil => cases (List.cons.inj later).1
    | cons token between =>
      obtain ⟨rfl, -⟩ := List.cons.inj later
      refine .inl ?_
      rw [List.flatMap_append, List.flatMap_cons, List.length_append, List.length_append, length]
      omega
  · cases between with
    | nil => cases (List.cons.inj later).1
    | cons token between =>
      obtain ⟨rfl, -⟩ := List.cons.inj later
      refine .inr ?_
      have whole := length before
      rw [split, List.flatMap_append, List.flatMap_cons, List.length_append, List.length_append]
        at whole
      have two : Token.separator.text.length = 2 := rfl
      omega

theorem SeparatesAt.behind {front text before rest : Text}
    (h : SeparatesAt (front ++ text) (front ++ before) rest) : SeparatesAt text before rest := by
  refine ⟨h.1, ?_⟩
  rintro front' digits behind number rfl
  have apart := h.2 (front ++ front') digits behind number (by rw [List.append_assoc])
  rw [List.length_append, List.length_append] at apart
  omega

theorem eq_separator_of_separatesAt {token : Token} {text before rest : Text}
    (first : Cut token text) (h : SeparatesAt (token.text ++ text) before rest)
    (split : token.text ++ text = before ++ rest) (inside : before.length < token.text.length) :
    token = .separator := by
  obtain ⟨behind, rfl⟩ := h.1
  obtain ⟨inner, rfl, -⟩ | ⟨inner, tokenText, colons⟩ := List.append_eq_append_iff.1 split
  · rw [List.length_append] at inside
    omega
  cases inner with
  | nil =>
    rw [tokenText, List.append_nil] at inside
    omega
  | cons c inner =>
    obtain ⟨rfl, -⟩ := List.cons.inj colons
    have colon : ':' ∈ token.text :=
      tokenText ▸ List.mem_append_right _ (List.mem_cons_self ..)
    cases first with
    | mark mark =>
      cases mark with
      | separator => rfl
      | closer => simp [Token.text] at colon
      | @opener digits nonempty all =>
        have apart := h.2 [] digits text ⟨nonempty, all⟩ rfl
        rw [List.length_nil] at apart
        omega
    | run all _ => exact absurd (List.all_eq_true.1 all _ colon) (by decide)
    | @single c _ special none =>
      have start : before = [] := List.eq_nil_of_length_eq_zero (Nat.lt_one_iff.1 inside)
      rw [start] at split
      exact absurd ⟨behind, split.symm⟩ (none .separator .separator)

/-- Colons that overlap the beginning of no marker stand at a separating token or behind
    one. -/
theorem exists_separator {body before rest : Text} (split : body = before ++ rest)
    (h : SeparatesAt body before rest) :
    ∃ front back, tokenize body = front ++ .separator :: back ∧
      (front.flatMap Token.text).length ≤ before.length := by
  induction body using cutInduction generalizing before with
  | nil =>
    obtain ⟨-, rfl⟩ := List.append_eq_nil_iff.1 split.symm
    exact absurd (List.prefix_nil.1 h.1) (List.cons_ne_nil _ _)
  | cut token text first ih =>
    rw [tokenize_cut first]
    obtain inside | ⟨inner, rfl, split'⟩ := place_append split
    · rw [eq_separator_of_separatesAt first h split inside]
      exact ⟨[], tokenize text, rfl, Nat.zero_le _⟩
    · obtain ⟨front, back, tokens, le⟩ := ih split' h.behind
      refine ⟨token :: front, back, by rw [tokens, List.cons_append], ?_⟩
      rw [List.flatMap_cons, List.length_append, List.length_append]
      omega

/-- The first separating token stands at the first such colons. -/
theorem firstPlace_separator {body : Text} {front back : List Token}
    (h : tokenize body = front ++ .separator :: back) (first : .separator ∉ front) :
    FirstPlace (SeparatesAt body) body (front.flatMap Token.text)
      (':' :: ':' :: back.flatMap Token.text) where
  split := (tokenize_split h).1
  holds := separatesAt_token h
  first before rest split separates := by
    obtain ⟨front', back', tokens, le⟩ := exists_separator split separates
    rw [h] at tokens
    -- The separator found is the first one or one behind it.
    obtain ⟨between, rfl, -⟩ | ⟨between, rfl, later⟩ := List.append_eq_append_iff.1 tokens
    · rw [List.flatMap_append, List.length_append] at le
      omega
    · cases between with
      | nil => simpa using le
      | cons token between =>
        obtain ⟨rfl, -⟩ := List.cons.inj later
        exact absurd (List.mem_append_right _ (List.mem_cons_self ..)) first

/-! ## Answer and hint -/

theorem Marker.foldl_answer (marker : Marker) (h : marker.hint = none) {body : List Token}
    (plain : .separator ∉ body) :
    (body.foldl add marker).answer = marker.answer ++ body.flatMap Token.text ∧
      (body.foldl add marker).hint = none := by
  induction body generalizing marker with
  | nil => exact ⟨(List.append_nil _).symm, h⟩
  | cons token body ih =>
    rw [List.mem_cons, not_or] at plain
    obtain ⟨number, source, answer, hint⟩ := marker
    obtain rfl : hint = none := h
    have added : add ⟨number, source, answer, none⟩ token =
        ⟨number, source ++ token.text, answer ++ token.text, none⟩ := by
      cases token with
      | separator => exact absurd rfl plain.1
      | opener | closer | plain => rfl
    obtain ⟨answer', hint'⟩ := ih (add ⟨number, source, answer, none⟩ token) (by rw [added]) plain.2
    rw [List.foldl_cons, answer', hint', added, List.flatMap_cons, List.append_assoc]
    exact ⟨rfl, rfl⟩

theorem Marker.foldl_hint (marker : Marker) {hint : Text} (h : marker.hint = some hint)
    (body : List Token) :
    (body.foldl add marker).answer = marker.answer ∧
      (body.foldl add marker).hint = some (hint ++ body.flatMap Token.text) := by
  induction body generalizing marker hint with
  | nil => exact ⟨rfl, by rw [List.flatMap_nil, List.append_nil]; exact h⟩
  | cons token body ih =>
    obtain ⟨number, source, answer, hint'⟩ := marker
    obtain rfl : hint' = some hint := h
    have added : add ⟨number, source, answer, some hint⟩ token =
        ⟨number, source ++ token.text, answer, some (hint ++ token.text)⟩ := by
      cases token <;> rfl
    obtain ⟨answer', hint'⟩ := ih (add ⟨number, source, answer, some hint⟩ token) (by rw [added])
    rw [List.foldl_cons, answer', hint', added, List.flatMap_cons, List.append_assoc]
    exact ⟨rfl, rfl⟩

theorem Marker.answer_add_separator (marker : Marker) :
    (marker.add .separator).answer = marker.answer := by
  obtain ⟨_, _, _, hint⟩ := marker
  cases hint <;> rfl

/-- The answer and the hint that are gathered from the tokens of a body are those that the
    search finds. -/
theorem splits_foldl (digits body : Text) :
    Splits body ((tokenize body).foldl Marker.add (.start digits)).answer
      ((tokenize body).foldl Marker.add (.start digits)).hint := by
  by_cases separated : .separator ∈ tokenize body
  · obtain ⟨front, back, tokens, first⟩ := List.eq_append_cons_of_mem separated
    obtain ⟨answer, noHint⟩ := Marker.foldl_answer (.start digits) rfl first
    have begun : ((front.foldl Marker.add (.start digits)).add .separator).hint = some [] := by
      rw [Marker.hint_add, noHint]
      rfl
    obtain ⟨kept, hint⟩ := Marker.foldl_hint _ begun back
    rw [tokens, List.foldl_append, List.foldl_cons, kept, hint, Marker.answer_add_separator,
      answer]
    exact .hinted (firstPlace_separator tokens first)
  · obtain ⟨answer, noHint⟩ := Marker.foldl_answer (.start digits) rfl separated
    rw [answer, noHint, flatMap_text_tokenize]
    refine .plain ?_
    rintro ⟨before, rest, split, separates⟩
    obtain ⟨front, back, tokens, -⟩ := exists_separator split separates
    exact separated (tokens ▸ List.mem_append_right _ (List.mem_cons_self ..))

/-- A body falls into an answer and a hint in one way. -/
theorem Splits.unique {body answer answer' : Text} {hint hint' : Option Text}
    (h : Splits body answer hint) (h' : Splits body answer' hint') :
    answer = answer' ∧ hint = hint' := by
  cases h with
  | plain none =>
    cases h' with
    | plain => exact ⟨rfl, rfl⟩
    | hinted first => exact absurd first.hasPlace none
  | hinted first =>
    cases h' with
    | plain none => exact absurd first.hasPlace none
    | hinted first' =>
      obtain ⟨rfl, rest⟩ := first.unique first'
      rw [(List.cons.inj (List.cons.inj rest).2).2]
      exact ⟨rfl, rfl⟩

/-! ## Rendering and the search -/

variable {ordinal : Nat} {side : Side} {value shown : Text}

theorem renderTokens_literal {tokens : List Token} (h : ∀ digits, .opener digits ∉ tokens)
    (rest : List Token) :
    renderTokens ordinal side none (tokens ++ rest) =
      tokens.flatMap Token.text ++ renderTokens ordinal side none rest := by
  induction tokens with
  | nil => rfl
  | cons token tokens ih =>
    have later := ih fun digits mem => h digits (List.mem_cons_of_mem _ mem)
    rw [List.flatMap_cons, List.append_assoc, ← later]
    cases token with
    | opener digits => exact absurd (List.mem_cons_self ..) (h digits)
    | separator | closer | plain => rfl

/-- A marker that is not closed is shown as it is, with all that follows. -/
theorem renderTokens_unclosed (marker : Marker) {tokens : List Token} (h : .closer ∉ tokens) :
    renderTokens ordinal side (some marker) tokens =
      marker.source ++ tokens.flatMap Token.text := by
  induction tokens generalizing marker with
  | nil => exact (List.append_nil _).symm
  | cons token tokens ih =>
    have later := ih (marker.add token) fun mem => h (List.mem_cons_of_mem _ mem)
    have source : (marker.add token).source = marker.source ++ token.text := by
      unfold Marker.add
      split <;> rfl
    rw [source, List.append_assoc, ← List.flatMap_cons] at later
    cases token with
    | closer => exact absurd (List.mem_cons_self ..) h
    | opener | separator | plain => exact later

theorem opener_notMem_of_first {before rest : Text} (h : FirstPlace OpensAt value before rest)
    (digits : Text) : .opener digits ∉ tokenize before := by
  intro mem
  obtain ⟨number, front, behind, rfl⟩ := opener_mem_iff.1 mem
  have least := h.first front ((Token.opener digits).text ++ (behind ++ rest))
    (by rw [h.split, List.append_assoc, List.append_assoc])
    ⟨digits, number, List.prefix_append _ _⟩
  rw [List.length_append, List.length_append] at least
  have some : 0 < (Token.opener digits).text.length := by simp [Token.text]
  omega

/-- Rendering keeps the text in front of the first marker and goes on behind its
    colons. -/
theorem render_first {before digits rest : Text} (number : IsNumber digits)
    (h : FirstPlace OpensAt value before ((Token.opener digits).text ++ rest)) :
    render value ordinal side =
      before ++ renderTokens ordinal side (some (.start digits)) (tokenize rest) := by
  rw [render, h.split, tokenize_opener number,
    renderTokens_literal (opener_notMem_of_first h), flatMap_text_tokenize]
  rfl

theorem render_plain (h : ¬ HasPlace OpensAt value) : render value ordinal side = value := by
  have unopened (digits : Text) : .opener digits ∉ tokenize value := by
    intro mem
    obtain ⟨number, before, rest, text⟩ := opener_mem_iff.1 mem
    exact h ⟨before, _, text, digits, number, List.prefix_append _ _⟩
  have literal : renderTokens ordinal side none (tokenize value ++ []) = _ :=
    renderTokens_literal unopened []
  rw [List.append_nil, flatMap_text_tokenize] at literal
  exact literal.trans (List.append_nil _)

/-- What the search shows is the rendered value. -/
theorem Scan.render (h : Scan ordinal side value shown) :
    Cloze.render value ordinal side = shown := by
  induction h with
  | plain none => exact render_plain none
  | @unclosed value before digits rest number first none =>
    have noCloser : .closer ∉ tokenize rest := by
      rw [closer_mem_iff, ← hasPlace_closesAt_iff]
      exact none
    rw [render_first number first, renderTokens_unclosed _ noCloser, flatMap_text_tokenize]
    exact first.split.symm
  | @closed value before digits rest body behind answer shown hint number first close splits _ ih =>
    obtain ⟨tokens, noCloser⟩ := tokenize_firstCloser close
    obtain ⟨rfl, rfl⟩ := splits.unique (splits_foldl digits body)
    rw [render_first number first, tokens, renderTokens_body _ _ noCloser,
      Marker.render_eq_display, Marker.ordinal_foldl, ← ih]
    rfl

/-- The search always shows something. -/
theorem exists_scan (value : Text) : ∃ shown, Scan ordinal side value shown := by
  by_cases opens : HasPlace OpensAt value
  · obtain ⟨before, _, first⟩ := exists_firstPlace opens
    obtain ⟨digits, number, rest, rfl⟩ := first.holds
    by_cases closes : HasPlace ClosesAt rest
    · obtain ⟨body, _, close⟩ := exists_firstPlace closes
      obtain ⟨behind, rfl⟩ := close.holds
      have shorter : behind.length < value.length := by
        rw [first.split, close.split]
        simp only [List.length_append, List.length_cons]
        omega
      obtain ⟨shown, scan⟩ := exists_scan behind
      exact ⟨_, .closed number first close (splits_foldl digits body) scan⟩
    · exact ⟨value, .unclosed number first closes⟩
  · exact ⟨value, .plain opens⟩
termination_by value.length

/-- Rendering a value shows what a search for its marks from left to right shows. A value
    in which no marker is closed is shown as it is. -/
theorem scan_iff_render (value : Text) (ordinal : Nat) (side : Side) :
    (∀ shown, Scan ordinal side value shown ↔ shown = render value ordinal side) ∧
      ((∀ before digits rest, IsNumber digits →
          value = before ++ ((Token.opener digits).text ++ rest) → ¬ ['}', '}'] <:+: rest) →
        render value ordinal side = value) := by
  constructor
  · intro shown
    constructor
    · exact fun scan => scan.render.symm
    · rintro rfl
      obtain ⟨shown, scan⟩ : ∃ shown, Scan ordinal side value shown := exists_scan value
      rw [scan.render]
      exact scan
  · intro none
    by_cases opens : HasPlace OpensAt value
    · obtain ⟨before, _, first⟩ := exists_firstPlace opens
      obtain ⟨digits, number, rest, rfl⟩ := first.holds
      refine (Scan.unclosed number first ?_).render
      rw [hasPlace_closesAt_iff]
      exact none before digits rest number first.split
    · exact render_plain opens

/-- A value with a marker that a single brace does not close. -/
theorem scan_iff_render_singleBrace :
    let value := ['a', '{', '{', 'c', '1', ':', ':', 'b', ':', ':', '}', 'c']
    (∀ before digits rest, IsNumber digits →
      value = before ++ ((Token.opener digits).text ++ rest) → ¬ ['}', '}'] <:+: rest) ∧
      Scan 1 .question value value ∧ render value 1 .question = value := by
  intro value
  have unclosed (before digits rest : Text) (_ : IsNumber digits)
      (text : value = before ++ ((Token.opener digits).text ++ rest)) :
      ¬ ['}', '}'] <:+: rest := by
    intro closes
    have inside : ['}', '}'] <:+: value := by
      rw [text, ← List.append_assoc]
      exact closes.trans (List.suffix_append _ _).isInfix
    exact absurd inside (by decide)
  have same := (scan_iff_render value 1 .question).2 unclosed
  exact ⟨unclosed, ((scan_iff_render value 1 .question).1 value).2 same.symm, same⟩

end Flashcard.Cloze
