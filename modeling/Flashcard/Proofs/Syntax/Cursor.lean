import Flashcard.Proofs.Syntax.Machine
import Flashcard.Proofs.Syntax.Walk

/-!
# Cursors in a tree

A cursor stands between two bytes of a source. It touches the tokens that end or begin there or
go on across it, at most two if no token is empty, and the one to the left is the first that
does not end before the cursor.

Results:
* `tokenAt_eq`: looking up the token to the left of a cursor does not panic inside of a tree.
* `exists_leftToken`: the text before a cursor ends in a token.
* `LeftToken.exists_isLeaf`: this token is the one that is found to the left of the cursor.
* `exists_parent`: every token stands right below one node, in its place among the children.
-/

namespace Flashcard.Tree

variable {κ : Type}

/-! ## Looking up a token -/

/-- The range ends or begins at the byte offset or goes on across it. -/
def Visit.touches (offset : Nat) (visit : Visit κ) : Bool :=
  visit.span.start ≤ offset && offset ≤ visit.span.stop

/-- The first of at most two. More tokens than that do not meet at one place. -/
def leftmost {α : Type} : List α → Except Panic (Option α)
  | [] => .ok none
  | [only] => .ok (some only)
  | [left, _] => .ok (some left)
  | _ => .error .unexpected

/-- The token to the left of a byte offset, if there is a token at all. The offset has to lie
    in the tree. -/
def tokenAt (tree : Tree κ) (offset : Nat) : Except Panic (Option (Visit κ)) :=
  if tree.size < offset then .error .range
  else leftmost (tree.leaves.filter (·.touches offset))

/-! ## Tokens that meet -/

/-- Tokens that are not empty, the first one from the byte `start` on and each of the others
    from where the one before it ends. -/
def Meet (start : Nat) : List (Visit κ) → Prop
  | [] => True
  | visit :: rest =>
    visit.span.start = start ∧ 0 < visit.span.size ∧ Meet visit.span.stop rest

/-- Visits to tokens that are laid out one behind the other. -/
theorem meet_of_place {start : Nat} {visits : List (Visit κ)} {tokens : List (κ × Text)}
    (h : visits.map Visit.lexeme = place start tokens) (filled : ∀ token ∈ tokens, token.2 ≠ []) :
    Meet start visits := by
  induction visits generalizing start tokens with
  | nil => trivial
  | cons visit visits ih =>
    obtain _ | ⟨⟨kind, text⟩, tokens⟩ := tokens
    · cases h
    · obtain ⟨here, others⟩ := List.cons.inj h
      obtain ⟨first, later⟩ := List.forall_mem_cons.1 filled
      have span : visit.span = ⟨start, text.size⟩ := congrArg Lexeme.span here
      refine ⟨by rw [span], ?_, ?_⟩
      · rw [span]
        exact Text.size_pos first
      · rw [span]
        exact ih others later

theorem Meet.filter_eq_nil {start offset : Nat} {visits : List (Visit κ)} (h : Meet start visits)
    (before : offset < start) : visits.filter (·.touches offset) = [] := by
  induction visits generalizing start with
  | nil => rfl
  | cons visit visits ih =>
    obtain ⟨first, pos, later⟩ := h
    have away : ¬ visit.touches offset = true := by
      simp only [Visit.touches, Bool.and_eq_true, decide_eq_true_eq]
      omega
    rw [List.filter_cons_of_neg away]
    apply ih later
    simp only [Span.stop]
    omega

/-- At most two tokens touch an offset. The left one is the first that does not end before. -/
theorem Meet.leftmost_eq {start offset : Nat} {visits : List (Visit κ)} (h : Meet start visits)
    (begun : start ≤ offset) : leftmost (visits.filter (·.touches offset)) =
      .ok (visits.find? fun visit => offset ≤ visit.span.stop) := by
  induction visits generalizing start with
  | nil => rfl
  | cons visit visits ih =>
    obtain ⟨first, pos, later⟩ := h
    by_cases reached : offset ≤ visit.span.stop
    · have here : visit.touches offset = true := by
        simp only [Visit.touches, Bool.and_eq_true, decide_eq_true_eq]
        omega
      have first : (visit :: visits).find? (fun visit => offset ≤ visit.span.stop) =
          some visit := List.find?_cons_of_pos (decide_eq_true reached)
      rw [List.filter_cons_of_pos here, first]
      obtain inside | rfl := Nat.lt_or_eq_of_le reached
      · rw [later.filter_eq_nil inside]
        rfl
      · -- The next token begins at the offset, and no other one does.
        cases visits with
        | nil => rfl
        | cons next visits =>
          obtain ⟨joined, pos, last⟩ := later
          have behind : visit.span.stop < next.span.stop := by
            simp only [Span.stop] at joined ⊢
            omega
          have also : next.touches visit.span.stop = true := by
            simp only [Visit.touches, Bool.and_eq_true, decide_eq_true_eq]
            omega
          rw [List.filter_cons_of_pos also, last.filter_eq_nil behind]
          rfl
    · have away : ¬ visit.touches offset = true := by
        simp only [Visit.touches, Bool.and_eq_true, decide_eq_true_eq]
        omega
      rw [List.filter_cons_of_neg away, List.find?_cons_of_neg (by simpa using reached)]
      exact ih later (by omega)

/-- Inside a tree without empty tokens the token to the left of an offset is found. -/
theorem tokenAt_eq {tree : Tree κ} {offset : Nat} (filled : ∀ token ∈ tree.tokens, token.2 ≠ [])
    (inside : offset ≤ tree.size) : tree.tokenAt offset =
      .ok (tree.leaves.find? fun leaf => offset ≤ leaf.span.stop) := by
  have meet := meet_of_place (map_lexeme_leaves tree) filled
  rw [tokenAt, if_neg (Nat.not_lt_of_le inside), meet.leftmost_eq (Nat.zero_le offset)]

/-! ## The text around a cursor -/

section Text

variable {τ : Type} {text : τ → Text} {tokens : List τ} {before after : Text}

/-- The text before a cursor, which is not at the start, ends in one of the tokens or with it. -/
structure LeftToken (text : τ → Text) (tokens : List τ) (before after : Text) where
  front : List τ
  token : τ
  behind : List τ
  /-- What stands of the token before the cursor. -/
  left : Text
  /-- What stands of it behind the cursor. -/
  right : Text
  tokens_eq : tokens = front ++ token :: behind
  text_eq : text token = left ++ right
  left_ne_nil : left ≠ []
  before_eq : before = front.flatMap text ++ left
  after_eq : after = right ++ behind.flatMap text

/-- The same behind another token. -/
def LeftToken.cons (first : τ) (found : LeftToken text tokens before after) :
    LeftToken text (first :: tokens) (text first ++ before) after where
  front := first :: found.front
  token := found.token
  behind := found.behind
  left := found.left
  right := found.right
  tokens_eq := congrArg (List.cons first) found.tokens_eq
  text_eq := found.text_eq
  left_ne_nil := found.left_ne_nil
  before_eq := by rw [List.flatMap_cons, List.append_assoc, ← found.before_eq]
  after_eq := found.after_eq

theorem LeftToken.mem (found : LeftToken text tokens before after) : found.token ∈ tokens := by
  have here : found.token ∈ found.front ++ found.token :: found.behind :=
    List.mem_append_right _ List.mem_cons_self
  rwa [← found.tokens_eq] at here

/-- There is a token to the left of every cursor that is not at the start. -/
theorem exists_leftToken (h : tokens.flatMap text = before ++ after) (begun : before ≠ []) :
    Nonempty (LeftToken text tokens before after) := by
  induction tokens generalizing before with
  | nil =>
    obtain ⟨rfl, -⟩ := List.append_eq_nil_iff.1 h.symm
    exact absurd rfl begun
  | cons token tokens ih =>
    rw [List.flatMap_cons] at h
    obtain ⟨front, rfl, behind⟩ | ⟨right, whole, rest⟩ := List.append_eq_append_iff.1 h
    · by_cases further : front = []
      · subst further
        rw [List.append_nil] at begun ⊢
        exact ⟨[], token, tokens, text token, [], rfl, (List.append_nil _).symm, begun, rfl,
          behind.symm⟩
      · obtain ⟨found⟩ := ih behind further
        exact ⟨found.cons token⟩
    · exact ⟨[], token, tokens, before, right, rfl, whole, begun, rfl, rest⟩

end Text

/-! ## Tokens in their places -/

theorem start_le_of_mem_place {κ : Type} {start : Nat} {tokens : List (κ × Text)}
    {lexeme : Lexeme κ} (h : lexeme ∈ place start tokens) : start ≤ lexeme.span.start := by
  induction tokens generalizing start with
  | nil => cases h
  | cons token tokens ih =>
    obtain rfl | later := List.mem_cons.1 h
    · exact Nat.le_refl _
    · have first := ih later
      omega

theorem stop_le_of_mem_place {start : Nat} {tokens : List (κ × Text)} {lexeme : Lexeme κ}
    (h : lexeme ∈ place start tokens) :
    lexeme.span.stop ≤ start + Text.size (tokens.flatMap (·.2)) := by
  induction tokens generalizing start with
  | nil => cases h
  | cons token tokens ih =>
    rw [List.flatMap_cons, Text.size_append]
    obtain rfl | later := List.mem_cons.1 h
    · simp only [Span.stop]
      omega
    · have last := ih later
      omega

theorem size_of_mem_place {start : Nat} {tokens : List (κ × Text)} {lexeme : Lexeme κ}
    (h : lexeme ∈ place start tokens) : lexeme.span.size = lexeme.text.size := by
  induction tokens generalizing start with
  | nil => cases h
  | cons token tokens ih =>
    obtain rfl | later := List.mem_cons.1 h
    · rfl
    · exact ih later

/-- Only one token goes on right before an offset. -/
theorem eq_of_mem_place {κ : Type} {start offset : Nat} {tokens : List (κ × Text)}
    {a b : Lexeme κ} (ha : a ∈ place start tokens) (hb : b ∈ place start tokens)
    (left : a.span.start < offset ∧ offset ≤ a.span.stop)
    (right : b.span.start < offset ∧ offset ≤ b.span.stop) : a = b := by
  induction tokens generalizing start with
  | nil => cases ha
  | cons token tokens ih =>
    have apart {c : Lexeme κ} (later : c ∈ place (start + token.2.size) tokens)
        (inside : c.span.start < offset) : ¬ offset ≤ (Span.mk start token.2.size).stop := by
      have first := start_le_of_mem_place later
      simp only [Span.stop]
      omega
    obtain rfl | aLater := List.mem_cons.1 ha
    · obtain rfl | bLater := List.mem_cons.1 hb
      · rfl
      · exact absurd left.2 (apart bLater right.1)
    · obtain rfl | bLater := List.mem_cons.1 hb
      · exact absurd right.2 (apart aLater left.1)
      · exact ih aLater bLater

theorem map_kind_place (start : Nat) (tokens : List (κ × Text)) :
    (place start tokens).map Lexeme.kind = tokens.map (·.1) := by
  induction tokens generalizing start with
  | nil => rfl
  | cons token tokens ih => exact congrArg (List.cons token.1) (ih _)

/-- A leaf of a tree is the token to the left of a cursor, and is what the cursor finds. -/
structure LeftToken.IsLeaf {τ : Type} {pair : τ → κ × Text} {tokens : List τ}
    {before after : Text} (found : LeftToken (fun token => (pair token).2) tokens before after)
    (tree : Tree κ) (leaf : Visit κ) : Prop where
  lexeme_eq : leaf.lexeme = ⟨(pair found.token).1,
    ⟨Text.size (found.front.flatMap fun token => (pair token).2), (pair found.token).2.size⟩,
    (pair found.token).2⟩
  find?_eq : tree.leaves.find? (fun leaf => before.size ≤ leaf.span.stop) = some leaf
  leaves_eq : ∃ visited later, tree.leaves = visited ++ leaf :: later ∧
    visited.map (·.kind) = found.front.map fun token => (pair token).1

/-- The token to the left of a cursor is a leaf of the tree. -/
theorem LeftToken.exists_isLeaf {τ : Type} {pair : τ → κ × Text} {tokens : List τ}
    {before after : Text} (found : LeftToken (fun token => (pair token).2) tokens before after)
    {tree : Tree κ} (h : tree.tokens = tokens.map pair) : ∃ leaf, found.IsLeaf tree leaf := by
  have flat (part : List τ) :
      (part.map pair).flatMap (·.2) = part.flatMap fun token => (pair token).2 :=
    List.flatMap_map ..
  have places := map_lexeme_leaves tree
  rw [h, found.tokens_eq, List.map_append, List.map_cons, place_append] at places
  obtain ⟨visited, rest, leaves, placed, tail⟩ := List.map_eq_append_iff.1 places
  obtain ⟨leaf, later, rfl, here, -⟩ := List.map_eq_cons_iff.1 tail
  rw [flat, Nat.zero_add] at here
  have size : before.size =
      Text.size (found.front.flatMap fun token => (pair token).2) + found.left.size := by
    rw [← Text.size_append, ← found.before_eq]
  have span : leaf.span = ⟨_, _⟩ := congrArg Lexeme.span here
  refine ⟨leaf, here, ?_, visited, later, leaves, ?_⟩
  · have passed : visited.find? (fun leaf => before.size ≤ leaf.span.stop) = none := by
      rw [List.find?_eq_none]
      intro visit mem
      have mem : visit.lexeme ∈ place 0 (found.front.map pair) := by
        rw [← placed]
        exact List.mem_map_of_mem mem
      have last : visit.span.stop ≤ _ := stop_le_of_mem_place mem
      have pos := Text.size_pos found.left_ne_nil
      rw [flat, Nat.zero_add] at last
      simp only [decide_eq_true_eq]
      omega
    rw [leaves, List.find?_append, passed, Option.none_or]
    apply List.find?_cons_of_pos
    rw [span, found.text_eq, Text.size_append, size, decide_eq_true_eq]
    simp only [Span.stop]
    omega
  · have kinds := congrArg (List.map Lexeme.kind) placed
    rw [List.map_map, map_kind_place, List.map_map] at kinds
    exact kinds

/-! ## The node around a token -/

/-- The node stands right around the token: the kinds are those of the node and of the nodes
    around it, and the token is a child of it in its place. -/
def Encloses (o : Occurrence κ) (leaf : Visit κ) : Prop :=
  leaf.path = (o.tree :: o.above).map kind ∧ ∃ front behind,
    o.tree.children = front ++ .leaf leaf.kind leaf.lexeme.text :: behind ∧
      leaf.span = ⟨o.start + sizeAll front, leaf.lexeme.text.size⟩

mutual

theorem exists_parent_visits {path : List κ} (above : List (Tree κ)) (start : Nat)
    (same : path = above.map kind) : (tree : Tree κ) →
    ∀ leaf ∈ visits path start tree, leaf.isNode = false →
      (leaf.path = path ∧ tree = .leaf leaf.kind leaf.lexeme.text ∧
        leaf.span = ⟨start, leaf.lexeme.text.size⟩) ∨
      ∃ o ∈ occurrences above start tree, Encloses o leaf
  | leaf _ _ => List.forall_mem_singleton.2 fun _ => .inl ⟨rfl, rfl, rfl⟩
  | node kind children => by
    refine List.forall_mem_cons.2 ⟨nofun, fun leaf mem isLeaf => .inr ?_⟩
    have around : kind :: path = (node kind children :: above).map Tree.kind := by
      rw [same]
      rfl
    obtain ⟨path, front, behind, whole, span⟩ | ⟨o, below, encloses⟩ :=
      exists_parent_visitsAll (node kind children :: above) start around children leaf mem isLeaf
    · exact ⟨_, List.mem_cons_self, path.trans around, front, behind, whole, span⟩
    · exact ⟨o, List.mem_cons_of_mem _ below, encloses⟩

theorem exists_parent_visitsAll {path : List κ} (above : List (Tree κ)) (start : Nat)
    (same : path = above.map kind) : (trees : List (Tree κ)) →
    ∀ leaf ∈ visitsAll path start trees, leaf.isNode = false →
      (leaf.path = path ∧ ∃ front behind,
        trees = front ++ .leaf leaf.kind leaf.lexeme.text :: behind ∧
          leaf.span = ⟨start + sizeAll front, leaf.lexeme.text.size⟩) ∨
      ∃ o ∈ occurrencesAll above start trees, Encloses o leaf
  | [] => nofun
  | tree :: rest => by
    intro leaf mem isLeaf
    obtain mem | mem := List.mem_append.1 mem
    · obtain ⟨path, whole, span⟩ | ⟨o, below, encloses⟩ :=
        exists_parent_visits above start same tree leaf mem isLeaf
      · exact .inl ⟨path, [], rest, by rw [whole]; rfl, span⟩
      · exact .inr ⟨o, List.mem_append_left _ below, encloses⟩
    · obtain ⟨path, front, behind, whole, span⟩ | ⟨o, below, encloses⟩ :=
        exists_parent_visitsAll above (start + tree.size) same rest leaf mem isLeaf
      · refine .inl ⟨path, tree :: front, behind, by rw [whole]; rfl, ?_⟩
        rw [span, sizeAll, Nat.add_assoc]
      · exact .inr ⟨o, List.mem_append_right _ below, encloses⟩

end

/-- Every token in a tree that is more than a token stands right below one node. -/
theorem exists_parent {kind : κ} {children : List (Tree κ)} {leaf : Visit κ}
    (h : leaf ∈ (node kind children).leaves) :
    ∃ o ∈ (node kind children).occurrences [] 0, Encloses o leaf := by
  obtain ⟨visited, isLeaf⟩ := List.mem_filter.1 h
  rw [Bool.not_eq_true'] at isLeaf
  obtain ⟨-, other, -⟩ | found := exists_parent_visits [] 0 rfl _ leaf visited isLeaf
  · cases other
  · exact found

end Flashcard.Tree
