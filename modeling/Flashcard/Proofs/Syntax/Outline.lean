import Flashcard.Proofs.Syntax.Tiling
import Flashcard.Proofs.Text.Quoted
import Flashcard.Syntax.Outline
import Flashcard.Text.Lines

/-!
# Reading outlines

An outline that leaves nothing out has a line for every node and token of its tree, whatever
the texts of the tokens are, since these are quoted. The indentation of a line says how deep its
node or token stands, and its words say the kind and the text. So the lines give the tree back.

Results:
* `lines_outline`: the lines of an outline are those of what the walk through the tree meets.
* `read_content`: what a line says can be read.
* `flatten_texts`: the texts of the tokens make up the source.
* `entries_injective`: a tree is given by what its lines say.
* `outlined`, `outline_injective`: an outline can be read, and is that of one tree only.
-/

namespace Flashcard

/-! ## Lines -/

namespace Text

theorem lines_append {content : Text} (h : ∀ c ∈ content, ¬ IsLineEnd c) (more : Text) :
    lines (content ++ '\n' :: more) = ⟨content, ['\n']⟩ :: lines more := by
  induction content with
  | nil => rw [List.nil_append, lines]
  | cons c content ih =>
    obtain ⟨here, later⟩ := List.forall_mem_cons.1 h
    have feed : c ≠ '\n' := fun eq => here (.inl eq)
    have carriage : c ≠ '\r' := fun eq => here (.inr eq)
    rw [List.cons_append, lines, ih later, putFirst]
    · exact feed
    · exact fun rest eq => absurd eq carriage

theorem lines_flatMap {α : Type} {content : α → Text} {items : List α}
    (h : ∀ item ∈ items, ∀ c ∈ content item, ¬ IsLineEnd c) :
    lines (items.flatMap fun item => content item ++ ['\n']) =
      items.map fun item => ⟨content item, ['\n']⟩ := by
  induction items with
  | nil => rfl
  | cons item items ih =>
    obtain ⟨here, later⟩ := List.forall_mem_cons.1 h
    rw [List.flatMap_cons, List.append_assoc, List.singleton_append, lines_append here, ih later,
      List.map_cons]

end Text

/-! ## Vocabularies whose names can be read -/

/-- The names of the kinds are words, and no two kinds share one. -/
structure PlainNames (κ : Type) [Vocabulary κ] : Prop where
  nonempty : ∀ kind : κ, Vocabulary.name kind ≠ []
  letters : ∀ kind : κ, (Vocabulary.name kind).all Char.isAlpha = true
  injective : Function.Injective (Vocabulary.name : κ → Text)

/-- What a line of an outline says: how far it is indented, the name of a kind, and the text of
    a token. -/
structure OutlineEntry where
  indent : Nat
  kind : Text
  text : Option Text
deriving DecidableEq, Repr

namespace OutlineEntry

/-- Reads a line. The name goes up to the next blank, and the text is what is quoted. -/
def read (line : Text) : OutlineEntry :=
  let body := line.dropWhile (· = ' ')
  let quoted := body.dropWhile (· ≠ '"')
  ⟨(line.takeWhile (· = ' ')).length, body.takeWhile (· ≠ ' '),
    if quoted = [] then none else some (Text.unquote quoted)⟩

/-- Reads an outline. -/
def readAll (outline : Text) : List OutlineEntry := outline.lines.map (read ·.content)

end OutlineEntry

/-- Nothing is left out. -/
def OutlineOptions.whole (spans : Bool) : OutlineOptions := ⟨true, true, spans⟩

namespace Tree

variable {κ : Type} [Vocabulary κ]

namespace Visit

/-- The range in a line, if ranges are shown. -/
def range (options : OutlineOptions) (visit : Visit κ) : Text :=
  if options.spans then
    " [".toList ++ Text.ofNat visit.span.start ++ "..".toList ++ Text.ofNat visit.span.stop ++
      "]".toList
  else []

/-- The text of a token, as it stands in its line. -/
def quoted (visit : Visit κ) : Text :=
  match visit.text with
  | some text => ' ' :: text.quote
  | none => []

/-- A line without its end. -/
def content (options : OutlineOptions) (visit : Visit κ) : Text :=
  List.replicate (2 * visit.depth) ' ' ++ Vocabulary.name visit.kind ++ visit.range options ++
    visit.quoted

/-- What a line says. -/
def entry (visit : Visit κ) : OutlineEntry :=
  ⟨2 * visit.depth, Vocabulary.name visit.kind, visit.text⟩

end Visit

/-! ## What stands in a line -/

omit [Vocabulary κ] in
theorem mem_range {options : OutlineOptions} {visit : Visit κ} {c : Char}
    (h : c ∈ visit.range options) : c ∈ [' ', '[', '.', ']'] ∨ c.isDigit = true := by
  have digit {n : Nat} (h : c ∈ Text.ofNat n) : c.isDigit = true :=
    Nat.isDigit_of_mem_toDigits (by decide) (by decide) h
  unfold Visit.range at h
  split at h
  · simp only [List.mem_append] at h
    obtain (((front | start) | dots) | stop) | last := h
    · exact .inl (List.mem_append_left _ front)
    · exact .inr (digit start)
    · left; revert dots; simp +contextual
    · exact .inr (digit stop)
    · left; revert last; simp +contextual
  · cases h

omit [Vocabulary κ] in
theorem ne_quote_of_mem_range {options : OutlineOptions} {visit : Visit κ} {c : Char}
    (h : c ∈ visit.range options) : c ≠ '"' := by
  rintro rfl
  obtain frame | digit := mem_range h
  · revert frame
    decide
  · cases digit

omit [Vocabulary κ] in
/-- A blank goes before the range and before the text. -/
theorem eq_blank_of_head? {options : OutlineOptions} {visit : Visit κ} {c : Char}
    (h : c ∈ (visit.range options ++ visit.quoted).head?) : c = ' ' := by
  unfold Visit.range Visit.quoted at h
  split at h <;> split at h <;> simp at h <;> exact h.symm

section

variable (names : PlainNames κ) (options : OutlineOptions) (visit : Visit κ)
include names

theorem ne_of_mem_name {kind : κ} {c d : Char} (h : c ∈ Vocabulary.name kind)
    (other : d.isAlpha = false) : c ≠ d := by
  rintro rfl
  rw [List.all_eq_true.1 (names.letters kind) c h] at other
  cases other

theorem not_isLineEnd_content : ∀ c ∈ visit.content options, ¬ Text.IsLineEnd c := by
  intro c h
  simp only [Visit.content, List.mem_append] at h
  obtain ((indent | name) | range) | quoted := h
  · rw [List.eq_of_mem_replicate indent]
    simp [Text.IsLineEnd]
  · exact not_or.2 ⟨ne_of_mem_name names name rfl, ne_of_mem_name names name rfl⟩
  · obtain frame | digit := mem_range range
    · simp only [List.mem_cons, List.not_mem_nil, or_false] at frame
      obtain rfl | rfl | rfl | rfl := frame <;> simp [Text.IsLineEnd]
    · rintro (rfl | rfl) <;> cases digit
  · unfold Visit.quoted at quoted
    split at quoted
    · obtain rfl | inside := List.mem_cons.1 quoted
      · simp [Text.IsLineEnd]
      · exact Text.not_isLineEnd_quote inside
    · cases quoted

/-- What a line says can be read. -/
theorem read_content : OutlineEntry.read (visit.content options) = visit.entry := by
  have name {d : Char} (h : d.isAlpha = false) :
      ∀ c ∈ Vocabulary.name visit.kind, decide (c ≠ d) = true :=
    fun c mem => decide_eq_true (ne_of_mem_name names mem h)
  have range : ∀ c ∈ visit.range options, decide (c ≠ '"') = true :=
    fun c mem => decide_eq_true (ne_quote_of_mem_range mem)
  have blank : ∀ c ∈ (visit.range options ++ visit.quoted).head?, decide (c ≠ ' ') = false :=
    fun c first => decide_eq_false (not_not_intro (eq_blank_of_head? first))
  have words : ∀ c ∈ (Vocabulary.name visit.kind ++ (visit.range options ++ visit.quoted)).head?,
      decide (c = ' ') = false := by
    intro c first
    obtain ⟨letter, letters, split⟩ := List.exists_cons_of_ne_nil (names.nonempty visit.kind)
    rw [split] at first
    obtain rfl := Option.some.inj first
    exact decide_eq_false (ne_of_mem_name names (split ▸ List.mem_cons_self) rfl)
  obtain ⟨indent, body⟩ := Text.run_of_all
    (fun c mem => decide_eq_true (List.eq_of_mem_replicate mem)) words
  obtain ⟨kind, -⟩ := Text.run_of_all (name rfl) blank
  have text : (Vocabulary.name visit.kind ++ (visit.range options ++ visit.quoted)).dropWhile
      (· ≠ '"') = visit.quoted.tail := by
    rw [List.dropWhile_append_of_pos (name rfl), List.dropWhile_append_of_pos range]
    unfold Visit.quoted
    split <;> rfl
  rw [OutlineEntry.read, Visit.content, List.append_assoc, List.append_assoc, indent, body, kind,
    text, List.length_replicate, Visit.entry, Visit.quoted]
  cases visit.text with
  | none => rfl
  | some text =>
    rw [List.tail_cons, if_neg (Text.quote_ne_nil text), Text.unquote_quote]

end

theorem outline_whole (spans : Bool) (tree : Tree κ) :
    tree.outline (.whole spans) =
      tree.walk.flatMap fun visit => visit.content (.whole spans) ++ ['\n'] := by
  have all : tree.walk.filter (·.isShown (.whole spans)) = tree.walk :=
    List.filter_eq_self.2 fun visit _ => Bool.or_true _
  rw [outline, all]
  rfl

/-- The lines of an outline are those of what the walk through the tree meets. -/
theorem lines_outline (names : PlainNames κ) (spans : Bool) (tree : Tree κ) :
    Text.lines (tree.outline (.whole spans)) =
      tree.walk.map fun visit => ⟨visit.content (.whole spans), ['\n']⟩ := by
  rw [outline_whole]
  exact Text.lines_flatMap fun visit _ => not_isLineEnd_content names _ visit

/-! ## What the lines say -/

mutual

/-- What the lines for a tree say, if `depth` nodes are around it. -/
def entries (depth : Nat) : Tree κ → List OutlineEntry
  | leaf kind text => [⟨2 * depth, Vocabulary.name kind, some text⟩]
  | node kind children =>
    ⟨2 * depth, Vocabulary.name kind, none⟩ :: entriesAll (depth + 1) children

/-- What the lines for trees in a row say. -/
def entriesAll (depth : Nat) : List (Tree κ) → List OutlineEntry
  | [] => []
  | tree :: rest => entries depth tree ++ entriesAll depth rest

end

mutual

theorem map_entry_visits (path : List κ) (start : Nat) : (tree : Tree κ) →
    (visits path start tree).map Visit.entry = entries path.length tree
  | leaf _ _ => rfl
  | node kind children => congrArg (_ :: ·) (map_entry_visitsAll (kind :: path) start children)

theorem map_entry_visitsAll (path : List κ) (start : Nat) : (trees : List (Tree κ)) →
    (visitsAll path start trees).map Visit.entry = entriesAll path.length trees
  | [] => rfl
  | tree :: rest => by
    rw [visitsAll, List.map_append, map_entry_visits path start tree,
      map_entry_visitsAll path _ rest, entriesAll]

end

mutual

/-- The texts of the tokens make up the source. -/
theorem flatten_texts (depth : Nat) : (tree : Tree κ) →
    ((entries depth tree).filterMap (·.text)).flatten = tree.text
  | leaf _ text => List.append_nil text
  | node _ children => flatten_textsAll (depth + 1) children

theorem flatten_textsAll (depth : Nat) : (trees : List (Tree κ)) →
    ((entriesAll depth trees).filterMap (·.text)).flatten = textAll trees
  | [] => rfl
  | tree :: rest => by
    rw [entriesAll, List.filterMap_append, List.flatten_append, flatten_texts depth tree,
      flatten_textsAll depth rest, textAll_cons]

end

/-- The first of the lines is for a tree with fewer nodes around it, so it goes on after a row
    at this depth. -/
def Above (depth : Nat) (entries : List OutlineEntry) : Prop :=
  ∀ entry ∈ entries.head?, entry.indent < 2 * depth

theorem head?_entries (depth : Nat) (tree : Tree κ) (more : List OutlineEntry) :
    ∃ entry ∈ (entries depth tree ++ more).head?, entry.indent = 2 * depth := by
  cases tree <;> exact ⟨_, rfl, rfl⟩

/-- What is above a row is above its tail together with what follows. -/
theorem Above.entriesAll {depth : Nat} {more : List OutlineEntry} (h : Above depth more)
    (trees : List (Tree κ)) : Above (depth + 1) (entriesAll depth trees ++ more) := by
  intro entry first
  cases trees with
  | nil =>
    have := h entry first
    omega
  | cons tree rest =>
    rw [Tree.entriesAll, List.append_assoc] at first
    obtain ⟨head, at_head, indent⟩ := head?_entries depth tree (Tree.entriesAll depth rest ++ more)
    rw [Option.mem_unique first at_head, indent]
    omega

/-- No row of trees begins where the lines are above it. -/
theorem Above.ne_entries {depth : Nat} {more : List OutlineEntry} (h : Above depth more)
    (tree : Tree κ) (behind : List OutlineEntry) : more ≠ entries depth tree ++ behind := by
  rintro rfl
  obtain ⟨head, at_head, indent⟩ := head?_entries depth tree behind
  have := h head at_head
  omega

mutual

/-- A tree is given by what its lines say. -/
theorem entries_injective (names : PlainNames κ) {depth : Nat} {more more' : List OutlineEntry}
    (above : Above (depth + 1) more) (above' : Above (depth + 1) more') : (a b : Tree κ) →
    entries depth a ++ more = entries depth b ++ more' → a = b ∧ more = more'
  | leaf kind text, leaf kind' text', h => by
    obtain ⟨first, behind⟩ := List.cons.inj h
    obtain ⟨-, name, same⟩ := OutlineEntry.mk.inj first
    rw [names.injective name, Option.some.inj same]
    exact ⟨rfl, behind⟩
  | leaf _ _, node _ _, h => nomatch congrArg OutlineEntry.text (List.cons.inj h).1
  | node _ _, leaf _ _, h => nomatch congrArg OutlineEntry.text (List.cons.inj h).1
  | node kind children, node kind' children', h => by
    obtain ⟨first, below⟩ := List.cons.inj h
    obtain ⟨-, name, -⟩ := OutlineEntry.mk.inj first
    obtain ⟨rfl, behind⟩ := entriesAll_injective names above above' children children' below
    rw [names.injective name]
    exact ⟨rfl, behind⟩

/-- Trees in a row are given by what their lines say. -/
theorem entriesAll_injective (names : PlainNames κ) {depth : Nat}
    {more more' : List OutlineEntry} (above : Above depth more) (above' : Above depth more') :
    (a b : List (Tree κ)) →
    entriesAll depth a ++ more = entriesAll depth b ++ more' → a = b ∧ more = more'
  | [], [], h => ⟨rfl, h⟩
  | [], tree :: rest, h => by
    rw [entriesAll, entriesAll, List.append_assoc] at h
    exact absurd h (above.ne_entries tree _)
  | tree :: rest, [], h => by
    rw [entriesAll, entriesAll, List.append_assoc] at h
    exact absurd h.symm (above'.ne_entries tree _)
  | tree :: rest, tree' :: rest', h => by
    rw [entriesAll, entriesAll, List.append_assoc, List.append_assoc] at h
    obtain ⟨rfl, behind⟩ := entries_injective names (above.entriesAll rest)
      (above'.entriesAll rest') tree tree' h
    obtain ⟨rfl, same⟩ := entriesAll_injective names above above' rest rest' behind
    exact ⟨rfl, same⟩

end

/-! ## The outline as a whole -/

/-- The outline of a tree that holds the source, read line by line. -/
structure Outlined (spans : Bool) (source : Text) (tree : Tree κ) : Prop where
  /-- Each node and each token that is met has its line. -/
  lines : Text.lines (tree.outline (.whole spans)) =
    tree.walk.map fun visit => ⟨visit.content (.whole spans), ['\n']⟩
  /-- The lines say which nodes and tokens there are and how deep they stand. -/
  entries : OutlineEntry.readAll (tree.outline (.whole spans)) = entries 0 tree
  /-- The texts of the tokens make up the source. -/
  texts : ((OutlineEntry.readAll (tree.outline (.whole spans))).filterMap (·.text)).flatten = source

theorem readAll_outline (names : PlainNames κ) (spans : Bool) (tree : Tree κ) :
    OutlineEntry.readAll (tree.outline (.whole spans)) = entries 0 tree := by
  rw [OutlineEntry.readAll, lines_outline names, List.map_map, ← List.length_nil (α := κ),
    ← map_entry_visits [] 0 tree]
  exact List.map_congr_left fun visit _ => read_content names _ visit

/-- The outline of a tree can be read. -/
theorem outlined (names : PlainNames κ) (spans : Bool) (tree : Tree κ) :
    tree.Outlined spans tree.text where
  lines := lines_outline names spans tree
  entries := readAll_outline names spans tree
  texts := by rw [readAll_outline names, flatten_texts]

/-- An outline is the outline of one tree only. -/
theorem outline_injective (names : PlainNames κ) {spans spans' : Bool} {a b : Tree κ}
    (h : a.outline (.whole spans) = b.outline (.whole spans')) : a = b := by
  have same : entries 0 a = entries 0 b := by
    rw [← readAll_outline names spans, h, readAll_outline names]
  have nothing : Above 1 [] := nofun
  exact (entries_injective names nothing nothing a b (congrArg (· ++ []) same)).1

end Tree

end Flashcard
