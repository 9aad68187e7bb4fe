import Flashcard.Proofs.Template.Linting
import Flashcard.Proofs.Template.Nesting

/-!
# How blocks are nested

The syntax tree of a template shows what its tags do to the stack of open blocks.
An element with an open tag is a block that is pushed, a close tag right inside it
is the tag that pops it, and an error node is a tag that is rejected, right inside
of the block on top of the stack. What is left on the stack in the end is what is
reported as not closed.

Results:
* `isElement_treeAll`: an element with an open tag is a block.
* `closeTag_last`: a close tag comes last in its block and has the block's name.
* `unclosed_renderAll`: blocks that are not closed are reported, outer ones first.
* `nested_parse`: the tree of a template shows what its tags do.
-/

namespace Flashcard

/-! ## Problems of blocks that are not closed -/

namespace Diagnostics

/-- The problems that blocks are not closed. -/
def unclosed (diagnostics : Diagnostics) : Diagnostics :=
  diagnostics.filter (·.kind = .unclosedConditional)

theorem unclosed_append (a b : Diagnostics) : unclosed (a ++ b) = a.unclosed ++ b.unclosed :=
  List.filter_append a b

theorem unclosed_eq_nil {diagnostics : Diagnostics}
    (h : ∀ diagnostic ∈ diagnostics, diagnostic.kind ≠ .unclosedConditional) :
    diagnostics.unclosed = [] := by
  apply List.filter_eq_nil_iff.2
  intro diagnostic mem
  rw [decide_eq_true_eq]
  exact h diagnostic mem

end Diagnostics

namespace Template

/-! ## Blocks that are closed -/

/-- The byte where a block begins that is pushed or popped. -/
def Event.opened? : Event → Option Nat
  | .push block => some block.span.start
  | .pop opened _ _ => some opened
  | .reject _ _ _ _ => none

/-- The blocks that are pushed or popped begin between two bytes. -/
def Within (start stop : Nat) (found : List Event) : Prop :=
  ∀ event ∈ found, ∀ opened ∈ event.opened?, start ≤ opened ∧ opened < stop

theorem Within.mono {start stop first last : Nat} {found : List Event}
    (h : Within start stop found) (hf : first ≤ start) (hl : stop ≤ last) :
    Within first last found := by
  intro event mem opened ho
  have within := h event mem opened ho
  omega

theorem Within.append {start stop : Nat} {a b : List Event} (ha : Within start stop a)
    (hb : Within start stop b) : Within start stop (a ++ b) :=
  List.forall_mem_append.2 ⟨ha, hb⟩

theorem Reference.lt_stop_openTagSpan (reference : Reference) (start : Nat) :
    start < (reference.openTagSpan start).stop := by
  simp only [Span.stop, Reference.openTagSpan]
  omega

theorem Content.stop_le (condition : Condition) (reference : Reference) (contents : List Content)
    (close : Option Text) (start : Nat) :
    (reference.openTagSpan start).stop + Content.sizeAll contents ≤
      start + (Content.block condition reference contents close).size := by
  simp only [Content.size, Span.stop, Reference.openTagSpan]
  omega

mutual

/-- What happens in a content is about blocks inside it. -/
theorem within_events (around : Kind × Nat) (start : Nat) : (content : Content) →
    Within start (start + content.size) (content.events around start)
  | .plain _ | .field _ => nofun
  | .malformed part => by
    intro event mem opened ho
    rw [Content.events, List.mem_singleton] at mem
    rw [mem] at ho
    cases ho
  | .block condition reference contents close => by
    have first := reference.lt_stop_openTagSpan start
    have last := Content.stop_le condition reference contents close start
    have inside : Within start (start + (Content.block condition reference contents close).size)
        (Content.eventsAll (.element, start) (reference.openTagSpan start).stop contents) :=
      (within_eventsAll (.element, start) _ contents).mono (Nat.le_of_lt first) last
    have here {event : Event} (opens : event.opened? = some start) : ∀ opened ∈ event.opened?,
        start ≤ opened ∧
          opened < start + (Content.block condition reference contents close).size := by
      intro opened ho
      obtain rfl := Option.some.inj (opens.symm.trans ho)
      omega
    refine List.forall_mem_cons.2 ⟨here rfl, inside.append ?_⟩
    intro event mem
    obtain ⟨name, -, rfl⟩ := Option.map_eq_some_iff.1 (Option.mem_toList.1 mem)
    exact here rfl

theorem within_eventsAll (around : Kind × Nat) (start : Nat) : (contents : List Content) →
    Within start (start + Content.sizeAll contents) (Content.eventsAll around start contents)
  | [] => nofun
  | content :: rest => by
    rw [Content.sizeAll, Content.eventsAll]
    have first := within_events around start content
    have later := within_eventsAll around (start + content.size) rest
    exact (first.mono (Nat.le_refl _) (by omega)).append (later.mono (by omega) (by omega))

end

/-- The block that begins at the byte `opened` is popped. -/
def Pops (found : List Event) (opened : Nat) : Prop :=
  ∃ start name, Event.pop opened start name ∈ found

theorem pops_append {a b : List Event} {opened : Nat} :
    Pops (a ++ b) opened ↔ Pops a opened ∨ Pops b opened := by
  simp only [Pops, List.mem_append, exists_or]

theorem Within.of_pops {start stop opened : Nat} {found : List Event}
    (h : Within start stop found) (popped : Pops found opened) : start ≤ opened ∧ opened < stop := by
  obtain ⟨close, name, mem⟩ := popped
  exact h _ mem opened rfl

/-- The block that begins at the byte `start` is popped by its own close tag alone. -/
theorem pops_block (around : Kind × Nat) (start : Nat) (condition : Condition)
    (reference : Reference) (contents : List Content) (close : Option Text) :
    Pops ((Content.block condition reference contents close).events around start) start ↔
      close.isSome = true := by
  constructor
  · rintro ⟨stop, name, mem⟩
    rw [Content.events, List.mem_cons, List.mem_append] at mem
    obtain pushed | inside | closing := mem
    · cases pushed
    · have within := within_eventsAll _ _ contents _ inside start rfl
      have first := reference.lt_stop_openTagSpan start
      omega
    · obtain ⟨own, closed, -⟩ := Option.map_eq_some_iff.1 (Option.mem_toList.1 closing)
      rw [closed]
      rfl
  · intro closed
    obtain ⟨name, rfl⟩ := Option.isSome_iff_exists.1 closed
    refine ⟨(reference.openTagSpan start).stop + Content.sizeAll contents, Unicode.trim name, ?_⟩
    exact List.mem_cons_of_mem _ (List.mem_append_right _ (List.mem_singleton.2 rfl))

theorem pops_inside (around : Kind × Nat) {start opened : Nat} (h : start < opened)
    (condition : Condition) (reference : Reference) (contents : List Content)
    (close : Option Text) :
    Pops ((Content.block condition reference contents close).events around start) opened ↔
      Pops (Content.eventsAll (.element, start) (reference.openTagSpan start).stop contents)
        opened := by
  constructor
  · rintro ⟨stop, name, mem⟩
    rw [Content.events, List.mem_cons, List.mem_append] at mem
    obtain pushed | inside | closing := mem
    · cases pushed
    · exact ⟨stop, name, inside⟩
    · obtain ⟨own, -, same⟩ := Option.map_eq_some_iff.1 (Option.mem_toList.1 closing)
      cases same
      exact absurd h (Nat.lt_irrefl start)
  · rintro ⟨stop, name, inside⟩
    exact ⟨stop, name, List.mem_cons_of_mem _ (List.mem_append_left _ inside)⟩

/-- The node is the element of a block, which has a close tag if it is popped, and
    then one with its name. -/
def IsElement (found : List Event) (node : Tree.Placement Kind) (block : OpenBlock) : Prop :=
  ∃ condition reference contents close,
    node.tree = (Content.block condition reference contents close).tree ∧
      block = reference.opened node.start ∧
      (Pops found node.start ↔ close.isSome = true) ∧
      ∀ name ∈ close, Unicode.trim name = Unicode.trim reference.name

theorem IsElement.congr {found more : List Event} {node : Tree.Placement Kind} {block : OpenBlock}
    (h : IsElement found node block) (same : Pops more node.start ↔ Pops found node.start) :
    IsElement more node block := by
  obtain ⟨condition, reference, contents, close, tree, opened, popped, named⟩ := h
  exact ⟨condition, reference, contents, close, tree, opened, same.trans popped, named⟩

/-- A node with an open tag shows that its block is pushed. -/
theorem push_mem_shown {nodes : List (Tree.Placement Kind)} {node : Tree.Placement Kind}
    {block : OpenBlock} (mem : node ∈ nodes) (h : opened? node = some block) :
    Event.push block ∈ shown nodes := by
  have element : node.tree.kind = .element := by
    rw [opened?] at h
    split at h
    · rename_i both
      exact both.1
    · cases h
  have here : event? node = some (.push block) := by
    rw [event?, element, h]
    rfl
  exact List.mem_filterMap.2 ⟨node, mem, here⟩

theorem IsElement.within {found more : List Event} {node : Tree.Placement Kind}
    {block : OpenBlock} (h : IsElement found node block) (pushed : Event.push block ∈ more)
    {start stop : Nat} (within : Within start stop more) :
    start ≤ node.start ∧ node.start < stop := by
  obtain ⟨condition, reference, contents, close, -, rfl, -⟩ := h
  exact within _ pushed node.start rfl

mutual

theorem isElement_tree {parent : Kind × Nat} (h : parent.1 ≠ .error) (start : Nat) :
    (content : Content) → content.ClosedByName →
      ∀ node ∈ Tree.placements parent start content.tree, ∀ block, opened? node = some block →
        IsElement (content.events parent start) node block
  | .plain _, _ | .field _, _ => by
    intro node mem block opens
    have pushed := push_mem_shown mem opens
    rw [shown_tree h] at pushed
    cases pushed
  | .malformed part, _ => by
    intro node mem block opens
    have pushed := push_mem_shown mem opens
    rw [shown_tree h, Content.events, List.mem_singleton] at pushed
    cases pushed
  | .block condition reference contents close, .block named same => by
    intro node mem block opens
    obtain rfl | below := show node = ⟨parent, start,
        (Content.block condition reference contents close).tree⟩ ∨
      node ∈ Tree.placementsAll (.element, start) start ([openTagTree condition reference] ++
        (Content.treeAll contents ++ closeTrees close)) from List.mem_cons.1 mem
    · have opened : block = reference.opened start := by
        have own := (opened?_element h start _).trans (openTag?_openTagTree start condition
          reference (Content.treeAll contents ++ closeTrees close))
        exact Option.some.inj (opens.symm.trans own)
      exact ⟨condition, reference, contents, close, rfl, opened,
        pops_block parent start condition reference contents close, same⟩
    rw [Tree.placementsAll_append, Tree.placementsAll_append, List.mem_append,
      List.mem_append, sizeAll_openTagTree] at below
    obtain tag | inside | closing := below
    · have pushed := push_mem_shown tag opens
      rw [(quiet_openTagTree condition reference).shown_eq_nil] at pushed
      cases pushed
    · have visible : (Kind.element, start).1 ≠ .error := nofun
      have element := isElement_treeAll visible _ contents named node inside block opens
      have pushed := push_mem_shown inside opens
      rw [shown_treeAll visible] at pushed
      have here := element.within pushed (within_eventsAll (.element, start) _ contents)
      have behind := Nat.lt_of_lt_of_le (reference.lt_stop_openTagSpan start) here.1
      exact element.congr (pops_inside parent behind condition reference contents close)
    · have pushed := push_mem_shown closing opens
      rw [shown_closeTrees] at pushed
      obtain ⟨name, -, other⟩ := Option.map_eq_some_iff.1 (Option.mem_toList.1 pushed)
      cases other

/-- An element with an open tag in contents in a row is a block. -/
theorem isElement_treeAll {parent : Kind × Nat} (h : parent.1 ≠ .error) (start : Nat) :
    (contents : List Content) → (∀ content ∈ contents, content.ClosedByName) →
      ∀ node ∈ Tree.placementsAll parent start (Content.treeAll contents),
        ∀ block, opened? node = some block →
          IsElement (Content.eventsAll parent start contents) node block
  | [], _ => nofun
  | content :: rest, named => by
    intro node mem block opens
    obtain ⟨namedFirst, namedLater⟩ := List.forall_mem_cons.1 named
    have ranges := within_events parent start content
    have rangesLater := within_eventsAll parent (start + content.size) rest
    rw [Content.treeAll, Tree.placementsAll, List.mem_append, size_tree] at mem
    rw [Content.eventsAll]
    obtain first | later := mem
    · have element := isElement_tree h start content namedFirst node first block opens
      have pushed := push_mem_shown first opens
      rw [shown_tree h] at pushed
      have here := element.within pushed ranges
      refine element.congr (pops_append.trans (or_iff_left fun popped => ?_))
      have there := rangesLater.of_pops popped
      omega
    · have element := isElement_treeAll h _ rest namedLater node later block opens
      have pushed := push_mem_shown later opens
      rw [shown_treeAll h] at pushed
      have here := element.within pushed rangesLater
      refine element.congr (pops_append.trans (or_iff_right fun popped => ?_))
      have there := ranges.of_pops popped
      omega

end

/-! ## Close tags -/

/-- A node has a close tag right inside it. -/
def HasCloseTag (tree : Tree Kind) : Prop := ∃ tag ∈ tree.children, tag.kind = .closeTag

theorem kind_ne_of_mem_treeAll {contents : List Content} {tree : Tree Kind}
    (h : tree ∈ Content.treeAll contents) : tree.kind ≠ .closeTag := by
  induction contents with
  | nil => cases h
  | cons content rest ih =>
    rw [Content.treeAll, List.mem_cons] at h
    obtain rfl | later := h
    · exact content.kind_tree_ne
    · exact ih later

theorem children_block (condition : Condition) (reference : Reference) (contents : List Content)
    (close : Option Text) :
    ∃ front, (Content.block condition reference contents close).tree.children =
        front ++ closeTrees close ∧ ∀ tree ∈ front, tree.kind ≠ .closeTag := by
  refine ⟨openTagTree condition reference :: Content.treeAll contents, rfl, ?_⟩
  refine List.forall_mem_cons.2 ⟨nofun, ?_⟩
  intro tree mem
  exact kind_ne_of_mem_treeAll mem

/-- The close tag of a block comes last in it. -/
theorem closeTag_last {condition : Condition} {reference : Reference} {contents : List Content}
    {close : Option Text} {front behind : List (Tree Kind)} {tag : Tree Kind}
    (h : (Content.block condition reference contents close).tree.children = front ++ tag :: behind)
    (closes : tag.kind = .closeTag) :
    ∃ name, close = some name ∧ tag = closeTagTree name ∧ behind = [] := by
  obtain ⟨before, children, other⟩ := children_block condition reference contents close
  rw [children] at h
  cases close with
  | none =>
    rw [closeTrees, List.append_nil] at h
    exact absurd closes (other tag (h ▸ List.mem_append_right _ List.mem_cons_self))
  | some name =>
    obtain rfl | ⟨middle, last, rfl⟩ := List.eq_nil_or_concat behind
    · obtain ⟨-, same⟩ := List.append_inj' h rfl
      exact ⟨name, rfl, (List.cons.inj same).1.symm, rfl⟩
    · rw [List.concat_eq_append, ← List.cons_append, ← List.append_assoc] at h
      obtain ⟨rfl, -⟩ := List.append_inj' h rfl
      exact absurd closes (other tag (List.mem_append_right _ List.mem_cons_self))

theorem hasCloseTag_block (condition : Condition) (reference : Reference)
    (contents : List Content) (close : Option Text) :
    HasCloseTag (Content.block condition reference contents close).tree ↔ close.isSome = true := by
  constructor
  · rintro ⟨tag, mem, closes⟩
    obtain ⟨front, behind, split⟩ := List.append_of_mem mem
    obtain ⟨name, rfl, -⟩ := closeTag_last split closes
    rfl
  · intro closed
    obtain ⟨name, rfl⟩ := Option.isSome_iff_exists.1 closed
    obtain ⟨front, children, -⟩ := children_block condition reference contents (some name)
    refine ⟨closeTagTree name, ?_, rfl⟩
    rw [children]
    exact List.mem_append_right _ (List.mem_singleton.2 rfl)

/-! ## Blocks that are not closed -/

/-- The problem that a block is not closed. -/
def OpenBlock.report (block : OpenBlock) : Diagnostic :=
  .report .unclosedConditional block.span block.name

theorem unclosed_renderField (fields : Fields) (card : Card) (visible : Bool) (start : Nat)
    (reference : Reference) :
    (renderField fields card visible start reference).diagnostics.unclosed = [] := by
  apply Diagnostics.unclosed_eq_nil
  intro diagnostic h
  obtain ⟨name, span, -, rfl⟩ | ⟨kind, rfl | rfl, rfl⟩ := mem_renderField h <;> nofun

/-- A block without a close tag is reported, and no other problem of its open tag is
    of that kind. -/
theorem unclosed_blockProblems (fields : Fields) (card : Card) (start : Nat)
    (reference : Reference) (closed : Bool) :
    (blockProblems fields card start reference closed).unclosed =
      if closed then [] else [(reference.opened start).report] := by
  have transformers : Diagnostics.unclosed (if reference.transformers.isEmpty then []
      else [Diagnostic.report .transformersOnConditional (reference.openTagSpan start) none]) =
        [] := by
    split <;> rfl
  rw [blockProblems, Diagnostics.unclosed_append, Diagnostics.unclosed_append, transformers]
  cases lookup fields card (Unicode.trim reference.name) <;> cases closed <;> rfl

mutual

/-- A content reports the blocks in it that are not closed. -/
theorem unclosed_render (fields : Fields) (card : Card) (visible : Bool) (start : Nat) :
    (content : Content) → (render fields card visible start content).diagnostics.unclosed =
      (content.unclosed start).map OpenBlock.report
  | .plain _ | .malformed _ => rfl
  | .field reference => unclosed_renderField fields card visible start reference
  | .block condition reference contents close => by
    rw [render, Output.diagnostics_append, Diagnostics.unclosed_append, unclosed_blockProblems,
      unclosed_renderAll, Content.unclosed, List.map_append]
    cases close <;> rfl

/-- Contents in a row report the blocks in them that are not closed. -/
theorem unclosed_renderAll (fields : Fields) (card : Card) (visible : Bool) (start : Nat) :
    (contents : List Content) →
      (renderAll fields card visible start contents).diagnostics.unclosed =
        (Content.unclosedAll start contents).map OpenBlock.report
  | [] => rfl
  | content :: rest => by
    rw [renderAll, Output.diagnostics_append, Diagnostics.unclosed_append, unclosed_render,
      unclosed_renderAll, Content.unclosedAll, List.map_append]

end

/-! ## Whole templates -/

/-- A tree shows what tags do to the stack. -/
structure Nested (tree : Tree Kind) (tags : List Tag) : Prop where
  /-- Elements with an open tag, close tags and errors are what happens at the tags. -/
  shown_inner : shown tree.inner = events [] tags
  /-- An element has a close tag exactly if its block is popped. -/
  closed_iff : ∀ node ∈ tree.inner, ∀ block, opened? node = some block →
    (HasCloseTag node.tree ↔ Pops (events [] tags) block.span.start)
  /-- A close tag comes last in its element and has the name of the open tag. -/
  last_named : ∀ node ∈ tree.inner, ∀ block, opened? node = some block →
    ∀ front tag behind, node.tree.children = front ++ tag :: behind → tag.kind = .closeTag →
      behind = [] ∧ tagName tag = block.name

/-- Diagnostics report the blocks that tags leave on the stack, outer ones first. -/
def Reports (diagnostics : Diagnostics) (tags : List Tag) : Prop :=
  diagnostics.unclosed = (stackBehind [] tags).reverse.map OpenBlock.report

/-- Where no more blocks are open at once than may be nested, the tree of a template
    shows what its tags do to the stack: every element with an open tag is a push, its
    close tag is the tag that pops it, and every error is a tag that is rejected, right
    inside of the block on top of the stack. The blocks that are left in the end are
    those reported as not closed, whatever the fields and the card are. -/
theorem nested_parse {limit : Nat} {source : Text} (h : deepest [] (tags source) ≤ limit) :
    Nested (parse limit source).tree (tags source) ∧
      ∀ fields : Fields, Reports ((parse limit source).lint fields) (tags source) ∧
        ∀ card : Card,
          Reports ((parse limit source).compile fields card).diagnostics (tags source) := by
  obtain ⟨found, left, named⟩ := parse_follows h
  have visible : (Kind.document, 0).1 ≠ .error := nofun
  have element {node : Tree.Placement Kind} (mem : node ∈ (parse limit source).tree.inner)
      {block : OpenBlock} (opens : opened? node = some block) :
      IsElement (events [] (tags source)) node block := by
    rw [found]
    exact isElement_treeAll visible 0 _ named node mem block opens
  have reported (fields : Fields) (card : Card) (seen : Bool) :
      Reports (renderAll fields card seen 0 (parse limit source).contents).diagnostics
        (tags source) := by
    rw [Reports, unclosed_renderAll, left, List.reverse_reverse]
  refine ⟨⟨?_, ?_, ?_⟩, ?_⟩
  · rw [found]
    exact shown_treeAll visible 0 (parse limit source).contents
  · intro node mem block opens
    obtain ⟨condition, reference, contents, close, tree, rfl, popped, -⟩ := element mem opens
    rw [tree, hasCloseTag_block]
    exact popped.symm
  · intro node mem block opens front tag behind children closes
    obtain ⟨condition, reference, contents, close, tree, rfl, -, same⟩ := element mem opens
    rw [tree] at children
    obtain ⟨name, closed, rfl, last⟩ := closeTag_last children closes
    refine ⟨last, ?_⟩
    rw [tagName_closeTagTree]
    exact same name closed
  · intro fields
    exact ⟨reported fields .standard false, fun card => reported fields card true⟩

/-- A tag without a name, a close tag for the outer block of two, a close tag with no
    block left, and a block that is never closed. -/
theorem nested_parse_mismatched :
    let source := ("\x7b\x7b#A\x7d\x7d\x7b\x7bf:\x7d\x7d\x7b\x7b^t: B\x7d\x7d\x7b\x7b/A\x7d\x7d" ++
      "\x7b\x7b/B \x7d\x7d\x7b\x7b/A\x7d\x7d\x7b\x7b/A\x7d\x7d\x7b\x7b#C\x7d\x7d").toList
    let document := parse 2 source
    deepest [] (tags source) = 2 ∧ stackBehind [] (tags source) = [⟨⟨46, 6⟩, ['C']⟩] ∧
      Nested document.tree (tags source) ∧
      shown document.tree.inner =
        [.push ⟨⟨0, 6⟩, ['A']⟩,
          .reject (.element, 0) 6 (some .selfClosingTag)
            (Token.pair <$> [.tagStart, .name ['f'], .colon, .tagEnd]),
          .push ⟨⟨12, 9⟩, ['B']⟩,
          .reject (.element, 12) 21 (some .closeTag)
            (Token.pair <$> [.closeTagStart, .name ['A'], .tagEnd]),
          .pop 12 27 ['B'], .pop 0 34 ['A'],
          .reject (.document, 0) 40 (some .closeTag)
            (Token.pair <$> [.closeTagStart, .name ['A'], .tagEnd]),
          .push ⟨⟨46, 6⟩, ['C']⟩] ∧
      (document.lint (Fields.ofList [])).unclosed = [OpenBlock.report ⟨⟨46, 6⟩, ['C']⟩] := by
  intro source document
  have deep : deepest [] (tags source) = 2 := by decide +kernel
  obtain ⟨nested, reported⟩ := nested_parse (Nat.le_of_eq deep)
  have left : stackBehind [] (tags source) = [⟨⟨46, 6⟩, ['C']⟩] := by decide +kernel
  have lint := (reported (Fields.ofList [])).1
  rw [Reports, left] at lint
  refine ⟨deep, left, nested, ?_, lint⟩
  rw [nested.shown_inner]
  decide +kernel

end Template

end Flashcard
