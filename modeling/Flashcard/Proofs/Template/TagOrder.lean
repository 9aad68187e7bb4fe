import Flashcard.Proofs.Template.Anchor
import Flashcard.Proofs.Template.Located
import Mathlib.Tactic.Choose

/-!
# Problems in the order of tags

Every problem of a template lies in an anchor: an error node, an open tag, or the tag of a
field. Problems are reported in the order of their anchors, and those with the same anchor from
left to right. The one exception is that a block is not closed: that is reported last of its
open tag, for the whole tag.

Results:
* `InRow.span_eq`: a range lies in one anchor, but for the tag that fills an error node.
* `anchored_renderAll`: the problems of contents lie in their anchors and follow each other.
* `inTagOrder_parse`: problems of a template come in the order of its tags.
-/

namespace Flashcard.Template

/-! ## The anchor of a range -/

/-- The range lies in the anchor, and in no smaller one. -/
structure IsInnermost (tree : Tree Kind) (span : Span) (anchor : Tree.Visit Kind) : Prop where
  met : anchor ∈ tree.walk
  isAnchor : isAnchor anchor = true
  inside : span.Inside anchor.span
  smallest : ∀ other ∈ tree.walk, Template.isAnchor other = true → span.Inside other.span →
    anchor.span.Inside other.span

/-- The error node, or the innermost open tag or tag of a field, that the range lies in begins
    at the byte `start`. -/
def TagStart (tree : Tree Kind) (span : Span) (start : Nat) : Prop :=
  ∃ anchor, IsInnermost tree span anchor ∧ anchor.span.start = start

/-- The diagnostics come in the order of the tags of the tree. -/
structure InTagOrder (tree : Tree Kind) (diagnostics : Diagnostics) : Prop where
  /-- The tags that they lie in begin one after the other. -/
  sorted : ∃ tagStart : Diagnostic → Nat,
    (∀ diagnostic ∈ diagnostics, ∀ start,
      TagStart tree diagnostic.span start ↔ start = tagStart diagnostic) ∧
    (diagnostics.map tagStart).Pairwise (· ≤ ·)
  /-- One that begins before an earlier one reports that a block is not closed, and the earlier
      one lies in the open tag of that block. -/
  back : diagnostics.Pairwise fun earlier later => later.span.start < earlier.span.start →
    later.kind = .unclosedConditional ∧
      ∃ tag ∈ tree.walk, tag.isNode = true ∧ tag.kind = .openTag ∧ tag.span = later.span ∧
        earlier.span.Inside tag.span

variable {anchors others : List (Tree.Visit Kind)} {start middle stop : Nat} {span : Span}
  {m n : Tree.Visit Kind}

/-- A range lies in one anchor, but for the tag that fills an error node. -/
theorem InRow.span_eq (row : InRow start stop anchors) (nonempty : 0 < span.size)
    (hm : m ∈ anchors) (hn : n ∈ anchors) (first : span.Inside m.span)
    (second : span.Inside n.span) : m.span = n.span := by
  have same : anchors.Pairwise fun m n => span.Inside m.span → span.Inside n.span →
      m.span = n.span := by
    refine row.separate.imp ?_
    rintro m n (apart | ⟨-, -, filled⟩) ⟨-, before⟩ ⟨behind, -⟩
    · -- Nothing is left of the range between the end of one and the beginning of the other.
      have empty : span.stop ≤ span.start := Nat.le_trans before (Nat.le_trans apart behind)
      exact absurd empty (Nat.not_le_of_gt (Nat.lt_add_of_pos_right nonempty))
    · exact filled
  have flipped := same.imp fun {m n} h hn hm => (h hm hn).symm
  exact same.forall_of_forall_of_flip (fun _ _ _ _ => rfl) flipped hm hn first second

theorem Document.mem_anchors_iff {document : Document} :
    m ∈ Content.anchorsAll [.document] 0 document.contents ↔
      m ∈ document.tree.walk ∧ isAnchor m = true := by
  rw [← document.filter_walk, List.mem_filter]

/-- Where the tag of a range begins that lies in an anchor. -/
theorem tagStart_iff {document : Document} (nonempty : 0 < span.size)
    (mem : m ∈ Content.anchorsAll [.document] 0 document.contents) (inside : span.Inside m.span)
    (start : Nat) : TagStart document.tree span start ↔ start = m.span.start := by
  have row := inRow_anchorsAll [.document] 0 document.contents
  constructor
  · rintro ⟨other, innermost, rfl⟩
    have found := Document.mem_anchors_iff.2 ⟨innermost.met, innermost.isAnchor⟩
    rw [row.span_eq nonempty found mem innermost.inside inside]
  · rintro rfl
    obtain ⟨met, isAnchor⟩ := Document.mem_anchors_iff.1 mem
    refine ⟨m, ⟨met, isAnchor, inside, ?_⟩, rfl⟩
    intro other metOther isAnchorOther insideOther
    have found := Document.mem_anchors_iff.2 ⟨metOther, isAnchorOther⟩
    rw [row.span_eq nonempty mem found inside insideOther]
    exact .refl _

/-! ## How problems follow each other -/

/-- The later problem lies in an anchor behind that of the earlier one. If it is the same one,
    it begins no earlier, or it reports that the block of the tag is not closed. -/
def Follows (anchors : List (Tree.Visit Kind)) (earlier later : Diagnostic) : Prop :=
  ∃ m ∈ anchors, ∃ n ∈ anchors, earlier.span.Inside m.span ∧ later.span.Inside n.span ∧
    (m.span.stop ≤ n.span.start ∨
      m = n ∧ (earlier.span.start ≤ later.span.start ∨
        later.kind = .unclosedConditional ∧ m.kind = .openTag ∧ later.span = m.span))

theorem Follows.mono {earlier later : Diagnostic} (h : Follows anchors earlier later)
    (sub : anchors ⊆ others) : Follows others earlier later := by
  obtain ⟨m, hm, n, hn, both⟩ := h
  exact ⟨m, sub hm, n, sub hn, both⟩

/-- The problems lie in the anchors and follow each other. -/
structure Anchored (anchors : List (Tree.Visit Kind)) (diagnostics : Diagnostics) : Prop where
  inside : ∀ diagnostic ∈ diagnostics, ∃ anchor ∈ anchors, diagnostic.span.Inside anchor.span
  follows : diagnostics.Pairwise (Follows anchors)

theorem Anchored.nil : Anchored [] [] := ⟨nofun, .nil⟩

theorem Anchored.append {a b : Diagnostics} (ha : Anchored anchors a) (hb : Anchored others b)
    (rowA : InRow start middle anchors) (rowB : InRow middle stop others) :
    Anchored (anchors ++ others) (a ++ b) := by
  have left : anchors ⊆ anchors ++ others := List.subset_append_left _ _
  have right : others ⊆ anchors ++ others := List.subset_append_right _ _
  constructor
  · refine List.forall_mem_append.2 ⟨fun diagnostic mem => ?_, fun diagnostic mem => ?_⟩
    · obtain ⟨anchor, found, inside⟩ := ha.inside diagnostic mem
      exact ⟨anchor, left found, inside⟩
    · obtain ⟨anchor, found, inside⟩ := hb.inside diagnostic mem
      exact ⟨anchor, right found, inside⟩
  · refine List.pairwise_append.2 ⟨ha.follows.imp fun h => h.mono left,
      hb.follows.imp fun h => h.mono right, ?_⟩
    intro earlier before later behind
    obtain ⟨m, hm, insideM⟩ := ha.inside earlier before
    obtain ⟨n, hn, insideN⟩ := hb.inside later behind
    have apart := Nat.le_trans (rowA.bounds m hm).2 (rowB.bounds n hn).1
    exact ⟨m, left hm, n, right hn, insideM, insideN, .inl apart⟩

theorem Anchored.singleton {diagnostics : Diagnostics}
    (inside : ∀ diagnostic ∈ diagnostics, diagnostic.span.Inside m.span)
    (order : diagnostics.Pairwise fun a b => a.span.start ≤ b.span.start ∨
      b.kind = .unclosedConditional ∧ m.kind = .openTag ∧ b.span = m.span) :
    Anchored [m] diagnostics := by
  have mem : m ∈ [m] := List.mem_cons_self
  refine ⟨fun diagnostic found => ⟨m, mem, inside diagnostic found⟩, ?_⟩
  refine order.imp_of_mem fun {a b} before behind ordered => ?_
  exact ⟨m, mem, m, mem, inside a before, inside b behind, .inr ⟨rfl, ordered⟩⟩

/-! ## Problems of contents -/

variable (fields : Fields) (card : Card)

theorem anchored_renderField (visible : Bool) (path : List Kind) (start : Nat)
    (reference : Reference) :
    Anchored ((Content.field reference).anchors path start)
      (renderField fields card visible start reference).diagnostics := by
  refine .singleton (fun diagnostic mem => inside_renderField mem) ?_
  exact (pairwise_renderField fields card visible start reference).imp .inl

theorem anchored_blockProblems (path : List Kind) (start : Nat) (reference : Reference)
    (closed : Bool) :
    Anchored [⟨path, .openTag, reference.openTagSpan start, none⟩]
      (blockProblems fields card start reference closed) := by
  refine .singleton (fun diagnostic mem => inside_blockProblems mem) ?_
  refine (pairwise_blockProblems fields card start reference closed).imp fun {a b} order => ?_
  obtain before | ⟨unclosed, whole⟩ := order
  · exact .inl before
  · exact .inr ⟨unclosed, rfl, whole⟩

/-- Of a malformed part its error node is reported. -/
theorem anchored_malformed (path : List Kind) (start : Nat) (part : Malformed) :
    Anchored (part.anchors path start) [.report .syntaxError (part.span start) none] := by
  refine ⟨fun diagnostic mem => ?_, List.pairwise_singleton _ _⟩
  rw [List.mem_singleton.1 mem]
  exact ⟨_, List.mem_cons_self, .refl _⟩

mutual

/-- The problems of a content lie in its anchors, one after the other. -/
theorem anchored_render (visible : Bool) (path : List Kind) (start : Nat) : (content : Content) →
    Anchored (content.anchors path start)
      (render fields card visible start content).diagnostics
  | .plain _ => .nil
  | .field reference => anchored_renderField fields card visible path start reference
  | .block condition reference contents close => by
    have tag := anchored_blockProblems fields card (.element :: path) start reference close.isSome
    have inside := anchored_renderAll (visible && condition.holds fields card reference)
      (.element :: path) (reference.openTagSpan start).stop contents
    exact tag.append inside (inRow_singleton (.element :: path) .openTag start _)
      (inRow_anchorsAll _ _ contents)
  | .malformed part => anchored_malformed path start part

/-- The problems of contents in a row lie in their anchors, one after the other. -/
theorem anchored_renderAll (visible : Bool) (path : List Kind) (start : Nat) :
    (contents : List Content) →
      Anchored (Content.anchorsAll path start contents)
        (renderAll fields card visible start contents).diagnostics
  | [] => .nil
  | content :: rest => by
    have first := anchored_render visible path start content
    have later := anchored_renderAll visible path (start + content.size) rest
    exact first.append later (inRow_anchors path start content) (inRow_anchorsAll path _ rest)

end

/-! ## Whole templates -/

/-- A problem that begins before an earlier one reports that a block is not closed, and both lie
    in its open tag. -/
theorem Follows.back {earlier later : Diagnostic} (h : Follows anchors earlier later)
    (before : later.span.start < earlier.span.start) :
    later.kind = .unclosedConditional ∧
      ∃ tag ∈ anchors, tag.kind = .openTag ∧ tag.span = later.span ∧
        earlier.span.Inside tag.span := by
  obtain ⟨m, hm, n, -, insideM, insideN, behind | ⟨-, order | ⟨unclosed, kind, whole⟩⟩⟩ := h
  · have first : earlier.span.start ≤ m.span.stop :=
      Nat.le_trans (Nat.le_add_right _ _) insideM.2
    have last : earlier.span.start ≤ later.span.start :=
      Nat.le_trans first (Nat.le_trans behind insideN.1)
    exact absurd last (Nat.not_le_of_gt before)
  · exact absurd order (Nat.not_le_of_gt before)
  · exact ⟨unclosed, m, hm, kind, whole.symm, insideM⟩

/-- Problems that are not empty and follow each other come in the order of tags. -/
theorem Anchored.inTagOrder {document : Document} {diagnostics : Diagnostics}
    (h : Anchored (Content.anchorsAll [.document] 0 document.contents) diagnostics)
    (nonempty : ∀ diagnostic ∈ diagnostics, 0 < diagnostic.span.size) :
    InTagOrder document.tree diagnostics := by
  have found : ∀ diagnostic ∈ diagnostics, ∃ tagStart, ∀ start,
      TagStart document.tree diagnostic.span start ↔ start = tagStart := by
    intro diagnostic mem
    obtain ⟨anchor, hm, inside⟩ := h.inside diagnostic mem
    exact ⟨anchor.span.start, tagStart_iff (nonempty diagnostic mem) hm inside⟩
  choose! tagStart unique using found
  refine ⟨⟨tagStart, unique, ?_⟩, ?_⟩
  · refine List.pairwise_map.2 (h.follows.imp_of_mem fun {a b} before behind follows => ?_)
    obtain ⟨m, hm, n, hn, insideM, insideN, order⟩ := follows
    have startA := (unique a before _).1
      ((tagStart_iff (nonempty a before) hm insideM _).2 rfl)
    have startB := (unique b behind _).1
      ((tagStart_iff (nonempty b behind) hn insideN _).2 rfl)
    rw [← startA, ← startB]
    obtain apart | ⟨rfl, -⟩ := order
    · exact Nat.le_trans (Nat.le_add_right _ _) apart
    · exact Nat.le_refl _
  · refine h.follows.imp fun {a b} follows before => ?_
    obtain ⟨unclosed, tag, mem, kind, whole, inside⟩ := follows.back before
    obtain ⟨met, anchor⟩ := Document.mem_anchors_iff.1 mem
    exact ⟨unclosed, tag, met, (Bool.and_eq_true_iff.1 anchor).1, kind, whole, inside⟩

/-- Problems of a template come in the order of its tags, whatever the fields and the card are:
    of the error nodes, open tags and tags of fields that they lie in, none begins before that
    of an earlier problem. So the problems themselves begin one after the other, but for a block
    that is not closed, which is reported behind what else there is to say about its open tag. -/
theorem inTagOrder_parse (limit : Nat) (source : Text) (fields : Fields) :
    let document := parse limit source
    InTagOrder document.tree (document.lint fields) ∧
      ∀ card : Card, InTagOrder document.tree (document.compile fields card).diagnostics := by
  intro document
  have ordered (card : Card) (visible : Bool) : InTagOrder document.tree
      (renderAll fields card visible 0 document.contents).diagnostics := by
    refine (anchored_renderAll fields card visible [.document] 0 _).inTagOrder ?_
    intro diagnostic mem
    obtain ⟨part, about⟩ := isAbout_parse limit source fields card visible diagnostic mem
    rw [about.size]
    exact Text.size_pos about.nonempty
  exact ⟨ordered .standard false, fun card => ordered card true⟩

/-- Only that the block is not closed begins before an earlier problem. -/
example :
    let document := parse 1 "\x7b\x7b#f:A\x7d\x7d\x7b\x7bB\x7d\x7d".toList
    (document.lint (Fields.ofList [])).map (fun problem => (problem.kind, problem.span.start)) =
      [(.transformersOnConditional, 0), (.unknownConditionalField, 5), (.unclosedConditional, 0),
        (.unknownField, 10)] := by
  decide +kernel

end Flashcard.Template
