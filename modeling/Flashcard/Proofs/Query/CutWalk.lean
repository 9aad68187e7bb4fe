import Flashcard.Proofs.Query.WellFormed
import Flashcard.Proofs.Syntax.Walk

/-!
# Walks through a query that are cut off

Two walks through the same tokens are compared up to the first term that is nested too deeply.
Up to there they are the same, except that groups in one of them may lack their closing
parentheses and stand below error nodes for it; from there on, one of them has a single
error node with all that is left.

Results:
* `CutOff.prepend`, `CutOff.append`: what may come before and behind.
* `CutOff.cons`, `CutOff.last`, `CutOff.node`, `CutOff.markError`: the same for the trees that are
  walked through.
-/

namespace Flashcard.Query

/-! ## Terms in a walk -/

/-- Kinds of the nodes that stand for terms. -/
def termKinds : List Kind :=
  [.simpleString, .quotedString, .negation, .group, .tag, .deck, .template]

/-- Number of negations and groups around a place. -/
def nestedIn (path : List Kind) : Nat :=
  path.countP fun kind => kind = .negation || kind = .group

/-- A term is visited: its node, or a sign that stands alone. The value of a filter counts, but
    is nested no more deeply than the filter itself. -/
def isTermVisit (visit : Tree.Visit Kind) : Bool :=
  if visit.isNode then termKinds.contains visit.kind
  else visit.kind = .minus && visit.path.head? = some .error

/-- A term is visited that is nested more than `limit` deep. -/
def isTooDeep (limit : Nat) (visit : Tree.Visit Kind) : Bool :=
  isTermVisit visit && limit < nestedIn visit.path + 1

/-- Kinds of nodes around a place, error nodes aside. -/
def unmarked (path : List Kind) : List Kind := path.filter (· ≠ .error)

/-- What a walk meets, error nodes aside: the nodes around it, its kind, the byte where it
    begins, and its text. Where nodes end is left out. -/
def outline (visits : List (Tree.Visit Kind)) : List (List Kind × Kind × Nat × Option Text) :=
  (visits.filter (·.kind ≠ .error)).map fun visit =>
    (unmarked visit.path, visit.kind, visit.span.start, visit.text)

/-- Two walks through the same `tokens`, which begin at the byte `start`, are the same up to the
    first term that is nested more than `limit` deep in `whole`, error nodes and ends of nodes
    aside. From there on all that is left of the tokens stands in `limited` directly below a
    single error node. -/
def CutOff (limit start : Nat) (tokens : List Token) (whole limited : List (Tree.Visit Kind)) :
    Prop :=
  ∃ (earlier later before : List (Tree.Visit Kind)) (first : Tree.Visit Kind) (path : List Kind)
    (front rest : List Token),
    whole = earlier ++ first :: later ∧
      (∀ visit ∈ earlier, isTooDeep limit visit = false) ∧ isTooDeep limit first = true ∧
      tokens = front ++ rest ∧ rest ≠ [] ∧
      first.span.start = start + (Token.textAll front).size ∧
      limited = before ++
        (Tree.node .error (rest.map Token.leaf)).visits path first.span.start ∧
      unmarked path = unmarked first.path ∧ outline before = outline earlier

section Walks

variable {limit : Nat}

theorem unmarked_cons {kind : Kind} {p q : List Kind} (h : unmarked p = unmarked q) :
    unmarked (kind :: p) = unmarked (kind :: q) := by
  rw [unmarked, unmarked, List.filter_cons, List.filter_cons]
  split
  · exact congrArg _ h
  · exact h

theorem nestedIn_cons {kind : Kind} (nests : kind = .negation ∨ kind = .group)
    (path : List Kind) : nestedIn (kind :: path) = nestedIn path + 1 :=
  List.countP_cons_of_pos (by simpa using nests)

theorem nestedIn_unmarked (path : List Kind) : nestedIn (unmarked path) = nestedIn path := by
  rw [nestedIn, unmarked, List.countP_filter, nestedIn]
  congr 1
  funext kind
  cases kind <;> rfl

theorem outline_append (a b : List (Tree.Visit Kind)) :
    outline (a ++ b) = outline a ++ outline b := by
  rw [outline, List.filter_append, List.map_append]
  rfl

mutual

/-- Error nodes around a tree do not matter for what is met in it. -/
theorem outline_visits {p q : List Kind} (h : unmarked p = unmarked q) (start : Nat) :
    (tree : Tree Kind) → outline (tree.visits p start) = outline (tree.visits q start)
  | .leaf kind text => by
    rw [outline, outline, Tree.visits, Tree.visits]
    cases kind <;> simp [h]
  | .node kind children => by
    have inside : unmarked (kind :: p) = unmarked (kind :: q) := unmarked_cons h
    have below := outline_visitsAll inside start children
    have here (path : List Kind) (visits : List (Tree.Visit Kind)) (span : Span) :
        outline (⟨path, kind, span, none⟩ :: visits) =
          (if kind = .error then [] else [(unmarked path, kind, span.start, none)]) ++
            outline visits := by
      rw [outline, List.filter_cons]
      cases kind <;> rfl
    rw [Tree.visits, Tree.visits, here, here, below, h]

theorem outline_visitsAll {p q : List Kind} (h : unmarked p = unmarked q) (start : Nat) :
    (trees : List (Tree Kind)) →
      outline (Tree.visitsAll p start trees) = outline (Tree.visitsAll q start trees)
  | [] => rfl
  | tree :: rest => by
    rw [Tree.visitsAll, Tree.visitsAll, outline_append, outline_append, outline_visits h,
      outline_visitsAll h]

end

/-- More may come before. -/
theorem CutOff.prepend {start : Nat} (front : List Token) {tokens : List Token}
    {earlier before whole limited : List (Tree.Visit Kind)}
    (h : CutOff limit (start + (Token.textAll front).size) tokens whole limited)
    (shallow : ∀ visit ∈ earlier, isTooDeep limit visit = false)
    (same : outline before = outline earlier) :
    CutOff limit start (front ++ tokens) (earlier ++ whole) (before ++ limited) := by
  obtain ⟨earlier', later, before', first, path, front', rest, rfl, shallow', deep, rfl, left,
    begins, rfl, around, same'⟩ := h
  refine ⟨earlier ++ earlier', later, before ++ before', first, path, front ++ front', rest,
    (List.append_assoc ..).symm, ?_, deep, (List.append_assoc ..).symm, left, ?_,
    (List.append_assoc ..).symm, around, ?_⟩
  · intro visit mem
    obtain mem | mem := List.mem_append.1 mem
    · exact shallow visit mem
    · exact shallow' visit mem
  · rw [begins, Token.textAll_append, Text.size_append, Nat.add_assoc]
  · rw [outline_append, outline_append, same, same']

/-- More may come in the whole walk behind what is cut off. -/
theorem CutOff.append {start : Nat} {tokens : List Token}
    {whole limited : List (Tree.Visit Kind)} (h : CutOff limit start tokens whole limited)
    (more : List (Tree.Visit Kind)) : CutOff limit start tokens (whole ++ more) limited := by
  obtain ⟨earlier, later, before, first, path, front, rest, rfl, found⟩ := h
  refine ⟨earlier, later ++ more, before, first, path, front, rest, ?_, found⟩
  rw [List.append_assoc, List.cons_append]

theorem isTooDeep_of_lt {visit : Tree.Visit Kind} (h : nestedIn visit.path < limit) :
    isTooDeep limit visit = false := by
  rw [isTooDeep, Bool.and_eq_false_imp]
  exact fun _ => decide_eq_false (Nat.not_lt.2 h)

theorem isTooDeep_of_noTerm {visit : Tree.Visit Kind} (h : isTermVisit visit = false) :
    isTooDeep limit visit = false := by
  rw [isTooDeep, h, Bool.false_and]

theorem exists_visits_markError (malformed : Bool) (tree : Tree Kind) (path : List Kind)
    (start : Nat) :
    ∃ (earlier : List (Tree.Visit Kind)) (path' : List Kind),
      (markError malformed tree).visits path start = earlier ++ tree.visits path' start ∧
        unmarked path' = unmarked path ∧ outline earlier = [] ∧
        ∀ visit ∈ earlier, isTermVisit visit = false := by
  cases malformed with
  | false => exact ⟨[], path, rfl, rfl, rfl, List.forall_mem_nil _⟩
  | true =>
    refine ⟨[⟨path, .error, ⟨start, Tree.sizeAll [tree]⟩, none⟩], .error :: path, ?_, rfl, rfl,
      List.forall_mem_singleton.2 rfl⟩
    rw [markError, if_pos rfl, Tree.visits, Tree.visitsAll, Tree.visitsAll, List.append_nil]
    rfl

/-! ## Putting walks together -/

namespace CutOff

variable {p q : List Kind} {start : Nat} {tokens : List Token}

/-- A tree that is not nested too deeply may stand in front. -/
theorem cons (front : List Token) {trees trees' : List (Tree Kind)} {tree : Tree Kind}
    (h : CutOff limit (start + tree.size) tokens (Tree.visitsAll p (start + tree.size) trees)
      (Tree.visitsAll q (start + tree.size) trees'))
    (same : unmarked p = unmarked q) (text : tree.text = Token.textAll front)
    (shallow : ∀ visit ∈ tree.visits p start, isTooDeep limit visit = false) :
    CutOff limit start (front ++ tokens) (Tree.visitsAll p start (tree :: trees))
      (Tree.visitsAll q start (tree :: trees')) := by
  rw [Tree.size_eq, text] at h
  rw [Tree.visitsAll, Tree.visitsAll, Tree.size_eq, text]
  exact h.prepend front shallow (outline_visits same start tree).symm

/-- Behind the tree that is cut off, trees are lost. -/
theorem last {tree tree' : Tree Kind}
    (h : CutOff limit start tokens (tree.visits p start) (tree'.visits q start))
    (trees : List (Tree Kind)) :
    CutOff limit start tokens (Tree.visitsAll p start (tree :: trees))
      (Tree.visitsAll q start [tree']) := by
  rw [Tree.visitsAll, Tree.visitsAll, Tree.visitsAll, List.append_nil]
  exact h.append _

/-- Behind a row that is cut off, trees are lost. -/
theorem appendTrees {trees : List (Tree Kind)} {limited : List (Tree.Visit Kind)}
    (h : CutOff limit start tokens (Tree.visitsAll p start trees) limited)
    (more : List (Tree Kind)) :
    CutOff limit start tokens (Tree.visitsAll p start (trees ++ more)) limited := by
  rw [Tree.visitsAll_append]
  exact h.append _

/-- A node may stand around. -/
theorem node {kind : Kind} {trees trees' : List (Tree Kind)}
    (h : CutOff limit start tokens (Tree.visitsAll (kind :: p) start trees)
      (Tree.visitsAll (kind :: q) start trees'))
    (same : unmarked p = unmarked q)
    (shallow : ∀ span, isTooDeep limit ⟨p, kind, span, none⟩ = false) :
    CutOff limit start tokens ((Tree.node kind trees).visits p start)
      ((Tree.node kind trees').visits q start) := by
  have visited : outline [⟨q, kind, ⟨start, Tree.sizeAll trees'⟩, none⟩] =
      outline [⟨p, kind, ⟨start, Tree.sizeAll trees⟩, none⟩] := by
    cases kind <;> simp [outline, same]
  exact h.prepend [] (List.forall_mem_singleton.2 (shallow _)) visited

/-- Error nodes may stand around. -/
theorem markError {tree tree' : Tree Kind} (same : unmarked p = unmarked q)
    (h : ∀ {p' q'}, unmarked p' = unmarked p → unmarked p' = unmarked q' →
      CutOff limit start tokens (tree.visits p' start) (tree'.visits q' start))
    (malformed malformed' : Bool) :
    CutOff limit start tokens ((Query.markError malformed tree).visits p start)
      ((Query.markError malformed' tree').visits q start) := by
  obtain ⟨earlier, p', whole, around, outside, noTerm⟩ :=
    exists_visits_markError malformed tree p start
  obtain ⟨before, q', limited, around', outside', -⟩ :=
    exists_visits_markError malformed' tree' q start
  rw [whole, limited]
  have cut := h around (around.trans (same.trans around'.symm))
  exact cut.prepend [] (fun visit mem => isTooDeep_of_noTerm (noTerm visit mem))
    (outside'.trans outside.symm)

end CutOff

end Walks

end Flashcard.Query
