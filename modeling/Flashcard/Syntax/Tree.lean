import Flashcard.Text.Basic

/-!
# Lossless syntax trees

A syntax tree keeps every character of its source: the leaves are tokens with
their text, the inner nodes group them. `Tree.visits` lists nodes and leaves in
the order of the source, each with its place and the kinds of the nodes around
it; every pass over a tree reads that list.

Results:
* `text_node`, `textAll_append`: the text of a node is that of its children in
  order.
* `size_eq`: the size of a tree is the size of its text.
-/

namespace Flashcard

/-- A range of bytes. -/
structure Span where
  start : Nat
  size : Nat
deriving DecidableEq, Repr

namespace Span

/-- First byte after the range. -/
def stop (span : Span) : Nat := span.start + span.size

/-- The range from `start` to `stop`, unless it runs backwards. -/
def between? (start stop : Nat) : Option Span :=
  if start ≤ stop then some ⟨start, stop - start⟩ else none

end Span

/-- Syntax tree over the kinds `κ`. -/
inductive Tree (κ : Type) where
  | leaf (kind : κ) (text : Text)
  | node (kind : κ) (children : List (Tree κ))

namespace Tree

variable {κ : Type}

/-- Kind of the root. -/
def kind : Tree κ → κ
  | leaf kind _ => kind
  | node kind _ => kind

mutual

/-- Source text of a tree. -/
def text : Tree κ → Text
  | leaf _ text => text
  | node _ children => textAll children

/-- Source text of trees in a row. -/
def textAll : List (Tree κ) → Text
  | [] => []
  | tree :: rest => text tree ++ textAll rest

end

mutual

/-- Number of bytes that a tree covers. -/
def size : Tree κ → Nat
  | leaf _ text => text.size
  | node _ children => sizeAll children

/-- Number of bytes that trees in a row cover. -/
def sizeAll : List (Tree κ) → Nat
  | [] => 0
  | tree :: rest => size tree + sizeAll rest

end

@[simp] theorem text_leaf (kind : κ) (t : Text) : (leaf kind t).text = t := rfl

@[simp] theorem text_node (kind : κ) (children : List (Tree κ)) :
    (node kind children).text = textAll children := rfl

@[simp] theorem textAll_nil : textAll ([] : List (Tree κ)) = [] := rfl

@[simp] theorem textAll_cons (tree : Tree κ) (rest : List (Tree κ)) :
    textAll (tree :: rest) = tree.text ++ textAll rest := rfl

@[simp] theorem textAll_append (a b : List (Tree κ)) :
    textAll (a ++ b) = textAll a ++ textAll b := by
  induction a with
  | nil => rfl
  | cons tree rest ih => simp [ih]

mutual

/-- A tree covers as many bytes as its text has. -/
theorem size_eq : (tree : Tree κ) → tree.size = tree.text.size
  | leaf _ _ => rfl
  | node _ children => by
    have h := sizeAll_eq children
    simpa [size, text] using h

theorem sizeAll_eq : (trees : List (Tree κ)) → sizeAll trees = (textAll trees).size
  | [] => rfl
  | tree :: rest => by
    have h := size_eq tree
    have hr := sizeAll_eq rest
    simp [sizeAll, h, hr]

end

/-! ## Visiting a tree -/

/-- A node or leaf met while walking through a tree. `path` holds the kinds of
    the nodes around it, innermost first; only leaves have a `text`. -/
structure Visit (κ : Type) where
  path : List κ
  kind : κ
  span : Span
  text : Option Text

namespace Visit

/-- Number of nodes around it. -/
def depth (visit : Visit κ) : Nat := visit.path.length

/-- The visit is to an inner node. -/
def isNode (visit : Visit κ) : Bool := visit.text.isNone

end Visit

mutual

/-- Nodes and leaves of a tree that begins at the byte `start`, each node
    before its children. -/
def visits (path : List κ) (start : Nat) : Tree κ → List (Visit κ)
  | leaf kind text => [⟨path, kind, ⟨start, text.size⟩, some text⟩]
  | node kind children =>
    ⟨path, kind, ⟨start, sizeAll children⟩, none⟩ :: visitsAll (kind :: path) start children

/-- Nodes and leaves of trees in a row. -/
def visitsAll (path : List κ) (start : Nat) : List (Tree κ) → List (Visit κ)
  | [] => []
  | tree :: rest => visits path start tree ++ visitsAll path (start + size tree) rest

end

/-- Everything in a tree, in the order of the source. -/
def walk (tree : Tree κ) : List (Visit κ) := tree.visits [] 0

/-- The leaves of a tree, in the order of the source. -/
def leaves (tree : Tree κ) : List (Visit κ) := tree.walk.filter (!·.isNode)

mutual

/-- The inner nodes of a tree, each before those below it. -/
def nodes : Tree κ → List (Tree κ)
  | leaf _ _ => []
  | node kind children => node kind children :: nodesAll children

/-- The inner nodes of trees in a row. -/
def nodesAll : List (Tree κ) → List (Tree κ)
  | [] => []
  | tree :: rest => nodes tree ++ nodesAll rest

end

end Tree

end Flashcard
