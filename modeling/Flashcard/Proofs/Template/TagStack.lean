import Flashcard.Proofs.Template.Lexical
import Flashcard.Proofs.Template.WellFormed

/-!
# The stack of open blocks

A stack tells which blocks are open while the tags of a template go by: a well
formed open tag is pushed, a close tag with the name on top of the stack pops it,
and every other close tag is rejected, as is a tag that is not well formed.

Results:
* `step_opens`, `step_closes`, `step_closes_other`, `step_broken`: what a tag does.
* `Leads.plain`, `Leads.tag`: what a text and a tag do to the stack on the way through
  a template.
-/

namespace Flashcard.Template

/-! ## Tags of a template -/

/-- A tag, with the byte where it begins. -/
structure Tag where
  start : Nat
  /-- It begins like a close tag. -/
  closes : Bool
  /-- Its tokens behind the first one. -/
  body : List Token

namespace Tag

/-- First token of a tag. -/
def opening (tag : Tag) : Token := if tag.closes then .closeTagStart else .tagStart

/-- Tokens of a tag. -/
def tokens (tag : Tag) : List Token := tag.opening :: tag.body

/-- Place of a tag. -/
def span (tag : Tag) : Span := ⟨tag.start, (Token.textAll tag.tokens).size⟩

end Tag

/-- Tokens of a tag behind its beginning, to its end or to where it breaks off. -/
def tagBody (tokens : List Token) : List Token :=
  tokens.takeWhile Token.isInside ++
    if ends (tokens.dropWhile Token.isInside) then [.tagEnd] else []

/-- What follows a tag. -/
def behindTag (tokens : List Token) : List Token := tokens.drop (tagBody tokens).length

theorem length_behindTag_le (tokens : List Token) : (behindTag tokens).length ≤ tokens.length := by
  rw [behindTag, List.length_drop]
  omega

/-- Tags among tokens that begin at the byte `start`. -/
def tagsFrom (start : Nat) (tokens : List Token) : List Tag :=
  match tokens with
  | [] => []
  | .tagStart :: rest =>
    have := length_behindTag_le rest
    ⟨start, false, tagBody rest⟩ ::
      tagsFrom (Tag.mk start false (tagBody rest)).span.stop (behindTag rest)
  | .closeTagStart :: rest =>
    have := length_behindTag_le rest
    ⟨start, true, tagBody rest⟩ ::
      tagsFrom (Tag.mk start true (tagBody rest)).span.stop (behindTag rest)
  | token :: rest => tagsFrom (start + token.text.size) rest
termination_by tokens.length

/-! ## Roles of tags -/

/-- A tag that is not well formed or closes nothing. -/
inductive Shape where
  | openTag
  | selfClosingTag
  | closeTag
deriving DecidableEq, Repr

/-- What a tag does to the blocks that are open. -/
inductive Role where
  /-- It opens a block with this name. -/
  | opens (name : Text)
  /-- It closes the block with this name, if that is the one to close. -/
  | closes (name : Text)
  /-- It stands for a field. -/
  | shows
  | broken (shape : Shape)
deriving DecidableEq, Repr

/-- The name in a tag: the last one of names separated by colons, right in front of
    the end of the tag. -/
def chainName? : List Token → Option Text
  | [.name name, .tagEnd] => some name
  | .name _ :: .colon :: rest => chainName? rest
  | _ => none

/-- Role of a tag with these tokens behind its mark or its beginning. -/
def chainRole (ok : Text → Role) (shape : Shape) (chain : List Token) : Role :=
  match chainName? chain with
  | some name => ok name
  | none => .broken shape

/-- Role of a tag. Names count without the spaces around them. -/
def Tag.role (tag : Tag) : Role :=
  match tag.closes, tag.body with
  | true, [.name name, .tagEnd] => .closes (Unicode.trim name)
  | true, _ => .broken .closeTag
  | false, .ifMark :: chain | false, .unlessMark :: chain =>
    chainRole (fun name => .opens (Unicode.trim name)) .openTag chain
  | false, chain => chainRole (fun _ => .shows) .selfClosingTag chain

/-! ## The stack -/

/-- A block that was opened: the place of its open tag, and its name. -/
structure OpenBlock where
  span : Span
  name : Text
deriving DecidableEq, Repr

/-- What happens at a tag. -/
inductive Event where
  | push (block : OpenBlock)
  /-- The block that begins at the byte `opened` is closed by a tag that begins at
      `start`, with this name. -/
  | pop (opened start : Nat) (name : Text)
  /-- The tag breaks the grammar, right inside of a block or of the whole template:
      the kind of that and the byte where it begins, the byte where the tag begins,
      its shape, and its tokens. -/
  | reject (around : Kind × Nat) (start : Nat) (shape : Option Shape)
      (tokens : List (Kind × Text))
deriving DecidableEq, Repr

/-- What stands right around a tag: the block on top of the stack, or the whole
    template. -/
def around : (stack : List OpenBlock) → Kind × Nat
  | [] => (.document, 0)
  | top :: _ => (.element, top.span.start)

/-- What a tag does to the stack, top first, and what happens. -/
def step (stack : List OpenBlock) (tag : Tag) : List OpenBlock × Option Event :=
  match tag.role, stack with
  | .opens name, _ => (⟨tag.span, name⟩ :: stack, some (.push ⟨tag.span, name⟩))
  | .closes name, top :: below =>
    if name = top.name then (below, some (.pop top.span.start tag.start name))
    else (stack, rejected .closeTag)
  | .closes _, [] => (stack, rejected .closeTag)
  | .shows, _ => (stack, none)
  | .broken shape, _ => (stack, rejected shape)
where
  /-- The tag is rejected. -/
  rejected (shape : Shape) : Option Event :=
    some (.reject (around stack) tag.start (some shape) (tag.tokens.map Token.pair))

section Roles

variable {stack : List OpenBlock} {tag : Tag}

theorem step_opens {name : Text} (h : tag.role = .opens name) :
    step stack tag = (⟨tag.span, name⟩ :: stack, some (.push ⟨tag.span, name⟩)) := by
  simp only [step, h]

theorem step_shows (h : tag.role = .shows) : step stack tag = (stack, none) := by
  simp only [step, h]

theorem step_broken {shape : Shape} (h : tag.role = .broken shape) :
    step stack tag = (stack, step.rejected stack tag shape) := by
  simp only [step, h]

/-- A close tag pops the block on top of the stack if it has that block's name. -/
theorem step_closes {name : Text} {top : OpenBlock} (h : tag.role = .closes name)
    (same : name = top.name) :
    step (top :: stack) tag = (stack, some (.pop top.span.start tag.start name)) := by
  simp only [step, h, if_pos same]

/-- Any other close tag is rejected. -/
theorem step_closes_other {name : Text} (h : tag.role = .closes name)
    (other : ∀ top ∈ stack.head?, name ≠ top.name) :
    step stack tag = (stack, step.rejected stack tag .closeTag) := by
  cases stack with
  | nil => simp only [step, h]
  | cons top below => simp only [step, h, if_neg (other top rfl)]

end Roles

/-- What happens at some tags, in order. -/
def events (stack : List OpenBlock) : List Tag → List Event
  | [] => []
  | tag :: tags => (step stack tag).2.toList ++ events (step stack tag).1 tags

/-- The stack behind some tags. -/
def stackBehind (stack : List OpenBlock) : List Tag → List OpenBlock
  | [] => stack
  | tag :: tags => stackBehind (step stack tag).1 tags

/-- How many blocks are open at once. -/
def deepest (stack : List OpenBlock) : List Tag → Nat
  | [] => stack.length
  | tag :: tags => max stack.length (deepest (step stack tag).1 tags)

theorem length_le_deepest (stack : List OpenBlock) (tags : List Tag) :
    stack.length ≤ deepest stack tags := by
  cases tags with
  | nil => exact Nat.le_refl _
  | cons tag tags => exact Nat.le_max_left _ _

/-! ## From one place to another -/

/-- A stack in front of tokens that begin at the byte `start`. -/
structure Place where
  stack : List OpenBlock
  start : Nat
  tokens : List Token

/-- Tags behind a place. -/
def Place.tags (place : Place) : List Tag := tagsFrom place.start place.tokens

/-- The tags lead from one place to another, and this happens on the way. -/
structure Leads (place : Place) (found : List Event) (next : Place) : Prop where
  events_eq : events place.stack place.tags = found ++ events next.stack next.tags
  stack_eq : stackBehind place.stack place.tags = stackBehind next.stack next.tags
  deepest_le : deepest next.stack next.tags ≤ deepest place.stack place.tags

theorem Leads.refl (place : Place) : Leads place [] place := ⟨rfl, rfl, Nat.le_refl _⟩

theorem Leads.trans {place next last : Place} {found more : List Event}
    (first : Leads place found next) (second : Leads next more last) :
    Leads place (found ++ more) last := by
  refine ⟨?_, ?_, ?_⟩
  · rw [first.events_eq, second.events_eq, List.append_assoc]
  · rw [first.stack_eq, second.stack_eq]
  · exact Nat.le_trans second.deepest_le first.deepest_le

/-- Where the same tags follow, nothing happens on the way. -/
theorem Leads.of_tags {stack : List OpenBlock} {start stop : Nat} {tokens rest : List Token}
    (h : tagsFrom start tokens = tagsFrom stop rest) :
    Leads ⟨stack, start, tokens⟩ [] ⟨stack, stop, rest⟩ := by
  refine ⟨?_, ?_, ?_⟩ <;> simp only [Place.tags, h, List.nil_append, Nat.le_refl]

variable (stack : List OpenBlock) (start : Nat)

/-- Nothing happens at a text. -/
theorem Leads.plain (text : Text) (rest : List Token) :
    Leads ⟨stack, start, .plain text :: rest⟩ [] ⟨stack, start + text.size, rest⟩ := by
  apply Leads.of_tags
  rw [tagsFrom]
  · rfl
  all_goals nofun

/-- A tag does what its role says. -/
theorem Leads.tag {tag : Tag} {rest : List Token} (h : tag.body = tagBody rest) :
    Leads ⟨stack, tag.start, tag.opening :: rest⟩ (step stack tag).2.toList
      ⟨(step stack tag).1, tag.span.stop, behindTag rest⟩ := by
  have tags : Place.tags ⟨stack, tag.start, tag.opening :: rest⟩ =
      tag :: tagsFrom tag.span.stop (behindTag rest) := by
    obtain ⟨start, closes, body⟩ := tag
    obtain rfl : body = tagBody rest := h
    cases closes <;> exact tagsFrom.eq_def start _
  refine ⟨?_, ?_, ?_⟩
  · rw [tags]
    rfl
  · rw [tags]
    rfl
  · rw [tags]
    exact Nat.le_max_right _ _

end Flashcard.Template
