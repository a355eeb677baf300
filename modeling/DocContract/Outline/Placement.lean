import DocContract.Outline.Slot
import DocContract.Schema.Hierarchy

/-!
Placing the headings of a document into the slots of an outline.  The slots are taken in their
order; each looks for its headings behind those of the slots before it and inside the section of its
parent slot.
-/

namespace DocContract.Outline

/-- What a slot has found: headings by their positions, nothing, or nothing since its parent slot
has no heading.  A slot that finds nothing inside a section knows the position of that section. -/
inductive Placement where
  | found (first : Nat) (more : List Nat)
  | missing (parent : Option Nat)
  | skipped
  deriving DecidableEq, Repr, Inhabited

def Placement.hits : Placement → List Nat
  | .found first more => first :: more
  | _ => []

/-- The position behind the section of the heading at the position: that of the next heading that is
not deeper. -/
def sectionEnd (headings : List Heading) (index : Nat) : Nat :=
  match headings[index]? with
  | none => headings.length
  | some opener =>
    index + 1 + ((headings.drop (index + 1)).takeWhile fun heading =>
      opener.level < heading.level).length

/-- The positions in which a slot looks for its headings, and the first heading of its parent
slot. -/
structure Window where
  start : Nat
  stop : Nat
  parent : Option Nat
  deriving DecidableEq, Repr

/-- The position behind all headings that have been placed. -/
def cursor (done : List Placement) : Nat :=
  match (done.flatMap Placement.hits).getLast? with
  | some last => last + 1
  | none => 0

/-- The window of the next slot; none if its parent slot has no heading.  `levels` are those of all
slots. -/
def window? (levels : List UInt8) (headings : List Heading) (done : List Placement) :
    Option Window :=
  match Hierarchy.parent? levels done.length with
  | none => some ⟨cursor done, headings.length, none⟩
  | some parent =>
    match done[parent]? with
    | some (.found first more) =>
      some ⟨max (cursor done) (first + 1),
        sectionEnd headings ((first :: more).getLastD first), some first⟩
    | _ => none

/-- The headings at the positions from `start` on and before `stop`, with these positions. -/
def between (headings : List Heading) (start stop : Nat) : List (Heading × Nat) :=
  (headings.zipIdx.drop start).take (stop - start)

/-- The positions of the further headings of a slot.  Deeper headings do not count; the first other
heading that the slot does not accept, or that it must leave to its sibling, is the end. -/
def furtherHits (slot : Slot) (sibling : Option Slot) : List (Heading × Nat) → List Nat
  | [] => []
  | (heading, index) :: rest =>
    if slot.level < heading.level then furtherHits slot sibling rest
    else if slot.accepts heading && !(sibling.any (·.accepts heading)) then
      index :: furtherHits slot sibling rest
    else []

/-- What the next slot finds, behind those that are done. -/
def placeNext (slots : List Slot) (headings : List Heading) (done : List Placement) (slot : Slot) :
    Placement :=
  let levels := slots.map (·.level)
  match window? levels headings done with
  | none => .skipped
  | some window =>
    match (between headings window.start window.stop).find? fun entry => slot.accepts entry.1 with
    | none => .missing window.parent
    | some (_, first) =>
      let sibling := (Hierarchy.nextSibling? levels done.length).bind fun index => slots[index]?
      .found first (furtherHits slot sibling (between headings (first + 1) window.stop))

/-- What the remaining slots find after those that are done. -/
def placeFrom (slots : List Slot) (headings : List Heading) (done : List Placement) :
    List Slot → List Placement
  | [] => done
  | slot :: rest =>
    placeFrom slots headings (done ++ [placeNext slots headings done slot]) rest

/-- What each of the slots finds in the outline. -/
def place (slots : List Slot) (headings : List Heading) : List Placement :=
  placeFrom slots headings [] slots

/-- The slot in which the heading at the position stands. -/
def slotOf? (placements : List Placement) (index : Nat) : Option Nat :=
  placements.findIdx? fun placement => placement.hits.contains index

end DocContract.Outline
