import OutputArranger.Config.Basic
import OutputArranger.Head.Basic

/-!
# Order and positions

Heads that the user names come first, in the user's order, and the rest in the order of their
discovery. They are then laid out one after another from the origin, in a row or a column, and
aligned across it. Positions are numbers of 32 bits.
-/

namespace OutputArranger.Layout

/-- Heads selected by the first pattern, then by the second, and so on, then the rest. Each head
appears once, where the first pattern puts it. -/
def orderHeads : List String → List Head → List Head
  | [], heads => heads
  | pattern :: rest, heads =>
      heads.filter (·.isSelectedBy pattern) ++
        orderHeads rest (heads.filter (!·.isSelectedBy pattern))

/-- Where a head goes. -/
structure Placement where
  head : HeadId
  x : Int
  y : Int
deriving DecidableEq

/-- Only heads that shall be on and have a mode take room. -/
def takesRoom (h : Head) : Bool := h.desired.enabled && h.desired.mode.isSome

/-- The greatest element, 0 for none. -/
def greatest : List Int → Int
  | [] => 0
  | a :: rest => rest.foldl max a

/-- The offset across the arrangement, given the room there and the size that fills it. -/
def offset (arrange : Arrange) (align : Align) (room size : Int) : Int :=
  let left := wrapInt32 (room - size)
  match arrange, align with
  | .row, .bottom => left
  | .column, .right => left
  | _, .middle => left.tdiv 2
  | _, _ => 0

/-- Lays heads out from `start` on. -/
def placeFrom (arrange : Arrange) (align : Align) (room : Int) : Int → List Head → List Placement
  | _, [] => []
  | start, h :: rest =>
      match arrange with
      | .row =>
          ⟨h.id, start, offset arrange align room h.desired.height⟩ ::
            placeFrom arrange align room (wrapInt32 (start + h.desired.width)) rest
      | .column =>
          ⟨h.id, offset arrange align room h.desired.width, start⟩ ::
            placeFrom arrange align room (wrapInt32 (start + h.desired.height)) rest

/-- The positions of the heads that take room, in the given order. -/
def place (arrange : Arrange) (align : Align) (ordered : List Head) : List Placement :=
  let placed := ordered.filter takesRoom
  let across := match arrange with
    | .row => placed.map (·.desired.height)
    | .column => placed.map (·.desired.width)
  placeFrom arrange align (greatest across) 0 placed

end OutputArranger.Layout
