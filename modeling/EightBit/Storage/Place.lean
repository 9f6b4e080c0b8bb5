import EightBit.Storage.Path

namespace EightBit

/-!
# Places

A place is where a path leads to below a top directory; a position may also be
outside of it. Each component of a path leads from one position to the next: an
empty component and a single dot stay, two dots go up, and a name goes down.
-/

/-- A place below a top directory, as the names that lead to it. -/
abbrev Place :=
  List (List Char)

namespace Place

/-- The component that goes up. -/
def upward : List Char :=
  ['.', '.']

/-- The place that one component leads to; the top has none above it. -/
def enter?
    (place : Place)
    (component : List Char) :
    Option Place :=
  if Path.isNamed component then
    if component = upward then
      if place.isEmpty then
        none
      else
        some place.dropLast
    else
      some (place ++ [component])
  else
    some place

end Place

/-- Where a path stands with respect to a top directory. -/
inductive Position where
  /-- The top directory or a place in it. -/
  | inside (place : Place)
  /-- One of the directories that the top directory is in. -/
  | above
  /-- Any other place. -/
  | beside
  deriving Repr, DecidableEq

namespace Position

/-- The position that one component leads to. -/
def enter
    (position : Position)
    (component : List Char) :
    Position :=
  match position with
  | .inside place =>
      match place.enter? component with
      | some entered => .inside entered
      | none => .above
  | .above =>
      if Path.isNamed component && component ≠ Place.upward then
        .beside
      else
        .above
  | .beside => .beside

/-- The position in which a path starts; one with a separator in front starts high up. -/
def start (path : List Char) : Position :=
  if path.head? = some '/' then
    .above
  else
    .inside []

end Position

end EightBit
