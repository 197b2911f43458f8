/-
# Searching for patterns

A search tries one position after the other, from left to right, and ends with the first match. A
text is split at all matches, which follow one another without overlap: where a match has consumed
nothing, the next one has to move on.

A repetition can leave a group with a beginning from a later round than its end. Such a group has
no text, and there is no answer to what it matched.
-/

import DocFilter.Pattern.Matcher

namespace DocFilter.Pattern

/-- A match in a text. -/
structure Match where
  /-- Where the match begins. -/
  start : Spot
  /-- Where it ends. -/
  stop : Spot
  /-- The indices where groups began and ended. -/
  marks : List (Option Nat)
  deriving DecidableEq, Repr

/-- Whether some group ends before it begins. -/
def isCrossed : List (Option Nat) → Bool
  | some start :: some stop :: marks => stop < start || isCrossed marks
  | _ :: _ :: marks => isCrossed marks
  | _ => false

namespace Match

/-- What a group matched, if it has matched at all. -/
def group? (found : Match) (index : Nat) : Option (List Char) :=
  match found.marks[2 * index - 2]?, found.marks[2 * index - 1]? with
  | some (some start), some (some stop) => some (found.stop.between start stop)
  | _, _ => none

end Match

namespace Node

/-- A match that begins at a spot, and moves on from there if it has to. -/
def matchAt (node : Node) (advancing : Bool) (start : Spot) : Option Match :=
  let goal : Work := fun spot trail =>
    if advancing && spot.index == start.index then .failed trail else finish spot trail
  match node.run false .anything goal start ⟨start, []⟩ with
  | .matched trail => some ⟨start, trail.reached, trail.marks⟩
  | .failed _ => none

/-- The first match at a position of a text or after it. Only at the first position it may have to
move on. The characters after the position are given again. -/
def searchFrom (node : Node) (advancing : Bool) (spot : Spot) : List Char → Option Match
  | [] => node.matchAt advancing spot
  | c :: rest =>
    match node.matchAt advancing spot with
    | some found => some found
    | none => searchFrom node false (spot.past c rest) rest

/-- The first match in a text. -/
def search (node : Node) (text : String) : Option Match :=
  node.searchFrom false (.first text.toList) text.toList

/-- The parts of a text between matches, from a position on, and after each part what the groups of
the match behind it have matched. There are none if a group is crossed.

Every match moves on or is followed by one that does, so twice the length of the text is enough
fuel. -/
def piecesFrom (node : Node) (groups : Nat) :
    Nat → Bool → Spot → Option (List (Option (List Char)))
  | 0, _, _ => none
  | fuel + 1, advancing, last =>
    match node.searchFrom advancing last last.rest with
    | none => some [some last.rest]
    | some found =>
      if isCrossed found.marks then none
      else do
        let part := last.rest.take (found.start.index - last.index)
        let matched := (List.range groups).map fun group => found.group? (group + 1)
        let later ← piecesFrom node groups fuel (found.start.index == found.stop.index) found.stop
        return some part :: matched ++ later

/-- The pieces that matches split a text into, if no group is crossed. -/
def split (node : Node) (groups : Nat) (text : String) : Option (List (Option String)) :=
  let chars := text.toList
  (node.piecesFrom groups (2 * chars.length + 2) false (.first chars)).map fun pieces =>
    pieces.map fun piece => piece.map String.ofList

end Node

end DocFilter.Pattern
