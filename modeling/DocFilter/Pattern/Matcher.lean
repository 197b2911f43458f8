/-
# Matching patterns

Matching tries the ways to match a pattern in order of preference and takes the first one after
which the rest of the work succeeds too. The rest of the work is passed along as a continuation,
so the matcher recurses on the pattern alone.

Whether it succeeds or fails, an attempt leaves a trail: where the groups began and ended, and the
spot that was reached last. After a failed attempt the groups are taken back before the next one,
inside the rounds of a repetition completely, and elsewhere only to those that had been marked
before. The spot that was reached last is where a possessive repetition goes on after the round
that failed.

A repetition may go on only if its last optional round moved in the text. Rounds move on, unless a
possessive repetition inside them goes on from a lookbehind, which leads back. So fuel for the
whole text in both directions bounds the rounds.
-/

import DocFilter.Pattern.Node

namespace DocFilter.Pattern

open Text

/-- A position in a text. -/
structure Spot where
  /-- How many characters there are before the position. -/
  index : Nat
  /-- The characters before the position, nearest first. -/
  before : List Char
  /-- The characters after the position. -/
  rest : List Char
  deriving DecidableEq, Repr

namespace Spot

/-- The beginning of a text. -/
def first (text : List Char) : Spot :=
  ⟨0, [], text⟩

/-- The position behind the next character, which is given with what comes after it. -/
def past (spot : Spot) (c : Char) (rest : List Char) : Spot :=
  ⟨spot.index + 1, c :: spot.before, rest⟩

/-- Whether the character before or after a position belongs to a word. -/
def isWord (asciiOnly : Bool) (c : Option Char) : Bool :=
  c.any (Category.word.contains asciiOnly)

/-- Whether the position is one that an anchor names. In an empty text there are no word
boundaries, and no places that are not one either. -/
def isAt (spot : Spot) : Anchor → Bool
  | .textStart => spot.before.isEmpty
  | .lineStart => spot.before.isEmpty || spot.before.head? == some '\n'
  | .textEnd => spot.rest.isEmpty
  | .lastLineEnd => spot.rest.isEmpty || spot.rest == ['\n']
  | .lineEnd => spot.rest.isEmpty || spot.rest.head? == some '\n'
  | .wordBoundary asciiOnly negated =>
    !(spot.before.isEmpty && spot.rest.isEmpty) &&
      (isWord asciiOnly spot.before.head? != isWord asciiOnly spot.rest.head?) != negated

/-- The position so many characters back, if the text reaches that far. -/
def back? (spot : Spot) (count : Nat) : Option Spot :=
  if spot.index < count then none
  else
    some ⟨spot.index - count, spot.before.drop count,
      (spot.before.take count).reverse ++ spot.rest⟩

/-- The characters between two indices. -/
def between (spot : Spot) (start stop : Nat) : List Char :=
  ((spot.before.reverse ++ spot.rest).drop start).take (stop - start)

/-- The positions behind a character each, as long as the characters are accepted, but no more than
so many. The characters after the given position are given again. -/
def reach (accepts : Char → Bool) : Option Nat → Spot → List Char → List Spot
  | _, _, [] => []
  | most, spot, c :: rest =>
    if most = some 0 || !accepts c then []
    else spot.past c rest :: reach accepts (most.map (· - 1)) (spot.past c rest) rest

end Spot

/-- What is left behind by an attempt to match. -/
structure Trail where
  /-- The spot that was reached last. -/
  reached : Spot
  /-- The indices where groups began and ended, two for each group; those after the last mark that
  has been set are left out. -/
  marks : List (Option Nat) := []
  deriving DecidableEq, Repr

namespace Trail

/-- The trail after a spot has been reached. -/
def «at» (trail : Trail) (spot : Spot) : Trail :=
  { trail with reached := spot }

/-- The trail with a mark set. -/
def marked (trail : Trail) (mark index : Nat) : Trail :=
  let missing := List.replicate (mark + 1 - trail.marks.length) none
  { trail with marks := (trail.marks ++ missing).set mark (some index) }

/-- The trail of a failed attempt with the groups taken back to what they were before. -/
def rewound (after : Trail) (inRound : Bool) (before : Trail) : Trail :=
  { after with
    marks := if inRound then before.marks else after.marks.take before.marks.length }

/-- Where a group began and ended, if it was left after it had been entered last. -/
def group? (trail : Trail) (index : Nat) : Option (Nat × Nat) :=
  match trail.marks[2 * index - 2]?, trail.marks[2 * index - 1]? with
  | some (some start), some (some stop) => if start ≤ stop then some (start, stop) else none
  | _, _ => none

end Trail

/-- What comes of an attempt to match. -/
inductive Outcome
  | matched (trail : Trail)
  | failed (trail : Trail)
  deriving DecidableEq, Repr

namespace Outcome

/-- Goes on to something else after a failure. -/
def orElse (outcome : Outcome) (other : Trail → Outcome) : Outcome :=
  match outcome with
  | .matched trail => .matched trail
  | .failed trail => other trail

/-- The outcome, which in case of a failure leads back to a spot. -/
def orBack (outcome : Outcome) (spot : Spot) : Outcome :=
  outcome.orElse fun trail => .failed (trail.at spot)

end Outcome

/-- Work to be done from a spot on. -/
abbrev Work := Spot → Trail → Outcome

/-- No more work: the spot is where the match ends. -/
def finish : Work :=
  fun spot trail => .matched (trail.at spot)

/-- Steps over the next character if it is accepted. -/
def step (accepts : Char → Bool) (go : Work) : Work :=
  fun spot trail =>
    match spot.rest with
    | [] => .failed trail
    | c :: rest => if accepts c then go (spot.past c rest) trail else .failed trail

/-- Steps over a text that a group matched before. -/
def stepOver (casing : Casing) : List Char → Work → Work
  | [], go => go
  | c :: text, go =>
    step (fun next => casing.lower c.toNat == casing.lower next.toNat) (stepOver casing text go)

/-- Goes on from the first of several spots from where the work succeeds. -/
def firstOf (inRound : Bool) (go : Work) : List Spot → Trail → Outcome
  | [], trail => .failed trail
  | spot :: spots, trail =>
    (go spot (trail.at spot)).orElse fun after =>
      firstOf inRound go spots (after.rewound inRound trail)

/-- What a pattern begins with, as far as that can be tested beforehand. -/
inductive Lead
  | anything
  | code (code : Nat)
  | set (negated : Bool) (items : List SetItem)
  deriving DecidableEq, Repr

namespace Lead

/-- Whether a pattern that begins so can match at a spot. -/
def admits (lead : Lead) (spot : Spot) : Bool :=
  match lead, spot.rest with
  | .anything, _ => true
  | _, [] => false
  | .code point, c :: _ => c.toNat == point
  | .set negated items, c :: _ => holds .exact items c != negated

/-- Whether a pattern that begins so can match at a spot, if it begins with a literal character. -/
def admitsLiteral (lead : Lead) (spot : Spot) : Bool :=
  match lead with
  | .code _ => lead.admits spot
  | _ => true

end Lead

/-- What a pattern begins with, given what the work after it begins with. -/
def Node.lead : Node → Lead → Lead
  | .empty, after => after
  | .code .exact false point, _ => .code point
  | .set .exact negated items, _ => .set negated items
  | .sequence first second, after => first.lead (second.lead after)
  | .group body, after => body.lead after
  | _, _ => .anything

/-- Whether a pattern one character wide is matched anew for each character of a run, which leaves
the run behind as reached: letters that stand for several others. -/
def Node.movesAlong : Node → Bool
  | .code casing _ point => (casing.siblings (casing.lower point)).length != 1
  | .set casing _ _ => casing != .exact
  | .group body => body.movesAlong
  | _ => false

namespace Repetition

/-- Rounds that are one character wide. All spots where they can end are known beforehand, and only
those are tried at which the work after them can begin. -/
def single (appetite : Appetite) (least : Nat) (most : Option Nat) (accepts : Char → Bool)
    (moves inRound : Bool) (lead : Lead) (go : Work) : Work :=
  fun spot trail =>
    if spot.rest.length < least then .failed trail
    else
      let spots := spot :: Spot.reach accepts most spot spot.rest
      let last := spots.getLast?.getD spot
      let counted := trail.at (if moves then last else spot)
      match appetite with
      | .greedy =>
        firstOf inRound go ((spots.drop least).reverse.filter lead.admitsLiteral) counted
      | .lazy =>
        let beyond := (Spot.reach accepts (some 1) last last.rest).getLast?.getD last
        if spots.length ≤ least then .failed counted
        else (firstOf inRound go (spots.drop least) counted).orBack (if moves then beyond else last)
      | .possessive => if spots.length ≤ least then .failed counted else go last counted

/-- As many rounds as possible. The index where the last optional round began is remembered. -/
def greedy (round : Work → Work) (go : Work) : Nat → Nat → Option Nat → Option Nat → Work
  | 0, _, _, _, _, trail => .failed trail
  | fuel + 1, least + 1, most, began, spot, trail =>
    (round (greedy round go fuel least (most.map (· - 1)) began) spot (trail.at spot)).orBack spot
  | fuel + 1, 0, most, began, spot, trail =>
    let onward : Outcome :=
      if most = some 0 ∨ began = some spot.index then .failed trail
      else
        round (greedy round go fuel 0 (most.map (· - 1)) (some spot.index)) spot (trail.at spot)
    onward.orElse fun after => (go spot ((after.rewound true trail).at spot)).orBack spot

/-- As few rounds as possible. -/
def lazy (round : Work → Work) (inRound : Bool) (go : Work) :
    Nat → Nat → Option Nat → Option Nat → Work
  | 0, _, _, _, _, trail => .failed trail
  | fuel + 1, least + 1, most, began, spot, trail =>
    (round (lazy round inRound go fuel least (most.map (· - 1)) began) spot
      (trail.at spot)).orBack spot
  | fuel + 1, 0, most, began, spot, trail =>
    (go spot (trail.at spot)).orElse fun after =>
      let after := (after.rewound inRound trail).at spot
      if most = some 0 ∨ began = some spot.index then .failed after
      else
        (round (lazy round inRound go fuel 0 (most.map (· - 1)) (some spot.index)) spot
          after).orBack spot

/-- As many rounds as possible, each taken in its preferred way and never given back. A round begins
at the spot that was reached last, and so does the work after the round that failed. -/
def possessive (round : Work) (go : Work) :
    Nat → Nat → Option Nat → Option Nat → Work
  | 0, _, _, _, _, trail => .failed trail
  | fuel + 1, least + 1, most, began, spot, trail =>
    match round trail.reached trail with
    | .matched after => possessive round go fuel least (most.map (· - 1)) began spot after
    | .failed after => .failed (after.at spot)
  | fuel + 1, 0, most, began, spot, trail =>
    if most = some 0 ∨ began = some trail.reached.index then go trail.reached trail
    else
      match round trail.reached trail with
      | .matched after =>
        possessive round go fuel 0 (most.map (· - 1)) (some trail.reached.index) spot after
      | .failed after => go after.reached (after.rewound true trail)

/-- Enough fuel for a repetition that starts at a spot. -/
def fuelAt (least : Nat) (spot : Spot) : Nat :=
  least + 2 * (spot.index + spot.rest.length) + 2

/-- Rounds of any width. -/
def rounds (appetite : Appetite) (least : Nat) (most : Option Nat) (inRound : Bool)
    (round : Bool → Work → Work) (go : Work) : Work :=
  fun spot trail =>
    let fuel := fuelAt least spot
    match appetite with
    | .greedy => greedy (round true) go fuel least most none spot (trail.at spot)
    | .lazy => lazy (round true) inRound go fuel least most none spot (trail.at spot)
    | .possessive =>
      possessive (round inRound finish) go fuel least most none spot (trail.at spot)

end Repetition

namespace Node

/-- Matches a pattern at a spot and goes on from where it ends. Given are whether it stands inside
a round of a repetition, and what the work after it begins with. -/
def run : Node → Bool → Lead → Work → Work
  | .empty, _, _, go => go
  | .never, _, _, _ => fun _ trail => .failed trail
  | .code casing negated point, _, _, go =>
    step (fun c => casing.agree point c.toNat != negated) go
  | .any lineFeeds, _, _, go => step (fun c => lineFeeds || c != '\n') go
  | .set casing negated items, _, _, go => step (fun c => holds casing items c != negated) go
  | .anchor place, _, _, go => fun spot trail =>
    if spot.isAt place then go spot trail else .failed trail
  | .sequence first second, inRound, lead, go =>
    first.run inRound (second.lead lead) (second.run inRound lead go)
  | .either first others, inRound, lead, go => fun spot trail =>
    let attempt : Outcome :=
      if (first.lead .anything).admits spot then
        first.run inRound .anything go spot (trail.at spot)
      else .failed trail
    attempt.orElse fun after => others.run inRound lead go spot (after.rewound inRound trail)
  | .repetition appetite least most body, inRound, lead, go =>
    match body.single? with
    | some accepts =>
      Repetition.single appetite least most accepts body.movesAlong inRound lead go
    | none =>
      Repetition.rounds appetite least most inRound (fun inRound => body.run inRound .anything) go
  | .group body, inRound, lead, go => body.run inRound lead go
  | .capture index body, inRound, _, go => fun spot trail =>
    body.run inRound .anything
      (fun spot trail => go spot (trail.marked (2 * index - 1) spot.index)) spot
      (trail.marked (2 * index - 2) spot.index)
  | .atomic body, inRound, _, go => fun spot trail =>
    match body.run inRound .anything finish spot (trail.at spot) with
    | .matched after => go after.reached after
    | .failed after => .failed (after.at spot)
  | .reference casing index, _, _, go => fun spot trail =>
    match trail.group? index with
    | some (start, stop) => stepOver casing (spot.between start stop) go spot trail
    | none => .failed trail
  | .lookahead negated body, inRound, _, go => fun spot trail =>
    match body.run inRound .anything finish spot (trail.at spot), negated with
    | .matched after, false => go spot after
    | .failed after, true => go spot (after.rewound inRound trail)
    | .matched after, true | .failed after, false => .failed after
  | .lookbehind negated width body, inRound, _, go => fun spot trail =>
    match spot.back? width.least, negated with
    | none, false => .failed trail
    | none, true => go spot trail
    | some back, negated =>
      match body.run inRound .anything finish back (trail.at back), negated with
      | .matched after, false => go spot after
      | .failed after, true => go spot (after.rewound inRound trail)
      | .matched after, true | .failed after, false => .failed after
  | .conditional index present absent, inRound, lead, go => fun spot trail =>
    if (trail.group? index).isSome then
      present.run inRound (if absent matches .empty then lead else .anything) go spot trail
    else absent.run inRound lead go spot trail

end Node

end DocFilter.Pattern
