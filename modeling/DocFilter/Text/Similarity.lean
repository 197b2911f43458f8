/-
# Similar texts

How alike two texts are is measured by the blocks of characters they share: the longest block
first, and then in the same way what lies before it and what lies behind it in both. The score is
twice the number of shared characters over the number of all characters.

A character that makes up more than a hundredth of a long text does not start a block; blocks of
other characters may still be extended by it.
-/

namespace DocFilter.Text.Similarity

/-- A text of this length has characters that are too frequent to start a block. -/
def longText : Nat := 200

/-- The characters of a text, each with whether it is rare enough to start a block. -/
def marked (text : List Char) : List (Char × Bool) :=
  if text.length < longText then text.map fun c => (c, true)
  else
    let limit := text.length / 100 + 1
    text.map fun c => (c, text.count c ≤ limit)

/-- A block that two texts share: where it starts in both, and its size. -/
structure Block where
  inFirst : Nat
  inSecond : Nat
  size : Nat
  deriving DecidableEq, Repr

/-- How long the shared blocks are that end at a character of the first text and at each character
of the second, from those that end one character earlier in both. -/
def nextRow (c : Char) : Nat → List Nat → List (Char × Bool) → List Nat
  | _, _, [] => []
  | diagonal, row, (other, starts) :: second =>
    (if c == other && starts then diagonal + 1 else 0) ::
      nextRow c (row.headD 0) row.tail second

/-- The first entry of a row that is larger than a size, kept up to the largest of all. -/
def bestInRow (index : Nat) : Nat → Block → List Nat → Block
  | _, best, [] => best
  | position, best, size :: row =>
    let best :=
      if best.size < size then ⟨index + 1 - size, position + 1 - size, size⟩ else best
    bestInRow index (position + 1) best row

/-- The longest block of starting characters, from a position in the first text on; of several
longest ones the one that ends first in the first text, and then in the second. -/
def longestFrom (second : List (Char × Bool)) : Nat → List Nat → Block → List Char → Block
  | _, _, best, [] => best
  | index, row, best, c :: first =>
    let row := nextRow c 0 row second
    longestFrom second (index + 1) row (bestInRow index 0 best row) first

/-- How many characters two texts have in common at their beginning. -/
def commonStart : List Char → List (Char × Bool) → Nat
  | left :: first, (right, _) :: second =>
    if left = right then commonStart first second + 1 else 0
  | _, _ => 0

/-- The longest block that two texts share, extended by equal characters on both sides. -/
def longest (first : List Char) (second : List (Char × Bool)) : Block :=
  let core := longestFrom second 0 [] ⟨0, 0, 0⟩ first
  let before :=
    commonStart (first.take core.inFirst).reverse (second.take core.inSecond).reverse
  let after :=
    commonStart (first.drop (core.inFirst + core.size)) (second.drop (core.inSecond + core.size))
  ⟨core.inFirst - before, core.inSecond - before, before + core.size + after⟩

/-- How many characters two texts share in blocks. Every block takes at least one character off the
first text, so its length is enough fuel. -/
def sharedSize : Nat → List Char → List (Char × Bool) → Nat
  | 0, _, _ => 0
  | fuel + 1, first, second =>
    let block := longest first second
    if block.size = 0 then 0
    else
      block.size +
        sharedSize fuel (first.take block.inFirst) (second.take block.inSecond) +
        sharedSize fuel (first.drop (block.inFirst + block.size))
          (second.drop (block.inSecond + block.size))

/-- A score between none and all, as a fraction. -/
structure Score where
  shared : Nat
  total : Nat
  deriving DecidableEq, Repr

/-- The score of a candidate for a word; two empty texts are alike. -/
def score (word candidate : String) : Score :=
  let first := candidate.toList
  let second := word.toList
  let total := first.length + second.length
  if total = 0 then ⟨1, 1⟩
  else ⟨2 * sharedSize first.length first (marked second), total⟩

/-- Close enough to be suggested: at least three fifths. -/
def Score.isClose (score : Score) : Bool :=
  3 * score.total ≤ 5 * score.shared

/-- Whether a scored candidate comes before another: the higher score, or the later text. -/
def comesBefore (left right : Score × String) : Bool :=
  let leftSize := left.1.shared * right.1.total
  let rightSize := right.1.shared * left.1.total
  rightSize < leftSize || (leftSize == rightSize && right.2 ≤ left.2)

/-- The candidates closest to a word, best first, and at most three of them. -/
def closest (word : String) (candidates : List String) : List String :=
  let scored := (candidates.map fun candidate => (score word candidate, candidate)).filter
    fun candidate => candidate.1.isClose
  ((scored.mergeSort comesBefore).take 3).map (·.2)

end DocFilter.Text.Similarity
