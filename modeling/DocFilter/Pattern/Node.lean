/-
# Pattern trees

What a search pattern means, with every mode already resolved: each node says for itself whether
it tells letter case apart, whether a line feed counts, and which characters its classes hold.
-/

import DocFilter.Text.Alphanumeric
import DocFilter.Text.Blank
import DocFilter.Text.DecimalDigit
import DocFilter.Text.UpperCase

namespace DocFilter.Pattern

open Text

/-- Which characters a letter stands for: itself, all its case variants, or those in ASCII. -/
inductive Casing
  | exact
  | allVariants
  | asciiVariants
  deriving DecidableEq, Repr

namespace Casing

/-- The lower case of a code point, as far as a casing knows about it. -/
def lower (casing : Casing) (code : Nat) : Nat :=
  match casing with
  | .exact => code
  | .allVariants => LetterCase.lower code
  | .asciiVariants => if 0x41 ≤ code ∧ code ≤ 0x5a then code + 0x20 else code

/-- The lower-case code points that count as one letter with a given lower-case one. -/
def siblings (casing : Casing) (code : Nat) : List Nat :=
  match casing with
  | .allVariants => LetterCase.siblings code
  | _ => [code]

/-- All code points that count as one letter with a given lower-case one. -/
def variants (casing : Casing) (code : Nat) : List Nat :=
  match casing with
  | .exact => [code]
  | .allVariants => LetterCase.variants code
  | .asciiVariants => if 0x61 ≤ code ∧ code ≤ 0x7a then [code, code - 0x20] else [code]

/-- Whether a casing makes a difference for some code point between two others. -/
def matters (casing : Casing) (low high : Nat) : Bool :=
  match casing with
  | .exact => false
  | .allVariants => LetterCase.hasCased low high
  | .asciiVariants => (low ≤ 0x5a && 0x41 ≤ high) || (low ≤ 0x7a && 0x61 ≤ high)

/-- Whether two code points are the same letter. -/
def agree (casing : Casing) (left right : Nat) : Bool :=
  (casing.siblings (casing.lower left)).contains (casing.lower right)

end Casing

/-- The kinds of characters that have a name of their own in patterns. -/
inductive Category
  | digit
  | blank
  | word
  deriving DecidableEq, Repr

/-- Whether a character is of a kind; an ASCII category leaves out all other characters. -/
def Category.contains (category : Category) (asciiOnly : Bool) (c : Char) : Bool :=
  (!asciiOnly || c.toNat < 0x80) &&
    match category with
    | .digit => isDecimalDigit c
    | .blank => isBlank c && !(asciiOnly && 0x1c ≤ c.toNat && c.toNat ≤ 0x1f)
    | .word => isWordChar c

/-- A member of a character set. -/
inductive SetItem
  | code (code : Nat)
  | range (low high : Nat)
  | category (category : Category) (asciiOnly negated : Bool)
  deriving DecidableEq, Repr

namespace SetItem

/-- Where the supplementary code points begin. -/
def supplementary : Nat := 0x10000

/-- Whether a casing matters for an item of a set. For supplementary code points it always does. -/
def isCased (casing : Casing) : SetItem → Bool
  | .code point => casing != .exact && (supplementary ≤ point || casing.matters point point)
  | .range low high => casing != .exact && (supplementary ≤ high || casing.matters low high)
  | .category .. => false

/-- Whether an item of a set holds a code point, which is a lower-case one unless the casing is
exact. Of supplementary code points, a single one stands for nothing but itself, and a range for
what has its lower case or its upper case in the range. -/
def contains (casing : Casing) (code : Nat) : SetItem → Bool
  | .code point =>
    if supplementary ≤ point then code == point else casing.agree point code
  | .range low high =>
    let within (point : Nat) : Bool := low ≤ point && point ≤ high
    match casing with
    | .exact => within code
    | casing =>
      (casing.variants code).any (fun point => point < supplementary && within point) ||
        (supplementary ≤ high && (within code || within (LetterCase.upper code)))
  | .category kind asciiOnly negated => kind.contains asciiOnly (Char.ofNat code) != negated

end SetItem

/-- Whether one of the items of a set holds a character. -/
def holds (casing : Casing) (items : List SetItem) (c : Char) : Bool :=
  items.any (·.contains casing (casing.lower c.toNat))

/-- A place in the text that consumes nothing. -/
inductive Anchor
  | textStart
  | lineStart
  | textEnd
  | lastLineEnd
  | lineEnd
  | wordBoundary (asciiOnly negated : Bool)
  deriving DecidableEq, Repr

/-- How a repetition weighs more rounds against fewer: as many as possible, as few as possible, or
as many as possible without giving any back. -/
inductive Appetite
  | greedy
  | lazy
  | possessive
  deriving DecidableEq, Repr

/-- The least and the greatest number of characters that a pattern can consume. -/
structure Width where
  least : Nat
  greatest : Nat
  deriving DecidableEq, Repr

namespace Width

/-- Widths are not told apart beyond this bound, which also stands for "any number". -/
def bound : Nat := 4294967295

/-- One after the other. -/
def plus (first second : Width) : Width :=
  ⟨min (first.least + second.least) (bound - 1), min (first.greatest + second.greatest) bound⟩

/-- One or the other. -/
def either (first second : Width) : Width :=
  ⟨min first.least second.least, max first.greatest second.greatest⟩

/-- Over and over. -/
def times (round : Width) (least : Nat) (most : Option Nat) : Width :=
  ⟨min (round.least * least) (bound - 1), min (round.greatest * most.getD bound) bound⟩

end Width

/-- A pattern. -/
inductive Node
  /-- Matches the empty text everywhere. -/
  | empty
  /-- Matches nowhere; it ends every list of alternatives. -/
  | never
  | code (casing : Casing) (negated : Bool) (code : Nat)
  | any (lineFeeds : Bool)
  | set (casing : Casing) (negated : Bool) (items : List SetItem)
  | anchor (anchor : Anchor)
  | sequence (first second : Node)
  /-- An alternative, and the list of those after it. -/
  | either (first others : Node)
  | repetition (appetite : Appetite) (least : Nat) (most : Option Nat) (body : Node)
  /-- A group with modes of its own. -/
  | group (body : Node)
  | capture (index : Nat) (body : Node)
  | atomic (body : Node)
  | reference (casing : Casing) (index : Nat)
  | lookahead (negated : Bool) (body : Node)
  | lookbehind (negated : Bool) (width : Width) (body : Node)
  | conditional (index : Nat) (present absent : Node)
  deriving DecidableEq, Repr

namespace Node

/-- One node after the other. -/
def ofSequence : List Node → Node
  | [] => .empty
  | [node] => node
  | node :: nodes => .sequence node (ofSequence nodes)

/-- One of several alternatives. -/
def ofAlternatives (alternatives : List Node) : Node :=
  alternatives.foldr .either .never

/-- What a pattern accepts that is just one character wide. -/
def single? : Node → Option (Char → Bool)
  | .code casing negated point => some fun c => casing.agree point c.toNat != negated
  | .any lineFeeds => some fun c => lineFeeds || c != '\n'
  | .set casing negated items => some fun c => holds casing items c != negated
  | .group body => body.single?
  | _ => none

/-- The width of a pattern, given the widths of the groups it refers to. -/
def width (groups : Nat → Width) : Node → Width
  | .empty | .anchor _ | .lookahead .. | .lookbehind .. => ⟨0, 0⟩
  | .never => ⟨Width.bound - 1, 0⟩
  | .code .. | .any _ | .set .. => ⟨1, 1⟩
  | .sequence first second => (first.width groups).plus (second.width groups)
  | .either first others => (first.width groups).either (others.width groups)
  | .repetition _ least most body => (body.width groups).times least most
  | .group body | .capture _ body | .atomic body => body.width groups
  | .reference _ index => groups index
  | .conditional _ present absent => (present.width groups).either (absent.width groups)

end Node

end DocFilter.Pattern
