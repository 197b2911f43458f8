/-
# Names of characters

Every character has a name, and a name is that of one code point at most. Unified ideographs and
Hangul syllables have names that follow from their code points, and so do the members of some
families, which are numbered. All other names are listed in tables, as runs over successive code
points. A small letter at the beginning of each name says how many words of the one before it come
first: `a` for none, `b` for one, and so on. The names are those of Unicode 14.
-/

import DocFilter.Text.CharacterName.Aliases
import DocFilter.Text.CharacterName.Alphabets
import DocFilter.Text.CharacterName.EastAsian
import DocFilter.Text.CharacterName.Historic
import DocFilter.Text.CharacterName.Notations
import DocFilter.Text.CharacterName.Pictographs
import DocFilter.Text.CharacterName.Signs
import DocFilter.Text.CharacterName.Syllabaries
import DocFilter.Text.CharacterName.Symbols
import DocFilter.Text.Numeral
import DocFilter.Text.Pieces
import DocFilter.Text.Range

namespace DocFilter.Text.CharacterName

/-- What follows a text at the beginning of another one. -/
def after? (start : String) (name : List Char) : Option (List Char) :=
  start.toList.isPrefixOf? name

/-! ## Names that follow from code points -/

/-- The code points of unified ideographs. -/
def unifiedIdeographs : List (Nat × Nat) :=
  [(0x3400, 0x4dbf), (0x4e00, 0x9fff), (0x20000, 0x2a6df), (0x2a700, 0x2b738), (0x2b740,
    0x2b81d), (0x2b820, 0x2cea1), (0x2ceb0, 0x2ebe0), (0x30000, 0x3134a)]

/-- Whether a character is a hexadecimal digit, a letter being a capital one. -/
def isCapitalDigit (c : Char) : Bool :=
  Numeral.isDigit 16 c && !c.isLower

/-- The code point of four or five hexadecimal digits, if it lies in one of the ranges. -/
def numbered? (ranges : List (Nat × Nat)) (digits : List Char) : Option Nat := do
  if (digits.length = 4 ∨ digits.length = 5) ∧ digits.all isCapitalDigit then
    let code ← Numeral.read? 16 digits
    if Range.covers ranges code then return code else none
  else none

/-- The names of leading consonants of Hangul syllables. -/
def leading : List String :=
  ["G", "GG", "N", "D", "DD", "R", "M", "B", "BB", "S", "SS", "", "J", "JJ", "C", "K", "T", "P",
    "H"]

/-- The names of vowels of Hangul syllables. -/
def vowels : List String :=
  ["A", "AE", "YA", "YAE", "EO", "E", "YEO", "YE", "O", "WA", "WAE", "OE", "YO", "U", "WEO", "WE",
    "WI", "YU", "EU", "YI", "I"]

/-- The names of trailing consonants of Hangul syllables; a syllable may have none. -/
def trailing : List String :=
  ["", "G", "GG", "GS", "N", "NJ", "NH", "D", "L", "LG", "LM", "LB", "LS", "LT", "LP", "LH", "M",
    "B", "BS", "S", "SS", "NG", "J", "C", "K", "T", "P", "H"]

/-- The longest of some parts that a name begins with: its index, and the rest of the name. -/
def longest? (parts : List String) (name : List Char) : Option (Nat × List Char) :=
  parts.zipIdx.foldl (fun best (part, index) =>
    match after? part name with
    | none => best
    | some rest =>
      match best with
      | none => some (index, rest)
      | some (_, shortest) => if rest.length < shortest.length then some (index, rest) else best)
    none

/-- The code point of the Hangul syllable of a name. -/
def syllable? (name : List Char) : Option Nat := do
  let (first, name) ← longest? leading name
  let (second, name) ← longest? vowels name
  let (third, name) ← longest? trailing name
  if name.isEmpty then
    return 0xac00 + (first * vowels.length + second) * trailing.length + third
  else none

/-- What the names of families begin with, and the code points that are written after it. -/
def families : List (String × List (Nat × Nat)) :=
  [("CJK COMPATIBILITY IDEOGRAPH-", [(0xf900, 0xfa6d), (0xfa70, 0xfad9), (0x2f800, 0x2fa1d)]),
   ("KHITAN SMALL SCRIPT CHARACTER-", [(0x18b00, 0x18cd5)]),
   ("NUSHU CHARACTER-", [(0x1b170, 0x1b2fb)])]

/-- The code point of a member of a family. -/
def member? (name : List Char) : Option Nat :=
  families.findSome? fun (start, ranges) => do
    let digits ← after? start name
    if digits.head? = some '0' then none else numbered? ranges digits

/-- The code point of a variation selector by its short name, which is its number. -/
def selector? (name : List Char) : Option Nat := do
  let digits ← after? "VS" name
  let number ← Numeral.read? 10 digits
  if digits.head? = some '0' ∨ number = 0 ∨ 256 < number then none
  else return if number ≤ 16 then 0xfe00 + (number - 1) else 0xe0100 + (number - 17)

/-! ## Names in tables -/

/-- The entries of a line: how many words of the name before are kept, and the words that follow. -/
def entries (line : String) : List (Nat × List Char) :=
  (line.toList.foldr (fun c (pending, done) =>
    if c.isLower then ([], (c.toNat - 'a'.toNat, pending) :: done) else (c :: pending, done))
    (([] : List Char), ([] : List (Nat × List Char)))).2

/-- The code point of a name, given by its words, among entries of which the first has a code point
and comes after another name. -/
def findIn (name : List (List Char)) :
    Nat → List (List Char) → List (Nat × List Char) → Option Nat
  | _, _, [] => none
  | code, before, (kept, rest) :: entries =>
    let words := before.take kept ++ Pieces.split ' ' rest
    if words = name then some code else findIn name (code + 1) words entries

/-- All runs of names, each in lines of entries. -/
def runs : List (Nat × List String) :=
  alphabets ++ syllabaries ++ signs ++ symbols ++ eastAsian ++ historic ++ notations ++ pictographs

/-- The code point of a name that is listed. -/
def listed? (name : List Char) : Option Nat :=
  let words := Pieces.split ' ' name
  (runs.findSome? fun (first, lines) => findIn words first [] (lines.flatMap entries)).or
    (aliases.lookup (String.ofList name))

/-- The code point that has a name. Listed names may be written in small letters. -/
def code? (name : List Char) : Option Nat :=
  match after? "HANGUL SYLLABLE " name, after? "CJK UNIFIED IDEOGRAPH-" name with
  | some rest, _ => syllable? rest
  | none, some digits => numbered? unifiedIdeographs digits
  | none, none =>
    let name := name.map Char.toUpper
    (member? name).or ((selector? name).or (listed? name))

end DocFilter.Text.CharacterName
