/-
# The two modes of wildcard texts

In both modes the pattern of a wildcard text has every character of the text, in order, and in front
of some of them a mark: a dot before a star, and in the literal mode a backslash before a character
that is escaped. So a literal pattern is longer than an open one by the number of escaped
characters, and the two are the same just if there are none: no mark can make up for another one.

A pattern is read back from its end. Seen from there every character comes before its own mark, so
it is known which characters are marks, although a dot, a star or a backslash can be one as well as
a character of the text. What is read before its mark has come leaves that mark to be expected.
-/

import DocFilter.Proofs.WildcardReading
import Mathlib.Data.List.Basic

namespace DocFilter.Wildcard

/-! ## Marks -/

/-- The characters besides the star that have a backslash in front of them in literal patterns. -/
def escapedChars : List Char :=
  [' ', '\t', '\n', '\r', '\x0b', '\x0c', '#', '&', '~', '-', '(', ')', '[', ']', '\x7b', '\x7d',
    '?', '+', '|', '^', '$', '.', '\\']

theorem specialChars_perm : specialChars.Perm (star :: escapedChars) :=
  List.isPerm_iff.mp (by decide)

/-- The mark in front of a character in a pattern. -/
def mark? (literal : Bool) (c : Char) : Option Char :=
  if c = star then some '.' else if literal ∧ c ∈ escapedChars then some '\\' else none

/-- The pattern of a character is its mark, if it has one, and the character. -/
theorem charPattern_eq (literal : Bool) (c : Char) :
    charPattern literal c = (mark? literal c).toList ++ [c] := by
  by_cases isStar : c = star
  · rw [charPattern, mark?, if_pos isStar, if_pos isStar, isStar]
    rfl
  · have special : c ∈ specialChars ↔ c ∈ escapedChars := by
      rw [specialChars_perm.mem_iff, List.mem_cons, or_iff_right isStar]
    rw [charPattern, mark?, if_neg isStar, if_neg isStar]
    cases literal with
    | false => simp
    | true => by_cases escaped : c ∈ escapedChars <;> simp [escapeChar, special, escaped]

/-! ## Where the modes agree -/

/-- The pattern of a character is longer in the literal mode if the character is escaped, and by one
character. -/
theorem length_charPattern_true (c : Char) :
    (charPattern true c).length =
      (charPattern false c).length + if c ∈ escapedChars then 1 else 0 := by
  have starNotEscaped : star ∉ escapedChars := by decide
  rw [charPattern_eq, charPattern_eq, mark?, mark?]
  by_cases isStar : c = star
  · simp [isStar, starNotEscaped]
  · by_cases escaped : c ∈ escapedChars <;> simp [isStar, escaped]

/-- A literal pattern is longer than an open one by the number of escaped characters. -/
theorem length_flatMap_charPattern_true (text : List Char) :
    (text.flatMap (charPattern true)).length =
      (text.flatMap (charPattern false)).length + text.countP (· ∈ escapedChars) := by
  induction text with
  | nil => rfl
  | cons c text ih =>
    rw [List.flatMap_cons, List.flatMap_cons, List.length_append, List.length_append, ih,
      length_charPattern_true, List.countP_cons]
    simp only [decide_eq_true_eq]
    omega

/-- The two modes have the same pattern for a text just if none of its characters is one that is
escaped. Stars do not matter, however many there are and wherever they stand. -/
theorem modes_agree_iff (text : String) :
    pattern false text = pattern true text ↔ ∀ c ∈ text.toList, c ∉ escapedChars := by
  rw [← String.toList_inj, toList_pattern, toList_pattern]
  constructor
  · intro same
    have sizes := length_flatMap_charPattern_true text.toList
    have none : text.toList.countP (· ∈ escapedChars) = 0 := by
      rw [← same] at sizes
      omega
    simpa using List.countP_eq_zero.mp none
  · intro plain
    apply List.flatMap_congr
    intro c member
    simp only [charPattern_eq, mark?, plain c member, and_false, if_false]

/-! ## Reading patterns back -/

/-- What is read of a pattern from its end: the mark that has to come next, if one has to, and the
characters of the text. It cannot be read if another character stands where a mark has to. -/
def readBack? (literal : Bool) : List Char → Option (Option Char × List Char)
  | [] => some (none, [])
  | c :: rest =>
    match readBack? literal rest with
    | some (none, text) => some (mark? literal c, c :: text)
    | some (some mark, text) => if c = mark then some (none, text) else none
    | none => none

/-- The wildcard text of a pattern, if it is the pattern of one. -/
def source? (literal : Bool) (written : String) : Option String :=
  match readBack? literal written.toList with
  | some (none, text) => some (String.ofList text)
  | _ => none

/-- The pattern of a character gives the character back, and expects nothing before it. -/
theorem readBack?_charPattern_append {literal : Bool} {c : Char} {rest text : List Char}
    (later : readBack? literal rest = some (none, text)) :
    readBack? literal (charPattern literal c ++ rest) = some (none, c :: text) := by
  rw [charPattern_eq]
  cases marked : mark? literal c with
  | none => simp [readBack?, later, marked]
  | some mark => simp [readBack?, later, marked]

theorem readBack?_flatMap_charPattern (literal : Bool) (text : List Char) :
    readBack? literal (text.flatMap (charPattern literal)) = some (none, text) := by
  induction text with
  | nil => rfl
  | cons c text ih =>
    rw [List.flatMap_cons]
    exact readBack?_charPattern_append ih

/-- What was read has the pattern that was read, with the mark that is still expected in front. -/
theorem flatMap_charPattern_of_readBack? {literal : Bool} {written text : List Char}
    {expected : Option Char} (read : readBack? literal written = some (expected, text)) :
    text.flatMap (charPattern literal) = expected.toList ++ written := by
  induction written generalizing expected text with
  | nil =>
    cases read
    rfl
  | cons c rest ih =>
    rw [readBack?] at read
    split at read
    · next later =>
      cases read
      rw [List.flatMap_cons, charPattern_eq, ih later]
      simp
    · next later =>
      split at read
      · next isMark =>
        cases read
        rw [ih later, isMark]
        rfl
      · cases read
    · cases read

theorem source?_eq_some_iff {literal : Bool} {written text : String} :
    source? literal written = some text ↔ written = pattern literal text := by
  rw [← String.toList_inj, toList_pattern, source?]
  constructor
  · intro read
    split at read
    · next later =>
      cases read
      rw [String.toList_ofList, flatMap_charPattern_of_readBack? later]
      rfl
    · cases read
  · intro same
    rw [same, readBack?_flatMap_charPattern]
    simp

/-- In either mode the pattern of a wildcard text tells which text it is of: reading the pattern
back gives the text, it reads nothing but patterns of wildcard texts, and two texts have the same
pattern only if they are the same. -/
theorem pattern_is_read_back (literal : Bool) :
    (∀ written text, source? literal written = some text ↔ written = pattern literal text) ∧
    ∀ first second, pattern literal first = pattern literal second ↔ first = second := by
  refine ⟨fun written text => source?_eq_some_iff, ?_⟩
  intro first second
  constructor
  · intro same
    have readFirst : source? literal (pattern literal first) = some first :=
      source?_eq_some_iff.mpr rfl
    have readSecond : source? literal (pattern literal first) = some second :=
      source?_eq_some_iff.mpr same
    exact Option.some_inj.mp (readFirst.symm.trans readSecond)
  · rintro rfl
    rfl

/-- A dot before a star and a backslash before a plus sign are read as characters of the text. -/
example : source? false "..*" = some ".*" ∧ source? true "\\.\\\\\\+.*" = some ".\\+*" := by
  decide

end DocFilter.Wildcard
