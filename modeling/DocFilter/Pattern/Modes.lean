/-
# Modes

The letters that change how a pattern is read and matched.
-/

import DocFilter.Pattern.Node

namespace DocFilter.Pattern

/-- The modes in force. -/
structure Modes where
  /-- `i`: letter case is not told apart. -/
  ignoreCase : Bool := false
  /-- `m`: the line anchors hold at every line. -/
  multiline : Bool := false
  /-- `s`: the dot stands for a line feed too. -/
  dotAll : Bool := false
  /-- `x`: blanks and comments do not count. -/
  verbose : Bool := false
  /-- `a`: classes and letter case know ASCII only. -/
  ascii : Bool := false
  /-- `u`: classes and letter case know all characters, as they do anyway in texts. -/
  unicode : Bool := false
  /-- `L`: classes and letter case of bytes are those of a place. -/
  localized : Bool := false
  /-- `t`: the pattern is a template, in which nothing is repeated. -/
  template : Bool := false
  deriving DecidableEq, Repr

namespace Modes

/-- The letters that name a mode. -/
def letters : List Char :=
  ['i', 'm', 's', 'x', 'a', 'u', 't', 'L']

/-- The modes with one of them turned on or off. -/
def turn (value : Bool) (modes : Modes) : Char → Modes
  | 'i' => { modes with ignoreCase := value }
  | 'm' => { modes with multiline := value }
  | 's' => { modes with dotAll := value }
  | 'x' => { modes with verbose := value }
  | 'a' => { modes with ascii := value }
  | 'u' => { modes with unicode := value }
  | 'L' => { modes with localized := value }
  | 't' => { modes with template := value }
  | _ => modes

/-- The modes named by letters. -/
def ofLetters (names : List Char) : Modes :=
  names.foldl (turn true) {}

/-- The modes inside a group that turns some on and some off. Choosing the characters that classes
know undoes an earlier choice. -/
def within (modes : Modes) (on off : List Char) : Modes :=
  let base :=
    if on.any ['a', 'u', 'L'].contains then
      { modes with ascii := false, unicode := false, localized := false }
    else modes
  off.foldl (turn false) (on.foldl (turn true) base)

/-- Whether modes exclude each other. -/
def conflict (modes : Modes) : Bool :=
  modes.ascii && (modes.unicode || modes.localized)

/-- How letters are compared. -/
def casing (modes : Modes) : Casing :=
  if modes.ignoreCase then (if modes.ascii then .asciiVariants else .allVariants) else .exact

/-- A literal character, or every other one. Letter case counts only where there is any. -/
def literal (modes : Modes) (code : Nat) (negated : Bool := false) : Node :=
  .code (if modes.casing.matters code code then modes.casing else .exact) negated code

/-- A set of characters, or of all others. -/
def set (modes : Modes) (negated : Bool) (items : List SetItem) : Node :=
  .set (if items.any (·.isCased modes.casing) then modes.casing else .exact) negated items

end Modes

end DocFilter.Pattern
