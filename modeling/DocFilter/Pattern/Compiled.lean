/-
# Compiled patterns

A pattern as a value: what was written, and what it means. It is searched for in texts and splits
them, and it shows itself with all modes that hold for it, whether they were given or the pattern
sets them itself.
-/

import DocFilter.Fault
import DocFilter.Pattern.Reader
import DocFilter.Pattern.Search

namespace DocFilter

/-- What a compiled pattern was written as. -/
inductive PatternSource
  | text (written : String)
  | bytes (written : List UInt8)
  deriving DecidableEq, Repr

/-- A compiled pattern. -/
structure CompiledPattern where
  source : PatternSource
  meaning : Pattern.Meaning
  deriving DecidableEq, Repr

namespace CompiledPattern

open Text

/-- Compiles a pattern under some modes. Each byte of a pattern over bytes is a character of its
own. -/
def compile (source : PatternSource) (modes : Pattern.Modes := {}) :
    Except Fault CompiledPattern :=
  let read : Except Pattern.Malformed Pattern.Meaning :=
    match source with
    | .text written => Pattern.read false modes written
    | .bytes written =>
      Pattern.read true modes (String.ofList (written.map fun byte => Char.ofNat byte.toNat))
  match read with
  | .ok meaning => return ⟨source, meaning⟩
  | .error malformed => throw (.malformedPattern malformed)

/-- What a pattern means for texts. A pattern over bytes means nothing for them. -/
def forTexts (pattern : CompiledPattern) : Except Fault Pattern.Meaning :=
  match pattern.source with
  | .text _ => return pattern.meaning
  | .bytes _ => throw .binaryPattern

/-- Whether a pattern occurs in a text. -/
def occursIn (pattern : CompiledPattern) (text : String) : Except Fault Bool := do
  match (← pattern.forTexts).node.search text with
  | none => return false
  | some found => if Pattern.isCrossed found.marks then throw .crossedGroup else return true

/-- The pieces that a pattern splits a text into: the parts between its matches, and after each
part what the groups have matched, which may be nothing. -/
def split (pattern : CompiledPattern) (text : String) :
    Except Fault (List (Option String)) := do
  let meaning ← pattern.forTexts
  match meaning.node.split meaning.groups text with
  | some pieces => return pieces
  | none => throw .crossedGroup

/-- The names of modes, in the order in which they are shown. -/
def modeNames (modes : Pattern.Modes) : List String :=
  [(modes.template, "re.TEMPLATE"), (modes.ignoreCase, "re.IGNORECASE"),
    (modes.localized, "re.LOCALE"), (modes.multiline, "re.MULTILINE"),
    (modes.dotAll, "re.DOTALL"), (modes.verbose, "re.VERBOSE"),
    (modes.ascii, "re.ASCII")].filterMap
    fun (holds, name) => if holds then some name else none

/-- The text that shows a pattern; of a long one only the first two hundred characters. -/
def display (pattern : CompiledPattern) : String :=
  let written :=
    match pattern.source with
    | .text written => Quoted.text written
    | .bytes written => Quoted.bytes written
  let names := modeNames pattern.meaning.modes
  "re.compile(" ++ String.ofList (written.toList.take 200) ++
    (if names.isEmpty then "" else ", " ++ "|".intercalate names) ++ ")"

end CompiledPattern

end DocFilter
