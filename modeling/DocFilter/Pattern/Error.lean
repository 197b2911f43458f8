/-
# Malformed patterns

What can be wrong with a pattern, and how it is reported: the problem in words, the position in
the pattern, and, for a pattern of several lines, the line and the column.
-/

import DocFilter.Pattern.Node
import DocFilter.Text.Numeral
import DocFilter.Text.Quoted

namespace DocFilter.Pattern

open Text

/-- What is wrong with a pattern. -/
inductive Problem
  | danglingEscape
  | badEscape (escape : String)
  | incompleteEscape (escape : String)
  | octalOutOfRange (escape : String)
  | unknownCharacterName (name : String)
  | unterminatedSet
  | badRange (low high : String)
  | nothingToRepeat
  | multipleRepeat
  | leastOverMost
  | unterminatedGroup
  | unterminatedComment
  | unbalancedParenthesis
  | unexpectedEnd
  | missing (what : String)
  | unterminatedName (terminator : Char)
  | unknownExtension (extension : String)
  | badGroupName (name : String)
  | unknownGroupName (name : String)
  | groupNameTaken (name : String) (group earlier : Nat)
  | badGroupNumber
  | invalidGroup (group : Nat)
  | openGroup
  | lookbehindGroup
  | lookbehindWidth
  | tooManyBranches
  | lateGlobalFlags
  | unknownFlag
  | badFlags (reason : String)
  /-- Flags that exclude each other were both set for the whole pattern. -/
  | conflictingFlags
  /-- A repetition count is beyond what can be counted. -/
  | countTooLarge
  /-- A number has more digits than can be read. -/
  | numberTooLong
  /-- Something is repeated in a template. -/
  | templateRepetition (appetite : Appetite)
  deriving DecidableEq, Repr

/-- The problem in words. -/
def Problem.message : Problem → String
  | .danglingEscape => "bad escape (end of pattern)"
  | .badEscape escape => "bad escape " ++ escape
  | .incompleteEscape escape => "incomplete escape " ++ escape
  | .octalOutOfRange escape => "octal escape value " ++ escape ++ " outside of range 0-0o377"
  | .unknownCharacterName name => "undefined character name " ++ Quoted.text name
  | .unterminatedSet => "unterminated character set"
  | .badRange low high => "bad character range " ++ low ++ "-" ++ high
  | .nothingToRepeat => "nothing to repeat"
  | .multipleRepeat => "multiple repeat"
  | .leastOverMost => "min repeat greater than max repeat"
  | .unterminatedGroup => "missing ), unterminated subpattern"
  | .unterminatedComment => "missing ), unterminated comment"
  | .unbalancedParenthesis => "unbalanced parenthesis"
  | .unexpectedEnd => "unexpected end of pattern"
  | .missing what => "missing " ++ what
  | .unterminatedName terminator => "missing " ++ terminator.toString ++ ", unterminated name"
  | .unknownExtension extension => "unknown extension ?" ++ extension
  | .badGroupName name => "bad character in group name " ++ Quoted.text name
  | .unknownGroupName name => "unknown group name " ++ Quoted.text name
  | .groupNameTaken name group earlier =>
    "redefinition of group name " ++ Quoted.text name ++ " as group " ++ Numeral.decimal group ++
      "; was group " ++ Numeral.decimal earlier
  | .badGroupNumber => "bad group number"
  | .invalidGroup group => "invalid group reference " ++ Numeral.decimal group
  | .openGroup => "cannot refer to an open group"
  | .lookbehindGroup => "cannot refer to group defined in the same lookbehind subpattern"
  | .lookbehindWidth => "look-behind requires fixed-width pattern"
  | .tooManyBranches => "conditional backref with more than two branches"
  | .lateGlobalFlags => "global flags not at the start of the expression"
  | .unknownFlag => "unknown flag"
  | .badFlags reason => "bad inline flags: " ++ reason
  | .conflictingFlags => "ASCII and UNICODE flags are incompatible"
  | .countTooLarge => "the repetition number is too large"
  | .numberTooLong => "too many digits"
  | .templateRepetition appetite =>
    "internal: unsupported template operator " ++
      match appetite with
      | .greedy => "MAX_REPEAT"
      | .lazy => "MIN_REPEAT"
      | .possessive => "POSSESSIVE_REPEAT"

/-- A malformed pattern: the problem, and the position where it shows if it has one. -/
structure Malformed where
  problem : Problem
  position : Option Nat
  pattern : String
  /-- Whether the pattern is one over bytes. -/
  binary : Bool := false
  deriving DecidableEq, Repr

/-- A report about bytes: those beyond ASCII are written as their codes. -/
def asciiReport (report : String) : String :=
  String.ofList <| report.toList.flatMap fun c =>
    if c.toNat < 0x80 then [c] else '\\' :: 'x' :: Numeral.padded 16 2 c.toNat

/-- The whole report. Lines are counted from one, and so are the columns within a line. -/
def Malformed.message (malformed : Malformed) : String :=
  match malformed.position with
  | none => malformed.problem.message
  | some position =>
    let text := malformed.pattern.toList
    let before := text.take position
    let line := before.count '\n' + 1
    let column := (before.reverse.takeWhile (· != '\n')).length + 1
    let message := malformed.problem.message
    let place :=
      (if malformed.binary then asciiReport message else message) ++ " at position " ++
        Numeral.decimal position
    if text.contains '\n' then
      place ++ " (line " ++ Numeral.decimal line ++ ", column " ++ Numeral.decimal column ++ ")"
    else place

end DocFilter.Pattern
