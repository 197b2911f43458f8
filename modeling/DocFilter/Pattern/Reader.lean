/-
# Reading patterns

A pattern is read from left to right, one token ahead. What is read is remembered only as far as
later parts can refer to it: the groups with their names and widths, the modes set for the whole
pattern, and references that can be checked only at the end.

What all alternatives begin with is taken out in front of them, and alternatives that are one
character wide are put together into one set. A group that neither captures anything nor has modes
of its own dissolves into what is around it.

Each alternative, and each token inside one, takes one unit of fuel, and every alternative but the
first comes after a token of its own, so twice the number of tokens is always enough.
-/

import DocFilter.Pattern.Error
import DocFilter.Pattern.Modes
import DocFilter.Pattern.Token
import DocFilter.Text.Alphabetic
import DocFilter.Text.CharacterName
import DocFilter.Text.Identifier
import DocFilter.Text.Pieces

namespace DocFilter.Pattern

open Text

/-- What has been read of a pattern, and what is still to come. -/
structure Reading where
  /-- The tokens that are still to come. -/
  rest : List Token
  /-- How many characters have been read. -/
  position : Nat := 0
  /-- Whether the pattern is one over bytes. -/
  binary : Bool := false
  /-- The modes of the whole pattern. -/
  modes : Modes
  /-- The width of each group so far; a group that is still open has none. -/
  groups : List (Option Width) := []
  /-- The names of groups. -/
  names : List (String × Nat) := []
  /-- How many groups there were before the outermost lookbehind that is still open. -/
  outsideLookbehind : Option Nat := none
  /-- Groups that a condition asks for, each with the position where it does. -/
  conditions : List (Nat × Nat) := []

/-- A step of reading: it goes on, or stops with a problem and its position. -/
abbrev Reader := StateT Reading (Except (Problem × Option Nat))

/-- A part of a sequence that has been read: a node, or a group that dissolves into its nodes. -/
inductive Piece
  | node (node : Node)
  | group (nodes : List Node)

/-- The nodes that a part of a sequence leaves. -/
def Piece.nodes : Piece → List Node
  | .node single => [single]
  | .group inner => inner

/-- What stands before the first alternative can set modes for the whole pattern; later
alternatives and the insides of groups cannot. -/
inductive Place
  | first
  | outermost
  | inside
  deriving DecidableEq, Repr

namespace Reader

/-- Stops at the position some characters back from the current one. -/
def fail {α : Type} (problem : Problem) (back : Nat := 0) : Reader α := do
  throw (problem, some ((← get).position - back))

/-- The next token, which stays. -/
def peek : Reader (Option Token) := do
  return (← get).rest.head?

/-- Whether the next token is a given character. -/
def nextIs (c : Char) : Reader Bool := do
  return (← peek) == some (.plain c)

/-- A lone backslash at the end is a problem as soon as it is the next token. -/
def checkNext : Reader Unit := do
  if (← peek) == some .dangling then fail .danglingEscape

/-- Takes the next token. -/
def next : Reader (Option Token) := do
  let reading ← get
  match reading.rest with
  | [] => return none
  | token :: rest =>
    set { reading with rest := rest, position := reading.position + token.size }
    checkNext
    return some token

/-- Takes the next token if it is a given character. -/
def accept (c : Char) : Reader Bool := do
  if ← nextIs c then
    discard next
    return true
  else return false

/-- Takes characters of a class, up to a limit. -/
def takeWhile (accepts : Char → Bool) : Nat → Reader (List Char)
  | 0 => return []
  | limit + 1 => do
    match ← peek with
    | some (.plain c) =>
      if accepts c then
        discard next
        return c :: (← takeWhile accepts limit)
      else return []
    | _ => return []

/-- Takes all characters of a class that come next. -/
def takeAll (accepts : Char → Bool) : Reader (List Char) := do
  takeWhile accepts (← get).rest.length

/-- Takes what stands before a closing character, and the closing character. -/
def takeUntil (terminator : Char) (what : String) : Reader (List Char) := do
  let reading ← get
  let name := (reading.rest.takeWhile (· != .plain terminator)).flatMap Token.chars
  let rest := reading.rest.dropWhile (· != .plain terminator)
  if reading.rest.any (· == .dangling) && rest.isEmpty then
    set { reading with rest := [.dangling], position := reading.position + name.length - 1 }
    checkNext
  match rest with
  | [] =>
    set { reading with rest := [], position := reading.position + name.length }
    if name.isEmpty then fail (.missing what)
    else fail (.unterminatedName terminator) name.length
  | _ :: rest =>
    set { reading with rest := rest, position := reading.position + name.length + 1 }
    checkNext
    if name.isEmpty then fail (.missing what) 1 else return name

/-- How many digits a number may have that a pattern writes. -/
def longestNumber : Nat := 4300

/-! ## Escapes -/

/-- Whether a character is an ASCII letter. -/
def isLetter (c : Char) : Bool :=
  c.isAlpha

/-- The control characters that have a letter, and the backslash. -/
def controlEscape? : Char → Option Nat
  | 'a' => some 0x07
  | 'b' => some 0x08
  | 'f' => some 0x0c
  | 'n' => some 0x0a
  | 'r' => some 0x0d
  | 't' => some 0x09
  | 'v' => some 0x0b
  | '\\' => some 0x5c
  | _ => none

/-- The classes that have a letter; the capital letter stands for all other characters. -/
def categoryEscape? (ascii : Bool) : Char → Option SetItem
  | 'd' => some (.category .digit ascii false)
  | 'D' => some (.category .digit ascii true)
  | 's' => some (.category .blank ascii false)
  | 'S' => some (.category .blank ascii true)
  | 'w' => some (.category .word ascii false)
  | 'W' => some (.category .word ascii true)
  | _ => none

/-- The anchors that have a letter. -/
def anchorEscape? (ascii : Bool) : Char → Option Anchor
  | 'A' => some .textStart
  | 'Z' => some .textEnd
  | 'b' => some (.wordBoundary ascii false)
  | 'B' => some (.wordBoundary ascii true)
  | _ => none

/-- The text of an escape of which more than one token has been read. -/
def escapeText (c : Char) (digits : List Char) : String :=
  String.ofList ('\\' :: c :: digits)

/-- A code of exactly so many hexadecimal digits. -/
def hexEscape (letter : Char) (count : Nat) : Reader Nat := do
  let digits ← takeWhile (Numeral.isDigit 16) count
  let text := escapeText letter digits
  if digits.length = count then
    match Numeral.read? 16 digits with
    | some code =>
      if code < 0x110000 then return code else fail (.badEscape text) text.length
    | none => fail (.incompleteEscape text) text.length
  else fail (.incompleteEscape text) text.length

/-- A character by its name. -/
def namedEscape : Reader Nat := do
  if ← accept '{' then
    let name ← takeUntil '\x7d' "character name"
    match CharacterName.code? name with
    | some code => return code
    | none => fail (.unknownCharacterName (String.ofList name)) (name.length + 4)
  else fail (.missing "\x7b")

/-- A code in octal digits, the first of which has been read. -/
def octalCode (first : Char) (digits : List Char) : Reader Nat := do
  let text := escapeText first digits
  let code := (Numeral.read? 8 (first :: digits)).getD 0
  if 0o377 < code then fail (.octalOutOfRange text) text.length else return code

/-- Any other escaped character stands for itself, unless it is an ASCII letter or a digit. -/
def plainEscape (c : Char) : Reader Nat := do
  if isLetter c || c.isDigit then fail (.badEscape (escapeText c [])) 2 else return c.toNat

/-- The codes that start with a letter, and the escapes that stand for themselves. Patterns over
bytes know codes of two digits only. -/
def codeEscape (c : Char) : Reader Nat := do
  match c, (← get).binary with
  | 'x', _ => hexEscape 'x' 2
  | 'u', false => hexEscape 'u' 4
  | 'U', false => hexEscape 'U' 8
  | 'N', false => namedEscape
  | _, _ => plainEscape c

/-- An escape inside a character set. -/
def setEscape (modes : Modes) (c : Char) : Reader SetItem := do
  match controlEscape? c with
  | some code => return .code code
  | none =>
    match categoryEscape? modes.ascii c with
    | some item => return item
    | none =>
      if Numeral.isDigit 8 c then
        let digits ← takeWhile (Numeral.isDigit 8) 2
        return .code (← octalCode c digits)
      else return .code (← codeEscape c)

/-! ## Groups that are referred to -/

/-- Whether a group has been closed. -/
def isClosed (group : Nat) : Reader Bool := do
  return ((← get).groups[group - 1]?.getD none).isSome

/-- Inside a lookbehind only the groups from before it can be referred to. -/
def checkLookbehind (group : Nat) : Reader Unit := do
  if let some outside := (← get).outsideLookbehind then
    if !(← isClosed group) then fail .openGroup
    if outside < group then fail .lookbehindGroup

/-- A reference to a closed group, by a number that took so many characters. -/
def reference (modes : Modes) (group size : Nat) : Reader Node := do
  if group ≤ (← get).groups.length then
    if !(← isClosed group) then fail .openGroup size
    checkLookbehind group
    return .reference modes.casing group
  else fail (.invalidGroup group) (size - 1)

/-- An escape that starts with a digit other than zero: three octal digits are a code, and one or
two digits a reference. -/
def numericEscape (modes : Modes) (first : Char) : Reader Node := do
  let second ← takeWhile (Numeral.isDigit 10) 1
  let octal := (first :: second).all (Numeral.isDigit 8) && second.length = 1
  let third ← takeWhile (Numeral.isDigit 8) (if octal then 1 else 0)
  let digits := second ++ third
  if third.length = 1 then return modes.literal (← octalCode first digits)
  else reference modes ((Numeral.read? 10 (first :: digits)).getD 0) (digits.length + 2)

/-- An escape outside a character set. -/
def escape (modes : Modes) (c : Char) : Reader Node := do
  match categoryEscape? modes.ascii c, anchorEscape? modes.ascii c, controlEscape? c with
  | some item, _, _ => return modes.set false [item]
  | none, some anchor, _ => return .anchor anchor
  | none, none, some code => return modes.literal code
  | none, none, none =>
    if c == '0' then
      let digits ← takeWhile (Numeral.isDigit 8) 2
      return modes.literal ((Numeral.read? 8 (c :: digits)).getD 0)
    else if c.isDigit then numericEscape modes c
    else return modes.literal (← codeEscape c)

/-! ## Character sets -/

/-- One end of a range, or a member of a set. -/
def setMember (modes : Modes) : Token → Reader SetItem
  | .escaped c => setEscape modes c
  | .plain c => return .code c.toNat
  | .dangling => fail .danglingEscape

/-- The range between two members that have been read. -/
def setRange (low high : Token) (lowItem highItem : SetItem) : Reader SetItem := do
  let refused : Reader SetItem :=
    fail (.badRange low.text high.text) (low.size + 1 + high.size)
  match lowItem, highItem with
  | .code lowCode, .code highCode =>
    if highCode < lowCode then refused else return .range lowCode highCode
  | _, _ => refused

/-- The members of a set up to the closing bracket; the set opened at a position. A bracket that
comes first is a member, and so is a hyphen that comes last. -/
def setItems (modes : Modes) (opened : Nat) : Nat → List SetItem → Reader (List SetItem)
  | 0, _ => fail .unterminatedSet
  | fuel + 1, items => do
    let unterminated : Reader (List SetItem) := do
      fail .unterminatedSet ((← get).position - opened)
    match ← next with
    | none => unterminated
    | some token =>
      if token == .plain ']' && !items.isEmpty then return items.reverse
      else
        let item ← setMember modes token
        if ← accept '-' then
          match ← next with
          | none => unterminated
          | some (.plain ']') => return (.code '-'.toNat :: item :: items).reverse
          | some high =>
            let range ← setRange token high item (← setMember modes high)
            setItems modes opened fuel (range :: items)
        else setItems modes opened fuel (item :: items)

/-- A character set whose opening bracket has been read. -/
def characterSet (modes : Modes) : Reader Node := do
  let opened := (← get).position - 1
  let negated ← accept '^'
  let items ← setItems modes opened ((← get).rest.length + 1) []
  match items.eraseDups with
  | [.code code] => return modes.literal code negated
  | items => return modes.set negated items

/-! ## Repetitions -/

/-- The bounds between braces, the first of which has been read; without them nothing is taken. -/
def bounds? : Reader (Option (String × String)) := do
  let reading ← get
  let least ← takeAll (Numeral.isDigit 10)
  let most ← if ← accept ',' then takeAll (Numeral.isDigit 10) else pure least
  if ← accept '\x7d' then return some (String.ofList least, String.ofList most)
  else
    set reading
    return none

/-- A bound in digits; no digits leave it open. -/
def bound (digits : String) : Reader (Option Nat) := do
  if longestNumber < digits.length then throw (.numberTooLong, none)
  match Numeral.read? 10 digits.toList with
  | none => return none
  | some count => if Width.bound ≤ count then throw (.countTooLarge, none) else return some count

/-- The appetite of a repetition, by the mark after it. There is one mark at most: a second one
would repeat the repetition. -/
def appetite : Reader Appetite := do
  if ← accept '?' then return .lazy
  if ← accept '+' then return .possessive
  return .greedy

/-- Repeats the last part of a sequence, which is given in reverse. -/
def repeated (marker : Nat) (least : Nat) (most : Option Nat) :
    List Piece → Reader (List Piece)
  | [] => do fail .nothingToRepeat ((← get).position - marker)
  | .node (.anchor _) :: _ => do fail .nothingToRepeat ((← get).position - marker)
  | .node (.repetition ..) :: _ => do fail .multipleRepeat ((← get).position - marker)
  | body :: before => do
    return .node (.repetition (← appetite) least most (.ofSequence body.nodes)) :: before

/-- A repetition in braces. An opening brace without bounds stands for itself. -/
def braces (modes : Modes) (pieces : List Piece) : Reader (List Piece) := do
  let here := (← get).position
  let literal := .node (modes.literal '\x7b'.toNat) :: pieces
  if ← nextIs '\x7d' then return literal
  match ← bounds? with
  | none => return literal
  | some (leastDigits, mostDigits) =>
    let least ← bound leastDigits
    let most ← bound mostDigits
    if let some most := most then
      if most < least.getD 0 then fail .leastOverMost ((← get).position - here)
    repeated (here - 1) (least.getD 0) most pieces

/-! ## Flags -/

/-- A token that is no flag, where one was expected. -/
def unexpectedFlag {α : Type} (token : Token) (what : String) : Reader α :=
  fail (if token.isPlain isAlphabetic then .unknownFlag else .missing what) token.size

/-- Whether a flag chooses the characters that classes know. -/
def choosesCharacters (flag : Char) : Bool :=
  ['a', 'u', 'L'].contains flag

/-- The flags to turn on, up to the character that ends them. -/
def flagsOn : Nat → Char → List Char → Reader (List Char × Char)
  | 0, _, _ => fail .unexpectedEnd
  | fuel + 1, flag, on => do
    if (← get).binary then
      if flag == 'u' then fail (.badFlags "cannot use 'u' flag with a bytes pattern")
    else if flag == 'L' then fail (.badFlags "cannot use 'L' flag with a str pattern")
    let on := flag :: on
    if choosesCharacters flag && on.any (fun other => choosesCharacters other && other != flag) then
      fail (.badFlags "flags 'a', 'u' and 'L' are incompatible")
    match ← next with
    | none => fail (.missing "-, : or )")
    | some token =>
      match token with
      | .plain c =>
        if [')', '-', ':'].contains c then return (on, c)
        else if Modes.letters.contains c then flagsOn fuel c on
        else unexpectedFlag token "-, : or )"
      | _ => unexpectedFlag token "-, : or )"

/-- The flags to turn off, up to the colon. -/
def flagsOff : Nat → Char → List Char → Reader (List Char)
  | 0, _, _ => fail .unexpectedEnd
  | fuel + 1, flag, off => do
    if choosesCharacters flag then fail (.badFlags "cannot turn off flags 'a', 'u' and 'L'")
    let off := flag :: off
    match ← next with
    | none => fail (.missing ":")
    | some token =>
      match token with
      | .plain c =>
        if c == ':' then return off
        else if Modes.letters.contains c then flagsOff fuel c off
        else unexpectedFlag token ":"
      | _ => unexpectedFlag token ":"

/-- Flags whose first character has been read: for the whole pattern if a parenthesis ends them,
and otherwise those that the group turns on and off. -/
def flags (first : Char) : Reader (Option (List Char × List Char)) := do
  let fuel := (← get).rest.length + 1
  let (on, ending) ← if first == '-' then pure ([], '-') else flagsOn fuel first []
  if ending == ')' then
    modify fun reading => { reading with modes := on.foldl (Modes.turn true) reading.modes }
    return none
  if on.contains 't' then fail (.badFlags "cannot turn on global flag") 1
  let off ←
    if ending == '-' then
      match ← next with
      | none => fail (.missing "flag")
      | some token =>
        match token with
        | .plain c =>
          if Modes.letters.contains c then flagsOff fuel c [] else unexpectedFlag token "flag"
        | _ => unexpectedFlag token "flag"
    else pure []
  if off.contains 't' then fail (.badFlags "cannot turn off global flag") 1
  if on.any off.contains then fail (.badFlags "flag turned on and off") 1
  return some (on, off)

/-! ## Groups -/

/-- A group name that has been read up to its closing character. -/
def checkName (name : List Char) : Reader String := do
  let text := String.ofList name
  if isName name then return text else fail (.badGroupName text) (name.length + 1)

/-- A reference by name, read up to its closing parenthesis. -/
def namedReference (modes : Modes) : Reader Node := do
  let name ← takeUntil ')' "group name"
  let text ← checkName name
  match (← get).names.lookup text with
  | none => fail (.unknownGroupName text) (name.length + 1)
  | some group =>
    if !(← isClosed group) then fail .openGroup (name.length + 1)
    checkLookbehind group
    return .reference modes.casing group

/-- Opens the next group. -/
def openGroup (name : Option (List Char)) : Reader Nat := do
  let reading ← get
  let group := reading.groups.length + 1
  set { reading with groups := reading.groups ++ [none] }
  if let some name := name then
    let text := String.ofList name
    if let some earlier := reading.names.lookup text then
      fail (.groupNameTaken text group earlier) (name.length + 1)
    modify fun reading => { reading with names := (text, group) :: reading.names }
  return group

/-- The width of a group that has been closed. -/
def widthOf (groups : List (Option Width)) (group : Nat) : Width :=
  (groups[group - 1]?.getD none).getD ⟨0, 0⟩

/-- Closes a group. -/
def closeGroup (group : Nat) (body : Node) : Reader Unit :=
  modify fun reading =>
    let width := body.width (widthOf reading.groups)
    { reading with groups := reading.groups.set (group - 1) (some width) }

/-- The closing parenthesis of what opened at a position. -/
def close (opened : Nat) : Reader Unit := do
  if !(← accept ')') then fail .unterminatedGroup ((← get).position - opened)

/-- The group number that a condition writes: decimal digits of any script and not too many of them,
with low lines between them, a sign in front and blanks around. -/
def conditionNumber? (name : List Char) : Option Int :=
  let trimmed := ((name.dropWhile isBlank).reverse.dropWhile isBlank).reverse
  let (negative, digits) :=
    match trimmed with
    | '-' :: digits => (true, digits)
    | '+' :: digits => (false, digits)
    | digits => (false, digits)
  let groups := Pieces.split '_' digits
  if groups.any List.isEmpty || longestNumber < groups.flatten.length then none
  else
    (groups.flatten.foldlM (fun number c => (decimalDigit? c).map (number * 10 + ·)) 0).map
      fun (number : Nat) => if negative then -(number : Int) else number

/-- The group that a condition asks for, read up to its closing parenthesis. -/
def condition : Reader Nat := do
  let name ← takeUntil ')' "group name"
  let text := String.ofList name
  let back := name.length + 1
  if isName name then
    match (← get).names.lookup text with
    | none => fail (.unknownGroupName text) back
    | some group => return group
  else
    match conditionNumber? name with
    | some (.ofNat group) =>
      if group = 0 then fail .badGroupNumber back
      if 1073741823 ≤ group then fail (.invalidGroup group) back
      modify fun reading =>
        if reading.conditions.any (·.1 == group) then reading
        else { reading with
          conditions := reading.conditions ++ [(group, reading.position - back)] }
      return group
    | _ => fail (.badGroupName text) back

/-- The comment of a group that opened at a position. -/
def comment (opened : Nat) : Reader Unit := do
  modify fun reading =>
    let text := reading.rest.takeWhile fun token => token != .plain ')' && token != .dangling
    { reading with
      rest := reading.rest.drop text.length
      position := reading.position + (text.flatMap Token.chars).length }
  checkNext
  if !(← accept ')') then fail .unterminatedComment ((← get).position - opened)

/-- Leaves out a comment that ends with its line. -/
def lineComment : Reader Unit := do
  modify fun reading =>
    let text := reading.rest.takeWhile fun token => token != .plain '\n' && token != .dangling
    { reading with
      rest := reading.rest.drop text.length
      position := reading.position + (text.flatMap Token.chars).length }
  checkNext
  discard (accept '\n')

/-! ## Sequences and alternatives -/

/-- Whether a node is the same wherever the same is written. -/
def isShared : Node → Bool
  | .code .. | .any _ | .set .. | .anchor _ | .reference .. => true
  | _ => false

/-- What a sequence and all others begin with, and what is left of them. -/
def takeShared : List Node → List (List Node) → List Node × List (List Node)
  | [], others => ([], [] :: others)
  | node :: rest, others =>
    if isShared node && others.all (·.head? == some node) then
      let (shared, left) := takeShared rest (others.map List.tail)
      (node :: shared, left)
    else ([], (node :: rest) :: others)

/-- The items of a set that can stand in the place of an alternative. -/
def itemsOf? : List Node → Option (List SetItem)
  | [.code _ false code] => some [.code code]
  | [.set _ false items] => some items
  | _ => none

/-- The nodes of alternatives. -/
def joined (modes : Modes) : List (List Node) → List Node
  | [] => []
  | [nodes] => nodes
  | first :: others =>
    let (shared, left) := takeShared first others
    shared ++
      match left.mapM itemsOf? with
      | some items => [modes.set false items.flatten.eraseDups]
      | none => [.ofAlternatives (left.map .ofSequence)]

/-- The sequence after a character that opens no group, which is the one before the current
position: a set, the dot, an anchor, a repetition of the last part, or a literal character. -/
def simple (modes : Modes) (pieces : List Piece) (c : Char) : Reader (List Piece) := do
  let marker := (← get).position - 1
  match c with
  | '[' => return .node (← characterSet modes) :: pieces
  | '.' => return .node (.any modes.dotAll) :: pieces
  | '^' => return .node (.anchor (if modes.multiline then .lineStart else .textStart)) :: pieces
  | '$' => return .node (.anchor (if modes.multiline then .lineEnd else .lastLineEnd)) :: pieces
  | '?' => repeated marker 0 (some 1) pieces
  | '*' => repeated marker 0 none pieces
  | '+' => repeated marker 1 none pieces
  | '\x7b' => braces modes pieces
  | _ => return .node (modes.literal c.toNat) :: pieces

/-- The inside of a group, read by the reader of alternatives, and its closing parenthesis. -/
def body (inner : Reader (List Node)) (opened : Nat) : Reader Node := do
  let nodes ← inner
  close opened
  return .ofSequence nodes

/-- A group whose text can be referred to. -/
def capture (inner : Reader (List Node)) (opened : Nat) (name : Option (List Char)) :
    Reader Node := do
  let group ← openGroup name
  let node ← body inner opened
  closeGroup group node
  return .capture group node

/-- A lookbehind, of which the angle bracket has been read. -/
def behind (inner : Reader (List Node)) (opened : Nat) : Reader Node := do
  match ← next with
  | none => fail .unexpectedEnd
  | some token =>
    if token.isPlain fun c => c == '=' || c == '!' then
      let outside := (← get).outsideLookbehind
      modify fun reading =>
        { reading with outsideLookbehind := some (outside.getD reading.groups.length) }
      let nodes ← inner
      modify fun reading => { reading with outsideLookbehind := outside }
      close opened
      let node := Node.ofSequence nodes
      return .lookbehind (token == .plain '!') (node.width (widthOf (← get).groups)) node
    else fail (.unknownExtension ("<" ++ token.text)) (token.size + 2)

/-- A choice by whether a group has matched, with one or two branches. -/
def conditional (branch : Reader (List Node)) (opened : Nat) : Reader Node := do
  let group ← condition
  checkLookbehind group
  let present ← branch
  let absent ←
    if ← accept '|' then
      let absent ← branch
      if ← nextIs '|' then fail .tooManyBranches
      pure absent
    else pure []
  close opened
  return .conditional group (.ofSequence present) (.ofSequence absent)

/-- A named group or a reference by name, of which the `P` has been read. -/
def namedGroup (inner : Reader (List Node)) (modes : Modes) (opened : Nat) : Reader Node := do
  if ← accept '<' then
    let name ← takeUntil '>' "group name"
    discard (checkName name)
    capture inner opened (some name)
  else if ← accept '=' then namedReference modes
  else
    match ← next with
    | none => fail .unexpectedEnd
    | some token => fail (.unknownExtension ("P" ++ token.text)) (token.size + 2)

/-- What an opening parenthesis at a position starts: a part of the sequence, or nothing for a
comment and for modes of the whole pattern, which may come only where `atStart` says. The readers
of alternatives and of a single branch are given. -/
def parenthesis (alternatives : Modes → Reader (List Node)) (branch : Reader (List Node))
    (modes : Modes) (opened : Nat) (atStart : Bool) : Reader (Option Piece) := do
  let node (read : Reader Node) : Reader (Option Piece) := do return some (.node (← read))
  if ← accept '?' then
    match ← next with
    | none => fail .unexpectedEnd
    | some token =>
      match token with
      | .plain ':' =>
        let nodes ← alternatives modes
        close opened
        return some (.group nodes)
      | .plain '>' => node do return .atomic (← body (alternatives modes) opened)
      | .plain '=' => node do return .lookahead false (← body (alternatives modes) opened)
      | .plain '!' => node do return .lookahead true (← body (alternatives modes) opened)
      | .plain '<' => node (behind (alternatives modes) opened)
      | .plain 'P' => node (namedGroup (alternatives modes) modes opened)
      | .plain '(' => node (conditional branch opened)
      | .plain '#' =>
        comment opened
        return none
      | .plain c =>
        if Modes.letters.contains c || c == '-' then
          match ← flags c with
          | some (on, off) =>
            node do return .group (← body (alternatives (modes.within on off)) opened)
          | none =>
            if atStart then return none
            else fail .lateGlobalFlags ((← get).position - opened)
        else fail (.unknownExtension token.text) (token.size + 1)
      | _ => fail (.unknownExtension token.text) (token.size + 1)
  else node (capture (alternatives modes) opened none)

mutual

/-- The alternatives up to the end of the pattern or of the group, after those that have been read,
which come in reverse. -/
def alternatives (place : Place) (modes : Modes) (before : List (List Node)) (fuel : Nat) :
    Reader (List Node) :=
  match fuel with
  | 0 => fail .unexpectedEnd
  | fuel + 1 => do
    let nodes ← sequence place modes [] fuel
    if ← accept '|' then
      let whole := (← get).modes
      let later : Place := if place = .inside then .inside else .outermost
      alternatives later (if place = .inside then modes else whole) (nodes :: before) fuel
    else return joined modes (nodes :: before).reverse
termination_by structural fuel

/-- The rest of one alternative, after the parts that have been read, which come in reverse. -/
def sequence (place : Place) (modes : Modes) (pieces : List Piece) (fuel : Nat) :
    Reader (List Node) :=
  match fuel with
  | 0 => fail .unexpectedEnd
  | fuel + 1 => do
    match ← peek with
    | none | some (.plain '|') | some (.plain ')') => return pieces.reverse.flatMap Piece.nodes
    | some token =>
      discard next
      match token with
      | .dangling => fail .danglingEscape
      | .escaped c =>
        let node ← escape modes c
        sequence place modes (.node node :: pieces) fuel
      | .plain c =>
        if modes.verbose && [' ', '\t', '\n', '\r', '\x0b', '\x0c'].contains c then
          sequence place modes pieces fuel
        else if modes.verbose && c == '#' then
          lineComment
          sequence place modes pieces fuel
        else if c == '(' then
          let atStart := place = .first && pieces.isEmpty
          let opened := (← get).position - 1
          let started ← parenthesis (fun modes => alternatives .inside modes [] fuel)
            (sequence .inside modes [] fuel) modes opened atStart
          let whole := (← get).modes
          match started with
          | some piece => sequence place modes (piece :: pieces) fuel
          | none => sequence place (if atStart then whole else modes) pieces fuel
        else
          let pieces ← simple modes pieces c
          sequence place modes pieces fuel
termination_by structural fuel

end

/-! ## Whole patterns -/

/-- What is wrong with a pattern beyond how it is written: a lookbehind that can have more than one
width, or a repetition in a template. Of several problems the first from the left counts, and that
of a part comes after that of the whole. -/
def flaw? (template : Bool) : Node → Option Problem
  | .sequence first second => (flaw? template first).or (flaw? template second)
  | .either first others => (flaw? template first).or (flaw? template others)
  | .conditional _ present absent => (flaw? template present).or (flaw? template absent)
  | .repetition appetite _ _ body =>
    if template then some (.templateRepetition appetite) else flaw? template body
  | .group body | .capture _ body | .atomic body | .lookahead _ body => flaw? template body
  | .lookbehind _ width body =>
    if width.least = width.greatest then flaw? template body else some .lookbehindWidth
  | _ => none

/-- A whole pattern. After the last alternative nothing may be left, and the checks that need the
whole pattern follow. -/
def whole (fuel : Nat) : Reader Node := do
  checkNext
  let nodes ← alternatives .first (← get).modes [] fuel
  let reading ← get
  if reading.modes.conflict then throw (.conflictingFlags, none)
  if !reading.rest.isEmpty then fail .unbalancedParenthesis
  if let some (group, position) := reading.conditions.find? (reading.groups.length < ·.1) then
    throw (.invalidGroup group, some position)
  let node := Node.ofSequence nodes
  if let some problem := flaw? reading.modes.template node then throw (problem, none)
  return node

end Reader

/-- A pattern that has been read: what it means, how many groups it has, and the modes that hold for
all of it. -/
structure Meaning where
  node : Node
  groups : Nat
  modes : Modes
  deriving DecidableEq, Repr

/-- Reads what characters write; over bytes each stands for a byte. -/
def read (binary : Bool) (modes : Modes) (pattern : String) :
    Except Malformed Meaning :=
  let tokens := Token.ofChars pattern.toList
  let start : Reading := { rest := tokens, binary := binary, modes := modes }
  match (Reader.whole (2 * tokens.length + 2)).run start with
  | .ok (node, reading) => .ok ⟨node, reading.groups.length, reading.modes⟩
  | .error (problem, position) => .error ⟨problem, position, pattern, binary⟩

end DocFilter.Pattern
