/-
# Pattern tokens

A pattern is read token by token: a backslash and the character after it are one token, and every
other character is one by itself.
-/

namespace DocFilter.Pattern

/-- A unit of a written pattern. -/
inductive Token
  | plain (c : Char)
  | escaped (c : Char)
  /-- A backslash with nothing after it. -/
  | dangling
  deriving DecidableEq, Repr

namespace Token

/-- The tokens of a pattern. -/
def ofChars : List Char → List Token
  | [] => []
  | ['\\'] => [.dangling]
  | '\\' :: c :: rest => .escaped c :: ofChars rest
  | c :: rest => .plain c :: ofChars rest

/-- The characters of a token. -/
def chars : Token → List Char
  | .plain c => [c]
  | .escaped c => ['\\', c]
  | .dangling => ['\\']

/-- The text of a token. -/
def text (token : Token) : String :=
  String.ofList token.chars

/-- How many characters a token takes up. -/
def size (token : Token) : Nat :=
  token.chars.length

/-- Whether the token is an unescaped character with a property. -/
def isPlain (accepts : Char → Bool) : Token → Bool
  | .plain c => accepts c
  | _ => false

/-- The tokens of a pattern spell it. -/
@[simp]
theorem flatMap_chars_ofChars (pattern : List Char) :
    (ofChars pattern).flatMap chars = pattern := by
  fun_induction ofChars pattern <;> simp_all [chars]

end Token

end DocFilter.Pattern
