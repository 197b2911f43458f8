/-
# Quoted text

A text is shown between quotes: single ones, unless the text holds a single quote and no double
one. The quote in use and the backslash are written with a backslash in front, tab, line feed and
carriage return by their letters, and every other character that cannot be shown by its code in
hexadecimal digits. A sequence of bytes is shown likewise, with a `b` in front and every byte
outside ASCII by its code.
-/

import DocFilter.Text.Numeral
import DocFilter.Text.Printable

namespace DocFilter.Text.Quoted

/-- The quote that needs the fewest escapes; single when there is no difference. -/
def quoteFor (text : List Char) : Char :=
  if text.contains '\'' && !text.contains '"' then '"' else '\''

/-- A code point by its code, in the shortest of the three forms. -/
def escapedCode (code : Nat) : List Char :=
  if code < 0x100 then '\\' :: 'x' :: Numeral.padded 16 2 code
  else if code < 0x10000 then '\\' :: 'u' :: Numeral.padded 16 4 code
  else '\\' :: 'U' :: Numeral.padded 16 8 code

/-- One character as it stands between quotes, when `shown` says whether it can be shown. -/
def quotedChar (quote : Char) (shown : Char → Bool) (c : Char) : List Char :=
  if c == quote || c == '\\' then ['\\', c]
  else if c == '\t' then ['\\', 't']
  else if c == '\n' then ['\\', 'n']
  else if c == '\r' then ['\\', 'r']
  else if shown c then [c]
  else escapedCode c.toNat

/-- The characters between the quotes that suit them. -/
def encode (shown : Char → Bool) (text : List Char) : List Char :=
  let quote := quoteFor text
  quote :: text.flatMap (quotedChar quote shown) ++ [quote]

/-- A text between quotes. -/
def text (content : String) : String :=
  String.ofList (encode isPrintable content.toList)

/-- Bytes between quotes; each byte stands for the code point of its value. -/
def bytes (content : List UInt8) : String :=
  let characters := content.map fun byte => Char.ofNat byte.toNat
  "b" ++ String.ofList (encode (fun c => ' ' ≤ c && c ≤ '~') characters)

end DocFilter.Text.Quoted
