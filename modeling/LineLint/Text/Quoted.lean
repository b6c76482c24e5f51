import LineLint.Text.CodePoint
import LineLint.Text.Printable

namespace LineLint.Quoted

def hexDigit (n : Nat) : Char := if n < 10 then Char.ofNat (48 + n) else Char.ofNat (87 + n)

/-- The last `width` hexadecimal digits of a number, in lower case. -/
def hex : (width : Nat) → Nat → List Char
  | 0, _ => []
  | width + 1, n => hex width (n / 16) ++ [hexDigit (n % 16)]

/-- A code point in the shortest of the escapes of two, four and eight digits. -/
def codePoint (n : Nat) : List Char :=
  if n < 0x100 then ['\\', 'x'] ++ hex 2 n
  else if n < 0x10000 then ['\\', 'u'] ++ hex 4 n
  else ['\\', 'U'] ++ hex 8 n

/-- A character between quotes: a backslash before another one and before the quote in use, short
escapes for three controls, and the code point for what else has no glyph. -/
def character (quote c : Char) : List Char :=
  if c = quote || c = '\\' then ['\\', c]
  else if c = '\t' then ['\\', 't']
  else if c = '\n' then ['\\', 'n']
  else if c = '\r' then ['\\', 'r']
  else if isPrintable c then [c]
  else codePoint c.toNat

def point (quote : Char) : CodePoint → List Char
  | .char c => character quote c
  | .surrogate number => codePoint (0xD800 + number)

/-- The double quote is used where it saves every escape of a quote. -/
def quoteFor (text : List CodePoint) : Char :=
  if text.contains (.char '\'') && !text.contains (.char '"') then '"' else '\''

end Quoted

/-- A text in quotes, as error messages show it. -/
def quoted (text : Text) : List Char :=
  let quote := Quoted.quoteFor text.points
  quote :: text.points.flatMap (Quoted.point quote) ++ [quote]

end LineLint
