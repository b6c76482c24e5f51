import LineLint.Json.Value
import LineLint.Number.Shortest
import LineLint.Text.Quoted

namespace LineLint.Json

/-- Decimals are written without exponent from four zeros after the point up to sixteen places
before it. -/
def decimalLayout : DecimalLayout := ⟨-3, 16, "Infinity", "NaN"⟩

def unitEscape (unit : Nat) : List Char := '\\' :: 'u' :: Quoted.hex 4 unit

def codeUnits (c : Char) : List Nat :=
  if c.toNat < 0x10000 then [c.toNat]
  else [0xD800 + (c.toNat - 0x10000) / 0x400, 0xDC00 + (c.toNat - 0x10000) % 0x400]

def renderChar (c : Char) : List Char :=
  if c = '"' || c = '\\' then ['\\', c]
  else if c = '\n' then ['\\', 'n']
  else if c = '\r' then ['\\', 'r']
  else if c = '\t' then ['\\', 't']
  else if c = '\x08' then ['\\', 'b']
  else if c = '\x0c' then ['\\', 'f']
  else if 32 ≤ c.toNat && c.toNat < 127 then [c]
  else (codeUnits c).flatMap unitEscape

def renderPoint : CodePoint → List Char
  | .char c => renderChar c
  | .surrogate number => unitEscape (0xD800 + number)

def renderText (text : Text) : List Char := '"' :: text.points.flatMap renderPoint ++ ['"']

mutual

/-- A value on one line of ASCII, with a blank after each comma and colon. -/
def renderValue : Value → List Char
  | .null => "null".toList
  | .bool true => "true".toList
  | .bool false => "false".toList
  | .integer n => (toString n).toList
  | .decimal x => decimalLayout.render x
  | .text text => renderText text
  | .array items => '[' :: renderItems items ++ [']']
  | .object members => '{' :: renderMembers members ++ ['}']

def renderItems : List Value → List Char
  | [] => []
  | [last] => renderValue last
  | first :: rest => renderValue first ++ ", ".toList ++ renderItems rest

def renderMembers : List (Text × Value) → List Char
  | [] => []
  | [(name, value)] => renderText name ++ ": ".toList ++ renderValue value
  | (name, value) :: rest =>
      renderText name ++ ": ".toList ++ renderValue value ++ ", ".toList ++ renderMembers rest

end

def Value.render (value : Value) : String := String.ofList (renderValue value)

end LineLint.Json
