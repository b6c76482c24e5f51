import LineLint.Json.Value

namespace LineLint.Json

/-- What a text lacks to be a value. -/
inductive Problem
  | expectedValue
  | expectedName
  | expectedColon
  | expectedComma
  | extraData
  | unterminatedText
  | badEscape
  | badUnitEscape
  | controlCharacter
  | byteOrderMark
  deriving Repr, DecidableEq

def Problem.message : Problem → String
  | expectedValue => "Expecting value"
  | expectedName => "Expecting property name enclosed in double quotes"
  | expectedColon => "Expecting ':' delimiter"
  | expectedComma => "Expecting ',' delimiter"
  | extraData => "Extra data"
  | unterminatedText => "Unterminated string starting at"
  | badEscape => "Invalid \\escape"
  | badUnitEscape => "Invalid \\uXXXX escape"
  | controlCharacter => "Invalid control character at"
  | byteOrderMark => "Unexpected UTF-8 BOM (decode using utf-8-sig)"

/-- What a reader takes: how many arrays and objects may stand inside each other, and how many
digits an integer may have, if there is a limit to them. -/
structure Limits where
  depth : Nat
  digits : Option Nat := some 4300
  deriving Repr, DecidableEq

/-- Why reading stops: a problem with the text from its place on, an array or object too deep inside
others, or an integer of too many digits. -/
inductive Stop
  | problem (problem : Problem) (rest : List CodePoint)
  | tooDeep
  | tooLong
  deriving Repr, DecidableEq

/-! Each reader gives what it has read with the text after it. -/

def isSpace (point : CodePoint) : Bool :=
  point = .char ' ' || point = .char '\t' || point = .char '\n' || point = .char '\r'

def skipSpace (text : List CodePoint) : List CodePoint := text.dropWhile isSpace

def hexValue? (c : Char) : Option Nat :=
  if '0' ≤ c && c ≤ '9' then some (c.toNat - 48)
  else if 'a' ≤ c && c ≤ 'f' then some (c.toNat - 87)
  else if 'A' ≤ c && c ≤ 'F' then some (c.toNat - 55)
  else none

def hexDigit? : CodePoint → Option Nat
  | .char c => hexValue? c
  | .surrogate _ => none

def unit? (a b c d : CodePoint) : Option Nat := do
  let a ← hexDigit? a
  let b ← hexDigit? b
  let c ← hexDigit? c
  let d ← hexDigit? d
  return ((a * 16 + b) * 16 + c) * 16 + d

def escaped? : CodePoint → Option Char
  | .char '"' => some '"'
  | .char '\\' => some '\\'
  | .char '/' => some '/'
  | .char 'b' => some '\x08'
  | .char 'f' => some '\x0c'
  | .char 'n' => some '\n'
  | .char 'r' => some '\r'
  | .char 't' => some '\t'
  | _ => none

/-- A piece of a text: a code point, or a code unit that may be half of one. -/
inductive Piece
  | point (point : CodePoint)
  | unit (value : Nat)
  deriving Repr, DecidableEq

/-- Two code units that are a high and a low surrogate are one character. -/
def joinPieces : List Piece → List CodePoint
  | [] => []
  | .point p :: rest => p :: joinPieces rest
  | [.unit only] => [.ofNat only]
  | .unit high :: .unit low :: rest =>
      if 0xD800 ≤ high && high < 0xDC00 && 0xDC00 ≤ low && low < 0xE000 then
        .char (Char.ofNat (0x10000 + (high - 0xD800) * 0x400 + (low - 0xDC00))) :: joinPieces rest
      else .ofNat high :: joinPieces (.unit low :: rest)
  | .unit only :: .point p :: rest => .ofNat only :: p :: joinPieces rest

def addPiece (piece : Piece) :
    Except Stop (List Piece × List CodePoint) → Except Stop (List Piece × List CodePoint)
  | .ok (pieces, rest) => .ok (piece :: pieces, rest)
  | .error stop => .error stop

/-- The pieces up to the closing quote; `opening` is the text from the opening quote on. A code
unit needs one more code point after its four digits. -/
def readPieces (opening : List CodePoint) :
    List CodePoint → Except Stop (List Piece × List CodePoint)
  | [] => .error (.problem .unterminatedText opening)
  | .char '"' :: rest => .ok ([], rest)
  | [.char '\\'] => .error (.problem .unterminatedText opening)
  | .char '\\' :: .char 'u' :: a :: b :: c :: d :: e :: rest =>
      match unit? a b c d with
      | some value => addPiece (.unit value) (readPieces opening (e :: rest))
      | none => .error (.problem .badUnitEscape (.char 'u' :: a :: b :: c :: d :: e :: rest))
  | .char '\\' :: .char 'u' :: rest => .error (.problem .badUnitEscape (.char 'u' :: rest))
  | .char '\\' :: letter :: rest =>
      match escaped? letter with
      | some c => addPiece (.point (.char c)) (readPieces opening rest)
      | none => .error (.problem .badEscape (.char '\\' :: letter :: rest))
  | p :: rest =>
      if p.toNat < 32 then .error (.problem .controlCharacter (p :: rest))
      else addPiece (.point p) (readPieces opening rest)

def readText (inside : List CodePoint) : Except Stop (Text × List CodePoint) := do
  let (pieces, rest) ← readPieces (.char '"' :: inside) inside
  return (.ofPoints (joinPieces pieces), rest)

def isDigit (point : CodePoint) : Bool := 48 ≤ point.toNat && point.toNat ≤ 57

/-- The number that decimal digits spell after those of `high`. -/
def digitsValue (high : Nat) (digits : List CodePoint) : Nat :=
  digits.foldl (fun value digit => value * 10 + (digit.toNat - 48)) high

/-- The digits before the point: a zero alone, or a run that starts with another digit. -/
def wholeDigits? (text : List CodePoint) : Option (List CodePoint × List CodePoint) :=
  match text with
  | .char '0' :: rest => some ([.char '0'], rest)
  | p :: rest => if isDigit p then some ((p :: rest).span isDigit) else none
  | [] => none

/-- The digits after a point; without digits there is no point either. -/
def fractionDigits (text : List CodePoint) : List CodePoint × List CodePoint :=
  match text with
  | .char '.' :: p :: rest => if isDigit p then (p :: rest).span isDigit else ([], text)
  | _ => ([], text)

def signOf (text : List CodePoint) : Bool × List CodePoint :=
  match text with
  | .char '-' :: rest => (true, rest)
  | .char '+' :: rest => (false, rest)
  | _ => (false, text)

def exponent? (text : List CodePoint) : Option (Int × List CodePoint) :=
  match text with
  | p :: rest =>
      if p = .char 'e' || p = .char 'E' then
        let (negative, unsigned) := signOf rest
        let (digits, after) := unsigned.span isDigit
        if digits.isEmpty then none
        else
          let magnitude : Int := digitsValue 0 digits
          some (if negative then -magnitude else magnitude, after)
      else none
  | [] => none

def readInteger (limit : Option Nat) (negative : Bool) (digits rest : List CodePoint) :
    Except Stop (Value × List CodePoint) :=
  if limit.any (· < digits.length) then .error .tooLong
  else
    let magnitude : Int := digitsValue 0 digits
    .ok (.integer (if negative then -magnitude else magnitude), rest)

def readUnsigned? (limit : Option Nat) (negative : Bool) (text : List CodePoint) :
    Option (Except Stop (Value × List CodePoint)) := do
  let (whole, afterWhole) ← wholeDigits? text
  let (fraction, afterFraction) := fractionDigits afterWhole
  match exponent? afterFraction with
  | some (exponent, rest) =>
      return .ok (.decimal (.ofDecimal negative (digitsValue 0 (whole ++ fraction))
        (exponent - fraction.length)), rest)
  | none =>
      if fraction.isEmpty then return readInteger limit negative whole afterFraction
      else
        return .ok (.decimal (.ofDecimal negative (digitsValue 0 (whole ++ fraction))
          (-fraction.length)), afterFraction)

def readNumber (limit : Option Nat) (text : List CodePoint) :
    Except Stop (Value × List CodePoint) :=
  let number? :=
    match text with
    | .char '-' :: rest => readUnsigned? limit true rest
    | _ => readUnsigned? limit false text
  number?.getD (.error (.problem .expectedValue text))

/-- The values that have names, those of the numbers that are not finite among them. -/
def named : List (String × Value) :=
  [("null", .null), ("true", .bool true), ("false", .bool false), ("NaN", .decimal .undefined),
    ("Infinity", .decimal (.infinite false)), ("-Infinity", .decimal (.infinite true))]

def readNamed? (text : List CodePoint) : Option (Value × List CodePoint) :=
  named.findSome? fun (name, value) =>
    if (codePoints name.toList).isPrefixOf text then some (value, text.drop name.length) else none

def readScalar (limit : Option Nat) (text : List CodePoint) :
    Except Stop (Value × List CodePoint) :=
  match readNamed? text with
  | some found => .ok found
  | none => readNumber limit text

mutual

/-- The first number counts down with every value, item and member; an item and its value share
their first character, so that twice the length of the text is enough. The second number is how
much deeper arrays and objects may go. -/
def readValue (limit : Option Nat) :
    (fuel room : Nat) → List CodePoint → Except Stop (Value × List CodePoint)
  | 0, _, text => .error (.problem .expectedValue text)
  | _ + 1, _, .char '"' :: inside => do
      let (text, rest) ← readText inside
      return (.text text, rest)
  | _ + 1, 0, .char '[' :: _ => .error .tooDeep
  | fuel + 1, room + 1, .char '[' :: inside =>
      match skipSpace inside with
      | .char ']' :: rest => .ok (.array [], rest)
      | items => do
          let (values, rest) ← readItems limit fuel room items
          return (.array values, rest)
  | _ + 1, 0, .char '{' :: _ => .error .tooDeep
  | fuel + 1, room + 1, .char '{' :: inside =>
      match skipSpace inside with
      | .char '}' :: rest => .ok (.object [], rest)
      | members => do
          let (entries, rest) ← readMembers limit fuel room members
          return (.object (Members.ofList entries), rest)
  | _ + 1, _, text => readScalar limit text

def readItems (limit : Option Nat) :
    (fuel room : Nat) → List CodePoint → Except Stop (List Value × List CodePoint)
  | 0, _, text => .error (.problem .expectedValue text)
  | fuel + 1, room, text => do
      let (value, after) ← readValue limit fuel room text
      match skipSpace after with
      | .char ']' :: rest => return ([value], rest)
      | .char ',' :: rest => do
          let (values, rest) ← readItems limit fuel room (skipSpace rest)
          return (value :: values, rest)
      | rest => .error (.problem .expectedComma rest)

def readMembers (limit : Option Nat) :
    (fuel room : Nat) → List CodePoint → Except Stop (List (Text × Value) × List CodePoint)
  | 0, _, text => .error (.problem .expectedName text)
  | fuel + 1, room, .char '"' :: inside => do
      let (name, afterName) ← readText inside
      match skipSpace afterName with
      | .char ':' :: afterColon => do
          let (value, after) ← readValue limit fuel room (skipSpace afterColon)
          match skipSpace after with
          | .char '}' :: rest => return ([(name, value)], rest)
          | .char ',' :: rest => do
              let (entries, rest) ← readMembers limit fuel room (skipSpace rest)
              return ((name, value) :: entries, rest)
          | rest => .error (.problem .expectedComma rest)
      | rest => .error (.problem .expectedColon rest)
  | _ + 1, _, text => .error (.problem .expectedName text)

end

def readWhole (limits : Limits) (text : List CodePoint) : Except Stop Value := do
  let (value, after) ← readValue limits.digits (2 * text.length + 2) limits.depth (skipSpace text)
  match skipSpace after with
  | [] => return value
  | rest => .error (.problem .extraData rest)

structure SyntaxError where
  problem : Problem
  offset : Nat
  deriving Repr, DecidableEq

namespace SyntaxError

/-- The line of the place, and its column there, both counted from one. -/
def lineAndColumn (text : List CodePoint) (offset : Nat) : Nat × Nat :=
  let before := text.take offset
  (before.count (.char '\n') + 1, (before.reverse.takeWhile (· ≠ .char '\n')).length + 1)

def message (error : SyntaxError) (text : List CodePoint) : String :=
  let (line, column) := lineAndColumn text error.offset
  s!"{error.problem.message}: line {line} column {column} (char {error.offset})"

end SyntaxError

/-- Why a text gives no value: it is not written as one, its value is too deep, or an integer in it
too long. -/
inductive Failure
  | malformed (error : SyntaxError)
  | tooDeep
  | tooLong
  deriving Repr, DecidableEq

def parse (limits : Limits) (text : List CodePoint) : Except Failure Value :=
  match readWhole limits text with
  | .ok value => .ok value
  | .error (.problem problem rest) => .error (.malformed ⟨problem, text.length - rest.length⟩)
  | .error .tooDeep => .error .tooDeep
  | .error .tooLong => .error .tooLong

/-- Reads a text as it comes from a stream, where a byte order mark is a mistake. -/
def parseUnmarked (limits : Limits) (text : List CodePoint) : Except Failure Value :=
  match text with
  | .char '\uFEFF' :: _ => .error (.malformed ⟨.byteOrderMark, 0⟩)
  | _ => parse limits text

theorem parseUnmarked_of_head_ne {limits : Limits} {text : List CodePoint}
    (unmarked : text.head? ≠ some (.char '\uFEFF')) :
    parseUnmarked limits text = parse limits text := by
  unfold parseUnmarked
  split
  next => exact absurd rfl unmarked
  next => rfl

end LineLint.Json
