import LineLint.Text.Blank
import LineLint.Text.Digit
import LineLint.Text.Quoted

namespace LineLint

namespace Numeral

/-- Blanks that may stand around a numeral: all but the information separators. -/
def isPadding (c : Char) : Bool := isBlank c && !(28 ≤ c.toNat && c.toNat ≤ 31)

def trim (text : List Char) : List Char :=
  ((text.dropWhile isPadding).reverse.dropWhile isPadding).reverse

/-- The number that digits spell after those of `high`. One underscore may stand between two
digits. -/
def digits? (high : Nat) : List Char → Option Nat
  | [] => some high
  | '_' :: c :: rest => do
      let value ← digitValue? c
      digits? (high * 10 + value) rest
  | c :: rest => do
      let value ← digitValue? c
      digits? (high * 10 + value) rest

def unsigned? : List Char → Option Nat
  | [] => none
  | c :: rest => do
      let value ← digitValue? c
      digits? value rest

/-- How many digits a numeral may have. -/
def digitLimit : Nat := 4300

/-- The integer that a text spells, in digits of any script. -/
def integer? (text : List Char) : Option Int :=
  if digitLimit < text.countP fun c => (digitValue? c).isSome then none
  else
    match trim text with
    | '+' :: rest => (unsigned? rest).map Int.ofNat
    | '-' :: rest => (unsigned? rest).map fun n => -(n : Int)
    | rest => (unsigned? rest).map Int.ofNat

end Numeral

structure Settings where
  /-- The greatest size of a text, in bytes. -/
  maxCodeBytes : Int := 1000000
  historySize : Int := 500
  deriving Repr, DecidableEq

abbrev Environment := String → Option String

/-- A variable whose value is no integer. -/
structure SettingsError where
  name : String
  value : String
  deriving Repr, DecidableEq

def SettingsError.message (error : SettingsError) : String :=
  error.name ++ " must be an integer, got " ++ String.ofList (quoted error.value)

namespace Settings

def maxCodeBytesVariable : String := "BUG_HUNTER_MAX_CODE_BYTES"

def historySizeVariable : String := "BUG_HUNTER_HISTORY_SIZE"

/-- The integer in a variable; one that is unset or empty keeps the default. -/
def integerFrom (environment : Environment) (name : String) (default : Int) :
    Except SettingsError Int :=
  match environment name with
  | none => .ok default
  | some value =>
      if value.isEmpty then .ok default
      else
        match Numeral.integer? value.toList with
        | some n => .ok n
        | none => .error ⟨name, value⟩

def ofEnvironment (environment : Environment) : Except SettingsError Settings := do
  let maxCodeBytes ← integerFrom environment maxCodeBytesVariable ({} : Settings).maxCodeBytes
  let historySize ← integerFrom environment historySizeVariable ({} : Settings).historySize
  return ⟨maxCodeBytes, historySize⟩

end Settings

end LineLint
