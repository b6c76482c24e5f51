namespace LineLint

/-- A step towards the place of a bad value: a field, or an offset in a text. -/
inductive FieldStep
  | field (name : String)
  | offset (position : Nat)
  deriving Repr, DecidableEq

inductive Defect
  | missing
  | notText
  | notInteger
  | notNumeral
  | belowMinimum
  | notAChoice
  | malformed
  | notAnObject
  deriving Repr, DecidableEq

structure FieldError where
  location : List FieldStep
  defect : Defect
  deriving Repr, DecidableEq

/-- Why an analysis fails. The checks of this library never do; rule sets of other makers may. -/
inductive Fault
  /-- A finding that no report can hold. -/
  | refused (errors : List FieldError)
  /-- A text that is said to log to the console has no line that names the log. -/
  | noConsoleLine
  | failed (message : String)
  deriving Repr, DecidableEq

def Fault.message : Fault → String
  | failed message => message
  | refused _ => "invalid finding"
  | noConsoleLine => "no console line"

end LineLint
