import LineLint.Fault
import LineLint.Finding

namespace LineLint

structure Bug extends Finding where
  id : String
  line_pos : 1 ≤ line
  deriving Repr, DecidableEq

def lineTooSmall : FieldError := ⟨[.field "line"], .belowMinimum⟩

def bugId (language : String) (line : Int) (ordinal : Nat) : String :=
  language ++ "-" ++ toString line ++ "-" ++ toString ordinal

def Finding.identify (finding : Finding) (id : String) : Except Fault Bug :=
  if valid : 1 ≤ finding.line then .ok { finding with id, line_pos := valid }
  else .error (.refused [lineTooSmall])

/-- How many findings have been handed in; the number is part of the next identifier. -/
structure Register where
  language : String
  issued : Nat := 0
  deriving Repr, DecidableEq

namespace Register

/-- A refused finding uses up its ordinal. -/
def enter (register : Register) (finding : Finding) : Register × Except Fault Bug :=
  ({ register with issued := register.issued + 1 },
    finding.identify (bugId register.language finding.line register.issued))

def enterAll (register : Register) : List Finding → Except Fault (List Bug)
  | [] => .ok []
  | finding :: rest => do
      let entered := register.enter finding
      let bug ← entered.2
      let bugs ← enterAll entered.1 rest
      return bug :: bugs

end Register

def numbered (language : String) (findings : List Finding) : Except Fault (List Bug) :=
  Register.enterAll ⟨language, 0⟩ findings

end LineLint
