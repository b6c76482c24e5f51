import LineLint.Rule

namespace LineLint

/-- What is found on a line, from its number, the line and the lines after it. -/
abbrev LineCheck := Nat → Line → List Line → List Finding

/-- A check that carries a state from each line to the next. -/
structure Machine (σ : Type) where
  initial : σ
  step : σ → Nat → Line → List Line → σ × List Finding

def scanFrom (check : LineCheck) : (number : Nat) → List Line → List Finding
  | _, [] => []
  | number, line :: rest => check number line rest ++ scanFrom check (number + 1) rest

def scan (check : LineCheck) (text : List Char) : List Finding := scanFrom check 1 (lines text)

def scanRules (table : List Rule) : List Char → List Finding :=
  scan fun number line _ => Rule.check table number line

namespace Machine

variable {σ : Type}

def runFrom (machine : Machine σ) : σ → (number : Nat) → List Line → List Finding
  | _, _, [] => []
  | state, number, line :: rest =>
      let result := machine.step state number line rest
      result.2 ++ machine.runFrom result.1 (number + 1) rest

def run (machine : Machine σ) (text : List Char) : List Finding :=
  machine.runFrom machine.initial 1 (lines text)

theorem runFrom_cons (machine : Machine σ) (state : σ) (number : Nat) (line : Line)
    (rest : List Line) :
    machine.runFrom state number (line :: rest) =
      (machine.step state number line rest).2 ++
        machine.runFrom (machine.step state number line rest).1 (number + 1) rest := rfl

end Machine

@[simp] theorem scanFrom_nil (check : LineCheck) (number : Nat) :
    scanFrom check number [] = [] := rfl

@[simp] theorem scanFrom_cons (check : LineCheck) (number : Nat) (line : Line) (rest : List Line) :
    scanFrom check number (line :: rest) =
      check number line rest ++ scanFrom check (number + 1) rest := rfl

end LineLint
