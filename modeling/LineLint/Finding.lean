import LineLint.Text.Blank
import LineLint.Text.Lines
import LineLint.Text.Offset

namespace LineLint

inductive Severity
  | critical
  | warning
  | info
  deriving Repr, DecidableEq

namespace Severity

def all : List Severity := [critical, warning, info]

def name : Severity → String
  | critical => "critical"
  | warning => "warning"
  | info => "info"

def ofName? (name : String) : Option Severity := all.find? (·.name == name)

@[simp] theorem ofName?_name (s : Severity) : ofName? s.name = some s := by
  cases s <;> decide

end Severity

/-- The fixed text of a finding. The first anchor that occurs in the line gives the column. -/
structure Notice where
  severity : Severity
  category : String
  message : String
  description : String
  suggestion : String
  anchors : List String := []
  deriving Repr, DecidableEq

/-- Lines count from one, columns from zero. -/
structure Finding where
  line : Int
  column : Option Int
  severity : Severity
  category : String
  message : String
  description : String
  suggestion : String
  snippet : Option String
  deriving Repr, DecidableEq

def Notice.at (notice : Notice) (number : Nat) (line : Line) : Finding where
  line := number
  column := (firstOffset? (notice.anchors.map String.toList) line).map Int.ofNat
  severity := notice.severity
  category := notice.category
  message := notice.message
  description := notice.description
  suggestion := notice.suggestion
  snippet := some (String.ofList (strip line))

/-- The notice about a line in which its anchor is taken to stand; the column -1 is for an anchor
that does not. -/
def Notice.atAnchor (notice : Notice) (number : Nat) (line : Line) : Finding :=
  { notice.at number line with
    column := some ((notice.at number line).column.getD (-1)) }

namespace Notice

variable (notice : Notice) (number : Nat) (line : Line)

@[simp] theorem line_at : (notice.at number line).line = number := rfl

@[simp] theorem severity_at : (notice.at number line).severity = notice.severity := rfl

@[simp] theorem message_at : (notice.at number line).message = notice.message := rfl

@[simp] theorem snippet_at :
    (notice.at number line).snippet = some (String.ofList (strip line)) := rfl

@[simp] theorem line_atAnchor : (notice.atAnchor number line).line = number := rfl

@[simp] theorem message_atAnchor : (notice.atAnchor number line).message = notice.message := rfl

end Notice

end LineLint
