import LineLint.Finding
import LineLint.Pattern.Search

namespace LineLint

structure Rule extends Notice where
  pattern : Pattern
  /-- A line in which this occurs is left alone. -/
  veto : Option Pattern := none
  /-- Whether the pattern is looked for in the line without the blanks around it. -/
  onStripped : Bool := false
  deriving Repr, DecidableEq

namespace Rule

def subject (rule : Rule) (line : Line) : Line := if rule.onStripped then strip line else line

def vetoed (rule : Rule) (line : Line) : Bool := rule.veto.any (·.occursIn line)

def applies (rule : Rule) (line : Line) : Bool :=
  rule.pattern.occursIn (rule.subject line) && !rule.vetoed line

end Rule

/-- The findings of a table of rules on one line, in the order of the table. -/
def Rule.check (table : List Rule) (number : Nat) (line : Line) : List Finding :=
  (table.filter (·.applies line)).map (·.toNotice.at number line)

namespace Rule

variable (number : Nat) (line : Line)

@[simp] theorem check_nil : Rule.check [] number line = [] := rfl

@[simp] theorem check_append (first second : List Rule) :
    Rule.check (first ++ second) number line =
      Rule.check first number line ++ Rule.check second number line := by
  simp [Rule.check]

end Rule

end LineLint
