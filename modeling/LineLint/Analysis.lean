import LineLint.Language
import LineLint.Report

namespace LineLint

abbrev RuleSet := String → Except Fault (List Bug)

abbrev Registry := List (String × RuleSet)

namespace Registry

def standard : Registry :=
  Language.all.map fun language => (language.name, fun code => language.bugs code.toList)

def names (registry : Registry) : List String :=
  (registry.map (·.1)).mergeSort fun a b => a ≤ b

def ruleSet? (registry : Registry) : (language : Text) → Option RuleSet
  | .plain name => registry.lookup name
  | .broken .. => none

@[simp] theorem ruleSet?_plain (registry : Registry) (name : String) :
    registry.ruleSet? (.plain name) = registry.lookup name := rfl

end Registry

/-- A text in a language that is not registered has no bugs; a rule set's fault is the answer
of the whole analysis. -/
def analyze (registry : Registry) (code : String) (language : Text) : Except Fault Report :=
  match registry.ruleSet? language with
  | some ruleSet => do
      let bugs ← ruleSet code
      return Report.ofBugs bugs
  | none => .ok Report.empty

abbrev Analyzer := (code : String) → (language : Text) → Except Fault Report

def analyzeStandard : Analyzer := analyze Registry.standard

end LineLint
