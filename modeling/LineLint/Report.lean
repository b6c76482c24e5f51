import LineLint.Bug

namespace LineLint

structure Summary where
  critical : Nat := 0
  warning : Nat := 0
  info : Nat := 0
  deriving Repr, DecidableEq

namespace Summary

def total (summary : Summary) : Nat := summary.critical + summary.warning + summary.info

instance : Add Summary :=
  ⟨fun a b => ⟨a.critical + b.critical, a.warning + b.warning, a.info + b.info⟩⟩

def ofBugs (bugs : List Bug) : Summary where
  critical := bugs.countP (·.severity == .critical)
  warning := bugs.countP (·.severity == .warning)
  info := bugs.countP (·.severity == .info)

@[simp] theorem ofBugs_nil : ofBugs [] = {} := rfl

theorem ofBugs_append (first second : List Bug) :
    ofBugs (first ++ second) = ofBugs first + ofBugs second := by
  simp only [ofBugs, List.countP_append]
  rfl

end Summary

/-- Bugs by line; those of one line keep their order. -/
def sortBugs (bugs : List Bug) : List Bug := bugs.mergeSort fun a b => a.line ≤ b.line

structure Report where
  bugs : List Bug
  summary : Summary
  deriving Repr, DecidableEq

namespace Report

def empty : Report := ⟨[], {}⟩

def ofBugs (bugs : List Bug) : Report := ⟨sortBugs bugs, Summary.ofBugs (sortBugs bugs)⟩

end Report

end LineLint
