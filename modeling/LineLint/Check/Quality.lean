import LineLint.BraceSpan
import LineLint.Scan

namespace LineLint.Quality

open Pattern

def emptyCatch : Rule where
  severity := .warning
  category := "Code Quality"
  message := "Empty Catch Block"
  description := "The catch block is empty, silently swallowing errors."
  suggestion :=
    "At minimum, log the error or add a comment explaining why it is intentionally empty."
  pattern := spaced ["catch", "("] ++ upTo [')'] ++ spaced [")", "\x7b", "\x7d"]
  anchors := ["catch"]

def todoComment : Rule where
  severity := .info
  category := "Code Quality"
  message := "TODO Comment"
  description := "There is a TODO comment indicating unfinished work."
  suggestion := "Address the TODO or create a tracking issue for it."
  pattern := anyOf ["//", "/*"] ++ gap ++ litAnyCase "TODO"
  anchors := ["TODO"]

/-- A line with `console.log` belongs to the checks of its language. -/
def consoleStatement : Rule where
  severity := .info
  category := "Code Quality"
  message := "Console Statement"
  description := "Debug console statement found in code."
  suggestion := "Remove console statements before deploying to production."
  pattern := lit "console." ++ anyOf ["log", "info"] ++ gap ++ lit "("
  veto := some (lit "console.log")
  anchors := ["console"]

def rules : List Rule := [emptyCatch, todoComment, consoleStatement]

/-- A named function, an arrow function with a body, or a constant that holds a bracketed
expression or an argument list. -/
def functionSyntax : FunctionSyntax where
  opening :=
    (lit "function" ++ blanks ++ word) |||
    (lit "const" ++ blanks ++ word ++ gap ++ lit "=" ++ gap ++ optional (lit "async" ++ gap) ++
      lit "(") |||
    spaced ["=>", "\x7b"]
  name := (lit "function" ++ blanks ++ capture .word) ||| (lit "const" ++ blanks ++ capture .word)
  unnamed := "anonymous"

def functionLimit : Nat := 50

def longFunction (span : BraceSpan) : Notice where
  severity := .warning
  category := "Code Quality"
  message := "Long Function"
  description :=
    s!"Function '{span.name}' has {span.length} lines. Consider breaking it into smaller functions."
  suggestion := "Functions should be kept under " ++ toString functionLimit ++
    " lines for better readability and maintainability."

def machine : Machine BraceSpan.Tracker where
  initial := {}
  step tracker number line _ :=
    let fed := tracker.feed functionSyntax number line
    (fed.1, Rule.check rules number line ++ BraceSpan.reportLong functionLimit longFunction fed.2)

def check : List Char → List Finding := machine.run

end LineLint.Quality
