import LineLint.Scan

namespace LineLint.Go

open Pattern

def fmtPrint : Rule where
  severity := .info
  category := "Go"
  message := "fmt.Print usage"
  description := "Use a logging library instead of fmt.Print in production."
  suggestion := "Use log package or a structured logger like zap or logrus."
  pattern := lit "fmt.Print" ++ optional (lit "ln") ++ gap ++ lit "("
  anchors := ["fmt.Print"]

def todoComment : Rule where
  severity := .info
  category := "Code Quality"
  message := "TODO comment"
  description := "There is an unfinished task marker."
  suggestion := "Address the TODO."
  pattern := spaced ["//", "TODO"]
  anchors := ["TODO"]

def uncheckedError : Notice where
  severity := .warning
  category := "Go"
  message := "Error not checked"
  description := "Error return value is not being checked."
  suggestion := "Handle the error or explicitly ignore it with _."
  anchors := ["err :="]

def uncheckedParse : Notice where
  severity := .warning
  category := "Go"
  message := "Parse error not checked"
  description := "strconv result should check for conversion errors."
  suggestion := "Check the error return value."
  anchors := ["strconv"]

def errorAssignment : Pattern := wordEdge ++ spaced ["err", ":="] ++ gap

def numberParse : Pattern :=
  lit "strconv." ++ anyOf ["ParseInt", "ParseFloat", "ParseBool"] ++ gap ++ lit "("

/-- Whether the next line has text and holds none of the tokens. -/
def nextLacks (tokens : List String) (rest : List Line) : Bool :=
  rest.head?.any fun next =>
    !next.isEmpty && !tokens.any fun token => mentions next token

def uncheckedErrors (number : Nat) (line : Line) (rest : List Line) : List Finding :=
  if errorAssignment.occursIn line && nextLacks ["if err != nil", "return err"] rest then
    [uncheckedError.at number line]
  else []

def uncheckedParses (number : Nat) (line : Line) (rest : List Line) : List Finding :=
  if numberParse.occursIn line && nextLacks ["if err != nil"] rest then
    [uncheckedParse.at number line]
  else []

/-- A text belongs to the main package if one of its lines says so. -/
def isMainPackage (text : List Char) : Bool :=
  (lines text).any (mentions · "package main")

/-- Printing is reported in the main package alone. -/
def printRules (mainPackage : Bool) : List Rule := if mainPackage then [fmtPrint] else []

def lineCheck (mainPackage : Bool) : LineCheck := fun number line rest =>
  Rule.check (printRules mainPackage) number line ++ uncheckedErrors number line rest ++
    Rule.check [todoComment] number line ++ uncheckedParses number line rest

def check (text : List Char) : List Finding := scan (lineCheck (isMainPackage text)) text

end LineLint.Go
