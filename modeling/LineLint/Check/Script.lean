import LineLint.Fault
import LineLint.Scan

namespace LineLint.Script

open Pattern

def looseEquality : Rule where
  severity := .warning
  category := "JavaScript"
  message := "Use === instead of =="
  description := "Using loose equality (==) can lead to unexpected type coercion."
  suggestion := "Use strict equality (===) for comparisons."
  pattern := one .blank ++ lit "==" ++ one .blank ++ notBefore (.only '=')
  veto := some (lit "===" ++ gap ++ one (.oneOf ['"', '\'', '0']))
  anchors := ["=="]

def varUsage : Rule where
  severity := .info
  category := "JavaScript"
  message := "Use let or const instead of var"
  description :=
    "The var keyword has function scope which can lead to bugs. Use let or const instead."
  suggestion := "Replace var with let or const for block-scoped variables."
  pattern := wordEdge ++ lit "var" ++ blanks ++ word
  anchors := ["var"]

def newArray : Rule where
  severity := .warning
  category := "JavaScript"
  message := "Avoid new Array()"
  description := "new Array() has confusing behavior with single number arguments."
  suggestion := "Use array literal [] or Array.of() instead."
  pattern := lit "new" ++ blanks ++ spaced ["Array", "("]
  anchors := ["new Array"]

def documentWrite : Rule where
  severity := .warning
  category := "JavaScript"
  message := "Avoid document.write()"
  description := "document.write() can overwrite the entire page if called after page load."
  suggestion := "Use DOM manipulation methods like document.createElement() instead."
  pattern := spaced ["document.write", "("]
  anchors := ["document.write"]

def innerHtml : Rule where
  severity := .warning
  category := "Security"
  message := "Potential XSS via innerHTML"
  description := "Setting innerHTML with user input can lead to XSS attacks."
  suggestion := "Use textContent instead, or sanitize user input before using innerHTML."
  pattern := spaced [".innerHTML", "="]
  anchors := ["innerHTML"]

def stringTimeout : Rule where
  severity := .warning
  category := "JavaScript"
  message := "setTimeout with string is dangerous"
  description := "Using setTimeout/setInterval with string arguments uses eval() internally."
  suggestion := "Pass a function reference instead: setTimeout(() => \x7b...\x7d, 1000)"
  pattern := spaced ["setTimeout", "("] ++ gap ++ quote
  anchors := ["setTimeout"]

def leadingRules : List Rule :=
  [looseEquality, varUsage, newArray, documentWrite, innerHtml, stringTimeout]

def debuggerStatement : Rule where
  severity := .info
  category := "JavaScript"
  message := "Debugger Statement"
  description := "A debugger statement was found in the code."
  suggestion := "Remove debugger statements before deploying to production."
  pattern := lit "debugger" ++ optional (lit ";") ++ atEnd
  anchors := ["debugger"]
  onStripped := true

def anyType : Rule where
  severity := .warning
  category := "TypeScript"
  message := "Avoid using \"any\" type"
  description := "Using \"any\" defeats the purpose of TypeScript's type system."
  suggestion := "Use proper types or unknown if type is truly unknown."
  pattern := word ++ spaced [":", "any"] ++ wordEdge
  anchors := ["any"]

def tsIgnore : Rule where
  severity := .info
  category := "TypeScript"
  message := "ts-ignore comment found"
  description := "@ts-ignore bypasses TypeScript type checking."
  suggestion := "Address the underlying type error instead of ignoring it."
  pattern := anyOf ["//", "/*"] ++ gap ++ lit "@ts-ignore"
  anchors := ["@ts-ignore"]

def typeRules : List Rule := [anyType, tsIgnore]

def nullComparison : Rule where
  severity := .info
  category := "JavaScript"
  message := "Consider using optional chaining"
  description :=
    "Null checks can be simplified with optional chaining (?.) and nullish coalescing (??)."
  suggestion := "Consider using optional chaining for safer property access."
  pattern := (lit "==" ++ optional (lit "=") ++ gap ++ lit "null") ||| spaced ["!==", "null"]

def trailingRules (dialect : List Rule) : List Rule :=
  [debuggerStatement] ++ dialect ++ [nullComparison]

def promiseChain : Notice where
  severity := .info
  category := "JavaScript"
  message := "Consider using async/await"
  description := "Chained promises can lead to \"callback hell\"."
  suggestion := "Consider using async/await for cleaner asynchronous code."

def isPromiseStep (line : Line) : Bool :=
  mentions line ".then(" || mentions line ".catch("

def promiseChains (number : Nat) (line : Line) (rest : List Line) : List Finding :=
  if isPromiseStep line && rest.head?.any isPromiseStep then [promiseChain.at number line] else []

def lineCheck (dialect : List Rule) : LineCheck := fun number line rest =>
  Rule.check leadingRules number line ++ promiseChains number line rest ++
    Rule.check (trailingRules dialect) number line

def unguardedConsole : Notice where
  severity := .info
  category := "Code Quality"
  message := "Console logging without error handling"
  description := "Console statements should have appropriate error handling in production."
  suggestion := "Consider using a proper logging library with log levels."

def consoleCall : Pattern := spaced ["console.log", "("]

def errorHandling : Pattern := spaced ["try", "\x7b"] ||| spaced ["catch", "("]

/-- A console call anywhere in the text, and no error handling. Blanks in both may be line
breaks. -/
def logsUnguarded (text : List Char) : Bool :=
  consoleCall.occursIn text && !errorHandling.occursIn text

def consoleLine? (text : List Char) : Option (Line × Nat) :=
  ((lines text).zipIdx 1).find? fun entry => mentions entry.1 "console.log"

/-- The report on unguarded logging, filed under the first line that names the log. -/
def consoleFindings (text : List Char) : Except Fault (List Finding) :=
  if logsUnguarded text then
    match consoleLine? text with
    | some (line, number) => .ok [unguardedConsole.at number line]
    | none => .error .noConsoleLine
  else .ok []

def check (dialect : List Rule) (text : List Char) : Except Fault (List Finding) := do
  let logging ← consoleFindings text
  return scan (lineCheck dialect) text ++ logging

end LineLint.Script
