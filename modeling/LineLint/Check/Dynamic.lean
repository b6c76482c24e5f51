import LineLint.Scan

namespace LineLint

open Pattern

namespace Python

def bareExcept : Rule where
  severity := .warning
  category := "Python"
  message := "Bare except clause"
  description := "Bare except clauses catch all exceptions, including KeyboardInterrupt."
  suggestion := "Specify the exception type: except ValueError: or use except Exception:"
  pattern := spaced ["except", ":"]
  veto := some (lit "except" ++ blanks ++ word ++ gap ++ lit ":")
  anchors := ["except"]

def printStatement : Rule where
  severity := .warning
  category := "Python"
  message := "Python 2 print statement"
  description := "This looks like a Python 2 print statement instead of a function."
  suggestion := "Use print() function: print(\"message\")"
  pattern := atStart ++ lit "print" ++ blanks ++ one (.noneOf ['('])
  anchors := ["print"]
  onStripped := true

def noneEquality : Rule where
  severity := .warning
  category := "Python"
  message := "Use \"is None\" instead of \"== None\""
  description := "Use \"is None\" for None comparisons."
  suggestion := "Use \"is None\" or \"is not None\" for None comparisons."
  pattern :=
    (one .blank ++ lit "==" ++ blanks ++ lit "None" ++ wordEdge) |||
    (wordEdge ++ lit "None" ++ blanks ++ lit "==" ++ one .blank)
  anchors := ["=="]

def mutableDefault : Rule where
  severity := .critical
  category := "Python"
  message := "Mutable default argument"
  description := "Mutable default arguments are shared between all calls."
  suggestion := "Use None as default and create new objects inside the function."
  pattern :=
    lit "def" ++ blanks ++ word ++ gap ++ lit "(" ++ upTo [')'] ++ lit "=" ++ gap ++
      one (.oneOf ['[', '{'])
  anchors := ["[", "\x7b"]

def wildcardImport : Rule where
  severity := .warning
  category := "Python"
  message := "Wildcard import"
  description := "Wildcard imports pollute the namespace and make code harder to understand."
  suggestion := "Import specific names: from module import name1, name2"
  pattern := lit "from" ++ blanks ++ word ++ blanks ++ lit "import" ++ blanks ++ lit "*"
  anchors := ["import"]

def shellInjection : Rule where
  severity := .critical
  category := "Security"
  message := "Shell injection vulnerability"
  description := "Using shell=True or os.system() can lead to shell injection attacks."
  suggestion := "Use subprocess with shell=False and pass arguments as a list."
  pattern :=
    spaced ["os.system", "("] |||
    (lit "subprocess." ++ anyOf ["call", "run", "Popen"] ++ gap ++ lit "(" ++ upTo [')'] ++
      spaced ["shell", "=", "True"])
  anchors := ["os.system", "subprocess"]

def pickleLoad : Rule where
  severity := .critical
  category := "Security"
  message := "Insecure deserialization with pickle"
  description := "pickle can deserialize malicious code. Never unpickle untrusted data."
  suggestion := "Use JSON for data serialization or a secure library."
  pattern := lit "pickle." ++ anyOf ["load", "loads"] ++ gap ++ lit "("
  anchors := ["pickle"]

def inputCall : Rule where
  severity := .warning
  category := "Python"
  message := "input() behavior"
  description :=
    "In Python 2, input() evaluates the input. In Python 3, it behaves like raw_input()."
  suggestion := "Ensure you are using Python 3 syntax."
  pattern := atStart ++ spaced ["input", "("]
  anchors := ["input"]
  onStripped := true

def globalStatement : Rule where
  severity := .warning
  category := "Python"
  message := "Global variable modification"
  description := "Modifying global variables can lead to hard-to-debug issues."
  suggestion := "Consider passing variables as parameters or using a class."
  pattern := atStart ++ lit "global" ++ blanks ++ word
  anchors := ["global"]
  onStripped := true

def lenZeroCheck : Rule where
  severity := .info
  category := "Python"
  message := "Unnecessary len() check"
  description := "Instead of len(x) == 0, use \"not x\" for cleaner code."
  suggestion := "Use \"if not x:\" instead of \"if len(x) == 0:\""
  pattern :=
    wordEdge ++ spaced ["len", "("] ++ someUpTo [')'] ++ lit ")" ++ gap ++
      anyOf ["==", "!=", ">", "<", ">=", "<="] ++ gap ++ lit "0" ++ wordEdge
  anchors := ["len"]

def todoComment : Rule where
  severity := .info
  category := "Code Quality"
  message := "TODO/FIXME comment"
  description := "There is an unfinished task marker in the code."
  suggestion := "Address the TODO or create a tracking issue."
  pattern := lit "#" ++ gap ++ anyOf ["TODO", "FIXME", "XXX"]
  anchors := ["TODO", "FIXME"]
  onStripped := true

def emptyPass : Rule where
  severity := .info
  category := "Python"
  message := "Empty block with pass"
  description := "Using pass in empty blocks. Consider adding a docstring."
  suggestion := "Add a comment or docstring explaining why the block is empty."
  pattern := spaced [":", "pass"] ++ gap ++ atEnd
  anchors := ["pass"]
  onStripped := true

def stringConcatenation : Rule where
  severity := .warning
  category := "Python"
  message := "String concatenation in loop"
  description := "Using + for string concatenation in a loop is inefficient."
  suggestion := "Use \"\".join() or f-strings for better performance."
  pattern :=
    (spaced ["+", "="] ++ gap ++ quote) |||
    (spaced ["+", "="] ++ gap ++ word ++ gap ++ lit "+")
  anchors := ["+"]

def evalUsage : Rule where
  severity := .critical
  category := "Security"
  message := "Dangerous eval() usage"
  description := "eval() can execute arbitrary code and is a major security risk."
  suggestion := "Avoid using eval(). Use ast.literal_eval() for safe evaluation of literals."
  pattern := spaced ["eval", "("]
  anchors := ["eval"]

def execUsage : Rule where
  severity := .critical
  category := "Security"
  message := "Dangerous exec() usage"
  description := "exec() can execute arbitrary code and is a major security risk."
  suggestion := "Avoid using exec()."
  pattern := spaced ["exec", "("]
  anchors := ["exec"]

def rules : List Rule :=
  [bareExcept, printStatement, noneEquality, mutableDefault, wildcardImport, shellInjection,
    pickleLoad, inputCall, globalStatement, lenZeroCheck, todoComment, emptyPass,
    stringConcatenation, evalUsage, execUsage]

/-- The function that is open, if any, and the one opened last. -/
structure OpenFunction where
  inside : Bool := false
  start : Nat := 0
  header : Line := []
  name : String := ""
  deriving Repr, DecidableEq

/-- A stripped line that opens a function, with the function's name. -/
def definition : Pattern := atStart ++ lit "def" ++ blanks ++ capture .word

def OpenFunction.enter (current : OpenFunction) (number : Nat) (line : Line) : OpenFunction :=
  match definition.captureIn (strip line) with
  | some name => ⟨true, number, line, String.ofList name⟩
  | none => current

/-- A blank line whose next line holds a definition. -/
def endsBeforeDefinition (line : Line) (rest : List Line) : Bool :=
  (strip line).isEmpty && rest.head?.any fun next => "def ".toList.isPrefixOf (strip next)

/-- A function is taken to end at a return, or just before the next definition. -/
def closes (line : Line) (rest : List Line) : Bool :=
  "return".toList.isPrefixOf (strip line) || endsBeforeDefinition line rest

def functionLimit : Nat := 30

def longFunction (name : String) (length : Nat) : Notice where
  severity := .warning
  category := "Code Quality"
  message := s!"Long function '{name}'"
  description := s!"Function has {length} lines. Consider breaking it into smaller functions."
  suggestion := s!"Functions should be kept under {functionLimit} lines for better readability."

def OpenFunction.report (current : OpenFunction) (number : Nat) : List Finding :=
  let length := number - current.start
  if functionLimit < length then
    [(longFunction current.name length).at current.start current.header]
  else []

def OpenFunction.feed (current : OpenFunction) (number : Nat) (line : Line) (rest : List Line) :
    OpenFunction × List Finding :=
  let entered := current.enter number line
  if entered.inside && closes line rest then
    ({ entered with inside := false }, entered.report number)
  else (entered, [])

def machine : Machine OpenFunction where
  initial := {}
  step current number line rest :=
    let fed := current.feed number line rest
    (fed.1, Rule.check rules number line ++ fed.2)

def check : List Char → List Finding := machine.run

end Python

namespace Php

def requestInSql : Rule where
  severity := .critical
  category := "PHP"
  message := "SQL Injection vulnerability"
  description := "User input is directly used in SQL queries."
  suggestion :=
    "Use prepared statements: $stmt = $pdo->prepare(\"SELECT * FROM users WHERE id = ?\")"
  pattern :=
    litAnyCase "$_" ++ anyOfAnyCase ["GET", "POST", "REQUEST"] ++ gap ++ lit "[" ++ stretch ++
      lit "]" ++ gap ++ optional (lit ".") ++ gap ++
      anyOfAnyCase ["SELECT", "INSERT", "UPDATE", "DELETE"]
  anchors := ["$_GET", "$_POST"]

def evalUsage : Rule where
  severity := .critical
  category := "Security"
  message := "Dangerous eval() usage"
  description := "eval() can execute arbitrary code and is extremely dangerous."
  suggestion := "Never use eval() with user input."
  pattern := spaced ["eval", "("]
  anchors := ["eval"]

def echoRequest : Rule where
  severity := .critical
  category := "PHP"
  message := "XSS vulnerability"
  description := "User input is being echoed without sanitization."
  suggestion := "Use htmlspecialchars() or a templating engine."
  pattern := spaced ["echo", "$_"] ++ anyOf ["GET", "POST", "REQUEST", "COOKIE"] ++ gap ++ lit "["
  anchors := ["echo"]

def plaintextPassword : Rule where
  severity := .critical
  category := "Security"
  message := "Insecure password storage"
  description := "Passwords should be hashed using password_hash()."
  suggestion := "Use: password_hash($password, PASSWORD_DEFAULT)"
  pattern := litAnyCase "password" ++ gap ++ lit "=" ++ gap ++ litAnyCase "$_POST"
  veto := some (lit "password_hash")
  anchors := ["password"]

def debugOutput : Rule where
  severity := .info
  category := "PHP"
  message := "Debug code in production"
  description := "Debug functions should not be in production code."
  suggestion := "Remove var_dump, print_r, and console.log statements."
  pattern := spaced ["var_dump", "("] ||| spaced ["print_r", "(", "$_"]
  anchors := ["var_dump", "print_r"]

def todoComment : Rule where
  severity := .info
  category := "Code Quality"
  message := "TODO comment"
  description := "There is an unfinished task marker."
  suggestion := "Address the TODO."
  pattern := anyOf ["//", "#"] ++ gap ++ lit "TODO"
  anchors := ["TODO"]

def rules : List Rule :=
  [requestInSql, evalUsage, echoRequest, plaintextPassword, debugOutput, todoComment]

end Php

namespace Ruby

def interpolatedSql : Rule where
  severity := .critical
  category := "Ruby"
  message := "Potential SQL Injection"
  description := "SQL query uses string interpolation which can be vulnerable."
  suggestion := "Use parameterized queries: User.where(\"name = ?\", params[:name])"
  pattern :=
    (spaced ["execute", "("] ++ gap ++ quote ++ upTo ['"', '\''] ++ lit "#\x7b") |||
    (spaced ["where", "("] ++ gap ++ someUpTo [':'] ++ spaced [":", "params"])
  anchors := ["execute", "where"]

def evalUsage : Rule where
  severity := .critical
  category := "Security"
  message := "Dangerous eval() usage"
  description := "eval() can execute arbitrary code."
  suggestion := "Avoid eval() or sanitize input thoroughly."
  pattern := wordEdge ++ spaced ["eval", "("]
  anchors := ["eval"]

def unescapedParams : Rule where
  severity := .warning
  category := "Ruby"
  message := "Potential XSS"
  description := "User parameters are being rendered without escaping."
  suggestion := "Use proper escaping or sanitize user input."
  pattern :=
    (lit "puts" ++ blanks ++ lit "params") |||
    (lit "render" ++ blanks ++ spaced ["text:", "params"])
  anchors := ["puts", "render"]

def todoComment : Rule where
  severity := .info
  category := "Code Quality"
  message := "TODO comment"
  description := "There is an unfinished task marker."
  suggestion := "Address the TODO."
  pattern := lit "#" ++ gap ++ anyOf ["TODO", "FIXME"]
  anchors := ["TODO"]

def rules : List Rule := [interpolatedSql, evalUsage, unescapedParams, todoComment]

end Ruby

end LineLint
