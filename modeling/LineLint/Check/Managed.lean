import LineLint.BraceSpan
import LineLint.Scan

namespace LineLint

open Pattern

namespace Java

def systemOut : Rule where
  severity := .info
  category := "Java"
  message := "System.out usage"
  description := "System.out is used for debugging. Use a logging framework in production."
  suggestion := "Use Log4j, SLF4J, or java.util.logging instead."
  pattern := lit "System.out.print" ++ optional (lit "ln") ++ gap ++ lit "("
  anchors := ["System.out"]

/-- A line that compares with a string literal: one that ends in it, or one that starts with it. -/
def stringComparison : Rule where
  severity := .warning
  category := "Java"
  message := "String comparison with =="
  description := "Using == to compare strings compares references, not values."
  suggestion := "Use .equals() method for string comparison: str1.equals(str2)"
  pattern :=
    (word ++ gap ++ lit "==" ++ gap ++ lit "\"" ++ upTo ['"'] ++ lit "\"" ++ gap ++
      optional (lit ";") ++ gap ++ atEnd) |||
    (lit "\"" ++ upTo ['"'] ++ spaced ["\"", "=="] ++ gap ++ word)
  anchors := ["=="]
  onStripped := true

def genericException : Rule where
  severity := .warning
  category := "Java"
  message := "Catching generic Exception"
  description := "Catching generic Exception catches all RuntimeExceptions too."
  suggestion := "Catch specific exceptions or rethrow after handling."
  pattern := spaced ["catch", "(", "Exception"] ++ blanks ++ word ++ gap ++ lit ")"
  anchors := ["catch"]

def emptyCatch : Rule where
  severity := .warning
  category := "Code Quality"
  message := "Empty catch block"
  description := "Empty catch blocks silently swallow exceptions."
  suggestion := "Log the exception or add a comment explaining why it is empty."
  pattern := spaced ["catch", "("] ++ someUpTo [')'] ++ spaced [")", "\x7b", "\x7d"]
  anchors := ["catch"]

def comparisonRules : List Rule := [stringComparison, genericException, emptyCatch]

def threadSleep : Rule where
  severity := .warning
  category := "Java"
  message := "Thread.sleep() usage"
  description := "Thread.sleep() can cause unresponsive applications."
  suggestion := "Use proper concurrency mechanisms or scheduling."
  pattern := spaced ["Thread.sleep", "("]
  anchors := ["Thread.sleep"]

def systemExit : Rule where
  severity := .warning
  category := "Java"
  message := "System.exit() call"
  description := "System.exit() terminates the JVM abruptly."
  suggestion := "Throw an exception instead to allow calling code to handle it."
  pattern := spaced ["System.exit", "("]
  anchors := ["System.exit"]

def todoComment : Rule where
  severity := .info
  category := "Code Quality"
  message := "TODO/FIXME comment"
  description := "There is an unfinished task marker in the code."
  suggestion := "Address the TODO or create a tracking issue."
  pattern := spaced ["//", "TODO"] ||| spaced ["/*", "TODO"] ||| spaced ["//", "FIXME"]
  anchors := ["TODO", "FIXME"]
  onStripped := true

def sqlConcatenation : Rule where
  severity := .critical
  category := "Security"
  message := "Potential SQL Injection"
  description := "SQL query built with string concatenation is vulnerable to SQL injection."
  suggestion := "Use PreparedStatement with parameterized queries."
  pattern :=
    anyOf ["SELECT", "INSERT", "UPDATE", "DELETE", "CREATE", "DROP"] ++ stretch ++ lit "+"
  anchors := ["SELECT", "INSERT"]

def hardcodedPassword : Rule where
  severity := .critical
  category := "Security"
  message := "Hardcoded password"
  description := "Hardcoded passwords are a security risk."
  suggestion := "Use environment variables or a configuration file with secure storage."
  pattern :=
    anyOfAnyCase ["password", "passwd", "pwd", "secret"] ++ gap ++ lit "=" ++ gap ++ quote ++
      someUpTo ['"', '\''] ++ quote
  anchors := ["password", "passwd"]

def trailingRules : List Rule :=
  [threadSleep, systemExit, todoComment, sqlConcatenation, hardcodedPassword]

def access : Pattern := optional (anyOf ["public", "private", "protected"])

/-- A type and a name in front of a bracket, with or without modifiers. -/
def methodSyntax : FunctionSyntax where
  opening :=
    atStart ++ gap ++ access ++ gap ++ optional (lit "static") ++ gap ++ word ++ blanks ++ word ++
      gap ++ lit "("
  name :=
    access ++ gap ++ optional (lit "static") ++ gap ++ word ++ blanks ++ capture .word ++ gap ++
      lit "("
  unnamed := "unknown"
  onStripped := true

def methodLimit : Nat := 30

def longMethod (span : BraceSpan) : Notice where
  severity := .warning
  category := "Code Quality"
  message := s!"Long method '{span.name}'"
  description := s!"Method has {span.length} lines. Consider breaking it into smaller methods."
  suggestion := s!"Methods should be kept under {methodLimit} lines for better readability."

def nullPointerRisk : Notice where
  severity := .warning
  category := "Java"
  message := "Potential NullPointerException"
  description := "Calling methods on objects without null checks can cause NullPointerException."
  suggestion := "Add null checks or use Optional.ofNullable()."

def endsInToString : Pattern := lit ".toString()" ++ gap ++ optional (lit ";") ++ gap ++ atEnd

def dereferences (line : Line) : Bool :=
  endsInToString.occursIn (strip line) || mentions line ".equals("

def declaresNonNull (line : Line) : Bool :=
  mentions line "Objects.requireNonNull" || mentions line "@NonNull"

/-- A line and up to two after it, with a space between them. -/
def window (line : Line) (rest : List Line) : List Char :=
  [' '].intercalate (line :: rest.take 2)

def risksNull (line : Line) (rest : List Line) : Bool :=
  dereferences line && !declaresNonNull line && mentions (window line rest) "get" &&
    !mentions (window line rest) "null check"

def nullPointerRisks (number : Nat) (line : Line) (rest : List Line) : List Finding :=
  if risksNull line rest then [nullPointerRisk.at number line] else []

def suppressedWarnings : Notice where
  severity := .info
  category := "Java"
  message := "Suppressed warnings"
  description := "Warnings are being suppressed. Consider addressing the root cause."
  suggestion := "Remove @SuppressWarnings and fix the underlying issue."
  anchors := ["@SuppressWarnings"]

def suppression : Pattern := spaced ["@SuppressWarnings", "("]

/-- A suppression is reported where the next line has text and is no suppression itself. -/
def suppresses (line : Line) (rest : List Line) : Bool :=
  suppression.occursIn line && rest.head?.any fun next =>
    !next.isEmpty && !"@SuppressWarnings".toList.isPrefixOf (strip next)

def suppressions (number : Nat) (line : Line) (rest : List Line) : List Finding :=
  if suppresses line rest then [suppressedWarnings.atAnchor number line] else []

def machine : Machine BraceSpan.Tracker where
  initial := {}
  step tracker number line rest :=
    let fed := tracker.feed methodSyntax number line
    (fed.1,
      Rule.check [systemOut] number line ++ nullPointerRisks number line rest ++
        Rule.check comparisonRules number line ++
        BraceSpan.reportLong methodLimit longMethod fed.2 ++
        Rule.check trailingRules number line ++ suppressions number line rest)

def check : List Char → List Finding := machine.run

end Java

namespace CSharp

/-- A statement keyword and a later plus sign, or a value between two string literals. -/
def sqlConcatenation : Rule where
  severity := .critical
  category := "C#"
  message := "Potential SQL Injection"
  description := "SQL query built with string concatenation is vulnerable."
  suggestion := "Use parameterized queries or an ORM."
  pattern :=
    (anyOf ["SELECT", "INSERT", "UPDATE", "DELETE"] ++ blanks ++ stretch ++ lit "+") |||
    (spaced ["\"", "+"] ++ gap ++ word ++ gap ++ spaced ["+", "\""])
  anchors := ["SELECT", "INSERT"]

def openRedirect : Rule where
  severity := .warning
  category := "C#"
  message := "Open Redirect vulnerability"
  description := "Redirecting based on user input can lead to phishing attacks."
  suggestion := "Validate the redirect URL or use a whitelist of allowed URLs."
  pattern :=
    litAnyCase "Response.Redirect" ++ gap ++ lit "(" ++ upTo [')'] ++
      anyOfAnyCase ["Request", "QueryString", "Form"]
  anchors := ["Response.Redirect"]

def connectionCredentials : Rule where
  severity := .critical
  category := "Security"
  message := "Hardcoded credentials"
  description := "Connection string contains hardcoded credentials."
  suggestion := "Use secure configuration or Azure Key Vault."
  pattern :=
    litAnyCase "connectionString" ++ gap ++ lit "=" ++ gap ++ quote ++ upTo ['"', '\''] ++
      anyOfAnyCase ["password", "pwd"] ++ upTo ['"', '\''] ++ quote
  anchors := ["connectionString"]

def emptyCatch : Rule where
  severity := .warning
  category := "Code Quality"
  message := "Empty catch block"
  description := "Empty catch blocks silently swallow exceptions."
  suggestion := "Log the exception or handle it appropriately."
  pattern := spaced ["catch", "("] ++ someUpTo [')'] ++ spaced [")", "\x7b", "\x7d"]
  anchors := ["catch"]

def todoComment : Rule where
  severity := .info
  category := "Code Quality"
  message := "TODO comment"
  description := "There is an unfinished task marker."
  suggestion := "Address the TODO."
  pattern := spaced ["//", "TODO"]
  anchors := ["TODO"]

def rules : List Rule :=
  [sqlConcatenation, openRedirect, connectionCredentials, emptyCatch, todoComment]

end CSharp

end LineLint
