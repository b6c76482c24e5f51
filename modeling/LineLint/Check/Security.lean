import LineLint.Scan

namespace LineLint.Security

open Pattern

/-- A statement keyword, later a plus sign and later a quote; or a quoted text with a
placeholder in it. -/
def sqlPattern : Pattern :=
  (anyOfAnyCase ["execute", "query", "select", "insert", "update", "delete"] ++ stretch ++
    lit "+" ++ stretch ++ quote) |||
  (quote ++ stretch ++ lit "$\x7b" ++ stretch ++ lit "\x7d" ++ stretch ++ quote)

def sqlInjection : Rule where
  severity := .critical
  category := "Security"
  message := "Potential SQL Injection"
  description :=
    "User input is being concatenated directly into SQL queries. " ++
      "This can allow attackers to inject malicious SQL code."
  suggestion := "Use parameterized queries or prepared statements instead of string concatenation."
  pattern := sqlPattern
  anchors := ["execute", "query"]

def credentialNames : List String :=
  ["password", "passwd", "pwd", "secret", "api_key", "apikey", "token"]

/-- A credential's name, a colon or an equals sign, and a quoted text of four characters or more. -/
def credentialsPattern : Pattern :=
  anyOfAnyCase credentialNames ++ gap ++ one (.oneOf [':', '=']) ++ gap ++ quote ++
    one (.noneOf ['"', '\'']) ++ one (.noneOf ['"', '\'']) ++ one (.noneOf ['"', '\'']) ++
    one (.noneOf ['"', '\'']) ++ upTo ['"', '\''] ++ quote

def hardcodedCredentials : Rule where
  severity := .critical
  category := "Security"
  message := "Hardcoded Credentials"
  description :=
    "Sensitive information like passwords, API keys, or tokens are hardcoded in the source code."
  suggestion := "Use environment variables or a secure secrets management system instead."
  pattern := credentialsPattern

def evalUsage : Rule where
  severity := .critical
  category := "Security"
  message := "Dangerous eval() Usage"
  description := "The eval() function can execute arbitrary code and is a major security risk."
  suggestion := "Avoid using eval(). Use safer alternatives like JSON.parse() for JSON data."
  pattern := spaced ["eval", "("]
  anchors := ["eval"]

def insecureRandom : Rule where
  severity := .warning
  category := "Security"
  message := "Insecure Random Number Generation"
  description := "Math.random() is not cryptographically secure."
  suggestion := "Use crypto.randomBytes() or the Web Crypto API for security-sensitive operations."
  pattern := spaced ["Math.random", "(", ")"]
  anchors := ["Math.random"]

def sensitiveLog : Rule where
  severity := .warning
  category := "Security"
  message := "Sensitive Data in Console"
  description := "Potential sensitive information being logged to console."
  suggestion := "Ensure no sensitive data is logged in production environments."
  pattern :=
    litAnyCase "console." ++ anyOfAnyCase ["log", "info", "warn", "error"] ++ gap ++ lit "(" ++
      stretch ++ anyOfAnyCase ["password", "token", "secret", "key", "auth"]

def rules : List Rule :=
  [sqlInjection, hardcodedCredentials, evalUsage, insecureRandom, sensitiveLog]

def check : List Char → List Finding := scanRules rules

end LineLint.Security
