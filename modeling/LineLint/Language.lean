import LineLint.Bug
import LineLint.Check.Dynamic
import LineLint.Check.Go
import LineLint.Check.Managed
import LineLint.Check.Markup
import LineLint.Check.Native
import LineLint.Check.Quality
import LineLint.Check.Script
import LineLint.Check.Security
import LineLint.Text.Case
import LineLint.Text.CodePoint

namespace LineLint

inductive Language
  | c
  | cpp
  | csharp
  | css
  | go
  | html
  | java
  | javascript
  | php
  | python
  | ruby
  | rust
  | typescript
  deriving Repr, DecidableEq

namespace Language

def all : List Language :=
  [c, cpp, csharp, css, go, html, java, javascript, php, python, ruby, rust, typescript]

def name : Language → String
  | c => "c"
  | cpp => "cpp"
  | csharp => "csharp"
  | css => "css"
  | go => "go"
  | html => "html"
  | java => "java"
  | javascript => "javascript"
  | php => "php"
  | python => "python"
  | ruby => "ruby"
  | rust => "rust"
  | typescript => "typescript"

def ofName? (name : String) : Option Language := all.find? (·.name == name)

/-- No language has a name with surrogates in it. -/
def ofText? : Text → Option Language
  | .plain name => ofName? name
  | .broken .. => none

@[simp] theorem mem_all (language : Language) : language ∈ all := by
  cases language <;> decide

@[simp] theorem ofName?_name (language : Language) : ofName? language.name = some language := by
  cases language <;> decide

@[simp] theorem ofText?_name (language : Language) : ofText? language.name = some language :=
  language.ofName?_name

def extensions : Language → List String
  | c => [".c", ".h"]
  | cpp => [".cpp", ".cc", ".cxx", ".hpp"]
  | csharp => [".cs"]
  | css => [".css"]
  | go => [".go"]
  | html => [".html", ".htm"]
  | java => [".java"]
  | javascript => [".js", ".jsx", ".mjs"]
  | php => [".php"]
  | python => [".py"]
  | ruby => [".rb"]
  | rust => [".rs"]
  | typescript => [".ts", ".tsx"]

def ofExtension? (extension : List Char) : Option Language :=
  all.find? (·.extensions.any (·.toList == extension))

def lastPart (path : List Char) : List Char := (path.reverse.takeWhile (· ≠ '/')).reverse

/-- The part of a file name from its last dot on. The dots a name starts with begin no extension,
so a name of dots and one more word has none. -/
def extension (fileName : List Char) : List Char :=
  let stem := fileName.dropWhile (· = '.')
  if stem.contains '.' then '.' :: (stem.reverse.takeWhile (· ≠ '.')).reverse else []

/-- The language that a file's name tells, whatever the case of its letters. -/
def ofFileName? (fileName : String) : Option Language :=
  ofExtension? (extension (lastPart (lowercase fileName.toList)))

def ownCheck : Language → List Char → Except Fault (List Finding)
  | c, text => .ok (CFamily.check text)
  | cpp, text => .ok (CFamily.check text)
  | csharp, text => .ok (scanRules CSharp.rules text)
  | css, text => .ok (scanRules Css.rules text)
  | go, text => .ok (Go.check text)
  | html, text => .ok (scanRules Html.rules text)
  | java, text => .ok (Java.check text)
  | javascript, text => Script.check [] text
  | php, text => .ok (scanRules Php.rules text)
  | python, text => .ok (Python.check text)
  | ruby, text => .ok (scanRules Ruby.rules text)
  | rust, text => .ok (scanRules Rust.rules text)
  | typescript, text => Script.check Script.typeRules text

end Language

/-- What is checked in every language: security first, then quality. -/
def commonCheck (text : List Char) : List Finding := Security.check text ++ Quality.check text

def Language.findings (language : Language) (text : List Char) : Except Fault (List Finding) := do
  let own ← language.ownCheck text
  return commonCheck text ++ own

def Language.bugs (language : Language) (text : List Char) : Except Fault (List Bug) := do
  let findings ← language.findings text
  numbered language.name findings

end LineLint
