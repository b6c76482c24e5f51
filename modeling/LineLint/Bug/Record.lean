import LineLint.Bug
import LineLint.Json.Value

namespace LineLint

open Json

def Bug.toJson (bug : Bug) : Value :=
  .object [
    ("id", .text bug.id),
    ("line", .integer bug.line),
    ("column", .ofOption .integer bug.column),
    ("severity", .text bug.severity.name),
    ("category", .text bug.category),
    ("message", .text bug.message),
    ("description", .text bug.description),
    ("suggestion", .text bug.suggestion),
    ("codeSnippet", .ofOption .ofString bug.snippet)]

/-- A value, or all that is wrong with it. -/
abbrev Checked (α : Type) := Except (List FieldError) α

namespace Checked

variable {α β : Type}

/-- Both parts are checked before either is refused. -/
def and (first : Checked α) (second : Checked β) : Checked (α × β) :=
  match first, second with
  | .ok a, .ok b => .ok (a, b)
  | .ok _, .error errors => .error errors
  | .error errors, .ok _ => .error errors
  | .error errors, .error more => .error (errors ++ more)

end Checked

namespace Record

variable {α : Type}

def refuse (name : String) (defect : Defect) : Checked α := .error [⟨[.field name], defect⟩]

def required (read : Value → Except Defect α) (members : Members) (name : String) : Checked α :=
  match members.get? name with
  | none => refuse name .missing
  | some value =>
      match read value with
      | .ok a => .ok a
      | .error defect => refuse name defect

def optional (read : Value → Except Defect α) (members : Members) (name : String) :
    Checked (Option α) :=
  match members.get? name with
  | none => .ok none
  | some .null => .ok none
  | some value =>
      match read value with
      | .ok a => .ok (some a)
      | .error defect => refuse name defect

def text : Value → Except Defect String
  | .text (.plain s) => .ok s
  | _ => .error .notText

def integer : Value → Except Defect Int
  | .integer n => .ok n
  | .bool b => .ok (if b then 1 else 0)
  | .text _ => .error .notNumeral
  | _ => .error .notInteger

def lineNumber (value : Value) : Except Defect { n : Int // 1 ≤ n } :=
  match integer value with
  | .ok n => if valid : 1 ≤ n then .ok ⟨n, valid⟩ else .error .belowMinimum
  | .error defect => .error defect

def severity : Value → Except Defect Severity
  | .text (.plain s) =>
      match Severity.ofName? s with
      | some severity => .ok severity
      | none => .error .notAChoice
  | _ => .error .notAChoice

/-- The snippet goes by two names, of which the first counts if both are there. -/
def snippetName (members : Members) : String :=
  if (members.get? "codeSnippet").isSome then "codeSnippet" else "code_snippet"

end Record

open Record in
/-- Reads a bug; every field that is wrong is named, in the order of the fields. -/
def Bug.ofMembers (members : Members) : Checked Bug := do
  let read :=
    (required text members "id").and <|
    (required lineNumber members "line").and <|
    (optional integer members "column").and <|
    (required severity members "severity").and <|
    (required text members "category").and <|
    (required text members "message").and <|
    (required text members "description").and <|
    (required text members "suggestion").and <|
    (optional text members (snippetName members))
  let (id, line, column, severity, category, message, description, suggestion, snippet) ← read
  return {
    id, line := line.val, line_pos := line.property, column, severity, category, message,
    description, suggestion, snippet }

def Bug.listOfMembers (records : List Members) : Except Fault (List Bug) :=
  records.mapM fun members =>
    match Bug.ofMembers members with
    | .ok bug => .ok bug
    | .error errors => .error (.refused errors)

end LineLint
