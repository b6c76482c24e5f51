import LineLint.Bug.Record
import LineLint.Json.Encoding

namespace LineLint.Service

open Json

/-- The two texts that an analysis is asked for with. -/
structure Submission where
  code : Option Text
  language : Option Text
  deriving Repr, DecidableEq

/-- An error, with the value that it tells of. -/
structure Refusal where
  error : FieldError
  value : Value

/-- Why a body gives no submission. -/
inductive BodyError
  | refused (refusals : List Refusal)
  /-- The bytes are no text, or it holds something too deep or too long. -/
  | unreadable

namespace Submission

/-- The text of a field; one that is null has none. -/
def text? : Value → Option (Option Text)
  | .null => some none
  | .text text => some (some text)
  | _ => none

def refusals (members : Members) : List Refusal :=
  ["code", "language"].filterMap fun name =>
    match text? (members.getD name) with
    | some _ => none
    | none => some ⟨⟨[.field "body", .field name], .notText⟩, members.getD name⟩

def ofMembers (members : Members) : Except BodyError Submission :=
  match text? (members.getD "code"), text? (members.getD "language") with
  | some code, some language => .ok ⟨code, language⟩
  | _, _ => .error (.refused (refusals members))

def ofText (limits : Limits) (text : List CodePoint) : Except BodyError Submission :=
  match parse limits text with
  | .ok (.object members) => ofMembers members
  | .ok value => .error (.refused [⟨⟨[.field "body"], .notAnObject⟩, value⟩])
  | .error (.malformed error) =>
      .error (.refused [⟨⟨[.field "body", .offset error.offset], .malformed⟩, .object []⟩])
  | .error .tooDeep | .error .tooLong => .error .unreadable

def ofBody (limits : Limits) (body : List UInt8) : Except BodyError Submission :=
  if body.isEmpty then .error (.refused [⟨⟨[.field "body"], .missing⟩, .null⟩])
  else
    match decodeBytes? body with
    | some text => ofText limits text
    | none => .error .unreadable

end Submission

end LineLint.Service
