import LineLint.Report.Record
import Mathlib.Data.List.Forall2

namespace LineLint

open Json

namespace Json.Value

def member? (value : Value) (name : String) : Option Value :=
  match value with
  | .object members => Members.get? members name
  | _ => none

@[simp] theorem isStandard_array (items : List Value) :
    (Value.array items).isStandard = items.all (·.isStandard) := by
  rw [isStandard]
  induction items with
  | nil => rfl
  | cons first rest induction => rw [areStandard, induction, List.all_cons]

@[simp] theorem isStandard_object (members : Members) :
    (Value.object members).isStandard =
      members.all fun member => member.1.isPlain && member.2.isStandard := by
  rw [isStandard]
  induction members with
  | nil => rfl
  | cons first rest induction =>
      obtain ⟨name, value⟩ := first
      rw [haveStandard, induction, List.all_cons]

@[simp] theorem isStandard_text (text : Text) : (Value.text text).isStandard = text.isPlain := by
  rw [isStandard]

theorem isStandard_ofString (text : String) : (Value.ofString text).isStandard = true :=
  isStandard_text text

@[simp] theorem isStandard_integer (n : Int) : (Value.integer n).isStandard = true := by
  rw [isStandard]

@[simp] theorem isStandard_bool (set : Bool) : (Value.bool set).isStandard = true := by
  rw [isStandard]

@[simp] theorem isStandard_null : Value.null.isStandard = true := by
  rw [isStandard]

theorem isStandard_ofOption {α : Type} {encode : α → Value}
    (each : ∀ value, (encode value).isStandard = true) (value : Option α) :
    (Value.ofOption encode value).isStandard = true := by
  cases value with
  | none => exact isStandard_null
  | some value => exact each value

end Json.Value

@[simp] theorem Text.isPlain_plain (text : String) : (Text.plain text).isPlain = true := rfl

/-- A record says of a bug all that is known of it, and null of what is not known. -/
structure Retells (record : Value) (bug : Bug) : Prop where
  id : record.member? "id" = some (.text bug.id)
  line : record.member? "line" = some (.integer bug.line)
  column : record.member? "column" = some (.ofOption .integer bug.column)
  severity : record.member? "severity" = some (.text bug.severity.name)
  category : record.member? "category" = some (.text bug.category)
  message : record.member? "message" = some (.text bug.message)
  description : record.member? "description" = some (.text bug.description)
  suggestion : record.member? "suggestion" = some (.text bug.suggestion)
  snippet : record.member? "codeSnippet" = some (.ofOption .ofString bug.snippet)

/-- A record counts the bugs of each severity as a summary does. -/
structure Tallies (record : Value) (summary : Summary) : Prop where
  critical : record.member? "critical" = some (.integer summary.critical)
  warning : record.member? "warning" = some (.integer summary.warning)
  info : record.member? "info" = some (.integer summary.info)

/-- An answer gives the bugs of a report, in order, and its counts. -/
structure Conveys (answer : Value) (report : Report) : Prop where
  bugs : ∃ records, answer.member? "bugs" = some (.array records) ∧
    List.Forall₂ Retells records report.bugs
  summary : ∃ record, answer.member? "summary" = some record ∧ Tallies record report.summary

theorem Bug.retells_toJson (bug : Bug) : Retells bug.toJson bug := by
  constructor <;> rfl

theorem Summary.tallies_toJson (summary : Summary) : Tallies summary.toJson summary := by
  constructor <;> rfl

theorem conveys_of_members {answer : Value} {report : Report}
    (bugs : answer.member? "bugs" = some (.array (report.bugs.map Bug.toJson)))
    (summary : answer.member? "summary" = some report.summary.toJson) : Conveys answer report where
  bugs := by
    refine ⟨_, bugs, ?_⟩
    rw [List.forall₂_map_left_iff, List.forall₂_same]
    exact fun bug _ => bug.retells_toJson
  summary := ⟨_, summary, report.summary.tallies_toJson⟩

theorem Bug.isStandard_toJson (bug : Bug) : bug.toJson.isStandard = true := by
  have column := Value.isStandard_ofOption Value.isStandard_integer bug.column
  have snippet := Value.isStandard_ofOption Value.isStandard_ofString bug.snippet
  simp [Bug.toJson, column, snippet]

theorem Report.all_isStandard_members (report : Report) :
    (report.members.all fun member => member.1.isPlain && member.2.isStandard) = true := by
  simp [Report.members, Summary.toJson, Value.ofNat, Bug.isStandard_toJson]

end LineLint
