import LineLint.Check.Managed
import LineLint.Check.Quality
import LineLint.Proofs.BraceSpan.Extent
import LineLint.Proofs.Check.Table

namespace LineLint

/-- What is said of code that takes too many lines, filed under the line where it starts. -/
def overlong (message description suggestion : String) (start : Nat) (line : Line) : Finding where
  line := start
  column := none
  severity := .warning
  category := "Code Quality"
  message := message
  description := description
  suggestion := suggestion
  snippet := some (String.ofList (strip line))

namespace BraceSpan

variable (limit : Nat) (notice : BraceSpan → Notice)

theorem reportLong_eq (span : Option BraceSpan) :
    reportLong limit notice span =
      (span.toList.filter (limit < ·.length)).map fun span =>
        (notice span).at span.start span.header := by
  cases span with
  | none => rfl
  | some span =>
      by_cases long : limit < span.length <;> simp [reportLong, long]

theorem flatMap_reportLong (spelling : FunctionSyntax) (all : List Line) :
    (lineNumbers all).flatMap
        (fun number => reportLong limit notice (Tracker.spanAt spelling all number)) =
      ((spans spelling all).filter (limit < ·.length)).map fun span =>
        (notice span).at span.start (lineAt all span.start) := by
  have headers : ((spans spelling all).filter (limit < ·.length)).map
        (fun span => (notice span).at span.start (lineAt all span.start)) =
      ((spans spelling all).filter (limit < ·.length)).map
        (fun span => (notice span).at span.start span.header) := by
    apply List.map_congr_left
    intro span long
    rw [(header_of_mem_spans (List.mem_filter.mp long).1).2.2]
  rw [headers]
  simp only [reportLong_eq, spans, List.filterMap_eq_flatMap_toList, List.filter_flatMap,
    List.map_flatMap]

theorem filter_message_reportLong {asked : String → Bool}
    (all : ∀ span, asked (notice span).message = true) (span : Option BraceSpan) :
    (reportLong limit notice span).filter (fun finding => asked finding.message) =
      reportLong limit notice span := by
  rw [List.filter_eq_self, reportLong_eq]
  simp only [List.mem_map]
  rintro finding ⟨long, -, rfl⟩
  exact all long

theorem stateAfter_eq_after {machine : Machine Tracker} {spelling : FunctionSyntax}
    (initial : machine.initial = {})
    (feeds : ∀ tracker number line rest,
      (machine.step tracker number line rest).1 = (tracker.feed spelling number line).1)
    (all : List Line) (seen : Nat) :
    machine.stateAfter all seen = Tracker.after spelling all seen := by
  induction seen with
  | zero => exact initial
  | succ seen induction => rw [Machine.stateAfter, Tracker.after, feeds, induction]

end BraceSpan

namespace Quality

theorem reportAt_machine (all : List Line) (number : Nat) :
    machine.reportAt all number =
      Rule.check rules number (lineAt all number) ++
        BraceSpan.reportLong functionLimit longFunction
          (BraceSpan.Tracker.spanAt functionSyntax all number) := by
  rw [Machine.reportAt, BraceSpan.stateAfter_eq_after rfl fun _ _ _ _ => rfl]
  rfl

end Quality

namespace Java

theorem reportAt_machine (all : List Line) (number : Nat) :
    machine.reportAt all number =
      Rule.check [systemOut] number (lineAt all number) ++
        nullPointerRisks number (lineAt all number) (all.drop number) ++
        Rule.check comparisonRules number (lineAt all number) ++
        BraceSpan.reportLong methodLimit longMethod
          (BraceSpan.Tracker.spanAt methodSyntax all number) ++
        Rule.check trailingRules number (lineAt all number) ++
        suppressions number (lineAt all number) (all.drop number) := by
  rw [Machine.reportAt, BraceSpan.stateAfter_eq_after rfl fun _ _ _ _ => rfl]
  rfl

end Java

namespace Quality

def isLongFunction (message : String) : Bool := message == "Long Function"

def overlongFunction (name : String) (length start : Nat) (line : Line) : Finding :=
  overlong "Long Function"
    ("Function '" ++ name ++ "' has " ++ toString length ++
      " lines. Consider breaking it into smaller functions.")
    ("Functions should be kept under " ++ toString 50 ++
      " lines for better readability and maintainability.")
    start line

theorem longFunction_at (span : BraceSpan) (line : Line) :
    (longFunction span).at span.start line =
      overlongFunction span.name span.length span.start line := rfl

theorem isLongFunction_longFunction (span : BraceSpan) :
    isLongFunction (longFunction span).message = true := beq_self_eq_true _

theorem filter_longFunction (text : List Char) :
    (check text).filter (fun finding => isLongFunction finding.message) =
      ((BraceSpan.spans functionSyntax (lines text)).filter (functionLimit < ·.length)).map
        fun span => overlongFunction span.name span.length span.start
          (lineAt (lines text) span.start) := by
  have others : ∀ rule ∈ rules, isLongFunction rule.message = false := by decide
  simp only [← longFunction_at]
  rw [← BraceSpan.flatMap_reportLong, check, Machine.run_eq_flatMap, List.filter_flatMap]
  apply List.flatMap_congr
  intro number _
  rw [reportAt_machine, List.filter_append, Rule.filter_message_check number _ others,
    BraceSpan.filter_message_reportLong _ _ isLongFunction_longFunction, List.nil_append]

end Quality

namespace Java

def isLongMethod (message : String) : Bool := "Long method '".toList.isPrefixOf message.toList

def overlongMethod (name : String) (length start : Nat) (line : Line) : Finding :=
  overlong ("Long method '" ++ name ++ "'")
    ("Method has " ++ toString length ++ " lines. Consider breaking it into smaller methods.")
    ("Methods should be kept under " ++ toString 30 ++ " lines for better readability.")
    start line

theorem longMethod_at (span : BraceSpan) (line : Line) :
    (longMethod span).at span.start line =
      overlongMethod span.name span.length span.start line := rfl

theorem isLongMethod_longMethod (span : BraceSpan) :
    isLongMethod (longMethod span).message = true := by
  simp only [isLongMethod, longMethod, List.isPrefixOf_iff_prefix, String.toList_append,
    List.append_assoc]
  exact List.prefix_append _ _

theorem filter_longMethod (text : List Char) :
    (check text).filter (fun finding => isLongMethod finding.message) =
      ((BraceSpan.spans methodSyntax (lines text)).filter (methodLimit < ·.length)).map
        fun span => overlongMethod span.name span.length span.start
          (lineAt (lines text) span.start) := by
  have output : ∀ rule ∈ [systemOut], isLongMethod rule.message = false := by decide
  have comparison : ∀ rule ∈ comparisonRules, isLongMethod rule.message = false := by decide
  have trailing : ∀ rule ∈ trailingRules, isLongMethod rule.message = false := by decide
  have risk : isLongMethod nullPointerRisk.message = false := by decide
  have suppressed : isLongMethod suppressedWarnings.message = false := by decide
  simp only [← longMethod_at]
  rw [← BraceSpan.flatMap_reportLong, check, Machine.run_eq_flatMap, List.filter_flatMap]
  apply List.flatMap_congr
  intro number _
  have risks : (nullPointerRisks number (lineAt (lines text) number)
      ((lines text).drop number)).filter (fun finding => isLongMethod finding.message) = [] :=
    Notice.filter_message_ite_at risk
  have suppressions : (suppressions number (lineAt (lines text) number)
      ((lines text).drop number)).filter (fun finding => isLongMethod finding.message) = [] := by
    unfold Java.suppressions
    split <;> simp [suppressed]
  simp only [reportAt_machine, List.filter_append, Rule.filter_message_check number _ output,
    Rule.filter_message_check number _ comparison, Rule.filter_message_check number _ trailing,
    BraceSpan.filter_message_reportLong _ _ isLongMethod_longMethod, risks, suppressions,
    List.nil_append, List.append_nil]

end Java

/-- The tracker computes what the lines alone say. Its depth is the balance since the last opening
line; a function ends where that balance first meets a closing brace at zero; functions that end
later start later. The two checks of length report the functions over their limits, in the order
in which they end, and nothing else under that name. -/
theorem tracker_refines_extent :
    (∀ (spelling : FunctionSyntax) (all : List Line),
      (∀ number, ∃ start, BraceSpan.CountsFrom spelling all number start ∧
        (BraceSpan.Tracker.after spelling all number).depth =
          BraceSpan.balanceBetween all start number) ∧
      (∀ number span,
        BraceSpan.Tracker.spanAt spelling all (number + 1) = some span ↔
          ∃ start, BraceSpan.EndsAt spelling all (number + 1) start ∧
            span = BraceSpan.between spelling all start (number + 1)) ∧
      (BraceSpan.spans spelling all).Pairwise (·.start < ·.start)) ∧
    (∀ text : List Char,
      (Quality.check text).filter (fun finding => Quality.isLongFunction finding.message) =
        ((BraceSpan.spans Quality.functionSyntax (lines text)).filter (50 < ·.length)).map
          fun span => Quality.overlongFunction span.name span.length span.start
            (lineAt (lines text) span.start)) ∧
    (∀ text : List Char,
      (Java.check text).filter (fun finding => Java.isLongMethod finding.message) =
        ((BraceSpan.spans Java.methodSyntax (lines text)).filter (30 < ·.length)).map
          fun span => Java.overlongMethod span.name span.length span.start
            (lineAt (lines text) span.start)) := by
  refine ⟨fun spelling all => ⟨fun number => ?_, fun number span => ?_, ?_⟩, ?_, ?_⟩
  · exact BraceSpan.Tracker.depth_after number
  · exact BraceSpan.Tracker.spanAt_eq_some_iff (Nat.le_add_left 1 number)
  · exact BraceSpan.pairwise_spans
  · exact Quality.filter_longFunction
  · exact Java.filter_longMethod

end LineLint
