import LineLint.Proofs.Check.Filing
import LineLint.Proofs.Scan.Local

namespace LineLint

def Python.isLongFunction (message : String) : Bool :=
  "Long function '".toList.isPrefixOf message.toList

/-- The messages of the checks that look beyond the lines after the one they report on. -/
def isStateful (message : String) : Bool :=
  Quality.isLongFunction message || Python.isLongFunction message || Java.isLongMethod message ||
    ["Double free vulnerability", "Console logging without error handling",
      "fmt.Print usage"].contains message

def Finding.isStateless (finding : Finding) : Bool := !isStateful finding.message

/-- What is asked of the messages of the checks without a state does not miss the others. -/
theorem filter_message_isStateless {asked : String → Bool}
    (stateless : ∀ message, asked message = true → isStateful message = false)
    (findings : List Finding) :
    (findings.filter Finding.isStateless).filter (asked ·.message) =
      findings.filter (asked ·.message) := by
  rw [List.filter_filter]
  apply List.filter_congr
  intro finding _
  cases names : asked finding.message with
  | false => rfl
  | true => rw [Finding.isStateless, stateless finding.message names, Bool.not_false, Bool.and_true]

section

variable {number : Nat} {line : Line}

theorem filter_isStateless_check {table : List Rule}
    (stateless : ∀ rule ∈ table, isStateful rule.message = false) :
    (Rule.check table number line).filter Finding.isStateless = Rule.check table number line := by
  apply Rule.filter_check_eq_self
  intro rule listed
  rw [Finding.isStateless, Notice.message_at, stateless rule listed]
  rfl

variable {notice : Notice} {reported : Prop} [Decidable reported]

theorem filter_isStateless_ite_at (stateless : isStateful notice.message = false) :
    (if reported then [notice.at number line] else []).filter Finding.isStateless =
      if reported then [notice.at number line] else [] := by
  split <;> simp [Finding.isStateless, stateless]

theorem filter_isStateless_of_stateful (stateful : isStateful notice.message = true) :
    (if reported then [notice.at number line] else []).filter Finding.isStateless = [] := by
  have unasked : (!isStateful notice.message) = false := by rw [stateful, Bool.not_true]
  exact @Notice.filter_message_ite_at (!isStateful ·) notice number line reported _ unasked

theorem filter_isStateless_reportLong {limit : Nat} {long : BraceSpan → Notice}
    (stateful : ∀ span, isStateful (long span).message = true) (span : Option BraceSpan) :
    (BraceSpan.reportLong limit long span).filter Finding.isStateless = [] := by
  cases span with
  | none => rfl
  | some span => exact filter_isStateless_of_stateful (stateful span)

end

theorem isStateful_longFunction (span : BraceSpan) :
    isStateful (Quality.longFunction span).message = true := by
  rw [isStateful, Quality.isLongFunction_longFunction]
  rfl

theorem isStateful_longMethod (span : BraceSpan) :
    isStateful (Java.longMethod span).message = true := by
  rw [isStateful, Java.isLongMethod_longMethod, Bool.or_true]
  rfl

theorem filter_isStateless_commonCheck (text : List Char) :
    (commonCheck text).filter Finding.isStateless =
      scanRules Security.rules text ++ scanRules Quality.rules text := by
  rw [commonCheck, List.filter_append, Security.check, Quality.check]
  congr 1
  · apply filter_scan
    intro number line rest
    exact filter_isStateless_check (by decide)
  · apply Machine.filter_run
    intro all number
    rw [Quality.reportAt_machine, List.filter_append, filter_isStateless_check (by decide),
      filter_isStateless_reportLong isStateful_longFunction, List.append_nil]

namespace CFamily

def localCheck : LineCheck := fun number line _ =>
  Rule.check leadingRules number line ++ Rule.check trailingRules number line

theorem filter_isStateless (text : List Char) :
    (check text).filter Finding.isStateless = scan localCheck text := by
  apply filter_scan
  intro number line rest
  rw [doubleFrees_eq, List.filter_append, List.filter_append, filter_isStateless_check (by decide),
    filter_isStateless_of_stateful (by decide), filter_isStateless_check (by decide),
    List.append_nil]
  rfl

theorem isLocal_localCheck : IsLocal 0 localCheck :=
  (isLocal_check 0 leadingRules).append (isLocal_check 0 trailingRules)

end CFamily

namespace Go

def localCheck : LineCheck := fun number line rest =>
  uncheckedErrors number line rest ++ Rule.check [todoComment] number line ++
    uncheckedParses number line rest

theorem filter_isStateless_printRules (mainPackage : Bool) {number : Nat} {line : Line} :
    (Rule.check (printRules mainPackage) number line).filter Finding.isStateless = [] := by
  have stateful : ∀ rule ∈ printRules mainPackage, (!isStateful rule.message) = false := by
    cases mainPackage <;> decide
  exact Rule.filter_check_eq_nil stateful

theorem filter_isStateless (text : List Char) :
    (check text).filter Finding.isStateless = scan localCheck text := by
  apply filter_scan
  intro number line rest
  simp only [lineCheck, List.filter_append, filter_isStateless_printRules, List.nil_append]
  rw [uncheckedErrors, uncheckedParses, filter_isStateless_ite_at (by decide),
    filter_isStateless_check (by decide), filter_isStateless_ite_at (by decide)]
  rfl

theorem nextLacks_take (tokens : List String) (rest : List Line) :
    nextLacks tokens (rest.take 1) = nextLacks tokens rest := by
  cases rest <;> rfl

theorem isLocal_localCheck : IsLocal 1 localCheck := by
  apply IsLocal.append
  · apply IsLocal.append
    · apply isLocal_ite_at
      intro line rest
      rw [nextLacks_take]
    · exact isLocal_check 1 _
  · apply isLocal_ite_at
    intro line rest
    rw [nextLacks_take]

end Go

namespace Java

def localCheck : LineCheck := fun number line rest =>
  Rule.check [systemOut] number line ++ nullPointerRisks number line rest ++
    Rule.check comparisonRules number line ++ Rule.check trailingRules number line ++
    suppressions number line rest

theorem filter_isStateless (text : List Char) :
    (check text).filter Finding.isStateless = scan localCheck text := by
  apply Machine.filter_run
  intro all number
  simp only [reportAt_machine, localCheck, List.filter_append, suppressions_eq, nullPointerRisks]
  rw [filter_isStateless_check (by decide), filter_isStateless_ite_at (by decide),
    filter_isStateless_check (by decide), filter_isStateless_reportLong isStateful_longMethod,
    filter_isStateless_check (by decide), filter_isStateless_ite_at (by decide), List.append_nil]

theorem risksNull_take (line : Line) (rest : List Line) :
    risksNull line (rest.take 2) = risksNull line rest := by
  rw [risksNull, risksNull, window, window, List.take_take]
  rfl

theorem suppresses_take (line : Line) (rest : List Line) :
    suppresses line (rest.take 2) = suppresses line rest := by
  cases rest <;> rfl

theorem isLocal_localCheck : IsLocal 2 localCheck := by
  apply IsLocal.append
  · apply IsLocal.append
    · apply IsLocal.append
      · exact (isLocal_check 2 _).append (isLocal_ite_at _ risksNull_take)
      · exact isLocal_check 2 _
    · exact isLocal_check 2 _
  · have same : suppressions = fun number line rest =>
        if suppresses line rest then [suppressedWarnings.at number line] else [] := by
      funext number line rest
      exact suppressions_eq number line rest
    rw [same]
    exact isLocal_ite_at suppressedWarnings suppresses_take

end Java

namespace Python

theorem isLongFunction_longFunction (name : String) (length : Nat) :
    isLongFunction (longFunction name length).message = true := by
  simp only [isLongFunction, longFunction, List.isPrefixOf_iff_prefix, String.toList_append,
    List.append_assoc]
  exact List.prefix_append _ _

theorem isStateful_longFunction (name : String) (length : Nat) :
    isStateful (longFunction name length).message = true := by
  rw [isStateful, isLongFunction_longFunction, Bool.or_true]
  rfl

theorem filter_isStateless (text : List Char) :
    (check text).filter Finding.isStateless = scanRules rules text := by
  apply Machine.filter_run
  intro all number
  rw [Machine.reportAt, machine, List.filter_append, filter_isStateless_check (by decide),
    OpenFunction.feed_snd]
  have silent : ∀ (current : OpenFunction),
      (current.report number).filter Finding.isStateless = [] := by
    intro current
    exact filter_isStateless_of_stateful (isStateful_longFunction _ _)
  split <;> simp [silent]

end Python

namespace Script

theorem filter_isStateless_consoleFindings {text : List Char} {findings : List Finding}
    (logged : consoleFindings text = .ok findings) : findings.filter Finding.isStateless = [] := by
  unfold consoleFindings at logged
  split at logged
  next =>
    split at logged
    next line number _ =>
      cases logged
      rw [List.filter_eq_nil_iff]
      intro finding member
      obtain rfl := List.mem_singleton.mp member
      rw [Finding.isStateless, Notice.message_at]
      decide
    next => cases logged
  next =>
    cases logged
    rfl

theorem filter_isStateless {dialect : List Rule} {text : List Char} {own : List Finding}
    (stateless : ∀ rule ∈ dialect, isStateful rule.message = false)
    (checked : check dialect text = .ok own) :
    own.filter Finding.isStateless = scan (lineCheck dialect) text := by
  cases logged : consoleFindings text with
  | error fault =>
      rw [check, logged] at checked
      cases checked
  | ok logging =>
      rw [check, logged] at checked
      cases checked
      rw [List.filter_append, filter_isStateless_consoleFindings logged, List.append_nil]
      apply filter_scan
      intro number line rest
      have trailing : ∀ rule ∈ trailingRules dialect, isStateful rule.message = false := by
        intro rule member
        simp only [trailingRules, List.mem_append, List.mem_singleton] at member
        rcases member with (rfl | member) | rfl
        · decide
        · exact stateless rule member
        · decide
      rw [lineCheck, List.filter_append, List.filter_append, promiseChains,
        filter_isStateless_check (by decide), filter_isStateless_ite_at (by decide),
        filter_isStateless_check trailing]

theorem isLocal_lineCheck (dialect : List Rule) : IsLocal 1 (lineCheck dialect) := by
  apply IsLocal.append
  · apply (isLocal_check 1 _).append
    apply isLocal_ite_at
    intro line rest
    rw [List.head?_take]
    rfl
  · exact isLocal_check 1 _

end Script

namespace Language

/-- How many lines after a line the checks of a language look at. -/
def reach : Language → Nat
  | c | cpp | csharp | css | html | php | python | ruby | rust => 0
  | go | javascript | typescript => 1
  | java => 2

/-- The checks of a language that carry nothing from line to line. -/
def localCheck : Language → LineCheck
  | c | cpp => CFamily.localCheck
  | csharp => fun number line _ => Rule.check CSharp.rules number line
  | css => fun number line _ => Rule.check Css.rules number line
  | go => Go.localCheck
  | html => fun number line _ => Rule.check Html.rules number line
  | java => Java.localCheck
  | javascript => Script.lineCheck []
  | php => fun number line _ => Rule.check Php.rules number line
  | python => fun number line _ => Rule.check Python.rules number line
  | ruby => fun number line _ => Rule.check Ruby.rules number line
  | rust => fun number line _ => Rule.check Rust.rules number line
  | typescript => Script.lineCheck Script.typeRules

theorem isLocal_localCheck (language : Language) : IsLocal language.reach language.localCheck := by
  cases language with
  | c | cpp => exact CFamily.isLocal_localCheck
  | go => exact Go.isLocal_localCheck
  | java => exact Java.isLocal_localCheck
  | javascript | typescript => exact Script.isLocal_lineCheck _
  | csharp | css | html | php | python | ruby | rust => exact isLocal_check 0 _

theorem filter_isStateless_scanRules {table : List Rule}
    (stateless : ∀ rule ∈ table, isStateful rule.message = false) (text : List Char) :
    (scanRules table text).filter Finding.isStateless = scanRules table text := by
  apply filter_scan
  intro number line rest
  exact filter_isStateless_check stateless

theorem filter_isStateless_ownCheck {language : Language} {text : List Char} {own : List Finding}
    (checked : language.ownCheck text = .ok own) :
    own.filter Finding.isStateless = scan language.localCheck text := by
  cases language with
  | javascript => exact Script.filter_isStateless (by decide) checked
  | typescript => exact Script.filter_isStateless (by decide) checked
  | c | cpp =>
      cases checked
      exact CFamily.filter_isStateless text
  | go =>
      cases checked
      exact Go.filter_isStateless text
  | java =>
      cases checked
      exact Java.filter_isStateless text
  | python =>
      cases checked
      exact Python.filter_isStateless text
  | csharp | css | html | php | ruby | rust =>
      cases checked
      exact filter_isStateless_scanRules (by decide) text

end Language

end LineLint
