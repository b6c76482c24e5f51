import LineLint.Language
import LineLint.Proofs.Check.FunctionLength
import LineLint.Proofs.Pattern.Match

namespace LineLint

namespace Language

def rules : Language → List Rule
  | c | cpp => CFamily.leadingRules ++ CFamily.trailingRules
  | csharp => CSharp.rules
  | css => Css.rules
  | go => [Go.fmtPrint, Go.todoComment]
  | html => Html.rules
  | java => Java.systemOut :: Java.comparisonRules ++ Java.trailingRules
  | javascript => Script.leadingRules ++ Script.trailingRules []
  | php => Php.rules
  | python => Python.rules
  | ruby => Ruby.rules
  | rust => Rust.rules
  | typescript => Script.leadingRules ++ Script.trailingRules Script.typeRules

def notices : Language → List Notice
  | c | cpp => [CFamily.doubleFree]
  | go => [Go.uncheckedError, Go.uncheckedParse]
  | java => [Java.nullPointerRisk, Java.suppressedWarnings]
  | javascript | typescript => [Script.promiseChain, Script.unguardedConsole]
  | csharp | css | html | php | python | ruby | rust => []

/-- The notices that may be issued about a text in a language. -/
inductive Issues : Language → Notice → Prop
  | rule {language : Language} {rule : Rule}
      (listed : rule ∈ Security.rules ++ Quality.rules ++ language.rules) :
      Issues language rule.toNotice
  | written {language : Language} {notice : Notice} (listed : notice ∈ language.notices) :
      Issues language notice
  | longFunction {language : Language} (span : BraceSpan) :
      Issues language (Quality.longFunction span)
  | longMethod (span : BraceSpan) : Issues java (Java.longMethod span)
  | longDefinition (name : String) (length : Nat) : Issues python (Python.longFunction name length)

end Language

/-- The finding is an issued notice about the line whose number it has. -/
def Filed (issued : Notice → Prop) (all : List Line) (finding : Finding) : Prop :=
  ∃ notice number, issued notice ∧ 1 ≤ number ∧ number ≤ all.length ∧
    finding = notice.at number (lineAt all number)

def AllFiled (issued : Notice → Prop) (all : List Line) (findings : List Finding) : Prop :=
  ∀ finding ∈ findings, Filed issued all finding

section

variable {issued : Notice → Prop} {all : List Line}

@[simp] theorem allFiled_nil : AllFiled issued all [] := by
  intro finding member
  cases member

@[simp] theorem allFiled_append {first second : List Finding} :
    AllFiled issued all (first ++ second) ↔
      AllFiled issued all first ∧ AllFiled issued all second := by
  simp only [AllFiled, List.mem_append, or_imp, forall_and]

@[simp] theorem allFiled_flatMap {numbers : List Nat} {found : Nat → List Finding} :
    AllFiled issued all (numbers.flatMap found) ↔
      ∀ number ∈ numbers, AllFiled issued all (found number) := by
  simp only [AllFiled, List.mem_flatMap]
  constructor
  · intro filed number listed finding member
    exact filed finding ⟨number, listed, member⟩
  · rintro filed finding ⟨number, listed, member⟩
    exact filed number listed finding member

theorem AllFiled.one_le_line {findings : List Finding} (filed : AllFiled issued all findings) :
    ∀ finding ∈ findings, 1 ≤ finding.line := by
  intro finding member
  obtain ⟨notice, number, -, first, -, rfl⟩ := filed finding member
  rw [Notice.line_at]
  omega

variable {number : Nat}

theorem allFiled_at {notice : Notice} (first : 1 ≤ number) (last : number ≤ all.length)
    (listed : issued notice) : AllFiled issued all [notice.at number (lineAt all number)] := by
  intro finding member
  rw [List.mem_singleton] at member
  exact ⟨notice, number, listed, first, last, member⟩

theorem allFiled_ite_at {notice : Notice} {reported : Prop} [Decidable reported]
    (first : 1 ≤ number)
    (last : number ≤ all.length) (listed : issued notice) :
    AllFiled issued all
      (if reported then [notice.at number (lineAt all number)] else []) := by
  split
  · exact allFiled_at first last listed
  · exact allFiled_nil

theorem allFiled_check {table : List Rule} (first : 1 ≤ number) (last : number ≤ all.length)
    (listed : ∀ rule ∈ table, issued rule.toNotice) :
    AllFiled issued all (Rule.check table number (lineAt all number)) := by
  intro finding member
  obtain ⟨rule, among, -, rfl⟩ := Rule.mem_check_iff.mp member
  exact ⟨rule.toNotice, number, listed rule among, first, last, rfl⟩

theorem allFiled_reportLong {spelling : FunctionSyntax} {limit : Nat}
    {notice : BraceSpan → Notice} (listed : ∀ span, issued (notice span)) :
    AllFiled issued all
      ((lineNumbers all).flatMap fun number =>
        BraceSpan.reportLong limit notice (BraceSpan.Tracker.spanAt spelling all number)) := by
  rw [BraceSpan.flatMap_reportLong]
  intro finding member
  obtain ⟨span, long, rfl⟩ := List.mem_map.mp member
  obtain ⟨first, last, -⟩ := BraceSpan.header_of_mem_spans (List.mem_filter.mp long).1
  exact ⟨notice span, span.start, listed span, first, by omega, rfl⟩

end

namespace Notice

variable {notice : Notice} {number : Nat} {line : Line}

theorem atAnchor_eq_at {anchor : String} (listed : anchor ∈ notice.anchors)
    (held : anchor.toList <:+: line) : notice.atAnchor number line = notice.at number line := by
  have found : (firstOffset? (notice.anchors.map String.toList) line).isSome = true := by
    rw [firstOffset?, List.findSome?_isSome_iff]
    exact ⟨anchor.toList, List.mem_map_of_mem listed, offset?_isSome_iff.mpr held⟩
  obtain ⟨offset, found⟩ := Option.isSome_iff_exists.mp found
  simp [atAnchor, Notice.at, found]

end Notice

section

variable {issued : Notice → Prop}

theorem allFiled_scanRules {table : List Rule} (listed : ∀ rule ∈ table, issued rule.toNotice)
    (text : List Char) : AllFiled issued (lines text) (scanRules table text) := by
  rw [scanRules_eq_flatMap, allFiled_flatMap]
  intro number inside
  obtain ⟨first, last⟩ := mem_lineNumbers.mp inside
  exact allFiled_check first last listed

theorem Quality.allFiled_check (listed : ∀ rule ∈ Quality.rules, issued rule.toNotice)
    (long : ∀ span, issued (Quality.longFunction span)) (text : List Char) :
    AllFiled issued (lines text) (Quality.check text) := by
  rw [Quality.check, Machine.run_eq_flatMap, allFiled_flatMap]
  intro number inside
  obtain ⟨first, last⟩ := mem_lineNumbers.mp inside
  rw [Quality.reportAt_machine, allFiled_append]
  exact ⟨LineLint.allFiled_check first last listed,
    allFiled_flatMap.mp (allFiled_reportLong long) number inside⟩

end

namespace Python

namespace OpenFunction

variable (current : OpenFunction) (number : Nat) (line : Line) (rest : List Line)

theorem feed_fst :
    (current.feed number line rest).1 =
      let entered := current.enter number line
      { entered with inside := entered.inside && !closes line rest } := by
  simp only [feed]
  obtain ⟨inside, start, header, name⟩ := current.enter number line
  cases inside <;> cases closes line rest <;> rfl

theorem feed_snd :
    (current.feed number line rest).2 =
      if (current.enter number line).inside && closes line rest then
        (current.enter number line).report number
      else [] := by
  simp only [feed]
  split <;> rfl

/-- The function that is open was opened on the line that is its header. -/
def Opened (all : List Line) (seen : Nat) (current : OpenFunction) : Prop :=
  current.inside = true →
    1 ≤ current.start ∧ current.start ≤ seen ∧ current.header = lineAt all current.start

variable {current} {all : List Line} {seen : Nat}

theorem Opened.enter (opened : current.Opened all seen) :
    (current.enter (seen + 1) (lineAt all (seen + 1 : Nat))).Opened all (seen + 1) := by
  intro inside
  cases captured : definition.captureIn (strip (lineAt all (seen + 1 : Nat))) with
  | some name =>
      rw [OpenFunction.enter, captured]
      exact ⟨Nat.le_add_left 1 seen, Nat.le_refl _, rfl⟩
  | none =>
      rw [OpenFunction.enter, captured] at inside ⊢
      obtain ⟨first, upTo, header⟩ := opened inside
      exact ⟨first, Nat.le_succ_of_le upTo, header⟩

theorem Opened.feed (opened : current.Opened all seen) :
    (current.feed (seen + 1) (lineAt all (seen + 1 : Nat)) rest).1.Opened all (seen + 1) := by
  rw [feed_fst]
  intro inside
  exact opened.enter (Bool.and_eq_true_iff.mp inside).1

theorem Opened.allFiled_feed (opened : current.Opened all seen) (last : seen + 1 ≤ all.length) :
    AllFiled Language.python.Issues all
      (current.feed (seen + 1) (lineAt all (seen + 1 : Nat)) rest).2 := by
  rw [feed_snd]
  split
  next ends =>
    obtain ⟨first, upTo, header⟩ := opened.enter (Bool.and_eq_true_iff.mp ends).1
    simp only [report, header]
    exact allFiled_ite_at first (Nat.le_trans upTo last) (.longDefinition _ _)
  next => exact allFiled_nil

end OpenFunction

theorem opened_stateAfter (all : List Line) (seen : Nat) :
    (machine.stateAfter all seen).Opened all seen := by
  apply Machine.stateAfter_invariant
  · intro inside
    cases inside
  · intro seen current opened
    exact opened.feed _

theorem allFiled_check (text : List Char) :
    AllFiled Language.python.Issues (lines text) (check text) := by
  rw [check, Machine.run_eq_flatMap, allFiled_flatMap]
  intro number inside
  obtain ⟨first, last⟩ := mem_lineNumbers.mp inside
  obtain ⟨seen, rfl⟩ := Nat.exists_eq_add_of_le' first
  have opened := opened_stateAfter (lines text) seen
  rw [Machine.reportAt, machine, allFiled_append]
  exact ⟨LineLint.allFiled_check first last fun rule listed =>
    .rule (List.mem_append_right _ listed), opened.allFiled_feed _ last⟩

end Python

namespace Java

theorem suppressions_eq (number : Nat) (line : Line) (rest : List Line) :
    suppressions number line rest =
      if suppresses line rest then [suppressedWarnings.at number line] else [] := by
  unfold suppressions
  split
  next suppressed =>
    have found : suppression.occursIn line = true := (Bool.and_eq_true_iff.mp suppressed).1
    rw [Notice.atAnchor_eq_at (List.mem_singleton_self _) (Pattern.infix_of_occursIn_spaced found)]
  next => rfl

theorem allFiled_check (text : List Char) :
    AllFiled Language.java.Issues (lines text) (check text) := by
  have listed : ∀ rule ∈ systemOut :: comparisonRules ++ trailingRules,
      Language.java.Issues rule.toNotice :=
    fun rule member => .rule (List.mem_append_right _ member)
  simp only [List.mem_append, List.mem_cons] at listed
  rw [check, Machine.run_eq_flatMap, allFiled_flatMap]
  intro number inside
  obtain ⟨first, last⟩ := mem_lineNumbers.mp inside
  simp only [reportAt_machine, allFiled_append, suppressions_eq]
  refine ⟨⟨⟨⟨⟨?_, ?_⟩, ?_⟩, ?_⟩, ?_⟩, ?_⟩
  · exact LineLint.allFiled_check first last fun rule member =>
      listed rule (.inl (.inl (List.mem_singleton.mp member)))
  · exact allFiled_ite_at first last (.written (.head _))
  · exact LineLint.allFiled_check first last fun rule member => listed rule (.inl (.inr member))
  · exact allFiled_flatMap.mp (allFiled_reportLong .longMethod) number inside
  · exact LineLint.allFiled_check first last fun rule member => listed rule (.inr member)
  · exact allFiled_ite_at first last (.written (.tail _ (.head _)))

end Java

namespace CFamily

theorem doubleFrees_eq (text : List Char) (number : Nat) (line : Line) :
    doubleFrees text number line =
      if freesTwice text line then [doubleFree.at number line] else [] := by
  unfold doubleFrees
  split
  next twice =>
    have statement : freeStatement.occursIn line = true := by
      unfold freesTwice freed? at twice
      by_cases frees : freeStatement.occursIn line = true
      · exact frees
      · simp [frees] at twice
    have call : (Pattern.spaced ["free", "("]).occursIn line = true := by
      unfold freeStatement at statement
      iterate 6 replace statement := Pattern.occursIn_of_occursIn_append statement
      exact statement
    rw [Notice.atAnchor_eq_at (List.mem_singleton_self _) (Pattern.infix_of_occursIn_spaced call)]
  next => rfl

theorem allFiled_check {issued : Notice → Prop}
    (listed : ∀ rule ∈ leadingRules ++ trailingRules, issued rule.toNotice)
    (freed : issued doubleFree) (text : List Char) :
    AllFiled issued (lines text) (check text) := by
  simp only [List.mem_append] at listed
  rw [check, scan_eq_flatMap, allFiled_flatMap]
  intro number inside
  obtain ⟨first, last⟩ := mem_lineNumbers.mp inside
  simp only [allFiled_append, doubleFrees_eq]
  refine ⟨⟨?_, ?_⟩, ?_⟩
  · exact LineLint.allFiled_check first last fun rule member => listed rule (.inl member)
  · exact allFiled_ite_at first last freed
  · exact LineLint.allFiled_check first last fun rule member => listed rule (.inr member)

end CFamily

namespace Go

theorem allFiled_check (text : List Char) :
    AllFiled Language.go.Issues (lines text) (check text) := by
  have listed : ∀ rule ∈ [fmtPrint, todoComment], Language.go.Issues rule.toNotice :=
    fun rule member => .rule (List.mem_append_right _ member)
  have printing : ∀ rule ∈ printRules (isMainPackage text), Language.go.Issues rule.toNotice := by
    intro rule member
    unfold printRules at member
    split at member
    · exact listed rule (List.mem_append_left [todoComment] member)
    · cases member
  rw [check, scan_eq_flatMap, allFiled_flatMap]
  intro number inside
  obtain ⟨first, last⟩ := mem_lineNumbers.mp inside
  simp only [lineCheck, allFiled_append]
  refine ⟨⟨⟨?_, ?_⟩, ?_⟩, ?_⟩
  · exact LineLint.allFiled_check first last printing
  · exact allFiled_ite_at first last (.written (.head _))
  · exact LineLint.allFiled_check first last fun rule member =>
      listed rule (List.mem_cons_of_mem _ member)
  · exact allFiled_ite_at first last (.written (.tail _ (.head _)))

end Go

namespace Script

theorem consoleLine?_spec {text : List Char} {line : Line} {number : Nat}
    (found : consoleLine? text = some (line, number)) :
    1 ≤ number ∧ number ≤ (lines text).length ∧ line = lineAt (lines text) number := by
  have member := List.mem_of_find?_eq_some found
  obtain ⟨first, last, held⟩ := List.mem_zipIdx member
  obtain ⟨position, rfl⟩ := Nat.exists_eq_add_of_le' first
  refine ⟨first, by omega, ?_⟩
  rw [lineAt_of_lt (by omega), held]
  simp

/-- A call of the console's log names it on one line, even where its bracket is on a later one. -/
theorem exists_consoleLine {text : List Char} (logs : consoleCall.occursIn text = true) :
    ∃ line number, consoleLine? text = some (line, number) := by
  obtain ⟨line, member, held⟩ :=
    exists_line_of_infix (by decide) (Pattern.infix_of_occursIn_spaced logs)
  have found : (consoleLine? text).isSome = true := by
    rw [consoleLine?, List.find?_isSome]
    obtain ⟨position, stands⟩ := List.mem_iff_getElem?.mp member
    exact ⟨(line, 1 + position), List.mk_add_mem_zipIdx_iff_getElem?.mpr stands,
      mentions_iff.mpr held⟩
  obtain ⟨⟨line, number⟩, found⟩ := Option.isSome_iff_exists.mp found
  exact ⟨line, number, found⟩

theorem exists_consoleFindings {issued : Notice → Prop} (logging : issued unguardedConsole)
    (text : List Char) :
    ∃ findings, consoleFindings text = .ok findings ∧ AllFiled issued (lines text) findings := by
  unfold consoleFindings
  split
  next unguarded =>
    obtain ⟨line, number, found⟩ := exists_consoleLine (Bool.and_eq_true_iff.mp unguarded).1
    obtain ⟨first, last, rfl⟩ := consoleLine?_spec found
    rw [found]
    exact ⟨_, rfl, allFiled_at first last logging⟩
  next => exact ⟨[], rfl, allFiled_nil⟩

theorem exists_check {issued : Notice → Prop} {dialect : List Rule}
    (listed : ∀ rule ∈ leadingRules ++ trailingRules dialect, issued rule.toNotice)
    (chained : issued promiseChain) (logging : issued unguardedConsole) (text : List Char) :
    ∃ findings, check dialect text = .ok findings ∧ AllFiled issued (lines text) findings := by
  simp only [List.mem_append] at listed
  obtain ⟨console, logged, filed⟩ := exists_consoleFindings logging text
  refine ⟨scan (lineCheck dialect) text ++ console, by rw [check, logged]; rfl, ?_⟩
  rw [allFiled_append]
  refine ⟨?_, filed⟩
  rw [scan_eq_flatMap, allFiled_flatMap]
  intro number inside
  obtain ⟨first, last⟩ := mem_lineNumbers.mp inside
  simp only [lineCheck, allFiled_append]
  refine ⟨⟨?_, ?_⟩, ?_⟩
  · exact LineLint.allFiled_check first last fun rule member => listed rule (.inl member)
  · exact allFiled_ite_at first last chained
  · exact LineLint.allFiled_check first last fun rule member => listed rule (.inr member)

end Script

namespace Language

variable (language : Language) (text : List Char)

theorem issues_rules : ∀ rule ∈ language.rules, language.Issues rule.toNotice :=
  fun _ member => .rule (List.mem_append_right _ member)

theorem exists_ownCheck :
    ∃ own, language.ownCheck text = .ok own ∧ AllFiled language.Issues (lines text) own := by
  cases language with
  | c => exact ⟨_, rfl, CFamily.allFiled_check (issues_rules c) (.written (.head _)) text⟩
  | cpp => exact ⟨_, rfl, CFamily.allFiled_check (issues_rules cpp) (.written (.head _)) text⟩
  | csharp => exact ⟨_, rfl, allFiled_scanRules (issues_rules csharp) text⟩
  | css => exact ⟨_, rfl, allFiled_scanRules (issues_rules css) text⟩
  | go => exact ⟨_, rfl, Go.allFiled_check text⟩
  | html => exact ⟨_, rfl, allFiled_scanRules (issues_rules html) text⟩
  | java => exact ⟨_, rfl, Java.allFiled_check text⟩
  | javascript =>
      exact Script.exists_check (issues_rules javascript) (.written (.head _))
        (.written (.tail _ (.head _))) text
  | php => exact ⟨_, rfl, allFiled_scanRules (issues_rules php) text⟩
  | python => exact ⟨_, rfl, Python.allFiled_check text⟩
  | ruby => exact ⟨_, rfl, allFiled_scanRules (issues_rules ruby) text⟩
  | rust => exact ⟨_, rfl, allFiled_scanRules (issues_rules rust) text⟩
  | typescript =>
      exact Script.exists_check (issues_rules typescript) (.written (.head _))
        (.written (.tail _ (.head _))) text

theorem allFiled_commonCheck : AllFiled language.Issues (lines text) (commonCheck text) := by
  rw [commonCheck, allFiled_append]
  constructor
  · exact allFiled_scanRules (fun rule member => .rule (by simp [member])) text
  · exact Quality.allFiled_check (fun rule member => .rule (by simp [member])) .longFunction text

theorem exists_findings :
    ∃ own, language.ownCheck text = .ok own ∧
      language.findings text = .ok (commonCheck text ++ own) ∧
      AllFiled language.Issues (lines text) (commonCheck text ++ own) := by
  obtain ⟨own, checked, filed⟩ := language.exists_ownCheck text
  refine ⟨own, checked, by rw [findings, checked]; rfl, ?_⟩
  exact allFiled_append.mpr ⟨language.allFiled_commonCheck text, filed⟩

end Language

end LineLint
