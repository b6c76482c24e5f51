import LineLint.Proofs.Pattern.Refinement
import LineLint.Proofs.Report.ByMessage

namespace LineLint

/-- Where the second rule applies the first one does, and points at the same place. -/
structure Rule.Covers (first second : Rule) : Prop where
  applies : ∀ line, second.applies line = true → first.applies line = true
  anchors : first.anchors = second.anchors
  severity : first.severity = second.severity

theorem Rule.covers_of_refines {first second : Rule}
    (refines : second.pattern.Refines first.pattern)
    (sameSubject : first.onStripped = second.onStripped) (unvetoed : first.veto = none)
    (anchors : first.anchors = second.anchors)
    (severity : first.severity = second.severity) : first.Covers second where
  applies line applied := by
    have occurs := (Bool.and_eq_true_iff.mp applied).1
    have subject : first.subject line = second.subject line := by
      rw [Rule.subject, Rule.subject, sameSubject]
    rw [Rule.applies, Rule.vetoed, unvetoed, subject, refines.occursIn occurs]
    rfl
  anchors := anchors
  severity := severity

namespace Rule.Covers

variable {first second : Rule} (covers : first.Covers second) {number : Nat} {line : Line}

include covers

theorem column_at :
    (first.toNotice.at number line).column = (second.toNotice.at number line).column := by
  rw [Notice.at, Notice.at, covers.anchors]

theorem check_eq (distinct : first.message ≠ second.message) {finding : Finding}
    (member : finding ∈ Rule.check [first, second] number line)
    (named : finding.message = second.message) :
    Rule.check [first, second] number line =
      [first.toNotice.at number line, second.toNotice.at number line] := by
  obtain ⟨rule, listed, applies, rfl⟩ := mem_check_iff.mp member
  rcases List.mem_pair.mp listed with rfl | rfl
  · exact absurd named distinct
  · simp [Rule.check, applies, covers.applies line applies]

end Rule.Covers

namespace Language

/-- The message of a rule of a language, and that of the rule of every language that covers it. -/
inductive Doubles : Language → (special common : String) → Prop
  | emptyCatch {language : Language} (listed : language ∈ [java, csharp]) :
      Doubles language "Empty catch block" "Empty Catch Block"
  | eval {language : Language} (listed : language ∈ [python, php, ruby]) :
      Doubles language "Dangerous eval() usage" "Dangerous eval() Usage"
  | todo {language : Language} (listed : language ∈ [c, cpp, csharp, go, rust]) :
      Doubles language "TODO comment" "TODO Comment"

namespace Doubles

open Pattern

theorem emptyCatch_refines :
    (spaced ["catch", "("] ++ someUpTo [')'] ++ spaced [")", "\x7b", "\x7d"]).Refines
      Quality.emptyCatch.pattern :=
  ((Refines.refl _).append (.someUpTo_upTo _)).append (.refl _)

theorem todo_refines {opening : String} (listed : opening ∈ ["//", "/*"]) :
    (spaced [opening, "TODO"]).Refines Quality.todoComment.pattern :=
  ((Refines.lit_anyOf listed).append (.refl _)).append (.lit_litAnyCase _)

variable {language : Language} {special common : String}

theorem exists_rules (doubles : language.Doubles special common) :
    ∃ first second : Rule, language.rulesFor [common, special].contains = [first, second] ∧
      first.message = common ∧ second.message = special ∧ first.Covers second := by
  cases doubles with
  | emptyCatch listed =>
      simp only [List.mem_cons, List.not_mem_nil, or_false] at listed
      rcases listed with rfl | rfl
      · exact ⟨Quality.emptyCatch, Java.emptyCatch, by decide, rfl, rfl,
          Rule.covers_of_refines emptyCatch_refines rfl rfl rfl rfl⟩
      · exact ⟨Quality.emptyCatch, CSharp.emptyCatch, by decide, rfl, rfl,
          Rule.covers_of_refines emptyCatch_refines rfl rfl rfl rfl⟩
  | eval listed =>
      simp only [List.mem_cons, List.not_mem_nil, or_false] at listed
      rcases listed with rfl | rfl | rfl
      · exact ⟨Security.evalUsage, Python.evalUsage, by decide, rfl, rfl,
          Rule.covers_of_refines (.refl _) rfl rfl rfl rfl⟩
      · exact ⟨Security.evalUsage, Php.evalUsage, by decide, rfl, rfl,
          Rule.covers_of_refines (.refl _) rfl rfl rfl rfl⟩
      · exact ⟨Security.evalUsage, Ruby.evalUsage, by decide, rfl, rfl,
          Rule.covers_of_refines (.wordEdge_append _) rfl rfl rfl rfl⟩
  | todo listed =>
      have line := @todo_refines "//" (by decide)
      have block := @todo_refines "/*" (by decide)
      simp only [List.mem_cons, List.not_mem_nil, or_false] at listed
      rcases listed with rfl | rfl | rfl | rfl | rfl
      · exact ⟨Quality.todoComment, CFamily.todoComment, by decide, rfl, rfl,
          Rule.covers_of_refines (line.of_or block) rfl rfl rfl rfl⟩
      · exact ⟨Quality.todoComment, CFamily.todoComment, by decide, rfl, rfl,
          Rule.covers_of_refines (line.of_or block) rfl rfl rfl rfl⟩
      · exact ⟨Quality.todoComment, CSharp.todoComment, by decide, rfl, rfl,
          Rule.covers_of_refines line rfl rfl rfl rfl⟩
      · exact ⟨Quality.todoComment, Go.todoComment, by decide, rfl, rfl,
          Rule.covers_of_refines line rfl rfl rfl rfl⟩
      · exact ⟨Quality.todoComment, Rust.todoComment, by decide, rfl, rfl,
          Rule.covers_of_refines line rfl rfl rfl rfl⟩

theorem asksRules (doubles : language.Doubles special common) :
    language.AsksRules [common, special].contains where
  stateless := by
    intro message named
    simp only [List.contains_iff_mem, List.mem_cons, List.not_mem_nil, or_false] at named
    cases doubles <;> rcases named with rfl | rfl <;> decide
  unasked := by cases doubles <;> cases language <;> decide

theorem ne (doubles : language.Doubles special common) : common ≠ special := by
  cases doubles <;> decide

end Doubles

end Language

/-- The bug repeats another one, which stands before it and is in words of its own; no further bug
of the line is in the words of either. -/
structure Report.Repeats (report : Report) (common : String) (bug other : Bug) : Prop where
  message : other.message = common
  line : other.line = bug.line
  column : other.column = bug.column
  snippet : other.snippet = bug.snippet
  severity : other.severity = bug.severity
  before : [other, bug].Sublist report.bugs
  only : (report.bugs.filter (·.line == bug.line)).filter
    ([common, bug.message].contains ·.message) = [other, bug]

/-- What a language's rule reports in the words of one that a rule of every language covers is a
repetition of what the latter reports. -/
theorem doubled_findings_paired {language : Language} {special common : String}
    (doubles : language.Doubles special common) (code : String) :
    ∃ report, analyzeStandard code language.name = .ok report ∧
      ∀ bug ∈ report.bugs, bug.message = special → ∃ other, report.Repeats common bug other := by
  obtain ⟨report, reported⟩ := exists_report code language.name
  refine ⟨report, reported, fun bug member named => ?_⟩
  obtain ⟨first, second, rules, rfl, rfl, covers⟩ := doubles.exists_rules
  obtain ⟨number, inside, on⟩ := exists_isOn_of_mem reported member
  have found := doubles.asksRules.map_toFinding reported inside
  rw [rules] at found
  have asked : bug ∈ (report.bugs.filter (·.isOn number)).filter
      ([first.message, second.message].contains ·.message) := by
    simp [member, on, named]
  have checked : bug.toFinding ∈
      Rule.check [first, second] number (lineAt (lines code.toList) number) := by
    rw [← found]
    exact List.mem_map_of_mem asked
  rw [covers.check_eq doubles.ne checked named] at found
  obtain ⟨other, _, only, shown, tail⟩ := List.map_eq_cons_iff.mp found
  obtain ⟨last, _, rfl, lastShown, nil⟩ := List.map_eq_cons_iff.mp tail
  obtain rfl := List.map_eq_nil_iff.mp nil
  have otherNamed : other.message = first.message := congrArg Finding.message shown
  have same : bug = last := by
    rw [only] at asked
    rcases List.mem_pair.mp asked with rfl | same
    · exact absurd (otherNamed.symm.trans named) doubles.ne
    · exact same
  subst same
  have line : bug.line = number := Finding.isOn_iff.mp on
  refine ⟨other, {
    message := otherNamed
    line := (congrArg Finding.line shown).trans line.symm
    column := ?_
    snippet := (congrArg Finding.snippet shown).trans (congrArg Finding.snippet lastShown).symm
    severity := ?_
    before := ?_
    only := ?_ }⟩
  · exact (congrArg Finding.column shown).trans
      (covers.column_at.trans (congrArg Finding.column lastShown).symm)
  · exact (congrArg Finding.severity shown).trans
      (covers.severity.trans (congrArg Finding.severity lastShown).symm)
  · rw [← only]
    exact List.filter_sublist.trans List.filter_sublist
  · rw [line, named]
    exact only

/-- A call of `eval` in Ruby, whose rule asks for an edge of a word. -/
theorem doubled_findings_paired_of_eval :
    let code := "# run\nx = eval (y)"
    Language.ruby.Doubles "Dangerous eval() usage" "Dangerous eval() Usage" ∧
      ∃ report bug other, analyzeStandard code "ruby" = .ok report ∧ bug ∈ report.bugs ∧
        bug.message = "Dangerous eval() usage" ∧ bug.line = 2 ∧ bug.column = some 4 ∧
        report.Repeats "Dangerous eval() Usage" bug other := by
  intro code
  have doubles : Language.ruby.Doubles "Dangerous eval() usage" "Dangerous eval() Usage" :=
    .eval (by decide)
  obtain ⟨report, reported, repeats⟩ := doubled_findings_paired doubles code
  have inside : 2 ∈ lineNumbers (lines code.toList) := by decide
  have found := doubles.asksRules.map_toFinding reported inside
  have checked : Ruby.evalUsage.at 2 "x = eval (y)".toList ∈
      Rule.check (Language.ruby.rulesFor
        ["Dangerous eval() Usage", "Dangerous eval() usage"].contains) 2
        (lineAt (lines code.toList) 2) := by
    decide +kernel
  rw [Nat.cast_ofNat] at found
  rw [← found] at checked
  obtain ⟨bug, asked, shown⟩ := List.mem_map.mp checked
  have member := (List.mem_filter.mp (List.mem_filter.mp asked).1).1
  have named : bug.message = "Dangerous eval() usage" := congrArg Finding.message shown
  have line : bug.line = 2 := congrArg Finding.line shown
  have column : bug.column = some 4 := (congrArg Finding.column shown).trans (by decide)
  obtain ⟨other, repeated⟩ := repeats bug member named
  exact ⟨doubles, report, bug, other, reported, member, named, line, column, repeated⟩

end LineLint
