import LineLint.Proofs.Check.Stateless
import LineLint.Proofs.Report.LineOrder

namespace LineLint

namespace Language

/-- The checks of every language and those of this one that carry nothing from line to line. -/
def lineCheck (language : Language) : LineCheck := fun number line rest =>
  Rule.check Security.rules number line ++ Rule.check Quality.rules number line ++
    language.localCheck number line rest

theorem isLocal_lineCheck (language : Language) : IsLocal language.reach language.lineCheck :=
  ((isLocal_check _ _).append (isLocal_check _ _)).append language.isLocal_localCheck

/-- The passes of an analysis, each over the whole text, say of one line what one pass would. -/
theorem filter_isOn_findings {language : Language} {text : List Char} {own : List Finding}
    {number : Nat} (checked : language.ownCheck text = .ok own)
    (inside : number ∈ lineNumbers (lines text)) :
    ((commonCheck text ++ own).filter Finding.isStateless).filter (·.isOn number) =
      language.lineCheck number (lineAt (lines text) number) ((lines text).drop number) := by
  rw [List.filter_append, filter_isStateless_commonCheck, filter_isStateless_ownCheck checked,
    List.filter_append, List.filter_append, filter_isOn_scanRules _ inside,
    filter_isOn_scanRules _ inside, language.isLocal_localCheck.filter_isOn_scan inside]
  rfl

end Language

/-- What a report says of a line, without identifiers, line numbers and the checks that keep a
state. -/
def Report.shownOn (report : Report) (number : Nat) : List Finding :=
  (((report.bugs.map Bug.toFinding).filter Finding.isStateless).filter (·.isOn number)).map
    Finding.unplaced

theorem shownOn_eq {language : Language} {code : String} {report : Report} {number : Nat}
    (reported : analyzeStandard code language.name = .ok report)
    (inside : number ∈ lineNumbers (lines code.toList)) :
    report.shownOn number =
      (language.lineCheck number (lineAt (lines code.toList) number)
        ((lines code.toList).drop number)).map Finding.unplaced := by
  obtain ⟨own, bugs, analyzed⟩ := exists_analyzed language code
  obtain rfl : Report.ofBugs bugs = report :=
    Except.ok.inj (analyzed.reported.symm.trans reported)
  have sorted : ((sortBugs bugs).map Bug.toFinding).filter (·.isOn number) =
      (bugs.map Bug.toFinding).filter (·.isOn number) := by
    rw [List.filter_map, List.filter_map]
    exact congrArg (List.map Bug.toFinding) (filter_isOn_sortBugs number)
  rw [Report.shownOn, Report.ofBugs, List.filter_comm, sorted, analyzed.identified,
    List.filter_comm, Language.filter_isOn_findings analyzed.checked inside]

/-- Lines with equal views have equal findings, wherever they stand and whatever the rest of their
texts is. -/
theorem findings_local (language : Language) {code other : String} {number position : Nat}
    (inside : number ∈ lineNumbers (lines code.toList))
    (otherInside : position ∈ lineNumbers (lines other.toList))
    (same : view language.reach (lines code.toList) number =
      view language.reach (lines other.toList) position) :
    ∃ report otherReport,
      analyzeStandard code language.name = .ok report ∧
      analyzeStandard other language.name = .ok otherReport ∧
      report.shownOn number = otherReport.shownOn position := by
  obtain ⟨report, reported⟩ := exists_report code language.name
  obtain ⟨otherReport, otherReported⟩ := exists_report other language.name
  refine ⟨report, otherReport, reported, otherReported, ?_⟩
  rw [shownOn_eq reported inside, shownOn_eq otherReported otherInside]
  exact language.isLocal_lineCheck.unplaced_eq inside otherInside same

/-- Two lines at the end of one text and in the middle of another. -/
theorem findings_local_of_go :
    let code := "err := f()\ng()"
    let other := "// a\nerr := f()\ng()\nh()"
    1 ∈ lineNumbers (lines code.toList) ∧ 2 ∈ lineNumbers (lines other.toList) ∧
      view Language.go.reach (lines code.toList) 1 = view Language.go.reach (lines other.toList) 2 ∧
      ∃ report otherReport,
        analyzeStandard code "go" = .ok report ∧
        analyzeStandard other "go" = .ok otherReport ∧
        (report.shownOn 1).map (·.message) = ["Error not checked"] ∧
        report.shownOn 1 = otherReport.shownOn 2 := by
  intro code other
  have inside : 1 ∈ lineNumbers (lines code.toList) := by decide
  have otherInside : 2 ∈ lineNumbers (lines other.toList) := by decide
  have same : view Language.go.reach (lines code.toList) 1 =
      view Language.go.reach (lines other.toList) 2 := by decide
  obtain ⟨report, otherReport, reported, otherReported, shown⟩ :=
    findings_local .go inside otherInside same
  have found : (report.shownOn 1).map (·.message) = ["Error not checked"] := by
    rw [shownOn_eq reported inside]
    decide +kernel
  exact ⟨inside, otherInside, same, report, otherReport, reported, otherReported, found, shown⟩

end LineLint
