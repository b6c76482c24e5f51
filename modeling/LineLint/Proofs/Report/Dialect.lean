import LineLint.Proofs.Report.Aggregation
import Mathlib.Data.List.Forall2

namespace LineLint

section

variable {bugs others : List Bug} {kept : Finding → Bool}

theorem map_filter_sortBugs
    (same : (bugs.map Bug.toFinding).filter kept = others.map Bug.toFinding) :
    ((sortBugs bugs).filter fun bug => kept bug.toFinding).map Bug.toFinding =
      (sortBugs others).map Bug.toFinding := by
  refine @eq_of_filter_line_eq _ Finding.line _ _ ?_ ?_ ?_
  · apply List.pairwise_map.mpr
    exact pairwise_sortBugs.filter _
  · apply List.pairwise_map.mpr
    exact pairwise_sortBugs
  · intro line
    have level : ∀ listed : List Bug,
        ((sortBugs listed).map Bug.toFinding).filter (·.line == line) =
          (listed.map Bug.toFinding).filter (·.line == line) := by
      intro listed
      rw [List.filter_map, List.filter_map]
      exact congrArg (List.map Bug.toFinding) (filter_line_sortBugs line)
    have left : ((sortBugs bugs).filter fun bug => kept bug.toFinding).map Bug.toFinding =
        ((sortBugs bugs).map Bug.toFinding).filter kept := by
      rw [List.filter_map]
      rfl
    rw [left, List.filter_comm, level, List.filter_comm, same, level]

theorem Summary.ofBugs_eq_of_map_eq (same : bugs.map Bug.toFinding = others.map Bug.toFinding) :
    Summary.ofBugs bugs = Summary.ofBugs others := by
  ext severity
  have counted : ∀ listed : List Bug, listed.countP (·.severity == severity) =
      (listed.map Bug.toFinding).countP (·.severity == severity) := by
    intro listed
    rw [List.countP_map]
    rfl
  rw [count_ofBugs, count_ofBugs, counted, counted, same]

theorem Summary.count_ofBugs_eq_add (severity : Severity) :
    (ofBugs bugs).count severity =
      (ofBugs (bugs.filter fun bug => kept bug.toFinding)).count severity +
        bugs.countP fun bug => !kept bug.toFinding && bug.severity == severity := by
  have split := List.countP_eq_countP_filter_add bugs (·.severity == severity)
    (fun bug => kept bug.toFinding)
  simp only [count_ofBugs, split, List.countP_filter, Bool.and_comm]

end

def Finding.isTyping (finding : Finding) : Bool := finding.category == "TypeScript"

section

variable {number : Nat} {line : Line} {table : List Rule}

theorem filter_check_of_untyped (untyped : ∀ rule ∈ table, rule.category ≠ "TypeScript") :
    (Rule.check table number line).filter (!·.isTyping) = Rule.check table number line := by
  apply Rule.filter_check_eq_self
  intro rule listed
  simpa [Finding.isTyping, Notice.at] using untyped rule listed

theorem filter_check_of_typed (typed : ∀ rule ∈ table, rule.category = "TypeScript") :
    (Rule.check table number line).filter (!·.isTyping) = [] := by
  apply Rule.filter_check_eq_nil
  intro rule listed
  simpa [Finding.isTyping, Notice.at] using typed rule listed

end

namespace Script

theorem filter_promiseChains (number : Nat) (line : Line) (rest : List Line) :
    (promiseChains number line rest).filter (!·.isTyping) = promiseChains number line rest := by
  unfold promiseChains
  split <;> rfl

theorem filter_lineCheck (number : Nat) (line : Line) (rest : List Line) :
    (lineCheck typeRules number line rest).filter (!·.isTyping) =
      lineCheck [] number line rest := by
  simp only [lineCheck, trailingRules, Rule.check_append, List.filter_append]
  rw [filter_check_of_untyped (by decide), filter_promiseChains,
    filter_check_of_untyped (by decide), filter_check_of_typed (by decide),
    filter_check_of_untyped (by decide)]
  rfl

theorem filter_consoleFindings {text : List Char} {findings : List Finding}
    (logged : consoleFindings text = .ok findings) :
    findings.filter (!·.isTyping) = findings := by
  unfold consoleFindings at logged
  split at logged
  next =>
    split at logged
    next =>
      cases logged
      rfl
    next => cases logged
  next =>
    cases logged
    rfl

/-- The rules of TypeScript stand in the middle of each line's checks and take nothing from the
others. -/
theorem filter_check {text : List Char} {typed script : List Finding}
    (checked : check typeRules text = .ok typed) (plain : check [] text = .ok script) :
    typed.filter (!·.isTyping) = script := by
  cases logged : consoleFindings text with
  | error fault =>
      rw [check, logged] at checked
      cases checked
  | ok logging =>
      rw [check, logged] at checked plain
      cases checked
      cases plain
      rw [List.filter_append, filter_consoleFindings logged]
      apply congrArg (· ++ logging)
      exact filter_scan filter_lineCheck text

end Script

theorem filter_commonCheck (text : List Char) :
    (commonCheck text).filter (!·.isTyping) = commonCheck text := by
  rw [List.filter_eq_self]
  intro finding member
  obtain ⟨notice, number, issued, -, -, rfl⟩ :=
    Language.allFiled_commonCheck .javascript text finding member
  have other : notice.category ≠ "TypeScript" := by
    cases issued with
    | rule listed =>
        have untyped : ∀ rule ∈ Security.rules ++ Quality.rules ++ Language.javascript.rules,
            rule.category ≠ "TypeScript" := by decide
        exact untyped _ listed
    | written listed =>
        have untyped : ∀ notice ∈ Language.javascript.notices,
            notice.category ≠ "TypeScript" := by decide
        exact untyped _ listed
    | longFunction span =>
        change "Code Quality" ≠ "TypeScript"
        decide
  simpa [Finding.isTyping, Notice.at] using other

/-- The same bug under another language's name. -/
structure Renamed (language other : String) (bug renamed : Bug) : Prop where
  id : ∃ rest, bug.id = language ++ "-" ++ rest ∧ renamed.id = other ++ "-" ++ rest
  same : renamed.toFinding = bug.toFinding

section

variable {language other : String} {bugs renamed : List Bug}

theorem renamed_of_numbered {first : Nat} (numbered : Numbered language first bugs)
    (otherNumbered : Numbered other first renamed)
    (same : renamed.map Bug.toFinding = bugs.map Bug.toFinding) :
    List.Forall₂ (Renamed language other) bugs renamed := by
  have pairs : List.Forall₂ (fun finding again => again = finding) (bugs.map Bug.toFinding)
      (renamed.map Bug.toFinding) := by
    rw [same, List.forall₂_same]
    exact fun _ _ => rfl
  refine (numbered.forall₂ otherNumbered pairs).imp ?_
  rintro bug again ⟨here, place, id, otherId⟩
  have line : again.line = bug.line := congrArg Finding.line here
  refine ⟨⟨toString bug.line ++ "-" ++ toString (first + place), ?_, ?_⟩, here⟩
  · rw [id, bugId]
    simp only [String.append_assoc]
  · rw [otherId, bugId, line]
    simp only [String.append_assoc]

theorem forall₂_sortBugs {related : Bug → Bug → Prop} {others : List Bug}
    (level : ∀ bug other, related bug other → other.line = bug.line)
    (pairs : List.Forall₂ related bugs others) :
    List.Forall₂ related (sortBugs bugs) (sortBugs others) := by
  obtain ⟨length, each⟩ := List.forall₂_iff_zip.mp pairs
  let sorted := (bugs.zip others).mergeSort fun pair later => lineLE pair.1 later.1
  have firsts : sorted.map Prod.fst = sortBugs bugs := by
    rw [List.map_mergeSort (s := lineLE) fun _ _ _ _ => rfl, List.map_fst_zip (Nat.le_of_eq length)]
    rfl
  have seconds : sorted.map Prod.snd = sortBugs others := by
    rw [List.map_mergeSort (s := lineLE), List.map_snd_zip (Nat.le_of_eq length.symm)]
    · rfl
    · intro pair member later laterMember
      rw [lineLE, lineLE, level _ _ (each member), level _ _ (each laterMember)]
  rw [← firsts, ← seconds, List.forall₂_map_left_iff, List.forall₂_map_right_iff, List.forall₂_same]
  intro pair member
  exact each (List.mem_mergeSort.mp member)

end

/-- TypeScript's report without what only TypeScript reports is JavaScript's, in the same order, and
its summary counts what is left out besides; C++'s report is C's but for the name in the
identifiers. -/
theorem dialects_agree (code : String) :
    (∃ script typed,
      analyzeStandard code "javascript" = .ok script ∧
      analyzeStandard code "typescript" = .ok typed ∧
      (typed.bugs.filter (·.category != "TypeScript")).map Bug.toFinding =
        script.bugs.map Bug.toFinding ∧
      ∀ severity, typed.summary.count severity = script.summary.count severity +
        typed.bugs.countP fun bug => bug.category == "TypeScript" && bug.severity == severity) ∧
    ∃ plain extended,
      analyzeStandard code "c" = .ok plain ∧
      analyzeStandard code "cpp" = .ok extended ∧
      List.Forall₂ (Renamed "c" "cpp") plain.bugs extended.bugs ∧
      extended.summary = plain.summary := by
  constructor
  · obtain ⟨scriptOwn, scriptBugs, script⟩ := exists_analyzed .javascript code
    obtain ⟨typedOwn, typedBugs, typed⟩ := exists_analyzed .typescript code
    have left : (typedBugs.map Bug.toFinding).filter (!·.isTyping) =
        scriptBugs.map Bug.toFinding := by
      rw [typed.identified, script.identified, List.filter_append, filter_commonCheck,
        Script.filter_check typed.checked script.checked]
    have sorted := map_filter_sortBugs left
    refine ⟨_, _, script.reported, typed.reported, sorted, ?_⟩
    intro severity
    have counted := @Summary.count_ofBugs_eq_add (sortBugs typedBugs) (!·.isTyping) severity
    rw [Summary.ofBugs_eq_of_map_eq sorted] at counted
    simp only [Bool.not_not] at counted
    exact counted
  · obtain ⟨plainOwn, plainBugs, plain⟩ := exists_analyzed .c code
    obtain ⟨extendedOwn, extendedBugs, extended⟩ := exists_analyzed .cpp code
    have own : extendedOwn = plainOwn :=
      Except.ok.inj (extended.checked.symm.trans plain.checked)
    have same : extendedBugs.map Bug.toFinding = plainBugs.map Bug.toFinding := by
      rw [extended.identified, plain.identified, own]
    have renamed := renamed_of_numbered plain.numbered extended.numbered same
    refine ⟨_, _, plain.reported, extended.reported, ?_, ?_⟩
    · apply forall₂_sortBugs _ renamed
      intro bug other renamed
      exact congrArg Finding.line renamed.same
    · simp only [Report.ofBugs, Summary.ofBugs_sortBugs]
      exact Summary.ofBugs_eq_of_map_eq same

end LineLint
