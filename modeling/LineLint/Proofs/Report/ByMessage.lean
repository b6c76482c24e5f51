import LineLint.Proofs.Report.Local

namespace LineLint

section

variable {language : Language} {code : String} {report : Report}
variable (reported : analyzeStandard code language.name = .ok report)

include reported

theorem exists_isOn_of_mem {bug : Bug} (member : bug ∈ report.bugs) :
    ∃ number ∈ lineNumbers (lines code.toList), bug.isOn number = true := by
  obtain ⟨own, bugs, analyzed⟩ := exists_analyzed language code
  obtain rfl : Report.ofBugs bugs = report :=
    Except.ok.inj (analyzed.reported.symm.trans reported)
  exact analyzed.exists_isOn bug (List.mem_mergeSort.mp member)

theorem filter_isOn_bugs_of_not_mem {number : Nat}
    (outside : number ∉ lineNumbers (lines code.toList)) :
    report.bugs.filter (·.isOn number) = [] := by
  rw [List.filter_eq_nil_iff]
  intro bug member on
  obtain ⟨other, inside, otherOn⟩ := exists_isOn_of_mem reported member
  have same : (number : Int) = other :=
    (Finding.isOn_iff.mp on).symm.trans (Finding.isOn_iff.mp otherOn)
  exact outside (Int.ofNat.inj same ▸ inside)

end

namespace Language

/-- The messages that are asked for belong to rules; no other check of the language uses them. -/
structure AsksRules (language : Language) (asked : String → Bool) : Prop where
  stateless : ∀ message, asked message = true → isStateful message = false
  unasked : ∀ notice ∈ language.notices, asked notice.message = false

/-- The rules of every language and then those of this one, as far as their messages are asked
for. -/
def rulesFor (language : Language) (asked : String → Bool) : List Rule :=
  (Security.rules ++ Quality.rules ++ language.rules).filter (asked ·.message)

namespace AsksRules

variable {language : Language} {asked : String → Bool} (asks : language.AsksRules asked)
variable {number : Nat} {line : Line}

include asks

theorem filter_localCheck (rest : List Line) :
    (language.localCheck number line rest).filter (asked ·.message) =
      Rule.check (language.rules.filter (asked ·.message)) number line := by
  have unasked := asks.unasked
  cases language with
  | c | cpp =>
      simp only [localCheck, CFamily.localCheck, rules, List.filter_append, Rule.filter_check,
        Rule.check_append]
  | go =>
      have printing : asked Go.fmtPrint.message = false := by
        by_contra names
        have stateful : isStateful Go.fmtPrint.message = true := by decide
        rw [asks.stateless _ (Bool.of_not_eq_false names)] at stateful
        cases stateful
      have told : [Go.fmtPrint, Go.todoComment].filter (asked ·.message) =
          [Go.todoComment].filter (asked ·.message) := List.filter_cons_of_neg (by simp [printing])
      simp only [notices, List.forall_mem_cons] at unasked
      simp only [localCheck, Go.localCheck, Go.uncheckedErrors, Go.uncheckedParses, rules,
        List.filter_append, Rule.filter_check, told]
      rw [Notice.filter_message_ite_at unasked.1, Notice.filter_message_ite_at unasked.2.1,
        List.nil_append, List.append_nil]
  | java =>
      simp only [notices, List.forall_mem_cons] at unasked
      have tables : rules java =
          [Java.systemOut] ++ Java.comparisonRules ++ Java.trailingRules := rfl
      simp only [localCheck, Java.localCheck, Java.suppressions_eq, Java.nullPointerRisks, tables,
        List.filter_append, Rule.filter_check, Rule.check_append]
      rw [Notice.filter_message_ite_at unasked.1, Notice.filter_message_ite_at unasked.2.1,
        List.append_nil, List.append_nil]
  | javascript | typescript =>
      simp only [notices, List.forall_mem_cons] at unasked
      simp only [localCheck, Script.lineCheck, Script.promiseChains, rules, List.filter_append,
        Rule.filter_check, Rule.check_append]
      rw [Notice.filter_message_ite_at unasked.1, List.append_nil]
  | csharp | css | html | php | python | ruby | rust => exact Rule.filter_check _ _ asked _

theorem filter_lineCheck (rest : List Line) :
    (language.lineCheck number line rest).filter (asked ·.message) =
      Rule.check (language.rulesFor asked) number line := by
  rw [lineCheck, List.filter_append, List.filter_append, asks.filter_localCheck,
    Rule.filter_check _ _ asked, Rule.filter_check _ _ asked, rulesFor, List.filter_append,
    List.filter_append, Rule.check_append, Rule.check_append]

theorem map_toFinding {code : String} {report : Report}
    (reported : analyzeStandard code language.name = .ok report)
    (inside : number ∈ lineNumbers (lines code.toList)) :
    ((report.bugs.filter (·.isOn number)).filter (asked ·.message)).map Bug.toFinding =
      Rule.check (language.rulesFor asked) number (lineAt (lines code.toList) number) := by
  obtain ⟨own, bugs, analyzed⟩ := exists_analyzed language code
  obtain rfl : Report.ofBugs bugs = report :=
    Except.ok.inj (analyzed.reported.symm.trans reported)
  have sorted : (((Report.ofBugs bugs).bugs.filter (·.isOn number)).filter (asked ·.message)).map
        Bug.toFinding =
      ((commonCheck code.toList ++ own).filter (·.isOn number)).filter (asked ·.message) := by
    rw [Report.ofBugs, filter_isOn_sortBugs, ← analyzed.identified, List.filter_map,
      List.filter_map]
    rfl
  rw [sorted, List.filter_comm, ← filter_message_isStateless asks.stateless, List.filter_comm,
    filter_isOn_findings analyzed.checked inside, asks.filter_lineCheck]

end AsksRules

end Language

/-- The findings on a line that are in the words of a message. -/
def reportsOf (message : String) (number : Nat) (findings : List Finding) : List Finding :=
  (findings.filter (·.isOn number)).filter (·.message == message)

/-- Where one rule speaks in a message, the checks of its language report in it what this rule says
of the line. -/
theorem Language.reportsOf_ownCheck (language : Language) {message : String} {rule : Rule}
    {text : List Char} {own : List Finding} (stateless : isStateful message = false)
    (unasked : ∀ notice ∈ language.notices, (notice.message == message) = false)
    (only : language.rules.filter (·.message == message) = [rule])
    (silent : rule.applies [] = false) (checked : language.ownCheck text = .ok own) (number : Nat) :
    reportsOf message number own = Rule.check [rule] number (lineAt (lines text) number) := by
  have asks : language.AsksRules (· == message) := by
    refine ⟨?_, unasked⟩
    intro other named
    rwa [eq_of_beq named]
  by_cases inside : number ∈ lineNumbers (lines text)
  · rw [reportsOf, List.filter_comm, ← filter_message_isStateless asks.stateless,
      filter_isStateless_ownCheck checked, List.filter_comm,
      language.isLocal_localCheck.filter_isOn_scan inside, asks.filter_localCheck, only]
  · -- an empty line, and a number under which nothing is filed
    obtain ⟨other, otherChecked, filed⟩ := language.exists_ownCheck text
    obtain rfl : own = other := Except.ok.inj (checked.symm.trans otherChecked)
    rw [reportsOf, filed.filter_isOn_of_not_mem inside, lineAt_of_not_mem inside,
      Rule.check_singleton, silent]
    rfl

end LineLint
