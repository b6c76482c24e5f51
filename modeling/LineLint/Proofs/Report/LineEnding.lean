import LineLint.Proofs.Analysis
import LineLint.Proofs.Check.LineEnd

namespace LineLint

theorem ended_writeBreaks (text : List Char) :
    List.Forall₂ (Ended '\r') (lines text) (lines (writeBreaks .both text)) := by
  rw [lines_writeBreaks]
  exact forall₂_ended_endLines (lines text)

theorem scanRules_writeBreaks {table : List Rule}
    (ignores : ∀ rule ∈ table, rule.ignoresLast '\r' = true) (text : List Char) :
    scanRules table (writeBreaks .both text) = scanRules table text := by
  apply scanFrom_ended _ (ended_writeBreaks text)
  intro number line other rest later ends
  exact Rule.check_ended (by decide) ignores number ends

theorem Quality.check_writeBreaks (text : List Char) :
    Quality.check (writeBreaks .both text) = Quality.check text := by
  have blank : isBlank '\r' = true := by decide
  have spelled : functionSyntax.ignoresLast '\r' = true := by decide
  have ignores : ∀ rule ∈ Quality.rules, rule.ignoresLast '\r' = true := by decide
  have start : BraceSpan.Tracker.Alike '\r' {} {} := .header (.bare [])
  refine Machine.runFrom_ended ?_ (ended_writeBreaks text) start 1
  intro tracker follower number line other rest later alike ends
  obtain ⟨next, spans⟩ := alike.feed blank spelled number ends
  refine ⟨next, ?_⟩
  simp only [machine]
  rw [Rule.check_ended blank ignores number ends,
    BraceSpan.reportLong_alike blank (fun _ _ => rfl) (fun _ => rfl) spans]

theorem commonCheck_writeBreaks (text : List Char) :
    commonCheck (writeBreaks .both text) = commonCheck text := by
  have ignores : ∀ rule ∈ Security.rules, rule.ignoresLast '\r' = true := by decide
  rw [commonCheck, Security.check, scanRules_writeBreaks ignores, Quality.check_writeBreaks,
    commonCheck, Security.check]

namespace Language

/-- The languages that are checked by a table of rules alone. -/
def tabular : List Language := [csharp, css, html, php, ruby, rust]

variable {language : Language}

theorem ownCheck_eq_scanRules (listed : language ∈ tabular) (text : List Char) :
    language.ownCheck text = .ok (scanRules language.rules text) := by
  cases language with
  | csharp | css | html | php | ruby | rust => rfl
  | c | cpp | go | java | javascript | python | typescript => exact absurd listed (by decide)

theorem ignoresLast_rules : ∀ language ∈ tabular, ∀ rule ∈ language.rules,
    rule.ignoresLast '\r' = true := by
  decide

theorem bugs_writeBreaks (listed : language ∈ tabular) (text : List Char) :
    language.bugs (writeBreaks .both text) = language.bugs text := by
  simp only [bugs, findings, ownCheck_eq_scanRules listed, commonCheck_writeBreaks,
    scanRules_writeBreaks (ignoresLast_rules language listed)]

end Language

/-- A text has the same report whether its lines end in line feeds or in carriage returns and line
feeds. -/
theorem report_writeBreaks {language : Language} (listed : language ∈ Language.tabular)
    (code : String) :
    ∃ report,
      analyzeStandard code language.name = .ok report ∧
      analyzeStandard (String.ofList (writeBreaks .both code.toList)) language.name =
        .ok report := by
  obtain ⟨report, reported⟩ := exists_report code language.name
  refine ⟨report, reported, ?_⟩
  rw [← reported]
  simp only [analyzeStandard, analyze, Registry.ruleSet?_standard, Language.ofText?_name,
    Option.map_some, String.toList_ofList, Language.bugs_writeBreaks listed]

theorem report_writeBreaks_of_longFunction :
    let code := String.ofList ("function f() \x7b".toList ++ List.replicate 51 '\n' ++ ['}'])
    Language.css ∈ Language.tabular ∧
      (Quality.check code.toList).map (·.description) =
        ["Function 'f' has 51 lines. Consider breaking it into smaller functions."] ∧
      ∃ report,
        analyzeStandard code "css" = .ok report ∧
        analyzeStandard (String.ofList (writeBreaks .both code.toList)) "css" = .ok report := by
  intro code
  have listed : Language.css ∈ Language.tabular := by decide
  exact ⟨listed, by decide +kernel, report_writeBreaks listed code⟩

end LineLint
