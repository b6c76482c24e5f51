import LineLint.Analysis
import LineLint.Proofs.Bug.Numbering
import LineLint.Proofs.Check.Filing

namespace LineLint

theorem Registry.lookup_standard (name : String) :
    Registry.standard.lookup name =
      (Language.ofName? name).map fun language code => language.bugs code.toList := by
  rw [Registry.standard, Language.ofName?]
  induction Language.all with
  | nil => rfl
  | cons language rest induction =>
      rw [List.map_cons, List.lookup_cons, List.find?_cons, induction, BEq.comm]
      cases language.name == name <;> rfl

theorem Registry.ruleSet?_standard (language : Text) :
    Registry.standard.ruleSet? language =
      (Language.ofText? language).map fun language code => language.bugs code.toList := by
  cases language with
  | plain name => exact Registry.lookup_standard name
  | broken => rfl

theorem analyzeStandard_of_unregistered {language : Text}
    (unregistered : Language.ofText? language = none) (code : String) :
    analyzeStandard code language = .ok Report.empty := by
  rw [analyzeStandard, analyze, Registry.ruleSet?_standard, unregistered]
  rfl

/-- The findings and the bugs that the analysis of a text goes through. -/
structure Analyzed (language : Language) (code : String) (own : List Finding) (bugs : List Bug) :
    Prop where
  checked : language.ownCheck code.toList = .ok own
  found : language.findings code.toList = .ok (commonCheck code.toList ++ own)
  identified : bugs.map Bug.toFinding = commonCheck code.toList ++ own
  numbered : Numbered language.name 0 bugs
  filed : AllFiled language.Issues (lines code.toList) (commonCheck code.toList ++ own)
  reported : analyzeStandard code language.name = .ok (Report.ofBugs bugs)

theorem exists_analyzed (language : Language) (code : String) :
    ∃ own bugs, Analyzed language code own bugs := by
  obtain ⟨own, checked, found, filed⟩ := language.exists_findings code.toList
  obtain ⟨bugs, entered, identified, numbered⟩ := exists_numbered filed.one_le_line language.name
  have analyzed : language.bugs code.toList = .ok bugs := by
    rw [Language.bugs, found]
    exact entered
  refine ⟨own, bugs, checked, found, identified, numbered, filed, ?_⟩
  rw [analyzeStandard, analyze, Registry.ruleSet?_standard, Language.ofText?_name]
  simp only [Option.map_some, analyzed]
  rfl

theorem Language.eq_name_of_ofText? {name : Text} {language : Language}
    (registered : ofText? name = some language) : name = language.name := by
  cases name with
  | plain name =>
      have named : language.name = name := eq_of_beq (List.find?_some registered :)
      rw [named]
  | broken => cases registered

theorem Language.ofText?_eq_none {name : Text}
    (unregistered : ∀ known : Language, name ≠ known.name) :
    ofText? name = none := by
  cases registered : ofText? name with
  | none => rfl
  | some known => exact absurd (eq_name_of_ofText? registered) (unregistered known)

theorem exists_report (code : String) (language : Text) :
    ∃ report, analyzeStandard code language = .ok report := by
  cases registered : Language.ofText? language with
  | none => exact ⟨Report.empty, analyzeStandard_of_unregistered registered code⟩
  | some found =>
      obtain ⟨own, bugs, analyzed⟩ := exists_analyzed found code
      rw [Language.eq_name_of_ofText? registered]
      exact ⟨Report.ofBugs bugs, analyzed.reported⟩

end LineLint
