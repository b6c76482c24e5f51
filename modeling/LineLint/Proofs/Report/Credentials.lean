import LineLint.Proofs.Pattern.Reads
import LineLint.Proofs.Report.ByMessage

namespace LineLint

/-- A name of credentials in any case, a colon or an equals sign, and a quoted text of at least four
characters. Blanks may stand on both sides of the sign; each of the two quotes is of either kind. -/
inductive IsCredential : List Char → Prop
  | assigned {name : String} {spelled gap space value : List Char} {sign opening closing : Char}
      (named : name ∈ ["password", "passwd", "pwd", "secret", "api_key", "apikey", "token"])
      (spells : IsSpelling name.toList spelled)
      (blankGap : CharSet.blank.Spans gap)
      (assigns : sign ∈ [':', '='])
      (blankSpace : CharSet.blank.Spans space)
      (opens : opening ∈ ['"', '\''])
      (unquoted : ∀ x ∈ value, x ∉ ['"', '\''])
      (long : 4 ≤ value.length)
      (closes : closing ∈ ['"', '\'']) :
      IsCredential
        (spelled ++ gap ++ [sign] ++ space ++ [opening] ++ value ++ [closing])

def HoldsCredential (line : Line) : Prop :=
  ∃ credential, IsCredential credential ∧ credential <:+: line

namespace Security

open Pattern

theorem takes_credentialsPattern : credentialsPattern.Takes IsCredential := by
  have names := @Takes.anyOfAnyCase credentialNames (by decide)
  have gaps : gap.Takes CharSet.blank.Spans := .many _
  have quotes : quote.Takes _ := .one _
  have run : (upTo ['"', '\'']).Takes fun taken =>
      (CharSet.noneOf ['"', '\'']).Spans taken ∧ 0 ≤ taken.length := by
    intro before taken after kept
    simp only [reads_upTo, Nat.zero_le, and_true]
  have assignment := ((names.append gaps).append (.one (.oneOf [':', '=']))).append gaps
  have quoted := (assignment.append quotes).append run.one_append.one_append.one_append.one_append
  refine (quoted.assoc.assoc.assoc.assoc.append quotes).congr ?_
  intro taken
  constructor
  · rintro ⟨_, _, rfl, ⟨_, value, rfl, ⟨_, _, rfl, ⟨_, space, rfl, ⟨_, _, rfl, ⟨spelled, gap, rfl,
      ⟨name, named, spells⟩, blankGap⟩, sign, assigns, rfl⟩, blankSpace⟩, opening, opens, rfl⟩,
      unquoted, long⟩, closing, closes, rfl⟩
    exact .assigned named spells blankGap (by simpa using assigns) blankSpace (by simpa using opens)
      (CharSet.spans_noneOf.mp unquoted) long (by simpa using closes)
  · rintro ⟨named, spells, blankGap, assigns, blankSpace, opens, unquoted, long, closes⟩
    exact ⟨_, _, rfl, ⟨_, _, rfl, ⟨_, _, rfl, ⟨_, _, rfl, ⟨_, _, rfl, ⟨_, _, rfl,
      ⟨_, named, spells⟩, blankGap⟩, _, by simpa using assigns, rfl⟩, blankSpace⟩, _,
      by simpa using opens, rfl⟩, CharSet.spans_noneOf.mpr unquoted, long⟩, _,
      by simpa using closes, rfl⟩

theorem occursIn_credentialsPattern {line : Line} :
    credentialsPattern.occursIn line = true ↔ HoldsCredential line :=
  takes_credentialsPattern.occursIn_iff

def isCredentials (message : String) : Bool := message == "Hardcoded Credentials"

open Classical in
theorem check_hardcodedCredentials (number : Nat) (line : Line) :
    Rule.check [hardcodedCredentials] number line =
      if HoldsCredential line then [hardcodedCredentials.toNotice.at number line] else [] := by
  have applies : hardcodedCredentials.applies line = credentialsPattern.occursIn line :=
    Rule.applies_of_veto_eq_none rfl line
  simp only [Rule.check_singleton, applies, occursIn_credentialsPattern]

end Security

def Report.credentialsOn (report : Report) (number : Nat) : List Bug :=
  (report.bugs.filter (·.isOn number)).filter (Security.isCredentials ·.message)

theorem asksRules_isCredentials (language : Language) :
    language.AsksRules Security.isCredentials where
  stateless := by
    intro message names
    rw [eq_of_beq names]
    decide
  unasked := by cases language <;> decide

theorem rulesFor_isCredentials (language : Language) :
    language.rulesFor Security.isCredentials = [Security.hardcodedCredentials] := by
  cases language <;> decide

theorem toFinding_credentialsOn {language : Language} {code : String} {report : Report}
    (reported : analyzeStandard code language.name = .ok report) (number : Nat) :
    (report.credentialsOn number).map Bug.toFinding =
      Rule.check [Security.hardcodedCredentials] number (lineAt (lines code.toList) number) := by
  by_cases inside : number ∈ lineNumbers (lines code.toList)
  · rw [Report.credentialsOn, (asksRules_isCredentials language).map_toFinding reported inside,
      rulesFor_isCredentials]
  · -- a line that the text does not have is empty, and nothing is filed under its number
    rw [Report.credentialsOn, filter_isOn_bugs_of_not_mem reported inside, lineAt_of_not_mem inside]
    rfl

/-- In every language a report names hardcoded credentials on the lines that hold a credential, once
on each, and on no other line. -/
theorem credentials_reported (language : Language) (code : String) :
    ∃ report, analyzeStandard code language.name = .ok report ∧ ∀ number : Nat,
      (HoldsCredential (lineAt (lines code.toList) number) ↔
        ∃ bug, report.credentialsOn number = [bug] ∧ bug.severity = .critical ∧
          bug.category = "Security" ∧ bug.column = none) ∧
      (¬HoldsCredential (lineAt (lines code.toList) number) ↔
        report.credentialsOn number = []) := by
  obtain ⟨report, reported⟩ := exists_report code language.name
  refine ⟨report, reported, fun number => ?_⟩
  have found := toFinding_credentialsOn reported number
  rw [Security.check_hardcodedCredentials] at found
  by_cases holds : HoldsCredential (lineAt (lines code.toList) number)
  · rw [if_pos holds, List.map_eq_singleton_iff] at found
    obtain ⟨bug, only, same⟩ := found
    have present : ∃ bug, report.credentialsOn number = [bug] ∧ bug.severity = .critical ∧
        bug.category = "Security" ∧ bug.column = none :=
      ⟨bug, only, by rw [same]; rfl, by rw [same]; rfl, by rw [same]; rfl⟩
    exact ⟨iff_of_true holds present, iff_of_false (not_not_intro holds) (by simp [only])⟩
  · rw [if_neg holds, List.map_eq_nil_iff] at found
    exact ⟨iff_of_false holds (by simp [found]), iff_of_true holds found⟩

end LineLint
