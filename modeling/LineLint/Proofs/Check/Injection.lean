import LineLint.Proofs.Check.ByLine
import LineLint.Proofs.Pattern.Reads
import LineLint.Proofs.Report.Location
import LineLint.Proofs.Text.LineStart

namespace LineLint

def statementNames : List String := ["execute", "query", "select", "insert", "update", "delete"]

/-- The line has what a statement joined with a text has, or what a text filled in has. -/
inductive SuggestsInjection : Line → Prop
  /-- A keyword in any case, later a plus sign and later a quote. -/
  | joined {keyword : String} {before spelled between further after : List Char} {mark : Char}
      (listed : keyword ∈ statementNames)
      (spells : IsSpelling keyword.toList spelled)
      (quotes : mark ∈ ['"', '\'']) :
      SuggestsInjection (before ++ spelled ++ between ++ ['+'] ++ further ++ [mark] ++ after)
  /-- A quote, later the start of a placeholder, later its end and later a quote. -/
  | filled {before between inside further after : List Char} {opening closing : Char}
      (opens : opening ∈ ['"', '\''])
      (closes : closing ∈ ['"', '\'']) :
      SuggestsInjection
        (before ++ [opening] ++ between ++ ['$', '{'] ++ inside ++ ['}'] ++ further ++ [closing] ++
          after)

namespace Security

open Pattern

theorem takes_quote : quote.Takes fun taken => ∃ mark ∈ ['"', '\''], taken = [mark] := by
  apply (Takes.one (.oneOf ['"', '\''])).congr
  intro taken
  simp only [CharSet.contains_oneOf, List.contains_iff_mem]

/-- A line has no line feed, so that a stretch of it may hold anything. -/
theorem occursIn_sqlPattern {line : Line} (unbroken : '\n' ∉ line) :
    sqlPattern.occursIn line = true ↔ SuggestsInjection line := by
  have names := @Takes.anyOfAnyCase statementNames (by decide)
  have joins := (names.apart (.lit "+")).apart takes_quote
  have fills := ((takes_quote.apart (.lit "$\x7b")).apart (.lit "\x7d")).apart takes_quote
  refine (joins.or fills).occursIn_iff.trans ?_
  constructor
  · rintro ⟨_, parts, before, after, rfl⟩
    cases parts with
    | inl parts =>
        obtain ⟨_, further, _, rfl, statement, -, mark, quotes, rfl⟩ := parts
        obtain ⟨spelled, between, _, rfl, ⟨keyword, listed, spells⟩, -, rfl⟩ := statement
        have suggests := @SuggestsInjection.joined keyword before spelled between further after mark
          listed spells quotes
        simpa using suggests
    | inr parts =>
        obtain ⟨_, further, _, rfl, placeholder, -, closing, closes, rfl⟩ := parts
        obtain ⟨_, inside, _, rfl, start, -, rfl⟩ := placeholder
        obtain ⟨_, between, _, rfl, ⟨opening, opens, rfl⟩, -, rfl⟩ := start
        have suggests := @SuggestsInjection.filled before between inside further after opening
          closing opens closes
        simpa using suggests
  · intro suggests
    cases suggests with
    | @joined keyword before spelled between further after mark listed spells quotes =>
        have apart : '\n' ∉ between ∧ '\n' ∉ further := by simp_all
        refine ⟨_, .inl ⟨spelled ++ between ++ ['+'], further, [mark], rfl, ?_, apart.2, mark,
          quotes, rfl⟩, before, after, ?_⟩
        · exact ⟨spelled, between, ['+'], rfl, ⟨keyword, listed, spells⟩, apart.1, rfl⟩
        · simp
    | @filled before between inside further after opening closing opens closes =>
        have apart : '\n' ∉ between ∧ '\n' ∉ inside ∧ '\n' ∉ further := by simp_all
        refine ⟨_, .inr ⟨[opening] ++ between ++ ['$', '{'] ++ inside ++ ['}'], further, [closing],
          rfl, ?_, apart.2.2, closing, closes, rfl⟩, before, after, ?_⟩
        · refine ⟨[opening] ++ between ++ ['$', '{'], inside, ['}'], rfl, ?_, apart.2.1, rfl⟩
          exact ⟨[opening], between, ['$', '{'], rfl, ⟨opening, opens, rfl⟩, apart.1, rfl⟩
        · simp

def isInjection (message : String) : Bool := message == "Potential SQL Injection"

def injectionsOn (text : List Char) (number : Nat) : List Finding :=
  ((check text).filter (·.isOn number)).filter (isInjection ·.message)

theorem injectionsOn_eq (text : List Char) (number : Nat) :
    injectionsOn text number = Rule.check [sqlInjection] number (lineAt (lines text) number) := by
  have asked : rules.filter (isInjection ·.message) = [sqlInjection] := by decide
  by_cases inside : number ∈ lineNumbers (lines text)
  · rw [injectionsOn, check, filter_isOn_scanRules rules inside, Rule.filter_check _ _ isInjection,
      asked]
  · -- an empty line, and a number under which nothing is filed
    have filed : AllFiled (fun _ => True) (lines text) (check text) :=
      allFiled_scanRules (fun _ _ => trivial) text
    rw [injectionsOn, filed.filter_isOn_of_not_mem inside, lineAt_of_not_mem inside]
    rfl

end Security

/-- A text is reported for an injection on the lines that suggest one, once on each, and on no other
line. The column is that of a keyword in small letters, though another may have been found. -/
theorem sql_injection_reported (text : List Char) (number : Nat) :
    (SuggestsInjection (lineAt (lines text) number) ↔
      ∃ finding, Security.injectionsOn text number = [finding] ∧
        finding.line = number ∧ finding.severity = .critical ∧ finding.category = "Security" ∧
        ColumnOf ["execute", "query"] (lineAt (lines text) number) finding.column) ∧
    (¬ SuggestsInjection (lineAt (lines text) number) ↔
      Security.injectionsOn text number = []) := by
  have applies : Security.sqlInjection.applies (lineAt (lines text) number) = true ↔
      SuggestsInjection (lineAt (lines text) number) := by
    rw [← Security.occursIn_sqlPattern (lineFeed_not_mem_lineAt text number)]
    exact iff_of_eq (congrArg (· = true) (Bool.and_true _))
  rw [Security.injectionsOn_eq, Rule.check_singleton]
  by_cases suggests : SuggestsInjection (lineAt (lines text) number)
  · rw [if_pos (applies.mpr suggests)]
    have column : ColumnOf ["execute", "query"] (lineAt (lines text) number)
        (Security.sqlInjection.at number (lineAt (lines text) number)).column :=
      columnOf_firstOffset? (by decide) _
    exact ⟨iff_of_true suggests ⟨_, rfl, rfl, rfl, rfl, column⟩,
      iff_of_false (not_not_intro suggests) (by simp)⟩
  · rw [if_neg (mt applies.mp suggests)]
    exact ⟨iff_of_false suggests (by simp), iff_of_true suggests rfl⟩

end LineLint
