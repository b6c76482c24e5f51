import LineLint.Check.Markup
import LineLint.Proofs.Check.Table
import LineLint.Proofs.Pattern.LetterCase
import LineLint.Proofs.Pattern.Reads
import LineLint.Proofs.Scan.Local

namespace LineLint

def Rule.ignoresCase (rule : Rule) : Bool :=
  !rule.onStripped && rule.pattern.ignoresCase && rule.veto.all (·.ignoresCase)

theorem Rule.applies_smallLetters {rule : Rule} (ignores : rule.ignoresCase = true) (line : Line) :
    rule.applies (smallLetters line) = rule.applies line := by
  simp only [ignoresCase, Bool.and_eq_true, Bool.not_eq_true'] at ignores
  obtain ⟨⟨raw, pattern⟩, veto⟩ := ignores
  have vetoes : rule.vetoed (smallLetters line) = rule.vetoed line := by
    rw [vetoed, vetoed]
    cases held : rule.veto with
    | none => rfl
    | some veto_ =>
        rw [held] at veto
        exact Pattern.occursIn_small veto line
  rw [applies, applies, subject, subject, raw, vetoes]
  exact congrArg (· && _) (Pattern.occursIn_small pattern line)

def issues (table : List Rule) (text : List Char) : List (Int × String) :=
  (scanRules table text).map fun finding => (finding.line, finding.message)

section

variable {table : List Rule} {text other : List Char}

theorem filter_issues (asked : String → Bool) :
    (issues table text).filter (asked ·.2) = issues (table.filter (asked ·.message)) text := by
  have spoken : (scanRules table text).filter (asked ·.message) =
      scanRules (table.filter (asked ·.message)) text := by
    apply filter_scan
    intro number line rest
    exact Rule.filter_check number line asked table
  rw [issues, issues, List.filter_map, ← spoken]
  rfl

theorem issues_eq_flatMap :
    issues table text = (lineNumbers (lines text)).flatMap fun number : Nat =>
      (table.filter (·.applies (lineAt (lines text) number))).map fun rule =>
        ((number : Int), rule.message) := by
  rw [issues, scanRules_eq_flatMap, List.map_flatMap]
  apply List.flatMap_congr
  intro number _
  rw [Rule.check, List.map_map]
  rfl

theorem mem_issues_iff {number : Nat} {message : String} :
    ((number : Int), message) ∈ issues table text ↔
      number ∈ lineNumbers (lines text) ∧
        ∃ rule ∈ table, rule.applies (lineAt (lines text) number) = true ∧
          rule.message = message := by
  simp only [issues_eq_flatMap, List.mem_flatMap, List.mem_map, List.mem_filter, Prod.mk.injEq,
    Int.ofNat_inj, and_assoc]
  constructor
  · rintro ⟨_, inside, rule, listed, applies, rfl, named⟩
    exact ⟨inside, rule, listed, applies, named⟩
  · rintro ⟨inside, rule, listed, applies, named⟩
    exact ⟨number, inside, rule, listed, applies, rfl, named⟩

section

variable (same : smallLetters text = smallLetters other)

include same

theorem lineNumbers_eq_of_smallLetters : lineNumbers (lines text) = lineNumbers (lines other) := by
  have count := congrArg (fun text => (lines text).length) same
  simp only [lines_smallLetters, List.length_map] at count
  rw [lineNumbers, lineNumbers, count]

theorem smallLetters_lineAt (number : Nat) :
    smallLetters (lineAt (lines text) number) = smallLetters (lineAt (lines other) number) := by
  have small : ∀ text, smallLetters (lineAt (lines text) number) =
      lineAt (lines (smallLetters text)) number := by
    intro text
    rw [lines_smallLetters]
    cases number with
    | zero => rfl
    | succ position =>
        rw [lineAt_succ, lineAt_succ, List.getD_eq_getElem?_getD, List.getD_eq_getElem?_getD,
          List.getElem?_map]
        cases (lines text)[position]? <;> rfl
  rw [small, small, same]

theorem occursIn_lineAt_of_smallLetters {p : Pattern} (ignores : p.ignoresCase = true)
    (number : Nat) :
    p.occursIn (lineAt (lines text) number) = p.occursIn (lineAt (lines other) number) := by
  rw [← Pattern.occursIn_small ignores, smallLetters_lineAt same, Pattern.occursIn_small ignores]

theorem issues_eq_of_smallLetters
    (agree : ∀ rule ∈ table, rule.ignoresCase = true ∨ ∀ number : Nat,
      rule.applies (lineAt (lines text) number) = rule.applies (lineAt (lines other) number)) :
    issues table text = issues table other := by
  rw [issues_eq_flatMap, issues_eq_flatMap, lineNumbers_eq_of_smallLetters same]
  apply List.flatMap_congr
  intro number _
  apply congrArg (List.map _)
  apply List.filter_congr
  intro rule listed
  rcases agree rule listed with ignores | agree
  · rw [← Rule.applies_smallLetters ignores, smallLetters_lineAt same,
      Rule.applies_smallLetters ignores]
  · exact agree number

end

end

namespace Html

open Pattern

/-- The opening tag of a script with attributes, in any mixture of upper and lower case. -/
inductive IsScriptTag : List Char → Prop
  | opening {spelled space attributes : List Char}
      (spells : IsSpelling "<script".toList spelled)
      (blank : CharSet.blank.Spans space)
      (apart : space ≠ [])
      (unclosed : '>' ∉ attributes) :
      IsScriptTag (spelled ++ space ++ attributes ++ ['>'])

def HoldsScriptTag (line : Line) : Prop := ∃ tag, IsScriptTag tag ∧ tag <:+: line

theorem occursIn_inlineScript {line : Line} :
    inlineScript.pattern.occursIn line = true ↔ HoldsScriptTag line := by
  have name : (litAnyCase "<script").Takes (IsSpelling "<script".toList) :=
    fun _ _ _ _ => reads_litAnyCase (by simp)
  have space : blanks.Takes fun taken => CharSet.blank.Spans taken ∧ taken ≠ [] :=
    fun _ _ _ _ => reads_blanks.trans and_assoc.symm
  have attributes : (upTo ['>']).Takes (CharSet.noneOf ['>']).Spans := .many _
  suffices takes : inlineScript.pattern.Takes IsScriptTag from takes.occursIn_iff
  refine (((name.append space).append attributes).append (.lit ">")).congr ?_
  intro taken
  simp only [CharSet.spans_noneOf_singleton]
  constructor
  · rintro ⟨_, _, rfl, ⟨_, attributes, rfl, ⟨spelled, space, rfl, spells, blank, apart⟩, unclosed⟩,
      rfl⟩
    exact .opening spells blank apart unclosed
  · rintro ⟨spells, blank, apart, unclosed⟩
    exact ⟨_, _, rfl, ⟨_, _, rfl, ⟨_, _, rfl, spells, blank, apart⟩, unclosed⟩, rfl⟩

theorem applies_inlineScript {line : Line} :
    inlineScript.applies line = true ↔ HoldsScriptTag line ∧ ¬ "src=".toList <:+: line := by
  rw [Rule.applies_iff_of_veto_lit rfl]
  exact and_congr_left' occursIn_inlineScript

theorem mem_issues_inlineScript {text : List Char} {number : Nat} :
    ((number : Int), "Inline script") ∈ issues rules text ↔
      HoldsScriptTag (lineAt (lines text) number) ∧
        ¬ "src=".toList <:+: lineAt (lines text) number := by
  have named : ∀ rule ∈ rules, rule.message = "Inline script" → rule = inlineScript := by decide
  rw [mem_issues_iff, ← applies_inlineScript]
  constructor
  · rintro ⟨-, rule, listed, applies, spoken⟩
    rwa [named rule listed spoken] at applies
  · intro applies
    refine ⟨?_, inlineScript, List.mem_cons_self, applies, rfl⟩
    by_contra outside
    rw [lineAt_of_not_mem outside] at applies
    cases applies.symm.trans (by decide : inlineScript.applies [] = false)

/-- In texts that differ in the case of letters only, the rules report the same lines for the same
issues, inline scripts apart. These are the same too if the name of the source stands in small
letters on the same of the lines that hold the tag. -/
theorem issues_case_insensitive {text other : List Char}
    (same : smallLetters text = smallLetters other) :
    (issues rules text).filter (·.2 != "Inline script") =
        (issues rules other).filter (·.2 != "Inline script") ∧
      (issues rules text = issues rules other ↔
        ∀ number : Nat, HoldsScriptTag (lineAt (lines text) number) →
          ("src=".toList <:+: lineAt (lines text) number ↔
            "src=".toList <:+: lineAt (lines other) number)) ∧
      ∀ number : Nat, ((number : Int), "Inline script") ∈ issues rules text ↔
        HoldsScriptTag (lineAt (lines text) number) ∧
          ¬ "src=".toList <:+: lineAt (lines text) number := by
  have ignores : ∀ rule ∈ rules, rule.ignoresCase = true ∨ rule = inlineScript := by decide
  have tags : ∀ number : Nat, HoldsScriptTag (lineAt (lines text) number) ↔
      HoldsScriptTag (lineAt (lines other) number) := by
    intro number
    rw [← occursIn_inlineScript, ← occursIn_inlineScript,
      occursIn_lineAt_of_smallLetters same (by decide)]
  refine ⟨?_, ?_, fun number => mem_issues_inlineScript⟩
  · rw [filter_issues (· != "Inline script"), filter_issues (· != "Inline script")]
    apply issues_eq_of_smallLetters same
    intro rule member
    obtain ⟨listed, unasked⟩ := List.mem_filter.mp member
    rcases ignores rule listed with ignores | rfl
    · exact .inl ignores
    · cases unasked
  · constructor
    · intro equal number holds
      have reported := @mem_issues_inlineScript text number
      rw [equal, mem_issues_inlineScript, ← tags] at reported
      simpa only [holds, true_and, not_iff_not] using reported.symm
    · intro sources
      apply issues_eq_of_smallLetters same
      intro rule listed
      rcases ignores rule listed with ignores | rfl
      · exact .inl ignores
      · right
        intro number
        rw [Bool.eq_iff_iff, applies_inlineScript, applies_inlineScript, ← tags]
        apply and_congr_right
        intro holds
        rw [sources number holds]

/-- A form in capitals, and a script whose source is in small letters in both texts. -/
theorem issues_case_insensitive_of_form :
    let text := "<FORM>\n<SCRIPT src='a.js'>".toList
    let other := "<form>\n<script src='a.js'>".toList
    smallLetters text = smallLetters other ∧ issues rules text = issues rules other ∧
      issues rules text = [(1, "Form without method attribute"), (1, "Form without action")] := by
  intro text other
  have same : smallLetters text = smallLetters other := by decide +kernel
  have each : ∀ number ∈ lineNumbers (lines text),
      ("src=".toList <:+: lineAt (lines text) number ↔
        "src=".toList <:+: lineAt (lines other) number) := by decide +kernel
  refine ⟨same, (issues_case_insensitive same).2.1.mpr ?_, by decide +kernel⟩
  intro number _
  by_cases inside : number ∈ lineNumbers (lines text)
  · exact each number inside
  · have outside := lineNumbers_eq_of_smallLetters same ▸ inside
    rw [lineAt_of_not_mem inside, lineAt_of_not_mem outside]

/-- In capitals the name of the source is not seen. -/
theorem external_script_reported_in_capitals :
    let text := "<script SRC='a.js'>".toList
    let other := "<script src='a.js'>".toList
    smallLetters text = smallLetters other ∧ issues rules text = [(1, "Inline script")] ∧
      issues rules other = [] := by
  decide +kernel

end Html

end LineLint
