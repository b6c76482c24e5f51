import LineLint.Proofs.Check.Filing
import LineLint.Proofs.Pattern.Reads
import LineLint.Proofs.Text.LineStart

namespace LineLint.Script

open Pattern

/-- A name and a bracket, with blanks between them that may be line breaks. -/
def Spaced (name bracket : String) (part : List Char) : Prop :=
  ∃ blanks, CharSet.blank.Spans blanks ∧ part = name.toList ++ blanks ++ bracket.toList

theorem takes_spaced (name bracket : String) :
    (spaced [name, bracket]).Takes (Spaced name bracket) := by
  have gaps : gap.Takes CharSet.blank.Spans := .many _
  refine (((Takes.lit name).append gaps).append (Takes.lit bracket)).congr ?_
  intro part
  constructor
  · rintro ⟨_, _, rfl, ⟨_, blanks, rfl, rfl, blank⟩, rfl⟩
    exact ⟨blanks, blank, rfl⟩
  · rintro ⟨blanks, blank, rfl⟩
    exact ⟨_, _, rfl, ⟨_, blanks, rfl, rfl, blank⟩, rfl⟩

/-- The text logs to the console somewhere and handles errors nowhere. -/
structure LogsUnguarded (text : List Char) : Prop where
  logs : ∃ call, Spaced "console.log" "(" call ∧ call <:+: text
  untried : ¬ ∃ block, Spaced "try" "\x7b" block ∧ block <:+: text
  uncaught : ¬ ∃ handler, Spaced "catch" "(" handler ∧ handler <:+: text

theorem logsUnguarded_iff {text : List Char} : logsUnguarded text = true ↔ LogsUnguarded text := by
  rw [logsUnguarded, Bool.and_eq_true, Bool.not_eq_true', ← Bool.not_eq_true, consoleCall,
    errorHandling, occursIn_or, (takes_spaced _ _).occursIn_iff, (takes_spaced _ _).occursIn_iff,
    (takes_spaced _ _).occursIn_iff, not_or]
  constructor
  · intro ⟨logs, untried, uncaught⟩
    exact ⟨logs, untried, uncaught⟩
  · intro ⟨logs, untried, uncaught⟩
    exact ⟨logs, untried, uncaught⟩

/-- The line with the least number among those that name the console's log. -/
structure NamesFirst (text : List Char) (number : Nat) : Prop where
  inside : number ∈ lineNumbers (lines text)
  names : "console.log".toList <:+: lineAt (lines text) number
  first : ∀ earlier, earlier < number → ¬ "console.log".toList <:+: lineAt (lines text) earlier

theorem namesFirst_of_consoleLine? {text : List Char} {line : Line} {number : Nat}
    (found : consoleLine? text = some (line, number)) : NamesFirst text number := by
  obtain ⟨first, last, rfl⟩ := consoleLine?_spec found
  rw [consoleLine?, List.find?_eq_some_iff_getElem] at found
  obtain ⟨names, position, inside, here, before⟩ := found
  refine ⟨mem_lineNumbers.mpr ⟨first, last⟩, mentions_iff.mp names, ?_⟩
  rw [List.getElem_zipIdx] at here
  have place : 1 + position = number := congrArg Prod.snd here
  intro earlier sooner
  cases earlier with
  | zero => simp [lineAt]
  | succ earlier =>
      have silent := before earlier (by omega)
      rw [List.getElem_zipIdx, ← lineAt_of_lt] at silent
      intro mentioned
      rw [mentions_iff.mpr mentioned] at silent
      cases silent

/-- Where a call starts, its line names the log, so that this line is not further up. -/
theorem NamesFirst.le_of_call {text before call after : List Char} {number : Nat}
    (names : NamesFirst text number) (whole : text = before ++ call ++ after)
    (calls : Spaced "console.log" "(" call) : number ≤ before.count '\n' + 1 := by
  obtain ⟨blanks, -, rfl⟩ := calls
  have stands : "console.log".toList <:+: lineAt (lines text) (before.count '\n' + 1 : Nat) := by
    have stands := @infix_lineAt_count "console.log".toList (by decide) before
      (blanks ++ "(".toList ++ after)
    rw [whole]
    simpa only [List.append_assoc] using stands
  apply Nat.le_of_not_lt
  intro sooner
  exact names.first _ sooner stands

theorem exists_namesFirst {text : List Char} (unguarded : LogsUnguarded text) :
    ∃ number, consoleFindings text = .ok [unguardedConsole.at number (lineAt (lines text) number)] ∧
      NamesFirst text number := by
  have logs := logsUnguarded_iff.mpr unguarded
  obtain ⟨line, number, found⟩ := exists_consoleLine (Bool.and_eq_true_iff.mp logs).1
  obtain ⟨-, -, rfl⟩ := consoleLine?_spec found
  refine ⟨number, ?_, namesFirst_of_consoleLine? found⟩
  rw [consoleFindings, if_pos logs, found]

/-- What the checks line by line report in the words of the check of the whole text comes from an
extra rule in these words, and the rules for types are not in these words. -/
theorem exists_rule_of_mem_scan {dialect : List Rule} {text : List Char} {finding : Finding}
    (member : finding ∈ scan (lineCheck dialect) text)
    (named : finding.message = unguardedConsole.message) :
    ∃ rule ∈ dialect, rule ∉ typeRules ∧ rule.message = unguardedConsole.message := by
  have others : ∀ rule ∈ leadingRules ++ [debuggerStatement] ++ [nullComparison] ++ typeRules,
      rule.message ≠ unguardedConsole.message := by decide
  simp only [List.mem_append] at others
  have chain : promiseChain.message ≠ unguardedConsole.message := by decide
  rw [scan_eq_flatMap] at member
  obtain ⟨number, -, member⟩ := List.mem_flatMap.mp member
  rw [lineCheck, List.mem_append, List.mem_append, promiseChains, List.mem_ite_nil_right,
    List.mem_singleton] at member
  rcases member with (leading | ⟨-, rfl⟩) | trailing
  · obtain ⟨rule, listed, -, rfl⟩ := Rule.mem_check_iff.mp leading
    exact absurd named (others rule (.inl (.inl (.inl listed))))
  · exact absurd named chain
  · obtain ⟨rule, listed, -, rfl⟩ := Rule.mem_check_iff.mp trailing
    rw [trailingRules, List.mem_append, List.mem_append] at listed
    rcases listed with (debugger | extra) | comparison
    · exact absurd named (others rule (.inl (.inl (.inr debugger))))
    · exact ⟨rule, extra, fun typed => others rule (.inr typed) named, named⟩
    · exact absurd named (others rule (.inl (.inr comparison)))

/-- A text is reported for its logging if it logs and has no handling of errors, once, after all
else, and under the first line that names the log, which no call comes before. -/
theorem console_logging_reported (dialect : List Rule) (text : List Char) :
    ∃ logging, check dialect text = .ok (scan (lineCheck dialect) text ++ logging) ∧
      (∀ finding ∈ scan (lineCheck dialect) text,
        finding.message = "Console logging without error handling" →
          ∃ rule ∈ dialect, rule ∉ typeRules ∧
            rule.message = "Console logging without error handling") ∧
      (LogsUnguarded text ↔
        ∃ finding, ∃ number : Nat, logging = [finding] ∧
          finding.message = "Console logging without error handling" ∧
          finding.line = number ∧ NamesFirst text number ∧
          ∀ before call after, text = before ++ call ++ after → Spaced "console.log" "(" call →
            number ≤ before.count '\n' + 1) ∧
      (¬ LogsUnguarded text ↔ logging = []) := by
  by_cases unguarded : LogsUnguarded text
  · obtain ⟨number, found, names⟩ := exists_namesFirst unguarded
    refine ⟨_, by rw [check, found]; rfl, fun _ => exists_rule_of_mem_scan, ?_, ?_⟩
    · apply iff_of_true unguarded
      exact ⟨_, number, rfl, rfl, rfl, names, fun _ _ _ => names.le_of_call⟩
    · exact iff_of_false (not_not_intro unguarded) (by simp)
  · have quiet : consoleFindings text = .ok [] := by
      rw [consoleFindings, if_neg (mt logsUnguarded_iff.mp unguarded)]
    refine ⟨[], by rw [check, quiet]; rfl, fun _ => exists_rule_of_mem_scan, ?_, ?_⟩
    · exact iff_of_false unguarded (by simp)
    · exact iff_of_true unguarded rfl

end LineLint.Script
