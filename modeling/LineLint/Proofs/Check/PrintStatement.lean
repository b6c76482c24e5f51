import LineLint.Proofs.Pattern.Reads
import LineLint.Proofs.Report.ByMessage

namespace LineLint.Python

open Pattern

/-- The stripped line is the name, blanks and an argument, which starts where the blanks end. -/
structure Prints (line gap argument : List Char) : Prop where
  whole : strip line = "print".toList ++ gap ++ argument
  blank : CharSet.blank.Spans gap
  apart : gap ≠ []
  starts : CharSet.blank.StopsAt argument
  visible : argument ≠ []

theorem Prints.unique {line gap argument otherGap otherArgument : List Char}
    (prints : Prints line gap argument) (others : Prints line otherGap otherArgument) :
    gap = otherGap ∧ argument = otherArgument := by
  apply prints.blank.eq_of_append_eq others.blank prints.starts others.starts
  have same := prints.whole.symm.trans others.whole
  rw [List.append_assoc, List.append_assoc] at same
  exact List.append_cancel_left same

/-- A stripped line does not end in blanks, so something stands behind those after the name. -/
theorem exists_prints {line lead rest : List Char}
    (whole : strip line = "print".toList ++ lead ++ rest) (blank : CharSet.blank.Spans lead)
    (apart : lead ≠ []) :
    ∃ more argument, rest = more ++ argument ∧ Prints line (lead ++ more) argument := by
  obtain ⟨more, argument, rfl, moreBlank, starts⟩ := CharSet.blank.exists_run rest
  have spans : CharSet.blank.Spans (lead ++ more) := List.forall_mem_append.mpr ⟨blank, moreBlank⟩
  rw [← List.append_assoc, List.append_assoc _ lead] at whole
  refine ⟨more, argument, rfl, whole, spans, ?_, starts, ?_⟩
  · exact List.append_ne_nil_of_left_ne_nil apart more
  · rintro rfl
    rw [List.append_nil] at whole
    exact apart (List.append_eq_nil_iff.mp (eq_nil_of_strip_eq_append whole spans)).1

/-- The argument opens no call, or the gap before it has a blank to spare. -/
def LooksLikeStatement (line : List Char) : Prop :=
  ∃ gap argument, Prints line gap argument ∧ (argument.head? = some '(' → 2 ≤ gap.length)

theorem Prints.looksLikeStatement_iff {line gap argument : List Char}
    (prints : Prints line gap argument) :
    LooksLikeStatement line ↔ (argument.head? = some '(' → 2 ≤ gap.length) := by
  constructor
  · rintro ⟨otherGap, otherArgument, others, spare⟩
    obtain ⟨rfl, rfl⟩ := prints.unique others
    exact spare
  · intro spare
    exact ⟨gap, argument, prints, spare⟩

theorem applies_printStatement_iff_eq {line : Line} :
    printStatement.applies line = true ↔
      ∃ lead x rest, strip line = "print".toList ++ lead ++ x :: rest ∧
        CharSet.blank.Spans lead ∧ lead ≠ [] ∧ x ≠ '(' := by
  have searched : printStatement.applies line = printStatement.pattern.occursIn (strip line) :=
    Rule.applies_of_veto_eq_none rfl line
  have otherwise : ∀ x, (CharSet.noneOf ['(']).contains x = true ↔ x ≠ '(' := by simp
  rw [searched]
  simp only [occursIn_iff_reads, printStatement, reads_append, reads_atStart, reads_lit,
    reads_blanks, reads_one, existsAndEq, and_true, true_and, Option.none_or, and_assoc,
    List.nil_append, List.append_assoc, List.cons_append, otherwise]
  constructor
  · rintro ⟨rest, x, lead, whole, blank, apart, differs⟩
    exact ⟨lead, x, rest, whole, blank, apart, differs⟩
  · rintro ⟨lead, x, rest, whole, blank, apart, differs⟩
    exact ⟨rest, x, lead, whole, blank, apart, differs⟩

theorem applies_printStatement {line : Line} :
    printStatement.applies line = true ↔ LooksLikeStatement line := by
  rw [applies_printStatement_iff_eq]
  constructor
  · rintro ⟨lead, x, rest, whole, blank, apart, differs⟩
    obtain ⟨more, argument, split, prints⟩ := exists_prints whole blank apart
    refine ⟨lead ++ more, argument, prints, ?_⟩
    intro parenthesis
    cases more with
    | nil =>
        obtain rfl : x :: rest = argument := split
        exact absurd (Option.some.inj parenthesis) differs
    | cons y more =>
        have long := List.length_pos_iff.mpr apart
        simp only [List.length_append, List.length_cons]
        omega
  · rintro ⟨gap, argument, prints, spare⟩
    obtain ⟨x, rest, rfl⟩ := List.exists_cons_of_ne_nil prints.visible
    by_cases opens : x = '('
    · -- the last blank of the gap is read in the place of the parenthesis
      subst opens
      have long := spare rfl
      obtain ⟨lead, last, rfl⟩ := (List.eq_nil_or_concat gap).resolve_left prints.apart
      rw [List.concat_eq_append] at prints long
      refine ⟨lead, last, '(' :: rest, ?_, ?_, ?_, ?_⟩
      · rw [prints.whole]
        simp only [List.append_assoc, List.singleton_append]
      · intro c member
        exact prints.blank c (List.mem_append_left _ member)
      · rintro rfl
        simp at long
      · rintro rfl
        exact absurd (prints.blank '(' (by simp)) (by decide)
    · exact ⟨gap, x, rest, prints.whole, prints.blank, prints.apart, opens⟩

theorem reportsOf_printStatement (text : List Char) (number : Nat) :
    reportsOf "Python 2 print statement" number (check text) =
      Rule.check [printStatement] number (lineAt (lines text) number) :=
  Language.reportsOf_ownCheck .python (by decide) (by decide) (by decide) (by decide) rfl number

/-- A line is reported if something stands apart from the name `print` that opens no call; a call is
reported as well, unless just one blank stands before its parenthesis. -/
theorem print_statement_reported (text : List Char) (number : Nat) :
    (LooksLikeStatement (lineAt (lines text) number) ↔
      reportsOf "Python 2 print statement" number (check text) =
        [printStatement.at number (lineAt (lines text) number)]) ∧
    (¬ LooksLikeStatement (lineAt (lines text) number) ↔
      reportsOf "Python 2 print statement" number (check text) = []) ∧
    ∀ gap argument, Prints (lineAt (lines text) number) gap argument →
      (reportsOf "Python 2 print statement" number (check text) = [] ↔
        argument.head? = some '(' ∧ gap.length = 1) := by
  obtain ⟨reported, silent⟩ := Rule.check_singleton_iff
    (@applies_printStatement (lineAt (lines text) number)) number
  rw [reportsOf_printStatement]
  refine ⟨reported, silent, ?_⟩
  intro gap argument prints
  have long := List.length_pos_iff.mpr prints.apart
  rw [← silent, prints.looksLikeStatement_iff, Classical.not_imp, not_le]
  apply and_congr_right
  intro opens
  omega

theorem print_statement_reported_of_one_blank :
    let text := "if x:\n    print (x)".toList
    Prints (lineAt (lines text) 2) [' '] "(x)".toList ∧
      reportsOf "Python 2 print statement" 2 (check text) = [] := by
  intro text
  have prints : Prints (lineAt (lines text) 2) [' '] "(x)".toList :=
    ⟨by decide +kernel, by decide, by decide, CharSet.stopsAt_cons.mpr (by decide), by decide⟩
  obtain ⟨-, -, calls⟩ := print_statement_reported text 2
  exact ⟨prints, (calls _ _ prints).mpr ⟨rfl, rfl⟩⟩

/-- A call behind two blanks. -/
theorem spaced_print_call_reported :
    let text := "print  (x)".toList
    Prints (lineAt (lines text) 1) [' ', ' '] "(x)".toList ∧
      reportsOf "Python 2 print statement" 1 (check text) =
        [printStatement.at 1 (lineAt (lines text) 1)] := by
  intro text
  have prints : Prints (lineAt (lines text) 1) [' ', ' '] "(x)".toList :=
    ⟨by decide +kernel, by decide, by decide, CharSet.stopsAt_cons.mpr (by decide), by decide⟩
  exact ⟨prints, by decide +kernel⟩

end LineLint.Python
