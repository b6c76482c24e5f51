import LineLint.Proofs.Check.DoubleFree
import LineLint.Proofs.Report.ByMessage

namespace LineLint

/-- The token stands in the line with no word character beside it. -/
def HoldsWord (token : String) (line : List Char) : Prop :=
  ∃ before after, line = before ++ token.toList ++ after ∧
    before.getLast?.any isWordChar = false ∧ after.head?.any isWordChar = false

theorem holdsWord_iff {token : String} {line : List Char} :
    HoldsWord token line ↔
      ∃ place ∈ List.range (line.length + 1), token.toList <+: line.drop place ∧
        (line.take place).getLast?.any isWordChar = false ∧
        (line.drop (place + token.toList.length)).head?.any isWordChar = false := by
  constructor
  · rintro ⟨before, after, rfl, left, right⟩
    refine ⟨before.length, ?_, ?_, ?_, ?_⟩
    · simp only [List.mem_range, List.length_append]
      omega
    · rw [List.append_assoc, List.drop_left]
      exact List.prefix_append _ _
    · rwa [List.append_assoc, List.take_left]
    · rwa [← List.drop_drop, List.append_assoc, List.drop_left, List.drop_left]
  · rintro ⟨place, -, ⟨after, whole⟩, left, right⟩
    refine ⟨line.take place, after, ?_, left, ?_⟩
    · rw [List.append_assoc, whole, List.take_append_drop]
    · rwa [← List.drop_drop, ← whole, List.drop_left] at right

instance (token : String) (line : List Char) : Decidable (HoldsWord token line) :=
  decidable_of_iff _ holdsWord_iff.symm

/-- The token stands in the line as a part of a longer word. -/
def HoldsInWord (token : String) (line : List Char) : Prop :=
  ∃ before after, line = before ++ token.toList ++ after ∧
    (before.getLast?.any isWordChar = true ∨ after.head?.any isWordChar = true)

theorem infix_iff_holdsWord {token : String} {line : List Char} :
    token.toList <:+: line ↔ HoldsWord token line ∨ HoldsInWord token line := by
  constructor
  · rintro ⟨before, after, rfl⟩
    by_cases beside : before.getLast?.any isWordChar = true ∨ after.head?.any isWordChar = true
    · exact .inr ⟨before, after, rfl, beside⟩
    · rw [not_or, Bool.not_eq_true, Bool.not_eq_true] at beside
      exact .inl ⟨before, after, rfl, beside⟩
  · rintro (⟨before, after, rfl, -⟩ | ⟨before, after, rfl, -⟩)
    · exact ⟨before, after, rfl⟩
    · exact ⟨before, after, rfl⟩

namespace CFamily

open Pattern

/-- The line ends in a call of `malloc`, which starts a word. -/
def EndsInMalloc (line : Line) : Prop :=
  ∃ before outer rest, before.getLast?.any isWordChar = false ∧ CharSet.blank.Spans outer ∧
    EndsCall rest ∧ line = before ++ "malloc".toList ++ outer ++ "(".toList ++ rest

theorem occursIn_uncheckedMalloc {line : Line} :
    uncheckedMalloc.pattern.occursIn line = true ↔ EndsInMalloc line := by
  refine occursIn_callStatement.trans ?_
  simp only [spaced, reads_append, reads_lit, reads_gap, existsAndEq, and_true, true_and,
    Option.none_or]
  constructor
  · rintro ⟨before, rest, _, _, outer, rfl, ⟨⟨edge, rfl, -⟩, outerBlank⟩, ends⟩
    refine ⟨before, outer, rest, ?_, outerBlank, ends, ?_⟩
    · have starts :
          ("malloc".toList ++ outer ++ "(".toList ++ rest).head?.any isWordChar = true := rfl
      rw [starts] at edge
      exact Bool.eq_false_iff.mpr edge
    · simp only [List.nil_append, List.append_assoc]
  · rintro ⟨before, outer, rest, edge, outerBlank, ends, rfl⟩
    refine ⟨before, rest, none, [], outer, ?_, ⟨⟨?_, rfl, rfl⟩, outerBlank⟩, ends⟩
    · simp only [List.nil_append, List.append_assoc]
    · rw [edge]
      exact Bool.false_ne_true

theorem applies_uncheckedMalloc {line : Line} :
    uncheckedMalloc.applies line = true ↔ EndsInMalloc line ∧ ¬ "if".toList <:+: line := by
  rw [Rule.applies_iff_of_veto_lit rfl]
  exact and_congr_left' occursIn_uncheckedMalloc

theorem reportsOf_uncheckedMalloc (text : List Char) (number : Nat) :
    reportsOf "Unchecked malloc return" number (check text) =
      Rule.check [uncheckedMalloc] number (lineAt (lines text) number) :=
  Language.reportsOf_ownCheck .c (by decide) (by decide) (by decide) (by decide) rfl number

/-- A line that ends in a call of `malloc` is reported, once, unless the letters of `if` stand in
it. Where they are not the keyword, a longer word keeps the line from the report. -/
theorem unchecked_malloc_reported (text : List Char) (number : Nat) :
    (EndsInMalloc (lineAt (lines text) number) ∧ ¬ "if".toList <:+: lineAt (lines text) number ↔
      reportsOf "Unchecked malloc return" number (check text) =
        [uncheckedMalloc.at number (lineAt (lines text) number)]) ∧
    (¬ (EndsInMalloc (lineAt (lines text) number) ∧
        ¬ "if".toList <:+: lineAt (lines text) number) ↔
      reportsOf "Unchecked malloc return" number (check text) = []) ∧
    (EndsInMalloc (lineAt (lines text) number) → ¬ HoldsWord "if" (lineAt (lines text) number) →
      (reportsOf "Unchecked malloc return" number (check text) = [] ↔
        HoldsInWord "if" (lineAt (lines text) number))) := by
  obtain ⟨reported, silent⟩ := Rule.check_singleton_iff
    (@applies_uncheckedMalloc (lineAt (lines text) number)) number
  rw [reportsOf_uncheckedMalloc]
  refine ⟨reported, silent, ?_⟩
  intro ends apart
  rw [← silent, not_and, not_not, infix_iff_holdsWord]
  simp only [ends, apart, false_or, true_implies]

theorem unchecked_malloc_reported_of_cast :
    let text := "x = 1;\nint *p = (int *) malloc (n) ;".toList
    let line := lineAt (lines text) 2
    EndsInMalloc line ∧ ¬ HoldsWord "if" line ∧ ¬ HoldsInWord "if" line ∧
      reportsOf "Unchecked malloc return" 2 (check text) = [uncheckedMalloc.at 2 line] := by
  intro text line
  have ends : EndsInMalloc line := occursIn_uncheckedMalloc.mp (by decide +kernel)
  have apart : ¬ HoldsWord "if" line := by decide +kernel
  obtain ⟨reported, -, silent⟩ := unchecked_malloc_reported text 2
  have spoken := reported.mp ⟨ends, by decide +kernel⟩
  refine ⟨ends, apart, ?_, spoken⟩
  intro within
  rw [(silent ends apart).mpr within] at spoken
  cases spoken

/-- The letters of the keyword in the name of the variable. -/
theorem unchecked_malloc_unreported_in_longer_word :
    let text := "modified = malloc(10);".toList
    let line := lineAt (lines text) 1
    EndsInMalloc line ∧ ¬ HoldsWord "if" line ∧
      reportsOf "Unchecked malloc return" 1 (check text) = [] := by
  intro text line
  exact ⟨occursIn_uncheckedMalloc.mp (by decide +kernel), by decide +kernel, by decide +kernel⟩

end CFamily

end LineLint
